import LlmAudit.Text.Blank
import LlmAudit.Text.Loose

/-!
# Words

A text with halves of pairs without the blanks at its ends, and its pieces between blanks. Half a
pair is no blank.
-/

namespace LlmAudit

/-- Whether a code point is a blank. -/
def Point.isBlank : Point → Bool
  | .char c => Text.isBlank c
  | .half _ => false

namespace LooseText

/-- A text without the blanks at either end. -/
def strip (t : LooseText) : LooseText :=
  ⟨((t.points.dropWhile Point.isBlank).reverse.dropWhile Point.isBlank).reverse⟩

/-- The pieces of code points between blanks, empty ones included, of which the first starts with
the reverse of `word`. -/
def piecesFrom (word : List Point) : List Point → List (List Point)
  | [] => [word.reverse]
  | p :: rest =>
    if p.isBlank then word.reverse :: piecesFrom [] rest else piecesFrom (p :: word) rest

/-- The words of a text. -/
def words (t : LooseText) : List LooseText :=
  ((piecesFrom [] t.points).filter fun w => !w.isEmpty).map LooseText.mk

end LooseText

end LlmAudit
