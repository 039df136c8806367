import LlmAudit.Text.Blank
import LlmAudit.Text.Case
import LlmAudit.Text.Word

/-!
# Phrases

A phrase is a small pattern of words: letters in any case, blanks, word boundaries, sequences and
choices. Looking for a phrase at a place of a text gives all places at which it may end.

## Main definitions

* `Phrase` — the phrases.
* `Phrase.ends` — the places at which a phrase may end.
* `Phrase.occursIn` — whether a text holds a phrase.
-/

namespace LlmAudit

/-- A place in a text: the character before it, and the characters after it. -/
structure Spot where
  /-- The character before; none at the start. -/
  before : Option Char
  /-- The characters after. -/
  after : List Char
  deriving DecidableEq

namespace Spot

/-- Whether a word starts or ends here: a word character on one side and none on the other. -/
def isBoundary (p : Spot) : Bool :=
  p.before.any Text.isWordChar != p.after.head?.any Text.isWordChar

end Spot

/-- A pattern of words. -/
inductive Phrase where
  /-- A character, a letter in any case. -/
  | letter (c : Char)
  /-- A word boundary. -/
  | boundary
  /-- A blank. -/
  | blank
  /-- Any number of blanks. -/
  | blanks
  /-- Nothing. -/
  | nothing
  /-- One phrase after the other. -/
  | seq (first second : Phrase)
  /-- One phrase or the other. -/
  | either (first second : Phrase)
  deriving DecidableEq

namespace Phrase

/-- Whether a character is a letter of a phrase, which is written in lower case. The dotless `ı` is
an `i`, and the long `ſ` is an `s`. -/
def isLetter (letter c : Char) : Bool :=
  Text.lowerLetter c == letter || (letter == 'i' && c.toNat == 0x131) ||
    (letter == 's' && c.toNat == 0x17F)

/-- The place after a character that a class holds of. -/
def step (p : Char → Bool) (spot : Spot) : List Spot :=
  match spot.after with
  | [] => []
  | c :: rest => if p c then [⟨some c, rest⟩] else []

/-- The places after any number of blanks. -/
def blankEnds (before : Option Char) : List Char → List Spot
  | [] => [⟨before, []⟩]
  | c :: rest =>
    ⟨before, c :: rest⟩ :: if Text.isBlank c then blankEnds (some c) rest else []

/-- The places at which a phrase that starts here may end. -/
def ends : Phrase → Spot → List Spot
  | .letter c, spot => step (isLetter c) spot
  | .boundary, spot => if spot.isBoundary then [spot] else []
  | .blank, spot => step Text.isBlank spot
  | .blanks, spot => blankEnds spot.before spot.after
  | .nothing, spot => [spot]
  | .seq first second, spot => (first.ends spot).flatMap second.ends
  | .either first second, spot => first.ends spot ++ second.ends spot

/-- Whether a phrase starts here or further on. -/
def startsFrom (phrase : Phrase) (before : Option Char) : List Char → Bool
  | [] => !(phrase.ends ⟨before, []⟩).isEmpty
  | c :: rest =>
    !(phrase.ends ⟨before, c :: rest⟩).isEmpty || phrase.startsFrom (some c) rest

/-- Whether a text holds a phrase. -/
def occursIn (phrase : Phrase) (text : List Char) : Bool :=
  phrase.startsFrom none text

/-! ### Writing phrases -/

/-- Phrases one after the other. -/
def all (phrases : List Phrase) : Phrase :=
  phrases.foldr .seq .nothing

/-- The phrase of a text in lower case. -/
def text (s : String) : Phrase :=
  all (s.toList.map .letter)

/-- One of two or more phrases. -/
def oneOf (first : Phrase) (others : List Phrase) : Phrase :=
  others.foldl .either first

/-- A phrase or nothing. -/
def maybe (phrase : Phrase) : Phrase :=
  .either phrase .nothing

/-- A text with or without an `s` at its end. -/
def plural (s : String) : Phrase :=
  .seq (text s) (maybe (text "s"))

/-- Phrases one after the other, that start and end at word boundaries. -/
def words (phrases : List Phrase) : Phrase :=
  all ([.boundary] ++ phrases ++ [.boundary])

end Phrase

end LlmAudit
