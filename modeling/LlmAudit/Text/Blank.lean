/-!
# Blanks

White space and the trimming of it. A blank is any character that separates words: the ASCII
controls from tab to carriage return and from U+001C to U+001F, the space, and the spaces and line
separators of the other scripts. The zero-width characters are not blanks.
-/

namespace LlmAudit.Text

/-- White space. -/
def isBlank (c : Char) : Bool :=
  let n := c.toNat
  decide (n = 0x20 ∨ (0x09 ≤ n ∧ n ≤ 0x0D) ∨ (0x1C ≤ n ∧ n ≤ 0x1F) ∨ n = 0x85 ∨ n = 0xA0 ∨
    n = 0x1680 ∨ (0x2000 ≤ n ∧ n ≤ 0x200A) ∨ n = 0x2028 ∨ n = 0x2029 ∨ n = 0x202F ∨
    n = 0x205F ∨ n = 0x3000)

/-- The text without the blanks at its front. -/
def stripLeft (s : List Char) : List Char :=
  s.dropWhile isBlank

/-- The text without the blanks at its end. -/
def stripRight (s : List Char) : List Char :=
  (s.reverse.dropWhile isBlank).reverse

/-- The text without the blanks at either end. -/
def strip (s : List Char) : List Char :=
  stripRight (stripLeft s)

/-- A string without the blanks at either end. -/
def trim (s : String) : String :=
  String.ofList (strip s.toList)

/-- What `stripLeft` leaves is a suffix of the text. -/
theorem stripLeft_suffix (s : List Char) : stripLeft s <:+ s :=
  List.dropWhile_suffix _

end LlmAudit.Text
