/-!
# Lines

Splitting a text at its line breaks, and reading every carriage return as a line feed.
-/

namespace LlmAudit.Text

/-- The characters that end a line: line feed, vertical tab, form feed, carriage return, the three
information separators, next line, and the line and paragraph separators. -/
def isLineBreak (c : Char) : Bool :=
  let n := c.toNat
  decide ((0x0A ≤ n ∧ n ≤ 0x0D) ∨ (0x1C ≤ n ∧ n ≤ 0x1E) ∨ n = 0x85 ∨ n = 0x2028 ∨ n = 0x2029)

/-- The lines of a text whose first line starts with the reverse of `line`. -/
def linesFrom (line : List Char) : List Char → List (List Char)
  | [] => if line.isEmpty then [] else [line.reverse]
  | '\r' :: '\n' :: rest => line.reverse :: linesFrom [] rest
  | c :: rest =>
    if isLineBreak c then line.reverse :: linesFrom [] rest else linesFrom (c :: line) rest

/-- The lines of a text, without their breaks. A carriage return and the line feed after it are one
break, and a break at the end of the text starts no further line. -/
def lines (s : List Char) : List (List Char) :=
  linesFrom [] s

/-- The lines of a string. -/
def splitLines (s : String) : List String :=
  (lines s.toList).map String.ofList

/-- The text with each carriage return, and each carriage return with a line feed after it, read as
one line feed. -/
def unifyBreaks : List Char → List Char
  | [] => []
  | '\r' :: '\n' :: rest => '\n' :: unifyBreaks rest
  | '\r' :: rest => '\n' :: unifyBreaks rest
  | c :: rest => c :: unifyBreaks rest

end LlmAudit.Text
