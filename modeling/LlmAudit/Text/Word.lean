import LlmAudit.Text.CaseTable
import LlmAudit.Text.WordTable

/-!
# Word characters

Letters, numerals and the underscore make words; a word boundary stands between a word character
and anything else.
-/

namespace LlmAudit.Text

/-- A letter, a numeral or the underscore. -/
def isWordChar (c : Char) : Bool :=
  if c.toNat < 0x80 then c.isAlphanum || c == '_'
  else inIntervals alphanumericIntervals c.toNat

/-- An ASCII letter or digit, or one of the further characters. -/
def isAsciiNameChar (further : List Char) (c : Char) : Bool :=
  c.isAlphanum || further.contains c

end LlmAudit.Text
