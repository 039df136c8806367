import LlmAudit.Text.CaseTable
import LlmAudit.Text.PrintTable

/-!
# Quoted texts

A text between quotes on one line, as it is shown inside other texts. It stands between apostrophes,
or between double quotes if it holds an apostrophe and no double quote. The quote and the backslash
are written with a backslash before them, and unprintable characters by name or by code point. Bytes
are quoted like the text of the characters with their values, after a letter, with ASCII only.
-/

namespace LlmAudit.Text

/-- A character that can be shown as it is. -/
def isPrintable (c : Char) : Bool :=
  if c.toNat < 0x7F then decide (0x20 ≤ c.toNat) else !inIntervals unprintableIntervals c.toNat

/-- The hexadecimal digits of a number, padded to a width. -/
def hexPadded (width n : Nat) : List Char :=
  let digits := Nat.toDigits 16 n
  List.replicate (width - digits.length) '0' ++ digits

/-- A character inside a quoted text. -/
def quoteChar (quote c : Char) : List Char :=
  if c = quote ∨ c = '\\' then ['\\', c]
  else if c = '\n' then ['\\', 'n']
  else if c = '\r' then ['\\', 'r']
  else if c = '\t' then ['\\', 't']
  else if isPrintable c then [c]
  else if c.toNat < 0x100 then '\\' :: 'x' :: hexPadded 2 c.toNat
  else if c.toNat < 0x10000 then '\\' :: 'u' :: hexPadded 4 c.toNat
  else '\\' :: 'U' :: hexPadded 8 c.toNat

/-- A quoted text. -/
def quoted (s : String) : String :=
  let cs := s.toList
  let quote := if cs.contains '\'' && !cs.contains '"' then '"' else '\''
  String.ofList (quote :: (cs.flatMap (quoteChar quote) ++ [quote]))

/-- A byte inside quotes. -/
def quoteByte (quote : Char) (b : UInt8) : List Char :=
  if b.toNat < 0x80 then quoteChar quote (Char.ofNat b.toNat) else '\\' :: 'x' :: hexPadded 2 b.toNat

/-- Quoted bytes. -/
def quotedBytes (bytes : List UInt8) : String :=
  let holds (c : Char) : Bool := bytes.any fun b => b.toNat == c.toNat
  let quote := if holds '\'' && !holds '"' then '"' else '\''
  String.ofList ('b' :: quote :: (bytes.flatMap (quoteByte quote) ++ [quote]))

end LlmAudit.Text
