import LlmAudit.Text.Search
import LlmAudit.Text.WidthTable

/-!
# Columns of terminal text

The number of columns that a text takes, and tabs as blanks up to the next stop. A joiner takes the
character after it into the picture before it, and a selector makes a narrow picture wide.

## Main definitions

* `Columns.count` — the columns of a text.
* `Columns.expandTabs` — a line without tabs.
-/

namespace LlmAudit.Columns

/-- The character that joins the one after it to the one before it. -/
def joiner : Char := Char.ofNat 0x200D

/-- The character that makes a picture of the one before it. -/
def selector : Char := Char.ofNat 0xFE0F

/-- The columns that a selector adds to the last character that took any. -/
def widening : Option Char → Nat
  | some c => if Text.isNarrowPicture c then 1 else 0
  | none => 0

/-- The columns of the rest of a text. If `joined` holds, its first character is joined to the one
before; `last` is the last character that took columns, unless a selector came since. -/
def countFrom (joined : Bool) (last : Option Char) : List Char → Nat
  | [] => 0
  | c :: rest =>
    if joined then countFrom false last rest
    else if c = joiner then countFrom true last rest
    else if c = selector then widening last + countFrom false none rest
    else
      match Text.columns c with
      | 0 => countFrom false last rest
      | n + 1 => n + 1 + countFrom false (some c) rest

/-- The columns of a text. -/
def count (s : List Char) : Nat :=
  countFrom false none s

/-- The number of columns between two stops. -/
def tabWidth : Nat := 8

/-- The pieces of a line between its tabs, with blanks up to the next stop after each but the last;
`column` is the column of the first character. A tab takes at least one blank. -/
def fillTo (column : Nat) : List (List Char) → List Char
  | [] => []
  | [last] => last
  | piece :: rest =>
    let reached := column + count (piece ++ [' '])
    let blanks := (tabWidth - reached % tabWidth) % tabWidth
    piece ++ List.replicate (blanks + 1) ' ' ++ fillTo (reached + blanks) rest

/-- A line with blanks up to the next stop in place of each tab. -/
def expandTabs (line : List Char) : List Char :=
  fillTo 0 (Text.splitAt '\t' line)

end LlmAudit.Columns
