import LlmAudit.Number.Reader
import LlmAudit.Text.DigitTable
import LlmAudit.Text.Quoted

/-!
# Whole numbers in a base

A whole number in base two, eight, ten or sixteen: blanks around it, a sign, the mark of the base in
front of its digits, and single underscores between them. The digits may be those of any script.
In base ten their number is limited.

## Main definitions

* `Based.read` — the number that a text writes in a base.
* `Based.Fault.message` — what is said of a text that writes none.
-/

namespace LlmAudit.Based

/-- Why a text writes no whole number in a base. -/
inductive Fault where
  /-- It is not written like one. -/
  | unreadable
  /-- It has so many digits, which are too many. -/
  | tooManyDigits (count : Nat)
  deriving DecidableEq

/-- What is said of a text, which is shown in quotes, that writes no number in a base. -/
def Fault.message (base : Nat) (shown : String) : Fault → String
  | .unreadable =>
    "invalid literal for int() with base " ++ renderInt base ++ ": " ++
      String.ofList (shown.toList.take 200)
  | .tooManyDigits count => digitLimitMessage (some count)

/-- A blank of ASCII. -/
def isAsciiBlank (c : Char) : Bool :=
  c == ' ' || decide (0x09 ≤ c.toNat ∧ c.toNat ≤ 0x0D)

/-- The ASCII character that stands for a digit or a blank of another script. -/
def asciiOf (c : Char) : Char :=
  if c.toNat < 0x7F then c
  else if Text.isBlank c then ' '
  else
    match Text.digitValue? c with
    | some d => Char.ofNat ('0'.toNat + d)
    | none => '?'

/-- A text without the ASCII blanks around it. -/
def trimAscii (s : List Char) : List Char :=
  ((s.dropWhile isAsciiBlank).reverse.dropWhile isAsciiBlank).reverse

/-- The value of a digit or a letter as a digit. -/
def placeValue? (c : Char) : Option Nat :=
  if c.isDigit then some (c.toNat - '0'.toNat)
  else if 'a' ≤ c ∧ c ≤ 'z' then some (c.toNat - 'a'.toNat + 10)
  else if 'A' ≤ c ∧ c ≤ 'Z' then some (c.toNat - 'A'.toNat + 10)
  else none

/-- Whether a character is a digit of a base. -/
def isDigitOf (base : Nat) (c : Char) : Bool :=
  match placeValue? c with
  | some d => decide (d < base)
  | none => false

/-- The number that digits of a base write. -/
def valueOf (base : Nat) (digits : List Char) : Nat :=
  digits.foldl (fun n c => n * base + (placeValue? c).getD 0) 0

/-- The letters that mark a base. -/
def marks (base : Nat) : List Char :=
  if base = 16 then ['x', 'X']
  else if base = 8 then ['o', 'O']
  else if base = 2 then ['b', 'B']
  else []

/-- A text without the mark of its base, and one underscore after that. -/
def skipMark (base : Nat) (s : List Char) : List Char :=
  match s with
  | '0' :: m :: rest =>
    if (marks base).contains m then
      match rest with
      | '_' :: more => more
      | _ => rest
    else s
  | _ => s

/-- The number that a text writes in a base. -/
def read (base : Nat) (s : List Char) : Except Fault Int :=
  let ascii := if s.all fun c => decide (c.toNat < 0x80) then s else s.map asciiOf
  let (negative, unsigned) := takeSign (ascii.dropWhile isAsciiBlank)
  let start := skipMark base unsigned
  let written := start.takeWhile fun c => isDigitOf base c || c == '_'
  match dropUnderscores? written with
  | none => .error .unreadable
  | some digits =>
    if digits.isEmpty then .error .unreadable
    else if base = 10 ∧ digitLimit < digits.length then .error (.tooManyDigits digits.length)
    else if ¬(start.drop written.length).all isAsciiBlank then .error .unreadable
    else
      let n : Int := valueOf base digits
      .ok (if negative then -n else n)

end LlmAudit.Based
