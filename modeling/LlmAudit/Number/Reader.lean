import LlmAudit.Number.Decimal
import LlmAudit.Text.Blank

/-!
# Reading numbers

Numbers as people write them in a text field: blanks around the number, a sign, leading zeros and
single underscores between digits are accepted. A whole number may have a fraction of zeros only,
and not too many digits.

## Main definitions

* `wholeOfText` — the whole number of a text field.
* `readNumber?` — the number of a text field.
-/

namespace LlmAudit

/-- The number that decimal digits write. -/
def digitsToNat (digits : List Char) : Nat :=
  digits.foldl (fun n c => n * 10 + (c.toNat - '0'.toNat)) 0

/-- A blank other than the information separators. -/
def isMargin (c : Char) : Bool :=
  Text.isBlank c && !decide (0x1C ≤ c.toNat ∧ c.toNat ≤ 0x1F)

/-- A text without the blanks around it. -/
def trimMargin (s : List Char) : List Char :=
  ((s.dropWhile isMargin).reverse.dropWhile isMargin).reverse

/-- The sign at the front of a text, and the rest. -/
def takeSign (s : List Char) : Bool × List Char :=
  match s with
  | '-' :: rest => (true, rest)
  | '+' :: rest => (false, rest)
  | _ => (false, s)

/-- Whether underscores stand only singly and between other characters. -/
def underscoresInside : List Char → Bool
  | [] => true
  | ['_'] => false
  | '_' :: '_' :: _ => false
  | _ :: rest => underscoresInside rest

/-- A text without its underscores; none if one stands at an end or beside another. -/
def dropUnderscores? (s : List Char) : Option (List Char) :=
  if s.head? = some '_' ∨ ¬underscoresInside s then none else some (s.filter (· != '_'))

/-! ### Whole numbers -/

/-- Why a text writes no whole number. -/
inductive WholeFault where
  /-- It is not written like one. -/
  | unreadable
  /-- It has too many digits. -/
  | tooLong
  deriving DecidableEq

/-- A digit other than zero. -/
def isLeadingDigit (c : Char) : Bool :=
  c.isDigit && c != '0'

/-- The whole number in its plain form: zero, or digits of which the first is not zero, after a
minus or nothing. A run of digits that is too long is told as such, whatever follows it. -/
def plainWhole (s : List Char) : Except WholeFault Int :=
  let (negative, unsigned) := match s with
    | '-' :: rest => (true, rest)
    | _ => (false, s)
  match unsigned with
  | ['0'] => .ok 0
  | d :: _ =>
    let digits := unsigned.takeWhile Char.isDigit
    if !isLeadingDigit d then .error .unreadable
    else if digitLimit < s.length - unsigned.length + digits.length then .error .tooLong
    else if digits.length < unsigned.length then .error .unreadable
    else
      let n : Int := digitsToNat digits
      .ok (if negative then -n else n)
  | [] => .error .unreadable

/-- The text from its first character on that is neither a zero nor an underscore; a zero stays
before a point, and the last character if there is nothing else. Something other than a number must
not follow. -/
def skipZeros (last : Char) : List Char → Option (List Char)
  | [] => some [last]
  | c :: rest =>
    if c = '0' ∨ c = '_' then skipZeros c rest
    else if isLeadingDigit c ∨ c = '-' then some (c :: rest)
    else if c = '.' then some (last :: c :: rest)
    else none

/-- A text without the zeros at its front. -/
def cutLeadingZeros : List Char → Option (List Char)
  | [] => none
  | c :: rest =>
    if c = '0' then skipZeros c rest
    else if isLeadingDigit c ∨ c = '-' then some (c :: rest)
    else none

/-- A text without a fraction of zeros at its end. -/
def cutZeroFraction (s : List Char) : List Char :=
  let whole := s.takeWhile (· != '.')
  let fraction := (s.dropWhile (· != '.')).drop 1
  if fraction.isEmpty ∨ ¬fraction.all (· == '0') then s else whole

/-- A text without leading zeros, a zero fraction and underscores inside. -/
def tidyDigits (s : List Char) : Option (List Char) :=
  (cutLeadingZeros s).map fun t =>
    let whole := cutZeroFraction t
    (dropUnderscores? whole).getD whole

/-- A whole number in its plain form, from a text with blanks around it, a sign, leading zeros, a
zero fraction or underscores. -/
def tidyWhole (s : List Char) : Option (List Char) :=
  match trimMargin s with
  | '+' :: '-' :: _ => none
  | '+' :: rest => tidyDigits rest
  | '-' :: rest => (tidyDigits rest).map ('-' :: ·)
  | t => tidyDigits t

/-- The whole number that a text field holds: in its plain form, or else once it is tidied. -/
def wholeOfText (s : String) : Except WholeFault Int :=
  match plainWhole s.toList with
  | .ok n => .ok n
  | .error .tooLong => .error .tooLong
  | .error .unreadable =>
    match (tidyWhole s.toList).map plainWhole with
    | some (.ok n) => .ok n
    | _ => .error .unreadable

/-! ### Numbers with a fraction -/

/-- The whole number that digits with a sign write. -/
def signedDigits? (s : List Char) : Option Int :=
  let (negative, digits) := takeSign s
  if digits.isEmpty ∨ ¬digits.all Char.isDigit then none
  else
    let n : Int := digitsToNat digits
    some (if negative then -n else n)

/-- The exponent that a text is, from its mark on; no text is no exponent. -/
def readPower? (s : List Char) : Option Int :=
  match s with
  | [] => some 0
  | e :: rest => if e = 'e' ∨ e = 'E' then signedDigits? rest else none

/-- The number that digits, a point and an exponent write; at least one digit stands beside the
point. -/
def readDecimal? (negative : Bool) (s : List Char) : Option Binary64 :=
  let whole := s.takeWhile Char.isDigit
  let rest := s.dropWhile Char.isDigit
  let (fraction, rest') := match rest with
    | '.' :: more => (more.takeWhile Char.isDigit, more.dropWhile Char.isDigit)
    | _ => ([], rest)
  if whole.isEmpty ∧ fraction.isEmpty then none
  else
    (readPower? rest').map fun e =>
      .ofDecimal negative (digitsToNat (whole ++ fraction)) (e - fraction.length)

/-- The number that a text without blanks and underscores writes. -/
def readPlainNumber? (s : List Char) : Option Binary64 :=
  let (negative, rest) := takeSign s
  let word := String.ofList (rest.map Char.toLower)
  if word = "nan" then some .nan
  else if word = "inf" ∨ word = "infinity" then some (.infinity negative)
  else readDecimal? negative rest

/-- The number that a text field holds: with blanks around it, or with underscores inside. -/
def readNumber? (s : String) : Option Binary64 :=
  match readPlainNumber? (trimMargin s.toList) with
  | some x => some x
  | none => (dropUnderscores? s.toList).bind readPlainNumber?

end LlmAudit
