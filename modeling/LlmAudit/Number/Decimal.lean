import LlmAudit.Number.Binary64

/-!
# Decimal text of numbers

Writing binary64 numbers with the fewest decimal digits that read back as the same number, or with
two places. The digits are found in whole-number arithmetic: the reals that round to a magnitude
lie between the midpoints to its neighbours, and for one digit, two digits and so on the two
decimals next to the magnitude are tried until one lies between them.

## Main definitions

* `Binary64.shortest` — the fewest digits, and the nearest of those.
* `digitLimit` — the greatest length of a whole number in decimal digits.
* `Binary64.render` — positional for magnitudes from `10^-4` to below `10^16`, else with an
  exponent.
* `Binary64.renderHundredths` — with two places, a half going to the even hundredth.
-/

namespace LlmAudit

/-- The decimal digits of a natural number. -/
def decimalDigits (n : Nat) : List Char :=
  Nat.toDigits 10 n

/-- The text of a whole number. -/
def renderInt (n : Int) : String :=
  String.ofList (if n < 0 then '-' :: decimalDigits n.natAbs else decimalDigits n.natAbs)

/-- The greatest number of decimal digits that a whole number may have where it is read or written
as text. -/
def digitLimit : Nat := 4300

/-- Whether a whole number can be written in decimal digits. -/
def isWritable (n : Int) : Bool :=
  decide (Binary64.digitCount n.natAbs ≤ digitLimit)

/-- What is said of a whole number that has too many digits; their number is given if it was
counted. -/
def digitLimitMessage (counted : Option Nat) : String :=
  let count := match counted with
    | some n => ": value has " ++ renderInt n ++ " digits"
    | none => ""
  "Exceeds the limit (" ++ renderInt digitLimit ++ " digits) for integer string conversion" ++
    count ++ "; use sys.set_int_max_str_digits() to increase the limit"

namespace Binary64

/-- The magnitude `digits · 10 ^ exponent` as a fraction of units. -/
def decimalUnits (digits : Nat) (exponent : Int) : Nat × Nat :=
  if 0 ≤ exponent then (digits * Nat.pow 10 exponent.toNat * unitsPerOne, 1)
  else (digits * unitsPerOne, Nat.pow 10 (-exponent).toNat)

/-- Whether `n / d` units round to the magnitude of the rank: whether they lie between the
midpoints to the two neighbours, which themselves round to an even rank. -/
def roundsTo (rank n d : Nat) : Bool :=
  let low := units (rank - 1) + units rank
  let high := units rank + units (rank + 1)
  if rank % 2 = 0 then decide (low * d ≤ 2 * n ∧ 2 * n ≤ high * d)
  else decide (low * d < 2 * n ∧ 2 * n < high * d)

/-- The number of digits before the decimal point: the `p` with `10^(p-1) ≤ magnitude < 10^p`,
for a magnitude of `u > 0` units. -/
def pointPlace (u : Nat) : Int :=
  if unitsPerOne ≤ u then digitCount (u / unitsPerOne)
  else
    match (List.range 330).find? fun j => decide (unitsPerOne ≤ u * Nat.pow 10 (j + 1)) with
    | some j => -(j : Int)
    | none => 0

/-- The decimal with the given exponent next to `u` units that rounds to the rank: of two that do
the nearer one, and of two equally near the even one. -/
def neighbour? (rank : Nat) (exponent : Int) : Option Nat :=
  let u := units rank
  let (unitN, unitD) := decimalUnits 1 exponent
  -- `u / (unitN / unitD)`, cut to a whole number
  let below := u * unitD / unitN
  let hit (k : Nat) : Bool := roundsTo rank (k * unitN) unitD
  let rest := u * unitD - below * unitN
  match hit below, hit (below + 1) with
  | true, true =>
    some (if 2 * rest < unitN then below
      else if 2 * rest = unitN then below + below % 2
      else below + 1)
  | true, false => some below
  | false, true => some (below + 1)
  | false, false => none

/-- The fewest digits, and their exponent, that round to the magnitude of a positive finite rank. -/
def shortest (rank : Nat) : Nat × Int :=
  let p := pointPlace (units rank)
  let found := (List.range 17).findSome? fun (k : Nat) =>
    let exponent : Int := p - (k + 1 : Nat)
    (neighbour? rank exponent).map fun digits => (digits, exponent)
  found.getD (units rank * Nat.pow 5 1074, -1074)

/-- Digits without their trailing zeros, and the number of zeros cut off. -/
def cutZeros (digits : List Char) : List Char × Nat :=
  let kept := (digits.reverse.dropWhile (· == '0')).reverse
  (kept, digits.length - kept.length)

/-- An exponent with its sign and at least two digits. -/
def renderExponent (e : Int) : List Char :=
  let digits := decimalDigits e.natAbs
  let padded := if digits.length < 2 then '0' :: digits else digits
  (if e < 0 then '-' else '+') :: padded

/-- The text of the magnitude `0.digits · 10 ^ point`. It is positional if the exponent of its first
digit is at least `-4` and below `16`. -/
def renderDigits (digits : List Char) (point : Int) : List Char :=
  let e := point - 1
  if -4 ≤ e ∧ e < 16 then
    if point ≤ 0 then '0' :: '.' :: (List.replicate (-point).toNat '0' ++ digits)
    else if (digits.length : Int) ≤ point then
      digits ++ List.replicate (point.toNat - digits.length) '0' ++ ['.', '0']
    else digits.take point.toNat ++ '.' :: digits.drop point.toNat
  else
    match digits with
    | [] => ['0']
    | [d] => d :: 'e' :: renderExponent e
    | d :: rest => d :: '.' :: (rest ++ 'e' :: renderExponent e)

/-- The text of a finite magnitude. -/
def renderMagnitude (rank : Nat) : List Char :=
  if rank = 0 then ['0', '.', '0']
  else
    let (digits, exponent) := shortest rank
    let written := decimalDigits digits
    let (kept, _) := cutZeros written
    renderDigits kept (written.length + exponent)

/-- How the values without digits are written. -/
structure SpecialNames where
  /-- The text of `nan`. -/
  nan : String
  /-- The text of positive infinity. -/
  infinity : String

/-- The text of a number with the fewest digits. -/
def renderWith (names : SpecialNames) : Binary64 → String
  | .nan => names.nan
  | .number negative rank =>
    let magnitude :=
      if rank.val < infinityRank then renderMagnitude rank.val else names.infinity.toList
    String.ofList (if negative then '-' :: magnitude else magnitude)

/-- The text of a number: the fewest digits, and the words `nan` and `inf`. -/
def render (x : Binary64) : String :=
  renderWith ⟨"nan", "inf"⟩ x

/-- A count of hundredths as text with two places. -/
def renderPlaces (hundredths : Nat) : List Char :=
  let cents := decimalDigits (hundredths % 100)
  decimalDigits (hundredths / 100) ++
    '.' :: (if cents.length < 2 then '0' :: cents else cents)

/-- The text of a number with two places, a half going to the even hundredth. -/
def renderHundredths : Binary64 → String
  | .nan => "nan"
  | .number negative rank =>
    let magnitude :=
      if rank.val < infinityRank then
        renderPlaces (roundQuotient (units rank.val * 100) unitsPerOne)
      else "inf".toList
    String.ofList (if negative then '-' :: magnitude else magnitude)

end Binary64

end LlmAudit
