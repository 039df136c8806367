/-!
# Binary64 numbers

The numbers of the 64-bit binary format, as values that can be reasoned about. The magnitudes of the
format, from zero through the largest finite one to infinity, are counted off in increasing order;
a number is its sign and the rank of its magnitude in that order, so two numbers compare as their
ranks do. Each finite magnitude is a whole multiple of the least positive one, its count of
`units`, so sums are exact sums of whole numbers that are rounded once, to the nearest magnitude
and on a tie to the even rank.

## Main definitions

* `Binary64.units` — the magnitude of a rank, in multiples of `2^-1074`.
* `Binary64.nearestRank` — the rank of the magnitude nearest to a fraction of units.
* `Binary64.ofRatio`, `Binary64.ofDecimal`, `Binary64.ofInt` — reading exact values.
* `Binary64.add`, `Binary64.mul`, `Binary64.lt`, `Binary64.le` — arithmetic and order.
-/

namespace LlmAudit

/-- Halfway between two whole quotients, which of the two: the quotient nearest to `n / d`, and of
two equally near the even one. -/
def roundQuotient (n d : Nat) : Nat :=
  let q := n / d
  let twice := 2 * (n % d)
  if twice < d then q
  else if twice = d then q + q % 2
  else q + 1

namespace Binary64

/-- The number of fractions between a power of two and the next. -/
abbrev binade : Nat := Nat.pow 2 52

/-- The rank of infinity: all finite magnitudes are below it. -/
abbrev infinityRank : Nat := 2047 * binade

/-- The number of units in one. -/
abbrev unitsPerOne : Nat := Nat.pow 2 1074

/-- The magnitude of a rank, in units. -/
def units (rank : Nat) : Nat :=
  if rank < binade then rank
  else (binade + rank % binade) * Nat.pow 2 (rank / binade - 1)

/-- The rank of the magnitude nearest to `n / d` units, a tie going to the even rank. It may lie
beyond the rank of infinity. -/
def nearestRank (n d : Nat) : Nat :=
  let shift := (n / d).log2 - 52
  shift * binade + roundQuotient n (d * Nat.pow 2 shift)

end Binary64

/-- A number of the 64-bit binary format. -/
inductive Binary64 where
  /-- The value of an operation without a result. -/
  | nan
  /-- A signed magnitude, zero and infinity included. -/
  | number (negative : Bool) (rank : Fin (Binary64.infinityRank + 1))
  deriving DecidableEq

namespace Binary64

/-- The number of a sign and a rank; a rank beyond infinity is infinity. -/
def ofRank (negative : Bool) (rank : Nat) : Binary64 :=
  .number negative ⟨min rank infinityRank, Nat.lt_succ_of_le (Nat.min_le_right _ _)⟩

/-- Zero. -/
def zero : Binary64 := ofRank false 0

/-- One. -/
def one : Binary64 := ofRank false (1023 * binade)

/-- Infinity of a sign. -/
def infinity (negative : Bool) : Binary64 := ofRank negative infinityRank

/-- The number nearest to `n / d`, with a sign of its own so that zero has one too. -/
def ofRatio (negative : Bool) (n d : Nat) : Binary64 :=
  ofRank negative (nearestRank (n * unitsPerOne) d)

/-- The number of decimal digits of a natural number. -/
def digitCount (n : Nat) : Nat :=
  (Nat.toDigits 10 n).length

/-- The number nearest to `digits · 10 ^ exponent`. Beyond the range of the format it is infinity
or zero; the first two tests only spare the large powers. -/
def ofDecimal (negative : Bool) (digits : Nat) (exponent : Int) : Binary64 :=
  if digits = 0 then ofRank negative 0
  else if 400 < digitCount digits + exponent then infinity negative
  else if digitCount digits + exponent < -400 then ofRank negative 0
  else if 0 ≤ exponent then ofRatio negative (digits * Nat.pow 10 exponent.toNat) 1
  else ofRatio negative digits (Nat.pow 10 (-exponent).toNat)

/-- The number nearest to a whole number. -/
def ofInt (n : Int) : Binary64 :=
  ofRatio (decide (n < 0)) n.natAbs 1

/-- The place of a number in the order; none for `nan`. The two zeros have the same place. -/
def place : Binary64 → Option Int
  | .nan => none
  | .number negative rank => some (if negative then -(rank.val : Int) else rank.val)

/-- Strictly less; false if one side is `nan`. -/
def lt (x y : Binary64) : Bool :=
  match x.place, y.place with
  | some a, some b => decide (a < b)
  | _, _ => false

/-- Less or equal; false if one side is `nan`. -/
def le (x y : Binary64) : Bool :=
  match x.place, y.place with
  | some a, some b => decide (a ≤ b)
  | _, _ => false

/-- The lesser of two numbers; the first one unless the second is strictly less. -/
def least (x y : Binary64) : Binary64 :=
  if y.lt x then y else x

/-- The greater of two numbers; the first one unless the second is strictly greater. -/
def greatest (x y : Binary64) : Binary64 :=
  if x.lt y then y else x

/-- The signed count of units of a finite number; none for `nan` and the infinities. -/
def units? : Binary64 → Option Int
  | .nan => none
  | .number negative rank =>
    if rank.val < infinityRank then
      some (if negative then -(units rank.val : Int) else units rank.val)
    else none

/-- The sum, rounded once. A zero sum is negative only if both summands are. -/
def add (x y : Binary64) : Binary64 :=
  match x, y with
  | .nan, _ => .nan
  | _, .nan => .nan
  | .number s r, .number t k =>
    match x.units?, y.units? with
    | some a, some b =>
      let sum := a + b
      let negative := if sum = 0 then s && t else decide (sum < 0)
      ofRank negative (nearestRank sum.natAbs 1)
    | none, some _ => .number s r
    | some _, none => .number t k
    | none, none => if s = t then .number s r else .nan

/-- The product, rounded once. Infinity times zero has no result. -/
def mul (x y : Binary64) : Binary64 :=
  match x, y with
  | .nan, _ => .nan
  | _, .nan => .nan
  | .number s r, .number t k =>
    match x.units?, y.units? with
    | some a, some b => ofRank (s != t) (nearestRank (a.natAbs * b.natAbs) unitsPerOne)
    | _, _ => if r.val = 0 ∨ k.val = 0 then .nan else infinity (s != t)

/-- The number with the other sign; `nan` stays. -/
def neg : Binary64 → Binary64
  | .nan => .nan
  | .number negative rank => .number (!negative) rank

/-- The number nearest to the number's hundredths, counted to the nearest one; `nan` and the
infinities stay. -/
def roundToHundredths : Binary64 → Binary64
  | .nan => .nan
  | .number negative rank =>
    if rank.val < infinityRank then
      ofRatio negative (roundQuotient (units rank.val * 100) unitsPerOne) 100
    else .number negative rank

/-- The whole number that a finite number without a fraction is. -/
def toInt? (x : Binary64) : Option Int :=
  match x.units? with
  | none => none
  | some u => if u.natAbs % unitsPerOne = 0 then some (u / unitsPerOne) else none

end Binary64

end LlmAudit
