import LlmAudit.Proofs.Number.Rounding

/-!
# Shortest decimals read back

The digits that `shortest` finds for a magnitude round to it, whichever of its tries succeeds
(`decimalRoundsTo_shortest`), and a decimal that rounds to a magnitude is read as that magnitude
(`ofDecimal_of_decimalRoundsTo`). What is read depends on the value of the decimal only, not on
zeros at the end of its digits (`decimalRoundsTo_mul_pow`).
-/

namespace LlmAudit.Binary64

/-! ### Decimals as fractions of units -/

theorem roundsTo_mul_right (rank n d : Nat) {c : Nat} (hc : 0 < c) :
    roundsTo rank (n * c) (d * c) = roundsTo rank n d := by
  have hleft : ∀ a : Nat, a * (d * c) = a * d * c := fun a => (Nat.mul_assoc a d c).symm
  have hright : 2 * (n * c) = 2 * n * c := (Nat.mul_assoc 2 n c).symm
  simp only [roundsTo, hleft, hright, Nat.mul_le_mul_right_iff hc, Nat.mul_lt_mul_right hc]

/-- Whether a fraction rounds to a rank depends on its value only. -/
theorem roundsTo_congr {rank n d n' d' : Nat} (hd : 0 < d) (hd' : 0 < d')
    (h : n * d' = n' * d) : roundsTo rank n d = roundsTo rank n' d' := by
  rw [← roundsTo_mul_right rank n d hd', h, Nat.mul_comm d d', roundsTo_mul_right rank n' d' hd]

/-- Whether the decimal `digits · 10 ^ exponent` rounds to a rank. -/
def DecimalRoundsTo (rank digits : Nat) (exponent : Int) : Prop :=
  roundsTo rank (decimalUnits digits exponent).1 (decimalUnits digits exponent).2 = true

theorem decimalUnits_snd_pos (digits : Nat) (exponent : Int) :
    0 < (decimalUnits digits exponent).2 := by
  rw [decimalUnits]
  split
  · exact Nat.one_pos
  · exact Nat.pow_pos (by decide)

theorem decimalUnits_of_nonneg (digits n : Nat) :
    decimalUnits digits n = (digits * 10 ^ n * unitsPerOne, 1) := by
  rw [decimalUnits, if_pos (Int.natCast_nonneg n), Int.toNat_natCast, Nat.pow_eq]

theorem decimalUnits_of_neg (digits n : Nat) :
    decimalUnits digits (-(n + 1 : Nat)) = (digits * unitsPerOne, 10 ^ (n + 1)) := by
  rw [decimalUnits, if_neg (by omega), Int.neg_neg, Int.toNat_natCast, Nat.pow_eq]

/-- Zeros at the end of the digits do not change the value. -/
theorem decimalRoundsTo_mul_pow {rank digits : Nat} {exponent : Int} (zeros : Nat) :
    DecimalRoundsTo rank (digits * 10 ^ zeros) (exponent - zeros) ↔
      DecimalRoundsTo rank digits exponent := by
  have hcross : (decimalUnits (digits * 10 ^ zeros) (exponent - zeros)).1 *
        (decimalUnits digits exponent).2 =
      (decimalUnits digits exponent).1 *
        (decimalUnits (digits * 10 ^ zeros) (exponent - zeros)).2 := by
    cases exponent with
    | ofNat n =>
      rcases Nat.lt_or_ge n zeros with hlt | hge
      · obtain ⟨m, rfl⟩ := Nat.exists_eq_add_of_lt hlt
        have hexponent : Int.ofNat n - (n + m + 1 : Nat) = -(m + 1 : Nat) := by
          rw [Int.ofNat_eq_natCast]
          omega
        rw [hexponent, Int.ofNat_eq_natCast, decimalUnits_of_neg, decimalUnits_of_nonneg]
        generalize unitsPerOne = u
        ring
      · obtain ⟨m, rfl⟩ := Nat.exists_eq_add_of_le hge
        have hexponent : Int.ofNat (zeros + m) - zeros = m := by
          rw [Int.ofNat_eq_natCast]
          omega
        rw [hexponent, Int.ofNat_eq_natCast, decimalUnits_of_nonneg, decimalUnits_of_nonneg]
        generalize unitsPerOne = u
        ring
    | negSucc n =>
      have hexponent : Int.negSucc n - zeros = -(n + zeros + 1 : Nat) := by
        rw [Int.negSucc_eq]
        omega
      rw [hexponent, decimalUnits_of_neg, Int.negSucc_eq, ← Int.natCast_one, ← Int.natCast_add,
        decimalUnits_of_neg]
      generalize unitsPerOne = u
      ring
  rw [DecimalRoundsTo, DecimalRoundsTo,
    roundsTo_congr (decimalUnits_snd_pos _ _) (decimalUnits_snd_pos _ _) hcross]

/-! ### The digits found -/

theorem roundsTo_self {rank : Nat} (h : 0 < rank) : roundsTo rank (units rank) 1 = true := by
  have hbelow : units (rank - 1) < units rank := units_strictMono (Nat.sub_lt h Nat.one_pos)
  have habove := units_lt_units_succ rank
  rw [roundsTo_iff]
  omega

theorem decimalUnits_eq_mul (digits : Nat) (exponent : Int) :
    decimalUnits digits exponent =
      (digits * (decimalUnits 1 exponent).1, (decimalUnits 1 exponent).2) := by
  rw [decimalUnits, decimalUnits]
  split
  · simp only [Nat.one_mul, Nat.mul_assoc]
  · simp only [Nat.one_mul]

/-- A neighbour that is taken rounds to the magnitude. -/
theorem decimalRoundsTo_of_neighbour? {rank digits : Nat} {exponent : Int}
    (h : neighbour? rank exponent = some digits) : DecimalRoundsTo rank digits exponent := by
  rw [DecimalRoundsTo, decimalUnits_eq_mul]
  simp only [neighbour?] at h
  split at h
  · rename_i hbelow habove
    rw [Option.some.injEq] at h
    subst h
    split
    · exact hbelow
    · split
      · rcases Nat.mod_two_eq_zero_or_one
          (units rank * (decimalUnits 1 exponent).2 / (decimalUnits 1 exponent).1) with heven | hodd
        · rw [heven]
          exact hbelow
        · rw [hodd]
          exact habove
      · exact habove
  · rename_i hbelow habove
    cases h
    exact hbelow
  · rename_i hbelow habove
    cases h
    exact habove
  · cases h

/-- The exponent is kept as a variable, so that the power is not worked out. -/
theorem unitsPerOne_eq {k : Nat} (hk : k = 1074) : unitsPerOne = 2 ^ k := by
  delta unitsPerOne
  rw [← hk, Nat.pow_eq]

/-- A magnitude is a decimal itself. -/
theorem decimalRoundsTo_exact {rank : Nat} (h : 0 < rank) {k : Nat} (hk : k = 1074)
    {exponent : Int} (he : exponent = -k) :
    DecimalRoundsTo rank (units rank * Nat.pow 5 k) exponent := by
  have hscale := roundsTo_mul_right rank (units rank) 1 (Nat.pow_pos (by decide) : 0 < 10 ^ k)
  rw [Nat.one_mul, roundsTo_self h] at hscale
  have hneg : ¬ 0 ≤ exponent := by omega
  rw [DecimalRoundsTo, decimalUnits, if_neg hneg, he, Int.neg_neg, Int.toNat_natCast,
    unitsPerOne_eq hk, ← hscale]
  simp only [Nat.pow_eq]
  rw [Nat.mul_assoc, ← Nat.mul_pow]

/-- The digits found for a magnitude round to it. -/
theorem decimalRoundsTo_shortest {rank : Nat} (h : 0 < rank) :
    DecimalRoundsTo rank (shortest rank).1 (shortest rank).2 := by
  rw [shortest]
  cases hfound : (List.range 17).findSome? fun (k : Nat) =>
      (neighbour? rank (pointPlace (units rank) - (k + 1 : Nat))).map fun digits =>
        (digits, pointPlace (units rank) - (k + 1 : Nat)) with
  | some found =>
    obtain ⟨k, -, hk⟩ := List.exists_of_findSome?_eq_some hfound
    obtain ⟨digits, hdigits, rfl⟩ := Option.map_eq_some_iff.1 hk
    exact decimalRoundsTo_of_neighbour? hdigits
  | none =>
    rw [Option.getD_none]
    dsimp only
    obtain ⟨k, hk⟩ : ∃ k, k = 1074 := ⟨_, rfl⟩
    rw [← hk]
    exact decimalRoundsTo_exact h hk (by omega)

/-! ### Reading decimals -/

theorem lt_pow_digitCount (n : Nat) : n < 10 ^ digitCount n :=
  (Nat.length_toDigits_le_iff (by decide) Nat.length_toDigits_pos).1 le_rfl

theorem pow_digitCount_le {n : Nat} (h : 0 < n) : 10 ^ (digitCount n - 1) ≤ n := by
  rcases Nat.eq_zero_or_pos (digitCount n - 1) with h0 | h0
  · rw [h0]
    exact h
  · refine Nat.le_of_not_lt fun hlt => ?_
    have := (Nat.length_toDigits_le_iff (by decide) h0).2 hlt
    rw [digitCount] at this h0
    omega

/-- No finite magnitude and no midpoint reaches `2 ^ 1024`. -/
theorem units_succ_le {rank : Nat} (h : rank < infinityRank) {k : Nat} (hk : k = 1024) :
    units (rank + 1) ≤ 2 ^ k * unitsPerOne := by
  obtain ⟨shift, hshift⟩ : ∃ shift, shift = 2046 := ⟨_, rfl⟩
  have hrank : infinityRank = shift * binade + binade := by
    rw [infinityRank, binade_eq, hshift]
  have hinfinity : units infinityRank = 2 ^ k * unitsPerOne := by
    rw [hrank, units_mul_add (by omega) (.inr le_rfl), binade_eq_pow, unitsPerOne_eq rfl,
      ← Nat.pow_add, ← Nat.pow_add]
    congr 1
    omega
  rw [← hinfinity]
  exact units_strictMono.monotone h

/-- A decimal that rounds to a positive finite magnitude is at least half a unit. -/
theorem DecimalRoundsTo.half_le {rank digits : Nat} {exponent : Int} (h : 0 < rank)
    (hdigits : DecimalRoundsTo rank digits exponent) :
    (decimalUnits digits exponent).2 ≤ 2 * (decimalUnits digits exponent).1 := by
  obtain ⟨⟨hlow, -⟩, -⟩ := roundsTo_iff.1 hdigits
  refine le_trans (Nat.le_mul_of_pos_left _ ?_) hlow
  have : units (rank - 1) < units rank := units_strictMono (Nat.sub_lt h Nat.one_pos)
  omega

/-- A decimal that rounds to a finite magnitude is at most `2 ^ 1024`. -/
theorem DecimalRoundsTo.le_pow {rank digits : Nat} {exponent : Int} (h : rank < infinityRank)
    (hdigits : DecimalRoundsTo rank digits exponent) {k : Nat} (hk : k = 1024) :
    (decimalUnits digits exponent).1 ≤
      2 ^ k * unitsPerOne * (decimalUnits digits exponent).2 := by
  obtain ⟨⟨-, hhigh⟩, -⟩ := roundsTo_iff.1 hdigits
  have hsum : units rank + units (rank + 1) ≤ 2 * (2 ^ k * unitsPerOne) := by
    have h₁ := units_lt_units_succ rank
    have h₂ := units_succ_le h hk
    omega
  have := hhigh.trans (Nat.mul_le_mul_right _ hsum)
  rw [Nat.mul_assoc 2] at this
  omega

theorem two_pow_lt_ten_pow {k n : Nat} (hn : 0 < n) (h : k ≤ 3 * n) : 2 ^ k < 10 ^ n :=
  calc 2 ^ k ≤ 2 ^ (3 * n) := Nat.pow_le_pow_right (by decide) h
    _ = 8 ^ n := by rw [Nat.pow_mul]
    _ < 10 ^ n := Nat.pow_lt_pow_left (by decide) hn.ne'

theorem unitsPerOne_pos : 0 < unitsPerOne := by
  obtain ⟨k, hk⟩ : ∃ k, k = 1074 := ⟨_, rfl⟩
  rw [unitsPerOne_eq hk]
  exact Nat.two_pow_pos k

/-- It is not so large that reading stops early. -/
theorem DecimalRoundsTo.digitCount_le {rank digits : Nat} {exponent : Int}
    (h : rank < infinityRank) (hpos : 0 < digits)
    (hdigits : DecimalRoundsTo rank digits exponent) : digitCount digits + exponent ≤ 400 := by
  obtain ⟨k, hk⟩ : ∃ k, k = 1024 := ⟨_, rfl⟩
  have hmost := hdigits.le_pow h hk
  have hpow := pow_digitCount_le hpos
  by_contra hlarge
  -- The digits are at least `10 ^ n` times the power of ten that they are divided by.
  suffices hn : ∃ n, 400 ≤ n ∧ 10 ^ n ≤ 2 ^ k by
    obtain ⟨n, hn, hle⟩ := hn
    exact absurd hle (Nat.not_le_of_lt (two_pow_lt_ten_pow (by omega) (by omega)))
  cases exponent with
  | ofNat n =>
    rw [Int.ofNat_eq_natCast] at *
    refine ⟨digitCount digits - 1 + n, by omega, ?_⟩
    rw [decimalUnits_of_nonneg, Nat.mul_one] at hmost
    have hvalue := Nat.le_of_mul_le_mul_right hmost unitsPerOne_pos
    rw [Nat.pow_add]
    exact (Nat.mul_le_mul_right _ hpow).trans hvalue
  | negSucc n =>
    rw [Int.negSucc_eq, ← Int.natCast_one, ← Int.natCast_add] at *
    rw [decimalUnits_of_neg, Nat.mul_right_comm] at hmost
    have hvalue := Nat.le_of_mul_le_mul_right hmost unitsPerOne_pos
    refine ⟨digitCount digits - 1 - (n + 1), by omega, ?_⟩
    have hsplit : digitCount digits - 1 = digitCount digits - 1 - (n + 1) + (n + 1) := by omega
    rw [hsplit, Nat.pow_add] at hpow
    exact Nat.le_of_mul_le_mul_right (hpow.trans hvalue) (Nat.pow_pos (by decide))

/-- It is not so small that reading stops early. -/
theorem DecimalRoundsTo.le_digitCount {rank digits : Nat} {exponent : Int} (h : 0 < rank)
    (hdigits : DecimalRoundsTo rank digits exponent) : -400 ≤ digitCount digits + exponent := by
  obtain ⟨k, hk⟩ : ∃ k, k = 1074 := ⟨_, rfl⟩
  have hhalf := hdigits.half_le h
  have hpow := lt_pow_digitCount digits
  by_contra hsmall
  cases exponent with
  | ofNat n =>
    rw [Int.ofNat_eq_natCast] at hsmall
    omega
  | negSucc n =>
    rw [Int.negSucc_eq, ← Int.natCast_one, ← Int.natCast_add] at *
    have hsplit : n + 1 = n + 1 - digitCount digits + digitCount digits := by omega
    rw [decimalUnits_of_neg, unitsPerOne_eq hk, hsplit, Nat.pow_add] at hhalf
    have hless : 2 * (digits * 2 ^ k) < 2 ^ (k + 1) * 10 ^ digitCount digits := by
      have := Nat.mul_lt_mul_of_pos_right hpow (Nat.two_pow_pos (k + 1))
      rw [Nat.pow_succ] at *
      linarith
    have := Nat.lt_of_mul_lt_mul_right (hhalf.trans_lt hless)
    exact absurd this (Nat.not_lt_of_lt (two_pow_lt_ten_pow (by omega) (by omega)))

theorem DecimalRoundsTo.digits_pos {rank digits : Nat} {exponent : Int} (h : 0 < rank)
    (hdigits : DecimalRoundsTo rank digits exponent) : 0 < digits := by
  refine Nat.pos_of_ne_zero fun hzero => ?_
  have hhalf := hdigits.half_le h
  have hden := decimalUnits_snd_pos digits exponent
  rw [decimalUnits_eq_mul digits, hzero, Nat.zero_mul] at hhalf
  rw [decimalUnits_eq_mul digits] at hden
  omega

/-- A decimal that rounds to a magnitude is read as that magnitude. -/
theorem ofDecimal_of_decimalRoundsTo {rank digits : Nat} {exponent : Int} (negative : Bool)
    (h : 0 < rank) (hfinite : rank < infinityRank) (hdigits : DecimalRoundsTo rank digits exponent) :
    ofDecimal negative digits exponent = ofRank negative rank := by
  have hrank := nearestRank_of_roundsTo h (decimalUnits_snd_pos digits exponent) hdigits
  have hpos := hdigits.digits_pos h
  have hlarge := hdigits.digitCount_le hfinite hpos
  have hsmall := hdigits.le_digitCount h
  rw [ofDecimal, if_neg hpos.ne', if_neg (by omega), if_neg (by omega)]
  rw [decimalUnits] at hrank
  split
  · rename_i hnonneg
    rw [if_pos hnonneg] at hrank
    rw [ofRatio, hrank]
  · rename_i hneg
    rw [if_neg hneg] at hrank
    rw [ofRatio, hrank]

/-! ### Long numbers -/

theorem digitCount_pow (k : Nat) : digitCount (10 ^ k) = k + 1 := by
  have hbase : 1 < 10 := by decide
  have hlt : k < digitCount (10 ^ k) :=
    (Nat.pow_lt_pow_iff_right hbase).1 (lt_pow_digitCount (10 ^ k))
  have hle : digitCount (10 ^ k) - 1 ≤ k :=
    (Nat.pow_le_pow_iff_right hbase).1 (pow_digitCount_le (Nat.pow_pos (by decide)))
  omega

theorem digitCount_natAbs_pow (k : Nat) : digitCount ((10 : Int) ^ k).natAbs = k + 1 := by
  rw [Int.natAbs_pow]
  exact digitCount_pow k

end LlmAudit.Binary64

namespace LlmAudit

theorem not_isWritable_pow {k : Nat} (h : digitLimit ≤ k) :
    isWritable ((10 : Int) ^ k) = false := by
  rw [isWritable, Binary64.digitCount_natAbs_pow, decide_eq_false_iff_not, Nat.not_le]
  exact Nat.lt_succ_of_le h

theorem isWritable_of_natAbs_le {m n : Int} (h : m.natAbs ≤ n.natAbs) (hn : isWritable n = true) :
    isWritable m = true := by
  rw [isWritable, decide_eq_true_iff] at hn ⊢
  refine Nat.le_trans ?_ hn
  rcases Nat.eq_zero_or_pos m.natAbs with h0 | hpos
  · rw [h0]
    exact Nat.length_toDigits_pos
  · have hpow := Nat.lt_of_le_of_lt (Nat.le_trans (Binary64.pow_digitCount_le hpos) h)
      (Binary64.lt_pow_digitCount n.natAbs)
    have hless := (Nat.pow_lt_pow_iff_right (by decide)).1 hpow
    omega

end LlmAudit
