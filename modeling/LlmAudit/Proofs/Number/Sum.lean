import LlmAudit.Proofs.Number.Rounding

/-!
# Sums that do not fall below a summand

A fraction that is not below a magnitude does not round below it (`le_nearestRank`). So a sum of two
numbers that are not below zero, though it is rounded, is not below the first of them
(`add_not_lt`).
-/

namespace LlmAudit

theorem div_le_roundQuotient (n d : Nat) : n / d ≤ roundQuotient n d := by
  rw [roundQuotient]
  split_ifs
  · exact le_rfl
  · exact Nat.le_add_right _ _
  · exact Nat.le_succ _

namespace Binary64

/-- A fraction that is not below a magnitude does not round below it. -/
theorem le_nearestRank {rank n d : Nat} (hd : 0 < d) (h : units rank * d ≤ n) :
    rank ≤ nearestRank n d := by
  obtain ⟨shift, q, rfl, hq, hs⟩ := exists_eq_mul_add rank
  rw [units_mul_add hq.le hs, ← Nat.le_div_iff_mul_le hd] at h
  have hquotient : n / d / 2 ^ ((n / d).log2 - 52) ≤
      roundQuotient n (d * 2 ^ ((n / d).log2 - 52)) := by
    rw [Nat.div_div_eq_div_mul]
    exact div_le_roundQuotient _ _
  rw [nearestRank, Nat.pow_eq]
  generalize n / d = v at h hquotient ⊢
  -- the fraction lies in the binade of the rank, or in a higher one
  rcases Nat.lt_trichotomy shift (v.log2 - 52) with hlt | heq | hgt
  · have hv : v ≠ 0 := by
      rintro rfl
      exact absurd hlt (by simp)
    have hbinade : binade ≤ v / 2 ^ (v.log2 - 52) := by
      rw [Nat.le_div_iff_mul_le (Nat.two_pow_pos _), binade_eq_pow, ← Nat.pow_add]
      exact (Nat.le_log2 hv).1 (by omega)
    have hshift : (shift + 1) * binade ≤ (v.log2 - 52) * binade :=
      Nat.mul_le_mul_right binade hlt
    rw [Nat.add_mul] at hshift
    omega
  · have hle : q ≤ v / 2 ^ (v.log2 - 52) := by
      rwa [Nat.le_div_iff_mul_le (Nat.two_pow_pos _), ← heq]
    rw [← heq] at hquotient hle ⊢
    omega
  · have hpos : shift ≠ 0 := Nat.ne_of_gt (Nat.zero_lt_of_lt hgt)
    have hpow : 2 ^ (52 + shift) ≤ v := by
      rw [Nat.pow_add, ← binade_eq_pow]
      exact (Nat.mul_le_mul_right _ (hs.resolve_left hpos)).trans h
    have hv : v ≠ 0 := Nat.ne_of_gt (Nat.lt_of_lt_of_le (Nat.two_pow_pos _) hpow)
    have hlog := (Nat.le_log2 hv).2 hpow
    omega

theorem place_ofRank (s : Bool) (rank : Nat) :
    (ofRank s rank).place =
      some (if s then -((min rank infinityRank : Nat) : Int) else (min rank infinityRank : Nat)) :=
  rfl

/-- Of the numbers that are not below zero only zero has a negative sign. -/
theorem exists_number_of_zero_le {x : Binary64} (h : zero.le x = true) :
    ∃ s r, x = .number s r ∧ (s = true → r.val = 0) := by
  have hzero : zero.place = some 0 := by rw [zero, place_ofRank, Nat.zero_min]; rfl
  cases x with
  | nan =>
    rw [le, hzero] at h
    cases h
  | number s r =>
    refine ⟨s, r, rfl, ?_⟩
    rintro rfl
    rw [le, hzero] at h
    have hle : (0 : Int) ≤ -(r.val : Int) := of_decide_eq_true h
    omega

/-- The units of a number that is not below zero. -/
theorem units?_of_sign {s : Bool} {r : Fin (infinityRank + 1)} (h : s = true → r.val = 0) :
    (number s r).units? = if r.val < infinityRank then some (units r.val : Int) else none := by
  cases s with
  | false => rfl
  | true =>
    have hzero : units r.val = 0 := by rw [h rfl]; rfl
    rw [units?, hzero]
    rfl

theorem place_of_sign {s : Bool} {r : Fin (infinityRank + 1)} (h : s = true → r.val = 0) :
    (number s r).place = some (r.val : Int) := by
  cases s with
  | false => rfl
  | true => rw [place, h rfl]; rfl

theorem nearestRank_zero : nearestRank 0 1 = 0 := rfl

/-- Infinity is not negative if it is not below zero. -/
theorem sign_of_infinite {s : Bool} {r : Fin (infinityRank + 1)} (h : s = true → r.val = 0)
    (hr : ¬ r.val < infinityRank) : s = false := by
  rw [Bool.eq_false_iff]
  intro hs
  rw [h hs] at hr
  exact hr (by decide)

/-- A sum of numbers that are not below zero is not below the first of them. -/
theorem add_not_lt {x y : Binary64} (hx : zero.le x = true) (hy : zero.le y = true) :
    (x.add y).lt x = false := by
  obtain ⟨s, r, rfl, hs⟩ := exists_number_of_zero_le hx
  obtain ⟨t, k, rfl, ht⟩ := exists_number_of_zero_le hy
  rw [add, units?_of_sign hs, units?_of_sign ht]
  by_cases hr : r.val < infinityRank
  · by_cases hk : k.val < infinityRank
    · have hle : r.val ≤ nearestRank ((units r.val : Int) + units k.val).natAbs 1 :=
        le_nearestRank Nat.one_pos (by omega)
      rw [if_pos hr, if_pos hk]
      dsimp only
      rw [lt, place_ofRank, place_of_sign hs]
      refine decide_eq_false ?_
      by_cases hsum : (units r.val : Int) + units k.val = 0
      · rw [hsum, Int.natAbs_zero, nearestRank_zero] at hle ⊢
        rw [Nat.zero_min]
        split <;> omega
      · rw [if_neg hsum, decide_eq_false (by omega), if_neg Bool.false_ne_true]
        exact not_lt_of_ge (Int.ofNat_le.2 (le_min hle hr.le))
    · rw [if_pos hr, if_neg hk]
      dsimp only
      rw [lt, place_of_sign hs, place_of_sign ht]
      exact decide_eq_false (by omega)
  · have hsame : (number s r).lt (number s r) = false := by
      rw [lt, place_of_sign hs]
      exact decide_eq_false (lt_irrefl _)
    by_cases hk : k.val < infinityRank
    · rw [if_neg hr, if_pos hk]
      exact hsame
    · have hsign : s = t := (sign_of_infinite hs hr).trans (sign_of_infinite ht hk).symm
      rw [if_neg hr, if_neg hk]
      dsimp only
      rw [if_pos hsign]
      exact hsame

end Binary64

end LlmAudit
