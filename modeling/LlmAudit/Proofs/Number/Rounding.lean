import LlmAudit.Number.Decimal
import Mathlib.Tactic.Linarith
import Mathlib.Tactic.Ring

/-!
# Rounding to the nearest magnitude

`roundsTo` tells from the two midpoints beside a magnitude whether a fraction of units rounds to it;
`nearestRank` computes the rank that a fraction rounds to. The main result of this module is that
they agree (`nearestRank_of_roundsTo`). Every positive rank is written as `shift * binade + q`, with
`q` below two binades; its magnitude is then `q * 2 ^ shift` (`units_mul_add`).
-/

namespace LlmAudit

/-! ### Quotients -/

/-- The nearest quotient is known by its distance from the fraction; an odd quotient is strictly
nearer than half. -/
theorem roundQuotient_eq {n d q : Nat} (hlow : 2 * (q * d) ≤ 2 * n + d)
    (hhigh : 2 * n ≤ 2 * (q * d) + d)
    (hodd : q % 2 = 1 → 2 * (q * d) < 2 * n + d ∧ 2 * n < 2 * (q * d) + d) (hd : 0 < d) :
    roundQuotient n d = q := by
  have hn := Nat.div_add_mod' n d
  have hr := Nat.mod_lt n hd
  rw [roundQuotient]
  generalize n / d = m at hn ⊢
  generalize n % d = r at hn hr ⊢
  -- The quotient is the one below the fraction or the one above.
  have hqm : q = m ∨ q = m + 1 := by
    have h₁ : q < m + 2 := by
      by_contra h
      have := Nat.mul_le_mul_right d (Nat.le_of_not_lt h)
      rw [Nat.add_mul] at this
      omega
    have h₂ : m < q + 1 := by
      by_contra h
      have := Nat.mul_le_mul_right d (Nat.le_of_not_lt h)
      rw [Nat.add_mul] at this
      omega
    omega
  rcases hqm with rfl | rfl
  · split_ifs <;> omega
  · rw [Nat.add_mul, Nat.one_mul] at hlow hhigh hodd
    split_ifs <;> omega

namespace Binary64

/-! ### Magnitudes -/

theorem binade_eq : binade = 4503599627370496 := rfl

theorem binade_eq_pow : binade = 2 ^ 52 := rfl

/-- The magnitude of a rank inside of its binade. -/
theorem units_mul_add {shift q : Nat} (hq : q ≤ 2 * binade) (hs : shift = 0 ∨ binade ≤ q) :
    units (shift * binade + q) = q * 2 ^ shift := by
  rcases Nat.lt_or_ge q binade with hsmall | hlarge
  · obtain rfl : shift = 0 := hs.resolve_right (Nat.not_le_of_lt hsmall)
    simp [units, hsmall]
  · have hrank : ¬ shift * binade + q < binade := by omega
    rw [units, if_neg hrank, Nat.pow_eq]
    rcases Nat.lt_or_eq_of_le hq with hlt | rfl
    · have hdiv : (shift * binade + q) / binade = shift + 1 := by
        rw [binade_eq] at *
        omega
      have hmod : (shift * binade + q) % binade = q - binade := by
        rw [binade_eq] at *
        omega
      rw [hdiv, hmod, Nat.add_sub_cancel, Nat.add_sub_cancel' hlarge]
    · have hdiv : (shift * binade + 2 * binade) / binade = shift + 2 := by
        rw [binade_eq] at *
        omega
      have hmod : (shift * binade + 2 * binade) % binade = 0 := by
        rw [binade_eq] at *
        omega
      rw [hdiv, hmod, Nat.add_zero, show shift + 2 - 1 = shift + 1 from rfl, Nat.pow_succ]
      ring

/-- Every rank lies in a binade. -/
theorem exists_eq_mul_add (rank : Nat) :
    ∃ shift q, rank = shift * binade + q ∧ q < 2 * binade ∧ (shift = 0 ∨ binade ≤ q) := by
  rcases Nat.lt_or_ge rank (2 * binade) with h | h
  · exact ⟨0, rank, by simp, h, .inl rfl⟩
  · refine ⟨rank / binade - 1, rank % binade + binade, ?_, ?_, .inr (Nat.le_add_left ..)⟩
    · rw [binade_eq] at h ⊢
      omega
    · rw [binade_eq]
      omega

/-- The magnitude of a positive rank lies strictly between those of its neighbours. -/
theorem units_lt_units_succ (rank : Nat) : units rank < units (rank + 1) := by
  obtain ⟨shift, q, rfl, hq, hs⟩ := exists_eq_mul_add rank
  rw [Nat.add_assoc, units_mul_add (Nat.le_of_lt hq) hs,
    units_mul_add (Nat.succ_le_of_lt hq) (hs.imp_right fun h => Nat.le_succ_of_le h)]
  exact Nat.mul_lt_mul_of_pos_right (Nat.lt_succ_self q) (Nat.two_pow_pos shift)

theorem units_strictMono : StrictMono units := strictMono_nat_of_lt_succ units_lt_units_succ

/-! ### The nearest rank -/

/-- The shift of a fraction whose whole part lies in the binade above `2 ^ (52 + shift)`. -/
theorem log2_sub_eq {v shift : Nat} (hlow : shift = 0 ∨ 2 ^ (52 + shift) ≤ v)
    (hhigh : v < 2 ^ (53 + shift)) : v.log2 - 52 = shift := by
  rcases Nat.eq_zero_or_pos v with rfl | hv
  · rcases hlow with rfl | h
    · rfl
    · exact absurd h (Nat.not_le_of_lt (Nat.two_pow_pos _))
  · have hv0 : v ≠ 0 := Nat.ne_of_gt hv
    have hlt : v.log2 < 53 + shift := (Nat.log2_lt hv0).2 hhigh
    rcases hlow with rfl | h
    · omega
    · have hle : 52 + shift ≤ v.log2 := (Nat.le_log2 hv0).2 h
      omega

/-- The nearest rank of a fraction in a given binade. -/
theorem nearestRank_eq {n d shift : Nat} (hd : 0 < d)
    (hlow : shift = 0 ∨ binade * (d * 2 ^ shift) ≤ n)
    (hhigh : n < 2 * binade * (d * 2 ^ shift)) :
    nearestRank n d = shift * binade + roundQuotient n (d * 2 ^ shift) := by
  have hshift : (n / d).log2 - 52 = shift := by
    refine log2_sub_eq (hlow.imp_right fun h => ?_) ?_
    · rw [Nat.le_div_iff_mul_le hd, Nat.pow_add, ← binade_eq_pow]
      linarith
    · rw [Nat.div_lt_iff_lt_mul hd, show 53 + shift = 52 + shift + 1 by omega, Nat.pow_succ,
        Nat.pow_add, ← binade_eq_pow]
      linarith
  rw [nearestRank, hshift, Nat.pow_eq]

/-- A fraction rounds to a rank if it lies between the midpoints, strictly if the rank is odd. -/
theorem roundsTo_iff {rank n d : Nat} :
    roundsTo rank n d = true ↔
      ((units (rank - 1) + units rank) * d ≤ 2 * n ∧
        2 * n ≤ (units rank + units (rank + 1)) * d) ∧
      (rank % 2 = 1 → (units (rank - 1) + units rank) * d < 2 * n ∧
        2 * n < (units rank + units (rank + 1)) * d) := by
  rw [roundsTo]
  split
  · rename_i heven
    rw [decide_eq_true_iff]
    exact ⟨fun h => ⟨h, fun hodd => by omega⟩, And.left⟩
  · rename_i hodd
    rw [decide_eq_true_iff]
    exact ⟨fun h => ⟨⟨h.1.le, h.2.le⟩, fun _ => h⟩, fun h => h.2 (by omega)⟩

/-- A fraction within half a step of `q` steps rounds to `q` steps, on the steps of its binade. -/
theorem nearestRank_of_near {n d shift q : Nat} (hd : 0 < d) (hq : q < 2 * binade)
    (hbinade : shift = 0 ∨ binade * (d * 2 ^ shift) ≤ n)
    (hlow : 2 * (q * (d * 2 ^ shift)) ≤ 2 * n + d * 2 ^ shift)
    (hhigh : 2 * n ≤ 2 * (q * (d * 2 ^ shift)) + d * 2 ^ shift)
    (hodd : q % 2 = 1 → 2 * (q * (d * 2 ^ shift)) < 2 * n + d * 2 ^ shift ∧
      2 * n < 2 * (q * (d * 2 ^ shift)) + d * 2 ^ shift) :
    nearestRank n d = shift * binade + q := by
  have hstep : 0 < d * 2 ^ shift := Nat.mul_pos hd (Nat.two_pow_pos shift)
  have hbelow : n < 2 * binade * (d * 2 ^ shift) := by
    have := Nat.mul_le_mul_right (d * 2 ^ shift) (Nat.succ_le_of_lt hq)
    rw [Nat.succ_mul] at this
    omega
  rw [nearestRank_eq hd hbinade hbelow, roundQuotient_eq hlow hhigh hodd hstep]

/-- A fraction below the first magnitude of a binade, but not below the midpoint under it, rounds up
to that magnitude. -/
theorem nearestRank_of_below_binade {n d shift : Nat} (hd : 0 < d)
    (hlow : (4 * binade - 1) * (d * 2 ^ shift) ≤ 2 * n)
    (hhigh : n < 2 * binade * (d * 2 ^ shift)) :
    nearestRank n d = (shift + 2) * binade := by
  have hstep : 0 < d * 2 ^ shift := Nat.mul_pos hd (Nat.two_pow_pos shift)
  have hbinade : binade * (d * 2 ^ shift) ≤ n := by
    rw [binade_eq] at *
    omega
  rw [nearestRank_eq hd (.inr hbinade) hhigh, Nat.add_mul]
  congr 1
  refine roundQuotient_eq ?_ ?_ (fun hodd => ?_) hstep
  · rw [binade_eq] at *
    omega
  · omega
  · rw [binade_eq] at hodd
    omega

/-- A fraction that lies between the midpoints beside a magnitude rounds to it. -/
theorem nearestRank_of_roundsTo {rank n d : Nat} (hrank : 0 < rank) (hd : 0 < d)
    (h : roundsTo rank n d = true) : nearestRank n d = rank := by
  obtain ⟨⟨hlow, hhigh⟩, hodd⟩ := roundsTo_iff.1 h
  obtain ⟨shift, q, rfl, hq, hs⟩ := exists_eq_mul_add rank
  have hunits := units_mul_add hq.le hs
  have hnext : units (shift * binade + q + 1) = (q + 1) * 2 ^ shift := by
    rw [Nat.add_assoc]
    exact units_mul_add hq (hs.imp_right Nat.le_succ_of_le)
  have hparity : (shift * binade + q) % 2 = q % 2 := by
    rw [binade_eq]
    omega
  -- Measured in steps of the binade, the upper midpoint is half a step above.
  have hupper : (q * 2 ^ shift + (q + 1) * 2 ^ shift) * d =
      2 * (q * (d * 2 ^ shift)) + d * 2 ^ shift := by ring
  rw [hunits, hnext, hupper] at hhigh hodd
  rw [hunits] at hlow
  rw [hparity] at hodd
  -- The lower midpoint is half a step below, except under the first magnitude of a binade.
  by_cases hfirst : shift ≠ 0 ∧ q = binade
  · obtain ⟨hshift, rfl⟩ := hfirst
    obtain ⟨below, rfl⟩ := Nat.exists_eq_succ_of_ne_zero hshift
    have hprev : units (below.succ * binade + binade - 1) = (2 * binade - 1) * 2 ^ below := by
      have hpred : below.succ * binade + binade - 1 = below * binade + (2 * binade - 1) := by
        rw [binade_eq]
        omega
      rw [hpred]
      exact units_mul_add (by omega) (.inr (by rw [binade_eq]; omega))
    have hlower : ((2 * binade - 1) * 2 ^ below + binade * 2 ^ below.succ) * d =
        (4 * binade - 1) * (d * 2 ^ below) := by
      rw [binade_eq, Nat.pow_succ]
      ring
    rw [hprev, hlower] at hlow
    rcases Nat.lt_or_ge n (binade * (d * 2 ^ below.succ)) with hbelow | habove
    · have hbelow' : n < 2 * binade * (d * 2 ^ below) := by
        rw [Nat.pow_succ] at hbelow
        linarith
      rw [nearestRank_of_below_binade hd hlow hbelow', Nat.succ_mul]
    · refine nearestRank_of_near hd hq (.inr habove) ?_ hhigh (fun hb => ?_)
      · omega
      · exact absurd hb (by decide)
  · have hq1 : 1 ≤ q := by
      rcases hs with rfl | hb
      · omega
      · exact le_trans (by decide) hb
    obtain ⟨below, rfl⟩ := Nat.exists_eq_add_of_le' hq1
    have hs' : shift = 0 ∨ binade ≤ below := by
      rcases Nat.eq_zero_or_pos shift with h0 | h0
      · exact .inl h0
      · have hb := hs.resolve_left h0.ne'
        have hne : below + 1 ≠ binade := fun hb => hfirst ⟨h0.ne', hb⟩
        exact .inr (by omega)
    have hprev : units (shift * binade + (below + 1) - 1) = below * 2 ^ shift := by
      rw [← Nat.add_assoc, Nat.add_sub_cancel]
      exact units_mul_add (by omega) hs'
    have hlower : (below * 2 ^ shift + (below + 1) * 2 ^ shift) * d + d * 2 ^ shift =
        2 * ((below + 1) * (d * 2 ^ shift)) := by ring
    rw [hprev] at hlow hodd
    refine nearestRank_of_near hd hq (hs'.imp_right fun hb => ?_) ?_ hhigh fun hb => ?_
    · have := Nat.mul_le_mul_right (d * 2 ^ shift) hb
      have hsplit : (below + 1) * (d * 2 ^ shift) = below * (d * 2 ^ shift) + d * 2 ^ shift := by ring
      omega
    · omega
    · have := hodd hb
      omega

end Binary64

end LlmAudit
