import LlmAudit.Proofs.Finding.Sorting
import LlmAudit.Proofs.Report.Grouping

/-!
# The findings shown first

The subject are the "top findings by confidence" of Section 16 (Reporting) of the specification.

A summary shows some of the issues, the most confident ones. That these are the right ones is said
without a sort: together with what is left out they are the issues, nothing left out is more
confident than something shown, and of equally confident issues those shown are the first ones, in
their order (`Leads`). The sort gives this because it is stable and because its order is that of the
confidences, which are never undefined (`Confidence.lt_iff`).
-/

namespace LlmAudit

/-! ### The choice -/

/-- A finding is as sure as a confidence. -/
def Finding.asSure (c : Confidence) (f : Finding) : Bool :=
  f.confidence.value.le c.value && c.value.le f.confidence.value

/-- Of some issues, those shown are the most confident ones, and the others are left out. -/
structure Leads (issues shown left : List Finding) : Prop where
  /-- Every issue is shown or left out, as often as it is there. -/
  perm : (shown ++ left).Perm issues
  /-- The most confident ones come first. -/
  ordered : shown.Pairwise fun f g => g.confidence.value.le f.confidence.value = true
  /-- What is left out is not more confident than what is shown. -/
  above : ∀ f ∈ shown, ∀ g ∈ left, g.confidence.value.le f.confidence.value = true
  /-- Of equally confident issues the first ones are shown, in their order. -/
  stable : ∀ c, issues.filter (·.asSure c) = shown.filter (·.asSure c) ++ left.filter (·.asSure c)

/-- The order in which findings are shown. -/
def surerFirst (f g : Finding) : Bool :=
  !f.confidence.value.lt g.confidence.value

theorem surerFirst_iff {f g : Finding} :
    surerFirst f g = true ↔ g.confidence.place ≤ f.confidence.place := by
  rw [surerFirst, Bool.not_eq_true', ← Bool.not_eq_true, Confidence.lt_iff, Int.not_lt]

theorem surerFirst_trans (f g h : Finding) (hfg : surerFirst f g = true)
    (hgh : surerFirst g h = true) : surerFirst f h = true :=
  surerFirst_iff.2 (Int.le_trans (surerFirst_iff.1 hgh) (surerFirst_iff.1 hfg))

theorem surerFirst_total (f g : Finding) : (surerFirst f g || surerFirst g f) = true := by
  rw [Bool.or_eq_true, surerFirst_iff, surerFirst_iff]
  exact Int.le_total _ _

theorem asSure_iff {c : Confidence} {f : Finding} :
    f.asSure c = true ↔ f.confidence.place = c.place := by
  rw [Finding.asSure, Bool.and_eq_true, Confidence.le_iff, Confidence.le_iff]
  exact Int.le_antisymm_iff.symm

/-- The first elements of a list that is sorted by confidence lead. -/
theorem leads_take_mergeSort (issues : List Finding) (n : Nat) :
    Leads issues ((issues.mergeSort surerFirst).take n) ((issues.mergeSort surerFirst).drop n) := by
  have hsorted := List.pairwise_mergeSort surerFirst_trans surerFirst_total issues
  have hle : (issues.mergeSort surerFirst).Pairwise fun f g =>
      g.confidence.value.le f.confidence.value = true :=
    hsorted.imp fun h => Confidence.le_iff.2 (surerFirst_iff.1 h)
  rw [← List.take_append_drop n (issues.mergeSort surerFirst), List.pairwise_append] at hle
  refine ⟨?_, hle.1, hle.2.2, fun c => ?_⟩
  · rw [List.take_append_drop]
    exact List.mergeSort_perm issues surerFirst
  · rw [← List.filter_append, List.take_append_drop]
    refine (filter_mergeSort surerFirst_trans surerFirst_total ?_ issues).symm
    intro f g hf hg
    exact surerFirst_iff.2 (Int.le_of_eq ((asSure_iff.1 hg).trans (asSure_iff.1 hf).symm))

theorem Leads.length_lt_iff {issues shown left : List Finding} (h : Leads issues shown left) :
    shown.length < issues.length ↔ ∃ f, shown.count f < issues.count f := by
  have hcount : ∀ f, issues.count f = shown.count f + left.count f := fun f => by
    rw [← h.perm.count_eq, List.count_append]
  rw [← h.perm.length_eq, List.length_append]
  constructor
  · intro hless
    obtain ⟨f, hf⟩ := List.exists_mem_of_length_pos (show 0 < left.length by omega)
    have hpos := List.count_pos_iff.2 hf
    exact ⟨f, by rw [hcount]; omega⟩
  · rintro ⟨f, hf⟩
    rw [hcount] at hf
    have hpos := List.length_pos_of_mem (List.count_pos_iff.1 (show 0 < left.count f by omega))
    omega

theorem filter_isInformational_eq (findings : List Finding) :
    (findings.filter fun f => !f.isInformational) = findings.filter fun f => ¬ f.InInventory := by
  simp only [Finding.isInformational_eq, decide_not]

theorem topFindings_eq (findings : List Finding) (limit : Int) :
    topFindings findings limit =
      ((findings.filter fun f => ¬ f.InInventory).mergeSort surerFirst).take limit.toNat := by
  rw [← filter_isInformational_eq]
  rfl

theorem length_topFindings (findings : List Finding) (limit : Int) :
    ((topFindings findings limit).length : Int) =
      min (max limit 0) (findings.filter fun f => ¬ f.InInventory).length := by
  rw [topFindings_eq, List.length_take, List.length_mergeSort]
  omega

end LlmAudit
