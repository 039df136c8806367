import LlmAudit.Proofs.Suppression.Basic

/-!
# Sorting keeps what is alike in order

Findings and known findings are sorted by a part of what they hold, so different ones can be alike
for the sort. The sort is stable: it does not move elements that are alike
(`filter_mergeSort`). A sorted list is known by the order in each of its classes of alike elements
(`eq_of_pairwise_of_filter_eq`), and so leaving out elements before a sort is the same as leaving
them out after it (`mergeSort_filter`).
-/

namespace LlmAudit

/-- Neither of two elements comes before the other. -/
def alike {α : Type} (le : α → α → Bool) (a b : α) : Bool :=
  le a b && le b a

section

variable {α : Type} {le : α → α → Bool} {p : α → Bool}
  (htrans : ∀ a b c, le a b = true → le b c = true → le a c = true)
  (htotal : ∀ a b, (le a b || le b a) = true)

include htrans htotal

/-- A stable sort does not move elements that are in order with each other. -/
theorem filter_mergeSort (halike : ∀ a b, p a = true → p b = true → le a b = true) (l : List α) :
    (l.mergeSort le).filter p = l.filter p := by
  have hpairwise : (l.filter p).Pairwise fun a b => le a b = true :=
    List.pairwise_of_forall_mem_list fun a ha b hb =>
      halike a b (List.mem_filter.1 ha).2 (List.mem_filter.1 hb).2
  have hkept : (l.filter p).Sublist (l.mergeSort le) :=
    List.sublist_mergeSort htrans htotal hpairwise List.filter_sublist
  have hfiltered : (l.filter p).Sublist ((l.mergeSort le).filter p) := by
    simpa using hkept.filter p
  have hlength := ((List.mergeSort_perm l le).filter p).length_eq
  exact (hfiltered.eq_of_length hlength.symm).symm

omit htrans in
theorem alike_self (a : α) : alike le a a = true := by
  simpa [alike] using htotal a a

omit htrans in
/-- What is in a list is in every list with the same classes. -/
theorem mem_of_filter_alike_eq {l l' : List α}
    (hclass : ∀ a, l.filter (alike le a) = l'.filter (alike le a)) {a : α} (ha : a ∈ l) :
    a ∈ l' := by
  have hown : a ∈ l.filter (alike le a) := List.mem_filter.2 ⟨ha, alike_self htotal a⟩
  rw [hclass a] at hown
  exact List.mem_of_mem_filter hown

omit htrans in
/-- Two sorted lists are equal if each class of alike elements has the same order in both. -/
theorem eq_of_pairwise_of_filter_eq {l l' : List α} (hl : l.Pairwise fun a b => le a b = true)
    (hl' : l'.Pairwise fun a b => le a b = true)
    (hclass : ∀ a, l.filter (alike le a) = l'.filter (alike le a)) : l = l' := by
  have hrefl : ∀ a, le a a = true := fun a => (Bool.and_eq_true_iff.1 (alike_self htotal a)).1
  induction l generalizing l' with
  | nil =>
    cases l' with
    | nil => rfl
    | cons b l' =>
      have hb := mem_of_filter_alike_eq htotal (fun c => (hclass c).symm) List.mem_cons_self
      exact absurd hb List.not_mem_nil
  | cons a l ih =>
    have ha := mem_of_filter_alike_eq htotal hclass List.mem_cons_self
    cases l' with
    | nil => exact absurd ha List.not_mem_nil
    | cons b l' =>
      have hb := mem_of_filter_alike_eq htotal (fun c => (hclass c).symm) List.mem_cons_self
      rw [List.pairwise_cons] at hl hl'
      -- both heads are least, so they are alike and lead the same class
      have hab : le a b = true := by
        rcases List.mem_cons.1 hb with rfl | hb
        · exact hrefl b
        · exact hl.1 b hb
      have hba : le b a = true := by
        rcases List.mem_cons.1 ha with rfl | ha
        · exact hrefl a
        · exact hl'.1 a ha
      have halike : alike le a b = true := Bool.and_eq_true_iff.2 ⟨hab, hba⟩
      have hhead := hclass a
      rw [List.filter_cons_of_pos (alike_self htotal a), List.filter_cons_of_pos halike,
        List.cons.injEq] at hhead
      obtain ⟨rfl, -⟩ := hhead
      congr 1
      refine ih hl.2 hl'.2 fun c => ?_
      have htail := hclass c
      by_cases hc : alike le c a = true
      · rw [List.filter_cons_of_pos hc, List.filter_cons_of_pos hc, List.cons.injEq] at htail
        exact htail.2
      · rwa [List.filter_cons_of_neg hc, List.filter_cons_of_neg hc] at htail

/-- Leaving out elements before a sort is the same as leaving them out after it. -/
theorem mergeSort_filter (p : α → Bool) (l : List α) :
    (l.filter p).mergeSort le = (l.mergeSort le).filter p := by
  have hsorted := List.pairwise_mergeSort htrans htotal
  refine eq_of_pairwise_of_filter_eq htotal (hsorted _) ((hsorted l).filter p) fun a => ?_
  have halike : ∀ b c, alike le a b = true → alike le a c = true → le b c = true := by
    intro b c hb hc
    exact htrans b a c (Bool.and_eq_true_iff.1 hb).2 (Bool.and_eq_true_iff.1 hc).1
  calc ((l.filter p).mergeSort le).filter (alike le a)
      = (l.filter p).filter (alike le a) := filter_mergeSort htrans htotal halike _
    _ = (l.filter (alike le a)).filter p := List.filter_comm ..
    _ = ((l.mergeSort le).filter (alike le a)).filter p := by
        rw [filter_mergeSort htrans htotal halike]
    _ = ((l.mergeSort le).filter p).filter (alike le a) := List.filter_comm ..

end

/-- Leaving out findings before they are sorted by place is the same as leaving them out after it.
-/
theorem Finding.sortByPlace_filter (p : Finding → Bool) (fs : List Finding) :
    sortByPlace (fs.filter p) = (sortByPlace fs).filter p :=
  mergeSort_filter placeLe_trans placeLe_total p fs

end LlmAudit
