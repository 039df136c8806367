import Mathlib.Data.List.Nodup

/-!
# First elements

The first element of a list that has a property (`IsFirst`), and the first element for each key
(`firstBy`): what is left is a sublist (`firstBy_sublist`) whose keys differ (`nodup_map_firstBy`),
and its elements are the first ones of their keys (`mem_firstBy_iff`). Keys do not touch each other,
so leaving out all elements of some keys before or after the choice is the same (`firstBy_filter`).
-/

namespace LlmAudit

/-! ### First elements -/

/-- The first element of a list that has a property. -/
structure IsFirst {α : Type} (p : α → Prop) (l : List α) (a : α) : Prop where
  /-- It has the property. -/
  holds : p a
  /-- It is in the list, and no element before it has the property. -/
  split : ∃ before after, l = before ++ a :: after ∧ ∀ b ∈ before, ¬ p b

namespace IsFirst

variable {α β : Type} {p : α → Prop} {l : List α} {a b : α}

theorem mem (h : IsFirst p l a) : a ∈ l := by
  obtain ⟨before, after, rfl, -⟩ := h.split
  exact List.mem_append_right _ List.mem_cons_self

theorem not_nil : ¬ IsFirst p [] a := fun h => List.not_mem_nil h.mem

theorem cons_iff : IsFirst p (b :: l) a ↔ p b ∧ a = b ∨ ¬ p b ∧ IsFirst p l a := by
  constructor
  · rintro ⟨ha, before, after, hsplit, hbefore⟩
    cases before with
    | nil =>
      obtain ⟨rfl, rfl⟩ := List.cons.inj hsplit
      exact Or.inl ⟨ha, rfl⟩
    | cons c before =>
      obtain ⟨rfl, rfl⟩ := List.cons.inj hsplit
      rw [List.forall_mem_cons] at hbefore
      exact Or.inr ⟨hbefore.1, ha, before, after, rfl, hbefore.2⟩
  · rintro (⟨hb, rfl⟩ | ⟨hb, ha, before, after, rfl, hbefore⟩)
    · exact ⟨hb, [], l, rfl, by simp⟩
    · exact ⟨ha, b :: before, after, rfl, List.forall_mem_cons.2 ⟨hb, hbefore⟩⟩

theorem unique (ha : IsFirst p l a) (hb : IsFirst p l b) : a = b := by
  induction l with
  | nil => exact absurd ha not_nil
  | cons c l ih =>
    rcases cons_iff.1 ha with ⟨hc, rfl⟩ | ⟨hc, ha⟩
    · rcases cons_iff.1 hb with ⟨-, rfl⟩ | ⟨hc', -⟩
      · rfl
      · exact absurd hc hc'
    · rcases cons_iff.1 hb with ⟨hc', -⟩ | ⟨-, hb⟩
      · exact absurd hc' hc
      · exact ih ha hb

/-- What is added behind does not matter. -/
theorem append_right (h : IsFirst p l a) (r : List α) : IsFirst p (l ++ r) a := by
  obtain ⟨hp, before, after, rfl, hbefore⟩ := h
  exact ⟨hp, before, after ++ r, by rw [List.append_assoc, List.cons_append], hbefore⟩

theorem exists_of_mem (ha : a ∈ l) (hp : p a) : ∃ b, IsFirst p l b := by
  induction l with
  | nil => exact absurd ha List.not_mem_nil
  | cons c l ih =>
    by_cases hc : p c
    · exact ⟨c, cons_iff.2 (Or.inl ⟨hc, rfl⟩)⟩
    · rcases List.mem_cons.1 ha with rfl | ha
      · exact absurd hp hc
      · obtain ⟨b, hb⟩ := ih ha
        exact ⟨b, cons_iff.2 (Or.inr ⟨hc, hb⟩)⟩

/-- The first of the images with a property is the image of the first element whose image has it. -/
theorem filterMap_iff {g : α → Option β} {q : β → Prop} {y : β} :
    IsFirst q (l.filterMap g) y ↔
      ∃ a, g a = some y ∧ IsFirst (fun a => ∃ z, g a = some z ∧ q z) l a := by
  constructor
  · rintro ⟨hy, before, after, hsplit, hbefore⟩
    obtain ⟨l₁, l₂, rfl, rfl, hrest⟩ := List.filterMap_eq_append_iff.1 hsplit
    obtain ⟨l₃, a, l₄, rfl, hnone, ha, -⟩ := List.filterMap_eq_cons_iff.1 hrest
    refine ⟨a, ha, ⟨y, ha, hy⟩, l₁ ++ l₃, l₄, (List.append_assoc ..).symm, ?_⟩
    rintro b hb ⟨z, hz, hq⟩
    rcases List.mem_append.1 hb with hb | hb
    · exact hbefore z (List.mem_filterMap.2 ⟨b, hb, hz⟩) hq
    · rw [hnone b hb] at hz
      cases hz
  · rintro ⟨a, ha, ⟨z, hz, hq⟩, before, after, rfl, hbefore⟩
    obtain rfl := Option.some.inj (ha.symm.trans hz)
    refine ⟨hq, before.filterMap g, after.filterMap g, ?_, ?_⟩
    · rw [List.filterMap_append, List.filterMap_cons_some ha]
    · intro w hw hqw
      obtain ⟨b, hb, hgb⟩ := List.mem_filterMap.1 hw
      exact hbefore b hb ⟨w, hgb, hqw⟩

end IsFirst

/-! ### The first element of each key -/

section

variable {α κ : Type} [DecidableEq κ] {key : α → κ} {seen seen' : List κ} {a : α} {l : List α}

/-- The elements whose key is not among the seen ones, the first of each. -/
def firstBy (key : α → κ) (seen : List κ) : List α → List α
  | [] => []
  | a :: rest =>
    if key a ∈ seen then firstBy key seen rest else a :: firstBy key (key a :: seen) rest

theorem firstBy_cons_of_mem (h : key a ∈ seen) : firstBy key seen (a :: l) = firstBy key seen l := by
  rw [firstBy, if_pos h]

theorem firstBy_cons_of_notMem (h : key a ∉ seen) :
    firstBy key seen (a :: l) = a :: firstBy key (key a :: seen) l := by
  rw [firstBy, if_neg h]

/-- What is left are some of the elements, in their order. -/
theorem firstBy_sublist (key : α → κ) (seen : List κ) (l : List α) :
    (firstBy key seen l).Sublist l := by
  induction l generalizing seen with
  | nil => exact List.Sublist.refl []
  | cons a l ih =>
    by_cases h : key a ∈ seen
    · rw [firstBy_cons_of_mem h]
      exact (ih seen).cons a
    · rw [firstBy_cons_of_notMem h]
      exact (ih _).cons_cons a

/-- What is left are the first ones of the keys that have not been seen. -/
theorem mem_firstBy_iff :
    a ∈ firstBy key seen l ↔ key a ∉ seen ∧ IsFirst (fun b => key b = key a) l a := by
  induction l generalizing seen with
  | nil => simp [firstBy, IsFirst.not_nil]
  | cons b l ih =>
    by_cases hb : key b ∈ seen
    · rw [firstBy_cons_of_mem hb, ih]
      refine and_congr_right fun ha => ?_
      have hne : key b ≠ key a := fun heq => ha (heq ▸ hb)
      rw [IsFirst.cons_iff, or_iff_right fun h => hne h.1, and_iff_right hne]
    · rw [firstBy_cons_of_notMem hb, List.mem_cons, ih, IsFirst.cons_iff, List.mem_cons, not_or]
      constructor
      · rintro (rfl | ⟨⟨hne, ha⟩, hfirst⟩)
        · exact ⟨hb, Or.inl ⟨rfl, rfl⟩⟩
        · exact ⟨ha, Or.inr ⟨Ne.symm hne, hfirst⟩⟩
      · rintro ⟨ha, ⟨-, rfl⟩ | ⟨hne, hfirst⟩⟩
        · exact Or.inl rfl
        · exact Or.inr ⟨⟨Ne.symm hne, ha⟩, hfirst⟩

/-- The keys of what is left differ. -/
theorem nodup_map_firstBy (key : α → κ) (seen : List κ) (l : List α) :
    ((firstBy key seen l).map key).Nodup := by
  induction l generalizing seen with
  | nil => exact List.nodup_nil
  | cons a l ih =>
    by_cases h : key a ∈ seen
    · rw [firstBy_cons_of_mem h]
      exact ih seen
    · rw [firstBy_cons_of_notMem h, List.map_cons, List.nodup_cons]
      refine ⟨fun hmem => ?_, ih _⟩
      obtain ⟨b, hb, hkey⟩ := List.mem_map.1 hmem
      exact (mem_firstBy_iff.1 hb).1 (hkey ▸ List.mem_cons_self)

/-- No key is lost. -/
theorem mem_map_firstBy_iff {k : κ} : k ∈ (firstBy key [] l).map key ↔ k ∈ l.map key := by
  constructor
  · intro h
    exact ((firstBy_sublist key [] l).map key).subset h
  · intro h
    obtain ⟨a, ha, rfl⟩ := List.mem_map.1 h
    obtain ⟨b, hb⟩ := IsFirst.exists_of_mem (p := fun b => key b = key a) ha rfl
    have hkey : key b = key a := hb.holds
    exact List.mem_map.2 ⟨b, mem_firstBy_iff.2 ⟨List.not_mem_nil, hkey ▸ hb⟩, hkey⟩

/-- Keys that are left out need not have been seen. -/
theorem firstBy_filter {p : α → Bool} (hp : ∀ a b, key a = key b → p a = p b)
    (hseen : ∀ a, p a = true → (key a ∈ seen' ↔ key a ∈ seen)) (l : List α) :
    firstBy key seen' (l.filter p) = (firstBy key seen l).filter p := by
  induction l generalizing seen seen' with
  | nil => rfl
  | cons a l ih =>
    by_cases ha : p a = true
    · rw [List.filter_cons_of_pos ha]
      by_cases hmem : key a ∈ seen
      · rw [firstBy_cons_of_mem hmem, firstBy_cons_of_mem ((hseen a ha).2 hmem), ih hseen]
      · have hboth : ∀ b, p b = true → (key b ∈ key a :: seen' ↔ key b ∈ key a :: seen) := by
          intro b hb
          rw [List.mem_cons, List.mem_cons, hseen b hb]
        rw [firstBy_cons_of_notMem hmem, firstBy_cons_of_notMem (mt (hseen a ha).1 hmem),
          List.filter_cons_of_pos ha, ih hboth]
    · rw [List.filter_cons_of_neg ha]
      by_cases hmem : key a ∈ seen
      · rw [firstBy_cons_of_mem hmem, ih hseen]
      · have hmore : ∀ b, p b = true → (key b ∈ seen' ↔ key b ∈ key a :: seen) := by
          intro b hb
          have hne : key b ≠ key a := fun heq => ha (hp b a heq ▸ hb)
          rw [List.mem_cons, or_iff_right hne, hseen b hb]
        rw [firstBy_cons_of_notMem hmem, List.filter_cons_of_neg ha, ih hmore]

end

end LlmAudit
