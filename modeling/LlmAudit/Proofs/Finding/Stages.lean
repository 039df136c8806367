import LlmAudit.Proofs.Finding.Dedupe

/-!
# Joining in stages

The subject is the dedup invariant in Section 8 (Testable Properties) of the specification: of
findings with equal keys "only one survives deduplication, and it is the first encountered".

The joining of equal findings keeps exactly the places whose key stands at no earlier place
(`dedupe_eq_filterMap`). So findings that have been joined once may be joined again with others:
what an earlier stage leaves out, a later stage leaves out as well, as long as the later stage has
seen all keys that the earlier one had seen (`dedupeFrom_dedupeFrom_append`).

## Main statements

* `Finding.dedupe_exact` — what is kept, and that stages do not matter.
-/

namespace LlmAudit.Finding

variable {seen seen' : List Key} {f : Finding} {fs xs ys : List Finding}

/-! ### The places that are kept -/

/-- The finding at a place, if its key is not among the seen ones and stands at no earlier place. -/
def earliestAfter? (seen : List Key) (fs : List Finding) (i : Nat) : Option Finding :=
  fs[i]?.filter fun f => decide (f.key ∉ seen ∧ f.key ∉ (fs.take i).map key)

/-- The finding at a place, if its key stands at no earlier place. -/
def earliestAt? (fs : List Finding) (i : Nat) : Option Finding :=
  fs[i]?.filter fun f => decide (f.key ∉ (fs.take i).map key)

theorem earliestAfter?_nil (fs : List Finding) : earliestAfter? [] fs = earliestAt? fs := by
  funext i
  simp [earliestAfter?, earliestAt?]

/-- Past the first finding, its key counts as seen. -/
theorem earliestAfter?_cons_succ (seen : List Key) (f : Finding) (fs : List Finding) (i : Nat) :
    earliestAfter? seen (f :: fs) (i + 1) = earliestAfter? (f.key :: seen) fs i := by
  rw [earliestAfter?, earliestAfter?, List.getElem?_cons_succ, List.take_succ_cons, List.map_cons]
  congr 1
  funext g
  simp only [List.mem_cons, decide_eq_decide]
  tauto

theorem dedupeFrom_cons_self (h : f.key ∈ seen) (fs : List Finding) :
    dedupeFrom (f.key :: seen) fs = dedupeFrom seen fs := by
  have hseen : ∀ k, k ∈ f.key :: seen ↔ k ∈ seen := by
    intro k
    rw [List.mem_cons, or_iff_right_of_imp]
    rintro rfl
    exact h
  have hall := dedupeFrom_filter (p := fun _ => true) (fun _ _ _ => rfl) (fun g _ => hseen g.key) fs
  simpa using hall

/-- The findings whose keys have not been seen stand at the places whose key is new. -/
theorem dedupeFrom_eq_filterMap (seen : List Key) (fs : List Finding) :
    dedupeFrom seen fs = (List.range fs.length).filterMap (earliestAfter? seen fs) := by
  induction fs generalizing seen with
  | nil => rfl
  | cons f fs ih =>
    have hrest : (List.range fs.length).filterMap
        (fun i => earliestAfter? seen (f :: fs) (i + 1)) = dedupeFrom (f.key :: seen) fs := by
      rw [ih]
      exact List.filterMap_congr fun i _ => earliestAfter?_cons_succ seen f fs i
    rw [List.length_cons, List.range_succ_eq_map, List.filterMap_cons, List.filterMap_map]
    by_cases h : f.key ∈ seen
    · have hfirst : earliestAfter? seen (f :: fs) 0 = none := by simp [earliestAfter?, h]
      rw [dedupeFrom_cons_of_mem h, hfirst, ← dedupeFrom_cons_self h, ← hrest]
      rfl
    · have hfirst : earliestAfter? seen (f :: fs) 0 = some f := by simp [earliestAfter?, h]
      rw [dedupeFrom_cons_of_notMem h, hfirst, ← hrest]
      rfl

/-- What is kept are the findings at the places whose key stands at no earlier place, in order. -/
theorem dedupe_eq_filterMap (fs : List Finding) :
    dedupe fs = (List.range fs.length).filterMap (earliestAt? fs) := by
  rw [dedupe, dedupeFrom_eq_filterMap, earliestAfter?_nil]

/-! ### Stages -/

/-- Findings that were joined before need not have been, if no key had been seen then that has not
been seen now. -/
theorem dedupeFrom_dedupeFrom_append (h : seen' ⊆ seen) (xs ys : List Finding) :
    dedupeFrom seen (dedupeFrom seen' xs ++ ys) = dedupeFrom seen (xs ++ ys) := by
  induction xs generalizing seen seen' with
  | nil => rfl
  | cons x xs ih =>
    by_cases hearlier : x.key ∈ seen'
    · rw [dedupeFrom_cons_of_mem hearlier, List.cons_append, dedupeFrom_cons_of_mem (h hearlier),
        ih h]
    · rw [dedupeFrom_cons_of_notMem hearlier, List.cons_append, List.cons_append]
      by_cases hseen : x.key ∈ seen
      · rw [dedupeFrom_cons_of_mem hseen, dedupeFrom_cons_of_mem hseen,
          ih (List.cons_subset.2 ⟨hseen, h⟩)]
      · rw [dedupeFrom_cons_of_notMem hseen, dedupeFrom_cons_of_notMem hseen,
          ih (List.cons_subset_cons _ h)]

/-- Joining the first findings before the others come changes nothing. -/
theorem dedupe_dedupe_append (xs ys : List Finding) :
    dedupe (dedupe xs ++ ys) = dedupe (xs ++ ys) :=
  dedupeFrom_dedupeFrom_append (List.Subset.refl []) xs ys

/-- Joining the last findings before they come to the others changes nothing. -/
theorem dedupe_append_dedupe (xs ys : List Finding) :
    dedupe (xs ++ dedupe ys) = dedupe (xs ++ ys) := by
  refine dedupeFrom_append_congr (fun seen => ?_) [] xs
  have hstage := dedupeFrom_dedupeFrom_append (List.nil_subset seen) ys []
  rwa [List.append_nil, List.append_nil] at hstage

theorem dedupe_dedupe (fs : List Finding) : dedupe (dedupe fs) = dedupe fs := by
  have hstage := dedupe_dedupe_append fs []
  rwa [List.append_nil, List.append_nil] at hstage

/-- **The first finding of each key is kept.** What is kept are the findings at the places whose key
stands at no earlier place, in order: some of the findings, with different keys, none of the keys
lost, each finding the first one with its key. Joining in stages, or twice, changes nothing. -/
theorem dedupe_exact (xs ys : List Finding) :
    dedupe xs = (List.range xs.length).filterMap (earliestAt? xs) ∧
    (dedupe xs).Sublist xs ∧ ((dedupe xs).map key).Nodup ∧
    (∀ k, k ∈ (dedupe xs).map key ↔ k ∈ xs.map key) ∧
    (∀ f, f ∈ dedupe xs ↔ IsFirst (fun g => g.key = f.key) xs f) ∧
    dedupe (xs ++ ys) = dedupe (dedupe xs ++ ys) ∧ dedupe (xs ++ ys) = dedupe (xs ++ dedupe ys) ∧
    dedupe (dedupe xs) = dedupe xs :=
  ⟨dedupe_eq_filterMap xs, dedupe_sublist xs, nodup_keys_dedupe xs, fun _ => mem_keys_dedupe_iff,
    fun _ => mem_dedupe_iff, (dedupe_dedupe_append xs ys).symm, (dedupe_append_dedupe xs ys).symm,
    dedupe_dedupe xs⟩

end LlmAudit.Finding
