import LlmAudit.Finding.Key
import LlmAudit.Proofs.Lists.Firsts

/-!
# Joining equal findings

Of the findings with one key the first is kept (`mem_dedupe_iff`): what is left is a sublist
(`dedupe_sublist`) whose keys differ (`nodup_keys_dedupe`). Keys do not touch each other, so leaving
out all findings of some keys before or after the joining is the same (`dedupe_filter`). Findings
whose keys came before may be left out as well (`dedupeFrom_append_of_seen`).
-/

namespace LlmAudit

namespace Finding

variable {seen seen' : List Key} {f : Finding} {fs : List Finding}

/-- Joining is the choice of the first finding of each key. -/
theorem dedupeFrom_eq_firstBy (seen : List Key) (fs : List Finding) :
    dedupeFrom seen fs = firstBy key seen fs := by
  induction fs generalizing seen with
  | nil => rfl
  | cons f fs ih => rw [dedupeFrom, firstBy, ih, ih]

theorem dedupeFrom_cons_of_mem (h : f.key ∈ seen) :
    dedupeFrom seen (f :: fs) = dedupeFrom seen fs := by
  rw [dedupeFrom, if_pos h]

theorem dedupeFrom_cons_of_notMem (h : f.key ∉ seen) :
    dedupeFrom seen (f :: fs) = f :: dedupeFrom (f.key :: seen) fs := by
  rw [dedupeFrom, if_neg h]

/-- The joined findings are some of the findings, in their order. -/
theorem dedupe_sublist (fs : List Finding) : (dedupe fs).Sublist fs := by
  rw [dedupe, dedupeFrom_eq_firstBy]
  exact firstBy_sublist key [] fs

/-- The joined findings are the first ones of their keys. -/
theorem mem_dedupe_iff : f ∈ dedupe fs ↔ IsFirst (fun g => g.key = f.key) fs f := by
  rw [dedupe, dedupeFrom_eq_firstBy, mem_firstBy_iff]
  exact and_iff_right List.not_mem_nil

/-- No key is lost. -/
theorem mem_keys_dedupe_iff {k : Key} : k ∈ (dedupe fs).map key ↔ k ∈ fs.map key := by
  rw [dedupe, dedupeFrom_eq_firstBy]
  exact mem_map_firstBy_iff

theorem exists_mem_dedupe (h : f ∈ fs) : ∃ g ∈ dedupe fs, g.key = f.key :=
  List.mem_map.1 (mem_keys_dedupe_iff.2 (List.mem_map_of_mem h))

/-- Joined findings have different keys. -/
theorem nodup_keys_dedupe (fs : List Finding) : ((dedupe fs).map key).Nodup := by
  rw [dedupe, dedupeFrom_eq_firstBy]
  exact nodup_map_firstBy key [] fs

/-- Keys that are left out need not have been seen. -/
theorem dedupeFrom_filter {p : Finding → Bool} (hp : ∀ f g : Finding, f.key = g.key → p f = p g)
    (hseen : ∀ f, p f = true → (f.key ∈ seen' ↔ f.key ∈ seen)) (fs : List Finding) :
    dedupeFrom seen' (fs.filter p) = (dedupeFrom seen fs).filter p := by
  rw [dedupeFrom_eq_firstBy, dedupeFrom_eq_firstBy]
  exact firstBy_filter hp hseen fs

/-- Leaving out all findings of some keys before they are joined is the same as leaving them out
after it. -/
theorem dedupe_filter {p : Finding → Bool} (hp : ∀ f g : Finding, f.key = g.key → p f = p g)
    (fs : List Finding) : dedupe (fs.filter p) = (dedupe fs).filter p :=
  dedupeFrom_filter hp (fun _ _ => Iff.rfl) fs

/-- Findings whose keys have been seen when they come do not matter. -/
theorem dedupeFrom_append_of_seen {xs ys : List Finding}
    (hys : ∀ y ∈ ys, y.key ∈ seen ∨ ∃ x ∈ xs, x.key = y.key) (zs : List Finding) :
    dedupeFrom seen (xs ++ (ys ++ zs)) = dedupeFrom seen (xs ++ zs) := by
  induction xs generalizing seen with
  | nil =>
    induction ys with
    | nil => rfl
    | cons y ys ih =>
      rw [List.forall_mem_cons] at hys
      have hseen : y.key ∈ seen := hys.1.resolve_right fun ⟨_, hx, _⟩ => List.not_mem_nil hx
      rw [List.nil_append, List.cons_append, dedupeFrom_cons_of_mem hseen]
      exact ih hys.2
  | cons x xs ih =>
    rw [List.cons_append, List.cons_append]
    by_cases hx : x.key ∈ seen
    · rw [dedupeFrom_cons_of_mem hx, dedupeFrom_cons_of_mem hx]
      refine ih fun y hy => ?_
      rcases hys y hy with hseen | ⟨z, hz, hkey⟩
      · exact .inl hseen
      · rcases List.mem_cons.1 hz with rfl | hz
        · exact .inl (hkey ▸ hx)
        · exact .inr ⟨z, hz, hkey⟩
    · rw [dedupeFrom_cons_of_notMem hx, dedupeFrom_cons_of_notMem hx]
      congr 1
      refine ih fun y hy => ?_
      rcases hys y hy with hseen | ⟨z, hz, hkey⟩
      · exact .inl (List.mem_cons_of_mem _ hseen)
      · rcases List.mem_cons.1 hz with rfl | hz
        · exact .inl (hkey ▸ List.mem_cons_self)
        · exact .inr ⟨z, hz, hkey⟩

/-- Lists that are joined alike after whatever was seen are joined alike after other findings. -/
theorem dedupeFrom_append_congr {ys zs : List Finding}
    (h : ∀ seen, dedupeFrom seen ys = dedupeFrom seen zs) (seen : List Key) (xs : List Finding) :
    dedupeFrom seen (xs ++ ys) = dedupeFrom seen (xs ++ zs) := by
  induction xs generalizing seen with
  | nil => exact h seen
  | cons x xs ih =>
    rw [List.cons_append, List.cons_append]
    by_cases hx : x.key ∈ seen
    · rw [dedupeFrom_cons_of_mem hx, dedupeFrom_cons_of_mem hx, ih]
    · rw [dedupeFrom_cons_of_notMem hx, dedupeFrom_cons_of_notMem hx, ih]

end Finding

end LlmAudit
