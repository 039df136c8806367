import LlmAudit.Proofs.Suppression.Enlargement

/-!
# A directive suppresses one finding at most

The subject is the at-most-once property of directives in Section 8 (Testable Properties) of the
specification.

What a single new directive does to a run, whatever its rule and its line and wherever it stands.
It can be taken by a finding that had another directive, which is then free for a later finding,
and so on; the findings that were ignored may all have other directives than before. Still none of
them becomes active (`Covers.ignored_sublist`). The two runs are compared step by step: the larger
table has at most one unused directive more (`CoversByOne`). As long as a finding is ignored in
both runs or in neither this stays so (`CoversByOne.set_both`); the first finding that is ignored
in the larger table alone uses up the difference (`CoversByOne.covers_back`), and from then on both
runs ignore equally many.
-/

namespace LlmAudit

open Directive

/-! ### Findings that were ignored -/

namespace Covers

variable {table table' : Table}

/-- With more directives every finding that was ignored is ignored. -/
theorem ignored_sublist (h : Covers table table') (fs : List Finding) :
    ((suppressInOrder table fs).ignored.map (·.finding)).Sublist
      ((suppressInOrder table' fs).ignored.map (·.finding)) := by
  induction fs generalizing table table' with
  | nil => exact List.Sublist.refl []
  | cons f fs ih =>
    cases hc : consumeFirst f (table.get (fileKey f.file)) with
    | some found =>
      obtain ⟨d, ds⟩ := found
      obtain ⟨d', ds', hc'⟩ := h.consumeFirst_isSome hc
      rw [suppressInOrder_cons_of_some hc, suppressInOrder_cons_of_some hc']
      exact (ih (h.set_both hc hc')).cons_cons f
    | none =>
      rw [suppressInOrder_cons_of_none hc]
      cases hc' : consumeFirst f (table'.get (fileKey f.file)) with
      | none =>
        rw [suppressInOrder_cons_of_none hc']
        exact ih h
      | some found' =>
        obtain ⟨d', ds'⟩ := found'
        rw [suppressInOrder_cons_of_some hc']
        exact (ih (h.set_right hc hc')).cons f

/-- With more directives at least as many findings are ignored. -/
theorem length_ignored_le (h : Covers table table') (fs : List Finding) :
    (suppressInOrder table fs).ignored.length ≤ (suppressInOrder table' fs).ignored.length := by
  simpa using (h.ignored_sublist fs).length_le

end Covers

/-! ### One directive more -/

/-- A finding that is ignored leaves one unused directive less. -/
theorem length_fresh_of_consumeFirst {f : Finding} {d : Directive} {ds ds' : List Directive}
    (h : consumeFirst f ds = some (d, ds')) : (fresh ds').length + 1 = (fresh ds).length := by
  obtain ⟨xs, ys, rfl, -, hd, rfl⟩ := consumeFirst_eq_some_iff.1 h
  have hspent : fresh (d.spent :: ys) = fresh ys := List.filter_cons_of_neg (by simp [spent])
  rw [fresh_append, fresh_append, hspent, fresh_cons_of_suits hd]
  simp only [List.length_append, List.length_cons]
  omega

/-- One table has the unused directives of another and under one key at most one more. -/
structure CoversByOne (key : String) (table table' : Table) : Prop where
  /-- None is missing. -/
  covers : Covers table table'
  /-- Under the key there is at most one more. -/
  here : (fresh (table'.get key)).length ≤ (fresh (table.get key)).length + 1
  /-- Under every other key they are the same. -/
  elsewhere : ∀ other, other ≠ key → fresh (table'.get other) = fresh (table.get other)

namespace CoversByOne

variable {key : String} {table table' : Table} {f : Finding} {d d' : Directive}
  {ds ds' : List Directive}

/-- Both tables after a finding that is ignored with either. -/
theorem set_both (h : CoversByOne key table table')
    (hsome : consumeFirst f (table.get (fileKey f.file)) = some (d, ds))
    (hsome' : consumeFirst f (table'.get (fileKey f.file)) = some (d', ds')) :
    CoversByOne key (table.set (fileKey f.file) ds) (table'.set (fileKey f.file) ds') where
  covers := h.covers.set_both hsome hsome'
  here := by
    by_cases hkey : key = fileKey f.file
    · have hhere := h.here
      have hless := length_fresh_of_consumeFirst hsome
      have hless' := length_fresh_of_consumeFirst hsome'
      rw [hkey] at hhere
      rw [hkey, Table.get_set_self, Table.get_set_self]
      omega
    · rw [Table.get_set_of_ne table hkey, Table.get_set_of_ne table' hkey]
      exact h.here
  elsewhere := by
    intro other hother
    by_cases hown : other = fileKey f.file
    · have hsame := h.elsewhere other hother
      rw [hown] at hsame
      rw [hown, Table.get_set_self, Table.get_set_self, fresh_of_consumeFirst hsome,
        fresh_of_consumeFirst hsome', hsame]
    · rw [Table.get_set_of_ne table hown, Table.get_set_of_ne table' hown, h.elsewhere other hother]

/-- A finding for which only the larger table has a directive takes what that table had more. -/
theorem covers_back (h : CoversByOne key table table')
    (hnone : consumeFirst f (table.get (fileKey f.file)) = none)
    (hsome' : consumeFirst f (table'.get (fileKey f.file)) = some (d', ds')) :
    Covers (table'.set (fileKey f.file) ds') table := by
  have hset := h.covers.set_right hnone hsome'
  -- a finding that tells the tables apart is one of the key
  have hkey : fileKey f.file = key := by
    by_contra hother
    rw [consumeFirst_eq_none_iff_fresh, ← h.elsewhere _ hother,
      ← consumeFirst_eq_none_iff_fresh, hsome'] at hnone
    cases hnone
  intro other
  by_cases hown : other = key
  · have hhere := h.here
    have hless := length_fresh_of_consumeFirst hsome'
    have hsub := hset other
    rw [hown, ← hkey, Table.get_set_self] at hsub
    rw [← hkey] at hhere
    rw [hown, ← hkey, Table.get_set_self, hsub.eq_of_length_le (by omega)]
  · rw [hkey, Table.get_set_of_ne table' hown, h.elsewhere other hown]

/-- With at most one directive more, at most one finding more is ignored. -/
theorem length_ignored_le (h : CoversByOne key table table') (fs : List Finding) :
    (suppressInOrder table' fs).ignored.length ≤ (suppressInOrder table fs).ignored.length + 1 := by
  induction fs generalizing table table' with
  | nil => exact Nat.zero_le _
  | cons f fs ih =>
    cases hc : consumeFirst f (table.get (fileKey f.file)) with
    | some found =>
      obtain ⟨d, ds⟩ := found
      obtain ⟨d', ds', hc'⟩ := h.covers.consumeFirst_isSome hc
      rw [suppressInOrder_cons_of_some hc, suppressInOrder_cons_of_some hc']
      exact Nat.succ_le_succ (ih (h.set_both hc hc'))
    | none =>
      rw [suppressInOrder_cons_of_none hc]
      cases hc' : consumeFirst f (table'.get (fileKey f.file)) with
      | none =>
        rw [suppressInOrder_cons_of_none hc']
        exact ih h
      | some found' =>
        obtain ⟨d', ds'⟩ := found'
        rw [suppressInOrder_cons_of_some hc']
        exact Nat.succ_le_succ ((h.covers_back hc hc').length_ignored_le fs)

/-- A directive put anywhere among those of a key. -/
theorem set_insertIdx (table : Table) (key : String) (i : Nat) (d : Directive) :
    CoversByOne key table (table.set key ((table.get key).insertIdx i d)) where
  covers := by
    intro other
    by_cases hkey : other = key
    · rw [hkey, Table.get_set_self]
      exact (List.sublist_insertIdx ..).filter _
    · rw [Table.get_set_of_ne table hkey]
  here := by
    rw [Table.get_set_self]
    have hsub : ((table.get key).insertIdx i d).Subperm (d :: table.get key) := by
      by_cases hi : i ≤ (table.get key).length
      · exact (List.perm_insertIdx d _ hi).subperm
      · rw [List.insertIdx_of_length_lt (by omega)]
        exact (List.sublist_cons_self ..).subperm
    have hlength := (hsub.filter fun e => !e.consumed).length_le
    rw [List.filter_cons] at hlength
    split at hlength
    · exact hlength
    · exact Nat.le_succ_of_le hlength
  elsewhere := fun other hother => by rw [Table.get_set_of_ne table hother]

end CoversByOne

/-- **A new directive never frees a finding.** Wherever a directive is put among those of a file,
every finding that was ignored is ignored, the active findings are some of those that were active,
and at most one finding more is ignored. -/
theorem suppress_insertIdx (table : Table) (findings : List Finding) (key : String) (i : Nat)
    (d : Directive) :
    let before := suppress table findings
    let after := suppress (table.set key ((table.get key).insertIdx i d)) findings
    (before.ignored.map (·.finding)).Sublist (after.ignored.map (·.finding)) ∧
      after.active.Sublist before.active ∧
      after.ignored.length ≤ before.ignored.length + 1 := by
  intro before after
  have hone := CoversByOne.set_insertIdx table key i d
  exact ⟨hone.covers.ignored_sublist _, hone.covers.run _, hone.length_ignored_le _⟩

-- a finding that was ignored takes the new directive, and leaves its old one to the next
example :
    let table : Table := [("app", [⟨"AI003", "old", 1, false⟩])]
    let table' := table.set "app" ((table.get "app").insertIdx 0 ⟨"AI003", "new", 2, false⟩)
    let findings := [Finding.bare "AI003" "app.ts" 5, Finding.bare "AI003" "App.js" 9]
    (suppress table findings).ignored.map (fun i => (i.finding.line, i.reason)) = [(5, "old")] ∧
      (suppress table' findings).ignored.map (fun i => (i.finding.line, i.reason)) =
        [(5, "new"), (9, "old")] := by
  intro table table' findings
  have hsorted : findings.Pairwise fun f g => f.placeLe g = true := by decide
  rw [suppress_of_sorted _ hsorted, suppress_of_sorted _ hsorted]
  decide

end LlmAudit
