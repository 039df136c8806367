import LlmAudit.Proofs.Suppression.Basic
import Mathlib.Data.List.Nodup

/-!
# One more directive

The subject is Scenario C of Section 8 (Testable Properties) of the specification: a directive "on
the line immediately before" a finding moves it to the ignored ones.

What happens to a run when a directive is put into the table. Two runs are compared whose tables
agree but for that directive (`Inserted`). As long as it suits none of the findings the two runs do
the same (`Inserted.run`). A new directive for an active finding, close enough above it that no
other finding of the rule lies between, is therefore taken by that finding, and all else stays as it
was (`suppress_insert_directive`).
-/

namespace LlmAudit

open Directive

/-- `table'` is `table` with the directive `d` somewhere among those of `key`. -/
structure Inserted (key : String) (d : Directive) (table table' : Table) : Prop where
  /-- Under the key, one list is the other with the directive in it. -/
  here : ∃ xs ys, table.get key = xs ++ ys ∧ table'.get key = xs ++ d :: ys
  /-- Under every other key the directives are the same. -/
  elsewhere : ∀ other, other ≠ key → table'.get other = table.get other

namespace Inserted

variable {key : String} {d : Directive} {table table' : Table}

theorem of_split {xs ys : List Directive} (h : table.get key = xs ++ ys) :
    Inserted key d table (table.set key (xs ++ d :: ys)) where
  here := ⟨xs, ys, h, by simp⟩
  elsewhere := fun _ hother => Table.get_set_of_ne table hother _

/-- Both tables with the same new directives under another key. -/
theorem set_of_ne (h : Inserted key d table table') {other : String} (hne : other ≠ key)
    (ds : List Directive) : Inserted key d (table.set other ds) (table'.set other ds) where
  here := by
    rw [Table.get_set_of_ne table hne.symm, Table.get_set_of_ne table' hne.symm]
    exact h.here
  elsewhere := by
    intro k hk
    by_cases hko : k = other
    · rw [hko, Table.get_set_self, Table.get_set_self]
    · rw [Table.get_set_of_ne table hko, Table.get_set_of_ne table' hko, h.elsewhere k hk]

/-- Both tables with new directives under the key itself. -/
theorem set_self (h : Inserted key d table table') (xs ys : List Directive) :
    Inserted key d (table.set key (xs ++ ys)) (table'.set key (xs ++ d :: ys)) where
  here := ⟨xs, ys, by simp, by simp⟩
  elsewhere := by
    intro k hk
    rw [Table.get_set_of_ne table hk, Table.get_set_of_ne table' hk, h.elsewhere k hk]

/-- A finding that the inserted directive does not suit has the same outcome in both tables. -/
theorem step (h : Inserted key d table table') {f : Finding}
    (hf : fileKey f.file = key → d.suits f = false) :
    (consumeFirst f (table.get (fileKey f.file)) = none ∧
      consumeFirst f (table'.get (fileKey f.file)) = none) ∨
    ∃ m ds ds', consumeFirst f (table.get (fileKey f.file)) = some (m, ds) ∧
      consumeFirst f (table'.get (fileKey f.file)) = some (m, ds') ∧
      Inserted key d (table.set (fileKey f.file) ds) (table'.set (fileKey f.file) ds') := by
  by_cases hk : fileKey f.file = key
  · obtain ⟨xs, ys, hxs, hxs'⟩ := h.here
    have hd : consumeFirst f (d :: ys) = (consumeFirst f ys).map fun r => (r.1, d :: r.2) := by
      simp [consumeFirst, hf hk]
    rw [hk, hxs, hxs', consumeFirst_append, consumeFirst_append, hd]
    -- the directive is taken before the inserted one, behind it, or nowhere
    cases consumeFirst f xs with
    | some found =>
      obtain ⟨m, xs'⟩ := found
      exact Or.inr ⟨m, _, _, rfl, rfl, h.set_self xs' ys⟩
    | none =>
      cases consumeFirst f ys with
      | some found =>
        obtain ⟨m, ys'⟩ := found
        exact Or.inr ⟨m, _, _, rfl, rfl, h.set_self xs ys'⟩
      | none => exact Or.inl ⟨rfl, rfl⟩
  · rw [h.elsewhere _ hk]
    cases hc : consumeFirst f (table.get (fileKey f.file)) with
    | some found =>
      obtain ⟨m, ds⟩ := found
      exact Or.inr ⟨m, ds, ds, rfl, rfl, h.set_of_ne hk ds⟩
    | none => exact Or.inl ⟨rfl, rfl⟩

/-- A run over findings that the inserted directive does not suit does the same with it and without
it, and leaves it where it is. -/
theorem run (h : Inserted key d table table') {fs : List Finding}
    (hfs : ∀ f ∈ fs, fileKey f.file = key → d.suits f = false) :
    (suppressInOrder table' fs).active = (suppressInOrder table fs).active ∧
      (suppressInOrder table' fs).ignored = (suppressInOrder table fs).ignored ∧
      Inserted key d (suppressInOrder table fs).table (suppressInOrder table' fs).table := by
  induction fs generalizing table table' with
  | nil => exact ⟨rfl, rfl, h⟩
  | cons f fs ih =>
    have hrest : ∀ g ∈ fs, fileKey g.file = key → d.suits g = false :=
      fun g hg => hfs g (List.mem_cons_of_mem f hg)
    rcases h.step (hfs f (List.mem_cons_self ..)) with ⟨hn, hn'⟩ | ⟨m, ds, ds', hs, hs', hset⟩
    · obtain ⟨ha, hi, ht⟩ := ih h hrest
      rw [suppressInOrder_cons_of_none hn, suppressInOrder_cons_of_none hn']
      exact ⟨by rw [ha], hi, ht⟩
    · obtain ⟨ha, hi, ht⟩ := ih hset hrest
      rw [suppressInOrder_cons_of_some hs, suppressInOrder_cons_of_some hs']
      exact ⟨ha, by rw [hi], ht⟩

/-- A finding that nothing else suits takes the inserted directive. -/
theorem take (h : Inserted key d table table') {f : Finding} (hk : fileKey f.file = key)
    (hnone : consumeFirst f (table.get (fileKey f.file)) = none) (hd : d.suits f = true) :
    ∃ ds, consumeFirst f (table'.get (fileKey f.file)) = some (d, ds) ∧
      Inserted key d.spent table (table'.set (fileKey f.file) ds) := by
  obtain ⟨xs, ys, hxs, hxs'⟩ := h.here
  rw [hk, hxs, consumeFirst_eq_none_iff] at hnone
  refine ⟨xs ++ d.spent :: ys, ?_, ⟨xs, ys, hxs, by simp [hk]⟩, ?_⟩
  · rw [hk, hxs', consumeFirst_eq_some_iff]
    exact ⟨xs, ys, rfl, fun x hx => hnone x (List.mem_append_left _ hx), hd, rfl⟩
  · intro other hother
    rw [hk, Table.get_set_of_ne table' hother, h.elsewhere other hother]

end Inserted

/-! ### A directive for an active finding -/

/-- What tells findings apart before suppression: the rule, the key of the file, and the line. -/
def Finding.place (f : Finding) : String × String × Int :=
  (f.ruleId, fileKey f.file, f.line)

/-- Of findings at different places, one that is active somewhere in a run finds no directive when
its turn comes. -/
theorem consumeFirst_eq_none_of_active {table : Table} {as bs : List Finding} {f : Finding}
    (has : f ∉ as) (hbs : f ∉ bs) (h : f ∈ (suppressInOrder table (as ++ f :: bs)).active) :
    consumeFirst f ((suppressInOrder table as).table.get (fileKey f.file)) = none := by
  cases hc : consumeFirst f ((suppressInOrder table as).table.get (fileKey f.file)) with
  | none => rfl
  | some found =>
    obtain ⟨d, ds⟩ := found
    rw [suppressInOrder_append, suppressInOrder_cons_of_some hc] at h
    rcases List.mem_append.1 h with h | h
    · exact absurd ((active_sublist _ _).subset h) has
    · exact absurd ((active_sublist _ _).subset h) hbs

/-- Sorted findings at different places around one of them: the others of its rule and file that
come first have smaller lines. -/
theorem line_lt_of_sorted {as bs : List Finding} {f g : Finding}
    (hsorted : (as ++ f :: bs).Pairwise fun a b => a.placeLe b = true)
    (hdistinct : ((as ++ f :: bs).map Finding.place).Nodup) (hg : g ∈ as)
    (hrule : g.ruleId = f.ruleId) (hfile : fileKey g.file = fileKey f.file) : g.line < f.line := by
  have hle : g.placeLe f = true :=
    (List.pairwise_append.1 hsorted).2.2 g hg f (List.mem_cons_self ..)
  have hne : g.place ≠ f.place := by
    rw [List.map_append, List.map_cons, List.nodup_append] at hdistinct
    exact hdistinct.2.2 _ (List.mem_map_of_mem hg) _ (List.mem_cons_self ..)
  rcases lt_or_eq_of_le (Finding.line_le_of_placeLe hle hfile) with hlt | heq
  · exact hlt
  · exact absurd (by rw [Finding.place, Finding.place, hrule, hfile, heq]) hne

/-- **Suppression is surgical.** A fresh directive for the rule of an active finding, above it and
below every earlier finding of that rule and file, suppresses that finding wherever it is inserted
among the directives of the file; every other finding keeps its outcome, and all keep their order.
-/
theorem suppress_insert_directive {table : Table} {findings : List Finding}
    (hdistinct : (findings.map Finding.place).Nodup) {f : Finding}
    (hactive : f ∈ (suppress table findings).active) {d : Directive} (hfresh : d.consumed = false)
    (hrule : d.ruleId = f.ruleId) (hline : d.line < f.line)
    (hclear : ∀ g ∈ findings, g.ruleId = f.ruleId → fileKey g.file = fileKey f.file →
      ¬ (d.line < g.line ∧ g.line < f.line))
    {xs ys : List Directive} (hsplit : table.get (fileKey f.file) = xs ++ ys) :
    ∃ a₁ a₂ i₁ i₂, f ∉ a₁ ++ a₂ ∧
      (suppress table findings).active = a₁ ++ f :: a₂ ∧
      (suppress table findings).ignored = i₁ ++ i₂ ∧
      (suppress (table.set (fileKey f.file) (xs ++ d :: ys)) findings).active = a₁ ++ a₂ ∧
      (suppress (table.set (fileKey f.file) (xs ++ d :: ys)) findings).ignored =
        i₁ ++ ⟨f, d.reason, d.line⟩ :: i₂ := by
  have hperm := Finding.sortByPlace_perm findings
  have hsorted := Finding.sortByPlace_pairwise findings
  have hdist : ((Finding.sortByPlace findings).map Finding.place).Nodup :=
    (hperm.map Finding.place).nodup_iff.2 hdistinct
  have hmem : ∀ g ∈ Finding.sortByPlace findings, g ∈ findings := fun g hg => hperm.subset hg
  unfold suppress at hactive ⊢
  obtain ⟨as, bs, hL⟩ := List.append_of_mem ((active_sublist _ _).subset hactive)
  rw [hL] at hactive hsorted hdist hmem ⊢
  have hnodup : (as ++ f :: bs).Nodup := List.Nodup.of_map _ hdist
  have hbs : f ∉ bs := (List.nodup_cons.1 (List.nodup_append.1 hnodup).2.1).1
  have has : f ∉ as := fun h => (List.nodup_append.1 hnodup).2.2 f h f (List.mem_cons_self ..) rfl
  have hnone := consumeFirst_eq_none_of_active has hbs hactive
  -- up to the finding the new directive suits nothing
  have hbefore : ∀ g ∈ as, fileKey g.file = fileKey f.file → d.suits g = false := by
    intro g hg hfile
    by_contra hsuits
    obtain ⟨-, hgrule, hgline⟩ := suits_iff.1 (by simpa using hsuits)
    have hgf : g.ruleId = f.ruleId := hgrule.symm.trans hrule
    exact hclear g (hmem g (List.mem_append_left _ hg)) hgf hfile
      ⟨hgline, line_lt_of_sorted hsorted hdist hg hgf hfile⟩
  obtain ⟨ha, hi, hins⟩ := (Inserted.of_split hsplit).run hbefore
  -- the finding takes it, and from then on it is spent
  obtain ⟨ds, hsome, hspent⟩ := hins.take rfl hnone (suits_iff.2 ⟨hfresh, hrule, hline⟩)
  obtain ⟨ha', hi', -⟩ := hspent.run (fun g (_ : g ∈ bs) _ => suits_spent d g)
  refine ⟨(suppressInOrder table as).active,
    (suppressInOrder (suppressInOrder table as).table bs).active,
    (suppressInOrder table as).ignored,
    (suppressInOrder (suppressInOrder table as).table bs).ignored, ?_, ?_, ?_, ?_, ?_⟩
  · intro h
    rcases List.mem_append.1 h with h | h
    · exact has ((active_sublist _ _).subset h)
    · exact hbs ((active_sublist _ _).subset h)
  · rw [suppressInOrder_append, suppressInOrder_cons_of_none hnone]
  · rw [suppressInOrder_append, suppressInOrder_cons_of_none hnone]
  · rw [suppressInOrder_append, suppressInOrder_cons_of_some hsome, ha, ha']
  · rw [suppressInOrder_append, suppressInOrder_cons_of_some hsome, hi, hi']

/-- Two findings of one rule in twin files, the first of which has a directive: one for the second,
put in front of the other directive, is taken by the second. -/
theorem suppress_insert_directive_twins :
    let table : Table := [("app", [⟨"AI003", "seen", 1, false⟩])]
    let findings := [Finding.bare "AI003" "app.ts" 5, Finding.bare "AI001" "app.ts" 7,
      Finding.bare "AI003" "App.js" 9]
    let f := Finding.bare "AI003" "App.js" 9
    let table' : Table := table.set (fileKey f.file) ([] ++ ⟨"AI003", "new", 6, false⟩ ::
      [⟨"AI003", "seen", 1, false⟩])
    f ∈ (suppress table findings).active ∧
      ∃ a₁ a₂ i₁ i₂, f ∉ a₁ ++ a₂ ∧
        (suppress table findings).active = a₁ ++ f :: a₂ ∧
        (suppress table findings).ignored = i₁ ++ i₂ ∧
        (suppress table' findings).active = a₁ ++ a₂ ∧
        (suppress table' findings).ignored = i₁ ++ ⟨f, "new", 6⟩ :: i₂ := by
  intro table findings f table'
  have hactive : f ∈ (suppress table findings).active := by
    rw [suppress_of_sorted _ (by decide)]
    decide
  exact ⟨hactive, suppress_insert_directive (by decide) hactive (d := ⟨"AI003", "new", 6, false⟩)
    rfl rfl (by decide) (by decide) (by decide)⟩

end LlmAudit
