import LlmAudit.Proofs.Finding.Sorting
import LlmAudit.Proofs.Suppression.Matching

/-!
# Suppression loses nothing

The subject is Section 4.5 (Ignore-Annotation Resolver) of the specification: "unmatched findings
pass through unchanged", and a match marks the directive consumed.

Every finding comes out once, active or ignored, and every ignored one has a directive of its own
that accounts for what is said about it. One ignored finding uses one directive (`Spends`);
`Accounts` is what that makes of a whole run: the places of its ignored findings are different, each
held an unused directive that suits its finding, and they are the places that the run changes.

A use of a directive can be checked (`Directive.consume`). `suppressChecked` makes the check at each
use, and the check never fails, since a directive is only chosen while it is unused
(`suppressChecked_eq_ok`).
-/

namespace LlmAudit

open Directive

/-! ### Uses that are checked -/

/-- Suppresses findings in the order given, and ends at a directive that is used a second time. -/
def suppressChecked (table : Table) : List Finding → Except ConsumedTwice Suppression
  | [] => .ok ⟨[], [], table⟩
  | f :: rest => do
    let key := fileKey f.file
    match (table.get key).find? (·.suits f) with
    | none =>
      let s ← suppressChecked table rest
      return { s with active := f :: s.active }
    | some d =>
      let table' ← table.consumeAt key ((table.get key).findIdx (·.suits f))
      let s ← suppressChecked table' rest
      return { s with ignored := ⟨f, d.reason, d.line⟩ :: s.ignored }

theorem find?_eq_none_of_consumeFirst {f : Finding} {ds : List Directive}
    (h : consumeFirst f ds = none) : ds.find? (·.suits f) = none := by
  rw [List.find?_eq_none]
  intro d hd
  simp [consumeFirst_eq_none_iff.1 h d hd]

/-- The directive that a finding consumes is the first that suits it. -/
theorem find?_eq_some_of_consumeFirst {f : Finding} {ds ds' : List Directive} {d : Directive}
    (h : consumeFirst f ds = some (d, ds')) : ds.find? (·.suits f) = some d := by
  obtain ⟨xs, ys, rfl, hxs, hd, -⟩ := consumeFirst_eq_some_iff.1 h
  rw [List.find?_append, List.find?_eq_none.2 fun x hx => by simp [hxs x hx]]
  simp [hd]

/-- Consuming that directive where it stands passes the check, since it suits the finding only while
it is unused. -/
theorem consumeAt_of_consumeFirst {table : Table} {key : String} {f : Finding}
    {ds : List Directive} {d : Directive} (h : consumeFirst f (table.get key) = some (d, ds)) :
    table.consumeAt key ((table.get key).findIdx (·.suits f)) = .ok (table.set key ds) := by
  obtain ⟨xs, ys, hget, hxs, hd, rfl⟩ := consumeFirst_eq_some_iff.1 h
  have hindex : (table.get key).findIdx (·.suits f) = xs.length := by
    rw [hget, List.findIdx_append, List.findIdx_eq_length.2 hxs]
    simp [List.findIdx_cons, hd]
  have hunused := (suits_iff.1 hd).1
  have hconsume : d.consume = .ok d.spent := by simp [consume, hunused, spent]
  rw [hindex, Table.consumeAt, hget]
  simp [hconsume]

/-- The check never fails, and makes no difference. -/
theorem suppressChecked_eq_ok (table : Table) (fs : List Finding) :
    suppressChecked table fs = .ok (suppressInOrder table fs) := by
  induction fs generalizing table with
  | nil => rfl
  | cons f fs ih =>
    cases h : consumeFirst f (table.get (fileKey f.file)) with
    | none =>
      rw [suppressInOrder_cons_of_none h, suppressChecked]
      simp only [find?_eq_none_of_consumeFirst h, ih]
      rfl
    | some found =>
      obtain ⟨d, ds⟩ := found
      rw [suppressInOrder_cons_of_some h, suppressChecked]
      simp only [find?_eq_some_of_consumeFirst h, consumeAt_of_consumeFirst h]
      simp only [bind, Except.bind, ih]
      rfl

/-! ### Where the findings go -/

/-- The ignored findings are some of the findings, in their order. -/
theorem ignored_sublist (table : Table) (fs : List Finding) :
    ((suppressInOrder table fs).ignored.map (·.finding)).Sublist fs := by
  induction fs generalizing table with
  | nil => simp [suppressInOrder]
  | cons f fs ih =>
    cases h : consumeFirst f (table.get (fileKey f.file)) with
    | none =>
      rw [suppressInOrder_cons_of_none h]
      exact (ih table).cons f
    | some found =>
      obtain ⟨d, ds⟩ := found
      rw [suppressInOrder_cons_of_some h]
      exact (ih _).cons_cons f

theorem active_append_ignored_perm (table : Table) (fs : List Finding) :
    ((suppressInOrder table fs).active ++
      (suppressInOrder table fs).ignored.map (·.finding)).Perm fs := by
  induction fs generalizing table with
  | nil => simp [suppressInOrder]
  | cons f fs ih =>
    cases h : consumeFirst f (table.get (fileKey f.file)) with
    | none =>
      rw [suppressInOrder_cons_of_none h]
      exact (ih table).cons f
    | some found =>
      obtain ⟨d, ds⟩ := found
      rw [suppressInOrder_cons_of_some h, List.map_cons]
      exact List.perm_middle.trans ((ih _).cons f)

/-- `sorted` is a list of findings by file key and line, where findings of one place keep their
order. -/
structure StablySorted (findings sorted : List Finding) : Prop where
  /-- No finding is lost or added. -/
  perm : sorted.Perm findings
  /-- File keys do not decrease, nor do lines within one. -/
  ordered : sorted.Pairwise fun f g =>
    fileKey f.file < fileKey g.file ∨ fileKey f.file = fileKey g.file ∧ f.line ≤ g.line
  /-- Findings of one place are in the order in which they came. -/
  stable : ∀ (key : String) (line : Int),
    sorted.filter (fun f => fileKey f.file = key ∧ f.line = line) =
      findings.filter (fun f => fileKey f.file = key ∧ f.line = line)

theorem stablySorted_sortByPlace (findings : List Finding) :
    StablySorted findings (Finding.sortByPlace findings) where
  perm := Finding.sortByPlace_perm findings
  ordered := (Finding.sortByPlace_pairwise findings).imp Finding.placeLe_iff.1
  stable key line := by
    refine filter_mergeSort Finding.placeLe_trans Finding.placeLe_total ?_ findings
    intro f g hf hg
    rw [decide_eq_true_eq] at hf hg
    exact Finding.placeLe_iff.2 (Or.inr ⟨hf.1.trans hg.1.symm, (hf.2.trans hg.2.symm).le⟩)

/-! ### What accounts for the ignored findings -/

/-- An unused directive of the table, under the key of the finding's file, has the rule of an
ignored finding and an earlier line, and gives its reason and its directive's line. -/
def Explains (table : Table) (item : IgnoredFinding) (s : Slot) : Prop :=
  s.key = fileKey item.finding.file ∧ ∃ d, table.at? s = some d ∧ d.consumed = false ∧
    d.ruleId = item.finding.ruleId ∧ d.line < item.finding.line ∧
    item.reason = d.reason ∧ item.directiveLine = d.line

/-- The places of the directives that a run uses, one for each ignored finding. -/
structure Accounts (table : Table) (run : Suppression) (slots : List Slot) : Prop where
  /-- No directive is used twice. -/
  nodup : slots.Nodup
  /-- Each ignored finding has the directive at its place to account for it. -/
  explains : List.Forall₂ (Explains table) run.ignored slots
  /-- These are the directives that were unused and are used afterwards. -/
  used : ∀ s, s ∈ slots ↔
    ∃ d, table.at? s = some d ∧ d.consumed = false ∧ run.table.at? s = some d.spent
  /-- No other place changes. -/
  elsewhere : ∀ s ∉ slots, run.table.at? s = table.at? s

theorem Spends.explains {f : Finding} {d : Directive} {s : Slot} {table table' : Table}
    (h : Spends f d s table table') : Explains table ⟨f, d.reason, d.line⟩ s := by
  obtain ⟨hunused, hrule, hline⟩ := suits_iff.1 h.suits
  exact ⟨h.key, d, h.before, hunused, hrule, hline, rfl, rfl⟩

/-- What accounts for a finding after a directive is used also did before. -/
theorem Explains.of_spends {f : Finding} {d : Directive} {s s' : Slot} {table table' : Table}
    {item : IgnoredFinding} (hs : Spends f d s table table') (h : Explains table' item s') :
    Explains table item s' := by
  obtain ⟨hkey, d', hat, hunused, hrest⟩ := h
  have hne : s' ≠ s := by
    rintro rfl
    rw [hs.after, Option.some.injEq] at hat
    rw [← hat] at hunused
    cases hunused
  exact ⟨hkey, d', (hs.elsewhere s' hne).symm.trans hat, hunused, hrest⟩

/-- One more finding at the front of a run adds the place of the directive that it uses. -/
theorem Accounts.cons {f : Finding} {d : Directive} {s : Slot} {table table' : Table}
    {active : List Finding} {run : Suppression} {slots : List Slot} (hs : Spends f d s table table')
    (h : Accounts table' run slots) :
    Accounts table ⟨active, ⟨f, d.reason, d.line⟩ :: run.ignored, run.table⟩ (s :: slots) := by
  have hunused : s ∉ slots := by
    intro hmem
    obtain ⟨d', hat, hconsumed, -⟩ := (h.used s).1 hmem
    rw [hs.after, Option.some.injEq] at hat
    rw [← hat] at hconsumed
    cases hconsumed
  have hafter : run.table.at? s = some d.spent := (h.elsewhere s hunused).trans hs.after
  refine ⟨List.nodup_cons.2 ⟨hunused, h.nodup⟩, ?_, ?_, ?_⟩
  · exact .cons hs.explains (h.explains.imp fun _ _ => Explains.of_spends hs)
  · intro s'
    by_cases hne : s' = s
    · subst hne
      have hd := (suits_iff.1 hs.suits).1
      exact iff_of_true List.mem_cons_self ⟨d, hs.before, hd, hafter⟩
    · rw [List.mem_cons, or_iff_right hne, h.used s', hs.elsewhere s' hne]
  · intro s' hs'
    rw [List.mem_cons, not_or] at hs'
    exact (h.elsewhere s' hs'.2).trans (hs.elsewhere s' hs'.1)

/-- Every run is accounted for. -/
theorem exists_accounts (table : Table) (fs : List Finding) :
    ∃ slots, Accounts table (suppressInOrder table fs) slots := by
  induction fs generalizing table with
  | nil =>
    refine ⟨[], List.nodup_nil, .nil, fun s => ?_, fun _ _ => rfl⟩
    refine iff_of_false List.not_mem_nil ?_
    rintro ⟨d, hat, hunused, hafter⟩
    rw [suppressInOrder, hat, Option.some.injEq] at hafter
    rw [hafter] at hunused
    cases hunused
  | cons f fs ih =>
    cases hc : consumeFirst f (table.get (fileKey f.file)) with
    | none =>
      obtain ⟨slots, h⟩ := ih table
      rw [suppressInOrder_cons_of_none hc]
      exact ⟨slots, h.nodup, h.explains, h.used, h.elsewhere⟩
    | some found =>
      obtain ⟨d, ds⟩ := found
      obtain ⟨s, hs⟩ := exists_spends_of_consumeFirst hc
      obtain ⟨slots, h⟩ := ih (table.set (fileKey f.file) ds)
      rw [suppressInOrder_cons_of_some hc]
      exact ⟨s :: slots, h.cons hs⟩

/-- **Suppression is sound and loses nothing.** No directive is used twice, even if each use is
checked; every finding is active or ignored, both in the order of the findings by place; and each
ignored finding has an unused directive of its own to account for it, these being the directives
that the run changes. -/
theorem suppress_accounts (table : Table) (findings : List Finding) :
    suppressChecked table (Finding.sortByPlace findings) = .ok (suppress table findings) ∧
      ((suppress table findings).active ++
        (suppress table findings).ignored.map (·.finding)).Perm findings ∧
      (∃ sorted, StablySorted findings sorted ∧ (suppress table findings).active.Sublist sorted ∧
        ((suppress table findings).ignored.map (·.finding)).Sublist sorted) ∧
      ∃ slots, Accounts table (suppress table findings) slots := by
  have hsorted := stablySorted_sortByPlace findings
  refine ⟨suppressChecked_eq_ok table _, ?_, ?_, exists_accounts table _⟩
  · exact (active_append_ignored_perm table _).trans hsorted.perm
  · exact ⟨_, hsorted, active_sublist table _, ignored_sublist table _⟩

end LlmAudit
