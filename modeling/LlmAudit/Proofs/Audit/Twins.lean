import LlmAudit.Proofs.Audit.Independence
import LlmAudit.Proofs.Suppression.Enlargement

/-!
# Compiled twins

Section 4.4 (Deduplicator) of the specification wants "that findings against a compiled-vs-source
twin of the same logical file collapse".

A source file and its compiled twin have one key, so what is found in the twin is joined with what
is found in the file (`Audit.dedupe_raw_twin`). Directives are not joined: the twin brings a second
copy of each (`enlarged_ofUnits_twin`). No finding becomes active through a twin, and the active
findings stay as they are exactly if no directive of the file suits one of them
(`Audit.ofUnits_twin_iff`).
-/

namespace LlmAudit

/-- The source file under another path. -/
def SourceUnit.twin (unit : SourceUnit) (path : String) : SourceUnit :=
  { unit with path := path }

variable {u : SourceUnit} {path : String}

/-! ### What is found in a twin -/

/-- Every finding in a twin has the key of a finding in the file. -/
theorem exists_key_eq_of_mem_runUnit_twin (hpath : fileKey path = fileKey u.path) {c : Check}
    {g : Finding} (hg : g ∈ c.runUnit (u.twin path)) : ∃ f ∈ c.runUnit u, f.key = g.key := by
  rw [SourceUnit.twin, runUnit_path] at hg
  obtain ⟨f, hf, rfl⟩ := List.mem_map.1 hg
  refine ⟨f, hf, ?_⟩
  rw [Finding.key, Finding.key, (reports_of_mem_runUnit hf).file, hpath]

namespace Audit

theorem run_twin (c : Check) (before after : List SourceUnit) (u : SourceUnit) (path : String) :
    c.run (before ++ u :: u.twin path :: after) =
      (c.run before ++ c.runUnit u) ++ (c.runUnit (u.twin path) ++ c.run after) := by
  simp [Check.run]

theorem run_single (c : Check) (before after : List SourceUnit) (u : SourceUnit) :
    c.run (before ++ u :: after) = (c.run before ++ c.runUnit u) ++ c.run after := by
  simp [Check.run]

/-- What is found in a twin is joined with what is found in the file, whatever was seen before. -/
theorem dedupeFrom_raw_twin (hpath : fileKey path = fileKey u.path) (checks : List Check)
    (before after : List SourceUnit) (seen : List Finding.Key) :
    Finding.dedupeFrom seen (raw checks (before ++ u :: u.twin path :: after)) =
      Finding.dedupeFrom seen (raw checks (before ++ u :: after)) := by
  induction checks generalizing seen with
  | nil => rfl
  | cons c checks ih =>
    have hseen : ∀ g ∈ c.runUnit (u.twin path),
        g.key ∈ seen ∨ ∃ f ∈ c.run before ++ c.runUnit u, f.key = g.key := by
      intro g hg
      obtain ⟨f, hf, hkey⟩ := exists_key_eq_of_mem_runUnit_twin hpath hg
      exact .inr ⟨f, List.mem_append_right _ hf, hkey⟩
    have hassoc : ∀ xs ys zs rest : List Finding,
        xs ++ (ys ++ zs) ++ rest = xs ++ (ys ++ (zs ++ rest)) := by simp
    rw [raw_cons, raw_cons, run_twin, run_single, hassoc, Finding.dedupeFrom_append_of_seen hseen,
      ← List.append_assoc]
    exact Finding.dedupeFrom_append_congr ih seen _

/-- What is found in a twin is joined with what is found in the file. -/
theorem dedupe_raw_twin (hpath : fileKey path = fileKey u.path) (checks : List Check)
    (before after : List SourceUnit) :
    Finding.dedupe (raw checks (before ++ u :: u.twin path :: after)) =
      Finding.dedupe (raw checks (before ++ u :: after)) :=
  dedupeFrom_raw_twin hpath checks before after []

end Audit

/-! ### The directives of a twin -/

namespace Directive.Table

/-- The directives under the key of a file: those of files before it, its own, and those of files
after it. -/
theorem get_ofUnits_append (before after : List SourceUnit) (u : SourceUnit) :
    (ofUnits (before ++ u :: after)).get (fileKey u.path) =
      (ofUnits before).get (fileKey u.path) ++
        (Directive.parse u.lines ++ (ofUnits after).get (fileKey u.path)) := by
  simp [get_ofUnits]

theorem get_ofUnits_twin (hpath : fileKey path = fileKey u.path) (before after : List SourceUnit) :
    (ofUnits (before ++ u :: u.twin path :: after)).get (fileKey u.path) =
      (ofUnits before).get (fileKey u.path) ++ (Directive.parse u.lines ++
        (Directive.parse u.lines ++ (ofUnits after).get (fileKey u.path))) := by
  simp [get_ofUnits, SourceUnit.twin, hpath]

theorem get_ofUnits_twin_of_ne (hpath : fileKey path = fileKey u.path)
    (before after : List SourceUnit) {key : String} (hne : key ≠ fileKey u.path) :
    (ofUnits (before ++ u :: u.twin path :: after)).get key =
      (ofUnits (before ++ u :: after)).get key := by
  simp [get_ofUnits, SourceUnit.twin, hpath, Ne.symm hne]

end Directive.Table

open Directive

/-- A twin brings a second copy of the directives of the file. -/
theorem enlarged_ofUnits_twin (hpath : fileKey path = fileKey u.path)
    (before after : List SourceUnit) :
    Enlarged (fileKey u.path) (Directive.parse u.lines) (Table.ofUnits (before ++ u :: after))
      (Table.ofUnits (before ++ u :: u.twin path :: after)) where
  here := ⟨_, _, Table.get_ofUnits_append before after u, Table.get_ofUnits_twin hpath before after⟩
  elsewhere := fun _ hne => Table.get_ofUnits_twin_of_ne hpath before after hne

/-- The second copy stands behind all other directives if no later file of the key has any. -/
theorem appended_ofUnits_twin (hpath : fileKey path = fileKey u.path)
    {before after : List SourceUnit}
    (hafter : ∀ v ∈ after, fileKey v.path = fileKey u.path → Directive.parse v.lines = []) :
    Appended (fileKey u.path) (Directive.parse u.lines) (Table.ofUnits (before ++ u :: after))
      (Table.ofUnits (before ++ u :: u.twin path :: after)) where
  here := by
    have hnone : (Table.ofUnits after).get (fileKey u.path) = [] := by
      rw [Table.get_ofUnits, List.flatMap_eq_nil_iff]
      intro v hv
      obtain ⟨hv, hkey⟩ := List.mem_filter.1 hv
      exact hafter v hv (eq_of_beq hkey)
    rw [Table.get_ofUnits_twin hpath, Table.get_ofUnits_append, hnone, List.append_nil,
      List.append_assoc]
  elsewhere := fun _ hne => Table.get_ofUnits_twin_of_ne hpath before after hne

/-! ### The audit with a twin -/

namespace Audit

/-- **What a twin changes.** With a twin right after a file, no further finding is active. The
active findings are the same exactly if none of them, in a file of that key, is one that a directive
of the file suits. The ignored findings are then the same too, with their reasons and directives, if
no later file of that key has directives. -/
theorem ofUnits_twin_iff (hpath : fileKey path = fileKey u.path) (before after : List SourceUnit)
    (chosen : List String) :
    let audit := ofUnits (before ++ u :: after) chosen
    let doubled := ofUnits (before ++ u :: u.twin path :: after) chosen
    doubled.findings.Sublist audit.findings ∧
      (doubled.findings = audit.findings ↔
        ∀ f ∈ audit.findings, fileKey f.file = fileKey u.path →
          ∀ d ∈ Directive.parse u.lines, d.suits f = false) ∧
      ((∀ v ∈ after, fileKey v.path = fileKey u.path → Directive.parse v.lines = []) →
        doubled.findings = audit.findings → doubled.ignored = audit.ignored) := by
  intro audit doubled
  have henlarged := enlarged_ofUnits_twin hpath before after
  have hperm := Finding.sortByPlace_perm
    (Finding.dedupe (raw (Check.select chosen) (before ++ u :: after)))
  have hsorted := Finding.sortByPlace_pairwise
    (Finding.dedupe (raw (Check.select chosen) (before ++ u :: after)))
  have hnodup := hperm.nodup_iff.2 (List.Nodup.of_map Finding.key (Finding.nodup_keys_dedupe _))
  have hjoined := dedupe_raw_twin hpath (Check.select chosen) before after
  have hiff := henlarged.active_eq_iff hsorted hnodup
  simp only [audit, doubled, ofUnits, findings_withChecks, ignored_withChecks, hjoined, suppress]
  refine ⟨henlarged.covers.run _, hiff, fun hafter hsame => ?_⟩
  exact (appended_ofUnits_twin hpath hafter).run (hiff.1 hsame)

end Audit

/-! ### A file with two calls -/

/-- A source file whose request handler calls a model on the third and on the fourth line, with a
line above the calls. -/
def SourceUnit.twoCalls (path above : String) : SourceUnit where
  path := path
  lines := ["function chat(req) \x7b", above, "  openai(1)", "  openai(2)", "\x7d"]
  root :=
    .onLine 1 "program" none "" [
      .onLine 1 "function_declaration" none "" [
        .onLine 1 "formal_parameters" (some "parameters") "(req)" [
          .onLine 1 "identifier" none "req" []],
        .onLine 3 "call_expression" none "openai(1)" [
          .onLine 3 "identifier" (some "function") "openai" [],
          .onLine 3 "arguments" (some "arguments") "(1)" []],
        .onLine 4 "call_expression" none "openai(2)" [
          .onLine 4 "identifier" (some "function") "openai" [],
          .onLine 4 "arguments" (some "arguments") "(2)" []]]]

namespace Audit

/-- A twin of a file whose directive has its finding and suits no other: nothing changes. -/
theorem ofUnits_twin_chat :
    let u := SourceUnit.chat "app.ts" "// secureai-ignore AI004: reviewed"
    let doubled := ofUnits [u, u.twin "App.js"] []
    fileKey "App.js" = fileKey u.path ∧
      doubled.findings.map (fun f => (f.file, f.line, f.ruleId)) = [("app.ts", 3, "AI003")] ∧
      doubled.ignored.map (fun i => (i.finding.ruleId, i.reason, i.directiveLine)) =
        [("AI004", "reviewed", 1)] := by
  intro u doubled
  have hpath : fileKey "App.js" = fileKey u.path := by decide +kernel
  obtain ⟨-, hiff, hignored⟩ := ofUnits_twin_iff hpath [] [] []
  have hrun : (Finding.dedupe (raw Check.all [u])).Pairwise (fun f g => f.placeLe g = true) ∧
      ((unsorted Check.all [u]).active.map fun f => (f.file, f.line, f.ruleId)) =
        [("app.ts", 3, "AI003")] ∧
      ((unsorted Check.all [u]).ignored.map fun i =>
        (i.finding.ruleId, i.reason, i.directiveLine)) = [("AI004", "reviewed", 1)] ∧
      ∀ f ∈ (unsorted Check.all [u]).active, fileKey f.file = fileKey u.path →
        ∀ d ∈ Directive.parse u.lines, d.suits f = false := by
    decide +kernel
  obtain ⟨hactive, hsuppressed⟩ := withChecks_of_sorted hrun.1
  have hsame : doubled.findings = (ofUnits [u] []).findings := by
    refine hiff.2 ?_
    rw [List.nil_append, ofUnits_nil, hactive]
    exact hrun.2.2.2
  refine ⟨hpath, ?_, ?_⟩
  · rw [hsame, ofUnits_nil, hactive, hrun.2.1]
  · have hkept : doubled.ignored = (ofUnits [u] []).ignored := hignored (by simp) hsame
    rw [hkept, ofUnits_nil, hsuppressed, hrun.2.2.1]

/-- The one directive of a file with two findings leaves one of them active; with a twin of the
file, none is. -/
theorem twin_suppresses_second_call :
    let u := SourceUnit.twoCalls "app.ts" "  // secureai-ignore AI003: reviewed"
    fileKey "App.ts" = fileKey u.path ∧
      (ofUnits [u] []).findings.map (fun f => (f.line, f.ruleId)) = [(4, "AI003")] ∧
      (ofUnits [u, u.twin "App.ts"] []).findings = [] := by
  intro u
  have hrun : (Finding.dedupe (raw Check.all [u])).Pairwise (fun f g => f.placeLe g = true) ∧
      (unsorted Check.all [u]).active.map (fun f => (f.line, f.ruleId)) = [(4, "AI003")] := by
    decide +kernel
  have hdoubled : (Finding.dedupe (raw Check.all [u, u.twin "App.ts"])).Pairwise
        (fun f g => f.placeLe g = true) ∧
      (unsorted Check.all [u, u.twin "App.ts"]).active = [] := by
    decide +kernel
  refine ⟨by decide +kernel, ?_, ?_⟩
  · rw [ofUnits_nil, (withChecks_of_sorted hrun.1).1, hrun.2]
  · rw [ofUnits_nil, (withChecks_of_sorted hdoubled.1).1, hdoubled.2]

end Audit

end LlmAudit
