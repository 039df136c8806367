import LlmAudit.Dependency.Guard
import LlmAudit.Proofs.Audit.Independence
import LlmAudit.Proofs.Baseline.Rerun
import LlmAudit.Proofs.Baseline.Saving
import LlmAudit.Proofs.Finding.Keys
import LlmAudit.Proofs.Number.Sum

/-!
# Scanning an unchanged project again

The subject is Scenario B of Section 8 (Testable Properties) of the specification: a source scanned
again with the baseline of the first run has no new findings.

A baseline knows of a key what the last finding with that key said. If that one is less severe or
less sure than another finding of the key, a run on the very findings that made the baseline reports
the other one again. The findings of a scan are not like that (`Baseline.Level`): no two findings of
an audit share a key (`Audit.nodup_keys_findings`), findings about dependencies that share one are
equally severe and sure (`Baseline.level_dependencies`), and the two kinds have no rule in common. A
scan that finds what made the baseline therefore reports nothing (`Baseline.compare_rescan`).
-/

namespace LlmAudit

/-! ### Findings of an audit -/

namespace Audit

variable {checks : List Check} {units : List SourceUnit} {f g : Finding}

theorem mem_raw_of_mem_findings (h : f ∈ (withChecks checks units).findings) :
    f ∈ raw checks units := by
  have hsorted := (active_sublist _ _).subset h
  have hjoined := (Finding.sortByPlace_perm _).subset hsorted
  exact (Finding.dedupe_sublist _).subset hjoined

/-- Every finding of an audit comes from a check. -/
theorem exists_reports_of_mem_findings (h : f ∈ (withChecks checks units).findings) :
    ∃ (c : Check) (unit : SourceUnit), c.Reports unit f := by
  obtain ⟨c, -, hc⟩ := List.mem_flatMap.1 (mem_raw_of_mem_findings h)
  obtain ⟨unit, -, hreports⟩ := Check.exists_reports_of_mem_run hc
  exact ⟨c, unit, hreports⟩

/-- The rule of a check's finding determines its summary. -/
theorem key_eq_of_keyOf_eq {c c' : Check} {unit unit' : SourceUnit} (hf : c.Reports unit f)
    (hg : c'.Reports unit' g) (h : Baseline.keyOf f = Baseline.keyOf g) : f.key = g.key := by
  rw [Baseline.keyOf, Baseline.keyOf, Baseline.Key.mk.injEq] at h
  obtain ⟨hrule, hfile, hline⟩ := h
  rw [LooseText.ofString_inj] at hrule
  rw [LooseText.fileKey_ofString, LooseText.fileKey_ofString, LooseText.ofString_inj] at hfile
  have hcheck : c = c' := Check.eq_of_mem_emits hf.rule (hrule ▸ hg.rule)
  have hsummary : f.summary = g.summary := by
    rw [hf.summary, hg.summary, hcheck]
  rw [Finding.key, Finding.key, hrule, hfile, hline, hsummary]

/-- No two findings of an audit are looked up under one key. -/
theorem nodup_keys_findings (checks : List Check) (units : List SourceUnit) :
    ((withChecks checks units).findings.map Baseline.keyOf).Nodup := by
  have hsorted := ((Finding.sortByPlace_perm (Finding.dedupe (raw checks units))).map
    Finding.key).nodup_iff.2 (Finding.nodup_keys_dedupe _)
  have hkeys : ((withChecks checks units).findings.map Finding.key).Nodup :=
    hsorted.sublist ((active_sublist _ _).map Finding.key)
  rw [List.Nodup, List.pairwise_map] at hkeys ⊢
  refine hkeys.imp_of_mem fun {f g} hf hg hne heq => hne ?_
  obtain ⟨c, unit, hc⟩ := exists_reports_of_mem_findings hf
  obtain ⟨c', unit', hc'⟩ := exists_reports_of_mem_findings hg
  exact key_eq_of_keyOf_eq hc hc' heq

end Audit

/-! ### Findings about dependencies -/

namespace Dependency

variable {admits : Checker} {bound : Nat} {t : FileTree} {folder : Path} {found : List Finding}
  {f : Finding}

/-- A finding about a dependency tells of an unknown package or of a lookalike. -/
theorem eq_of_mem_findings (h : findings admits bound t folder = .ok found) (hf : f ∈ found) :
    ∃ m, f = unknownFinding m ∨ ∃ popular, f = lookalikeFinding m popular := by
  rw [findings] at h
  cases hmentions : Manifest.mentions bound t folder with
  | error e =>
    rw [hmentions] at h
    cases h
  | ok mentions =>
    rw [hmentions] at h
    cases h
    obtain ⟨m, -, hm⟩ := List.mem_filterMap.1 hf
    rw [inspect] at hm
    split at hm
    · obtain ⟨popular, -, rfl⟩ := Option.map_eq_some_iff.1 hm
      exact ⟨m, .inr ⟨popular, rfl⟩⟩
    · cases hm
      exact ⟨m, .inl rfl⟩

/-- No check reports under a rule about dependencies. -/
theorem ruleId_notMem_emits (h : findings admits bound t folder = .ok found) (hf : f ∈ found)
    (c : Check) : f.ruleId ∉ c.emits := by
  have hunknown : "LLM_DEP001" ∉ c.emits := by cases c <;> decide
  have hlookalike : "LLM_DEP002" ∉ c.emits := by cases c <;> decide
  obtain ⟨m, rfl | ⟨popular, rfl⟩⟩ := eq_of_mem_findings h hf
  · exact hunknown
  · exact hlookalike

end Dependency

namespace Baseline

/-! ### Findings that are level -/

/-- Findings of one key are equally severe and equally sure. -/
def Level (findings : List Finding) : Prop :=
  ∀ f ∈ findings, ∀ g ∈ findings, keyOf f = keyOf g →
    f.severity = g.severity ∧ f.confidence = g.confidence

theorem level_nil : Level [] :=
  fun _ hf => absurd hf List.not_mem_nil

theorem Level.append {fs gs : List Finding} (hfs : Level fs) (hgs : Level gs)
    (hrules : ∀ f ∈ fs, ∀ g ∈ gs, f.ruleId ≠ g.ruleId) : Level (fs ++ gs) := by
  intro f hf g hg hkey
  have hrule : f.ruleId = g.ruleId := LooseText.ofString_injective (congrArg Key.ruleId hkey)
  rcases List.mem_append.1 hf with hf | hf <;> rcases List.mem_append.1 hg with hg | hg
  · exact hfs f hf g hg hkey
  · exact absurd hrule (hrules f hf g hg)
  · exact absurd hrule.symm (hrules g hg f hf)
  · exact hgs f hf g hg hkey

theorem level_audit (checks : List Check) (units : List SourceUnit) :
    Level (Audit.withChecks checks units).findings := by
  intro f hf g hg hkey
  have heq : f = g :=
    List.inj_on_of_nodup_map (Audit.nodup_keys_findings checks units) hf hg hkey
  exact ⟨by rw [heq], by rw [heq]⟩

theorem level_dependencies {admits : Dependency.Checker} {bound : Nat} {t : FileTree}
    {folder : Path} {found : List Finding}
    (h : Dependency.findings admits bound t folder = .ok found) :
    Level found := by
  intro f hf g hg hkey
  have hrule : f.ruleId = g.ruleId := LooseText.ofString_injective (congrArg Key.ruleId hkey)
  have hdistinct : "LLM_DEP001" ≠ "LLM_DEP002" := by decide
  obtain ⟨m, rfl | ⟨popular, rfl⟩⟩ := Dependency.eq_of_mem_findings h hf <;>
    obtain ⟨m', rfl | ⟨popular', rfl⟩⟩ := Dependency.eq_of_mem_findings h hg
  · exact ⟨rfl, rfl⟩
  · exact absurd hrule hdistinct
  · exact absurd hrule hdistinct.symm
  · exact ⟨rfl, rfl⟩

/-- The findings of a scan, with those about dependencies or without, are level. -/
theorem level_scan {found : List Finding} (checks : List Check) (units : List SourceUnit)
    (hfound : found = [] ∨
      ∃ admits bound project folder,
        Dependency.findings admits bound project folder = .ok found) :
    Level ((Audit.withChecks checks units).findings ++ found) := by
  rcases hfound with rfl | ⟨admits, bound, project, folder, hfound⟩
  · exact (level_audit checks units).append level_nil fun _ _ _ hg => absurd hg List.not_mem_nil
  · refine (level_audit checks units).append (level_dependencies hfound) fun f hf g hg hrule => ?_
    obtain ⟨c, unit, hc⟩ := Audit.exists_reports_of_mem_findings hf
    exact Dependency.ruleId_notMem_emits hfound hg c (hrule ▸ hc.rule)

/-! ### A run on what the baseline knows -/

/-- No confidence is above itself by more than the margin. -/
theorem add_margin_not_lt (c : Confidence) : (c.value.add margin).lt c.value = false :=
  Binary64.add_not_lt (Bool.and_eq_true_iff.1 c.inUnit).1 (by decide +kernel)

/-- Level findings are not reported when they are what is known. -/
theorem isReported_eq_false {known : List Finding} (hlevel : Level known) {f : Finding}
    (hf : f ∈ known) : isReported known f = false := by
  have hmem : f ∈ known.filter fun b => keyOf b == keyOf f :=
    List.mem_filter.2 ⟨hf, beq_self_eq_true _⟩
  cases hlast : lastAlike? known f with
  | none =>
    rw [lastAlike?, List.getLast?_eq_none_iff] at hlast
    rw [hlast] at hmem
    exact absurd hmem List.not_mem_nil
  | some b =>
    obtain ⟨hb, hkey⟩ := List.mem_filter.1 (List.mem_of_getLast? hlast)
    obtain ⟨hseverity, hconfidence⟩ := hlevel b hb f hf (eq_of_beq hkey)
    have hnot := add_margin_not_lt f.confidence
    rw [margin] at hnot
    simp only [isReported, hlast, hseverity, hconfidence, hnot, Nat.lt_irrefl, decide_false,
      Bool.or_self]

/-- After a run that made the baseline, a run on the same findings finds the baseline and reports
what is new or worse than itself. -/
theorem compare_again {limit : Json.DepthLimit} {t u : FileTree} {path : Path} {now : String}
    {findings : List Finding} {c : Comparison}
    (hfirst : compare limit t path now findings = (.ok c, u))
    (hcreated : c.created = true) (later : String) :
    compare limit u path later findings =
      (.ok ⟨false, path.render, findings.filter (isReported findings), findings.length,
        findings.length⟩, u) := by
  obtain ⟨-, place, hwritten⟩ := written_of_compare_created hfirst hcreated
  obtain ⟨d, hsave⟩ := save_of_compare_created hfirst hcreated
  have hload := load_of_written hwritten rfl (Document.kept_ofFindings now findings)
    (writable_of_save hsave) limit
  have hnew := newOrWorse_ofFindings now findings findings
  have hcount := length_entries_ofFindings now findings
  rw [compare, if_pos hwritten.has, hload]
  dsimp only
  rw [hnew, hcount]

/-- A scan that finds what the scan that made the baseline found reports nothing: all findings count
as unchanged. This is so for all source files, all choices of checks, and whatever the dependencies
are and the registries know of them. -/
theorem compare_rescan (units : List SourceUnit) (chosen : List String) {found : List Finding}
    (hfound : found = [] ∨
      ∃ admits bound project folder,
        Dependency.findings admits bound project folder = .ok found)
    {limit : Json.DepthLimit} {t u : FileTree} {path : Path} {now : String} {c : Comparison}
    (hfirst : compare limit t path now ((Audit.ofUnits units chosen).findings ++ found) = (.ok c, u))
    (hcreated : c.created = true) (later : String) :
    ∃ c', compare limit u path later ((Audit.ofUnits units chosen).findings ++ found) = (.ok c', u) ∧
      c'.created = false ∧
      c'.findings = [] ∧
      c'.unchangedCount = ((Audit.ofUnits units chosen).findings ++ found).length := by
  have hlevel : Level ((Audit.ofUnits units chosen).findings ++ found) := level_scan _ units hfound
  generalize (Audit.ofUnits units chosen).findings ++ found = findings at hfirst hlevel ⊢
  have hnone : findings.filter (isReported findings) = [] := by
    rw [List.filter_eq_nil_iff]
    intro f hf hreported
    rw [isReported_eq_false hlevel hf] at hreported
    cases hreported
  refine ⟨_, compare_again hfirst hcreated later, rfl, hnone, ?_⟩
  rw [Comparison.unchangedCount, Comparison.newCount, hnone]
  simp

/-- A project that asks for two packages on one line. -/
def twoPackages : FileTree :=
  .put .empty ["package.json"]
    (.file (Utf8.encode "\x7b\"dependencies\": \x7b\"a\": 1, \"b\": 2\x7d\x7d".toList))

/-- The finding for a package on the first line of the manifest that is not known. -/
def unknownPackage (name : String) : Finding :=
  Dependency.unknownFinding ⟨.npm, .ofString name, "package.json", 1⟩

/-- Two findings about packages have one key, beside two findings of the audit: the second scan
reports none of the four. -/
theorem compare_rescan_packages :
    let found := [unknownPackage "a", unknownPackage "b"]
    let findings := (Audit.ofUnits [SourceUnit.chat "app.ts" ""] []).findings ++ found
    found.map keyOf = List.replicate 2 (keyOf (unknownPackage "a")) ∧
    Dependency.findings (fun _ _ => false) 2 twoPackages (.parse "/") = .ok found ∧
    ∃ u c c',
      compare tightest .empty rootBaseline "now" findings = (.ok c, u) ∧
      c.created = true ∧
      compare tightest u rootBaseline "later" findings = (.ok c', u) ∧
      c'.findings = [] ∧
      c'.unchangedCount = 4 := by
  intro found findings
  have hfound : Dependency.findings (fun _ _ => false) 2 twoPackages (.parse "/") = .ok found := by
    decide +kernel
  have hrun : (Finding.dedupe (Audit.raw Check.all [SourceUnit.chat "app.ts" ""])).Pairwise
        (fun f g => f.placeLe g = true) ∧
      (Audit.unsorted Check.all [SourceUnit.chat "app.ts" ""]).active.map Finding.line = [3, 3] := by
    decide +kernel
  have hplaces : findings.map Finding.line = [3, 3, 1, 1] := by
    rw [List.map_append, Audit.ofUnits_nil, (Audit.withChecks_of_sorted hrun.1).1, hrun.2]
    rfl
  have hwritable : ∀ n ∈ ([3, 3, 1, 1] : List Int), isWritable n = true := by decide
  have hlines : ∀ b ∈ findings, isWritable b.line = true :=
    fun b hb => hwritable b.line (hplaces ▸ List.mem_map_of_mem hb)
  obtain ⟨-, u, hsave, -⟩ := save_of_vacant vacant_rootBaseline "now" hlines
  have hfirst : compare tightest .empty rootBaseline "now" findings =
      (.ok ⟨true, rootBaseline.render, findings, findings.length, findings.length⟩, u) := by
    rw [compare, if_neg (by rw [vacant_rootBaseline.absent]; decide), hsave]
  obtain ⟨c', hsecond, -, hnone, hcount⟩ := compare_rescan [SourceUnit.chat "app.ts" ""] []
    (.inr ⟨_, _, _, _, hfound⟩) hfirst rfl "later"
  have hlength : findings.length = 4 := by
    rw [← List.length_map (f := Finding.line), hplaces]
    rfl
  refine ⟨by decide, hfound, u, _, c', hfirst, rfl, hsecond, hnone, ?_⟩
  rw [hcount, hlength]
  rfl

end Baseline

end LlmAudit
