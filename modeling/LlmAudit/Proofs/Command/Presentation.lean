import LlmAudit.Proofs.Audit.Independence
import LlmAudit.Proofs.Command.FailedScan
import LlmAudit.Proofs.Report.Grouping

/-!
# How an audit is presented does not touch the baseline

The subject are the options of Section 17 (CLI) of the specification that say how an audit is
presented.

Two audits of the same files that are asked for the same, and differ in how they are presented only,
inspect the same (`Scan.Evidence.Supports.agree`). What is stored in the baseline and compared with
it is settled before anything is left out of the report, so both give the same comparison
(`Scan.Compared.agree`), and the baseline afterwards is the same up to the time that is noted in it
(`presentation_keeps_baseline`).
-/

namespace LlmAudit

open FileTree (Written)

/-- Options that ask for the same audit. How it is presented may differ: the least severity that is
reported, the greatest number of findings in the summary, the format, the file for the report, and
what else is printed. -/
structure ScanOptions.SameAudit (o o' : ScanOptions) : Prop where
  /-- The same folder. -/
  path : o'.path = o.path
  /-- The same checks. -/
  rules : o'.rules = o.rules
  /-- The same restriction of the checks. -/
  onlyModelChecks : o'.onlyModelChecks = o.onlyModelChecks
  /-- The same look at dependencies. -/
  dependencies : o'.dependencies = o.dependencies
  /-- The same settings. -/
  config : o'.config = o.config
  /-- The same baseline. -/
  baseline : o'.baseline = o.baseline

/-- What a report as JSON tells of the baseline depends on the comparison only. -/
theorem Report.field?_baseline_congr {r r' : Report} (h : r'.baseline = r.baseline) :
    r'.toJson.field? "baseline_diff" = r.toJson.field? "baseline_diff" := by
  rw [Report.toJson, Report.toJson, h]
  rfl

namespace Scan

variable {m : Machine} {o o' : ScanOptions} {i i' : Inspection} {later : String}
variable {files t u t' : FileTree} {b b' : Option Baseline.Comparison} {r : Report} {path : Path}

/-! ### Audits that go through -/

theorem exists_supports (h : Inspects m files o i) : ∃ v : Evidence, v.Supports m files o i := by
  rcases inspect_yields m o (start files) with ⟨j, hj, hgoes⟩ | hends
  · obtain ⟨rfl, -⟩ := h.unique hgoes
    exact hj
  · exact absurd h hends.not_goes

/-- An audit does with its files what the presentation of its report does. -/
theorem run_eq_present (hi : Inspects m files o i) (hc : Compared m files i b t)
    (hr : i.report m t b = .ok r) :
    ∃ s : Session, s.files = t ∧
      (run m o).exec (start files) = (present m o i.format r).exec s := by
  obtain ⟨s₁, hs₁, hfiles₁⟩ := hi
  obtain ⟨s₂, hs₂, hfiles₂⟩ := compareAsked_goes (hfiles₁.symm ▸ hc)
  have hfiles : Run.files.exec s₂ = (.ok t, s₂) := by
    rw [← hfiles₂]
    rfl
  have hmade : (Run.orCrash (.ok r) : Run Report).exec s₂ = (.ok r, s₂) := rfl
  refine ⟨s₂, hfiles₂, ?_⟩
  rw [run, Run.exec_bind, hs₁]
  dsimp only
  rw [Run.exec_bind, hs₂]
  dsimp only
  rw [Run.exec_bind, hfiles]
  dsimp only
  rw [hr, Run.exec_bind, hmade]

/-- An audit inspects, compares, makes its report and stores it, or it ends with code one. -/
theorem run_cases (m : Machine) (files : FileTree) (o : ScanOptions) :
    (∃ i b t r u, Inspects m files o i ∧ Compared m files i b t ∧ i.report m t b = .ok r ∧
        Stored m o r t u ∧ (run m o).Goes (start files) () u) ∨
      ∃ u, (run m o).Ends (start files) u := by
  rcases compares_or_addsFolders m files o with ⟨i, b, t, hi, hc⟩ | ⟨u, -, hends⟩
  · cases hr : i.report m t b with
    | error e => exact .inr ⟨t, run_ends_of_unmade hi hc hr⟩
    | ok r =>
      by_cases hcannot : CannotStore m o r t ∨ CannotPrint m i.format r
      · obtain ⟨u, -, hends⟩ := present_ends_of_cannotStore hcannot
        exact .inr ⟨u, run_ends hi hc hr hends⟩
      · obtain ⟨hstore, hprint⟩ := not_or.1 hcannot
        rcases stored_cases m o r t with ⟨u, hstored⟩ | ⟨u, hemptied⟩ | hcannot
        · by_cases hpage : Malformed m.emoji (shownPage o i.format r)
          · refine .inr ⟨u, run_ends hi hc hr fun s' hs' => ?_⟩
            exact present_ends_of_malformed hs' hstored hpage
          · exact .inl ⟨i, b, t, r, u, hi, hc, hr, hstored,
              run_goes hi hc hr fun s' hs' => present_goes hs' hstored hprint hpage⟩
        · refine .inr ⟨u, run_ends hi hc hr fun s' hs' => ?_⟩
          exact present_ends_of_emptied hs' hemptied hprint
        · exact absurd hcannot hstore
  · exact .inr ⟨u, hends⟩

/-- An audit presents a report: what it has found, compared with the baseline. -/
def Presents (m : Machine) (files : FileTree) (o : ScanOptions) (r : Report) : Prop :=
  ∃ i b s, Inspects m files o i ∧ Compared m files i b s.files ∧ i.report m s.files b = .ok r ∧
    (run m o).exec (start files) = (present m o i.format r).exec s

theorem presents (hi : Inspects m files o i) (hc : Compared m files i b t)
    (hr : i.report m t b = .ok r) : Presents m files o r := by
  obtain ⟨s, rfl, hrun⟩ := run_eq_present hi hc hr
  exact ⟨i, b, s, hi, hc, hr, hrun⟩

/-- The comparison in a report is the one it is made with. -/
theorem baseline_of_report (hr : i.report m t b = .ok r) : r.baseline = b :=
  (Report.of_build_eq_ok hr).2.1

/-! ### Two audits -/

/-- Inspections that are asked for the same see the same. -/
theorem Evidence.Supports.agree {v v' : Evidence} (h : v.Supports m files o i)
    (h' : v'.Supports { m with now := later } files o' i') (hsame : o.SameAudit o') :
    i'.findings = i.findings ∧ i'.baselinePath = i.baselinePath := by
  have hfolder : i'.folder = i.folder := by
    have hfolder' := h'.folder
    rw [hsame.path] at hfolder'
    exact Except.ok.inj (hfolder'.symm.trans h.folder)
  have hsettings : v'.settings = v.settings := by
    have hsettings' := h'.settings
    rw [hsame.config, hfolder] at hsettings'
    exact Except.ok.inj (hsettings'.symm.trans h.settings)
  have hrules : v'.rules = v.rules := by
    have hrules' := h'.rules
    rw [hsame.rules, hsame.onlyModelChecks, hsettings] at hrules'
    exact Except.ok.inj (hrules'.symm.trans h.rules)
  have hunits : v'.units = v.units := by
    have hunits' := h'.units
    rw [hfolder, hsettings] at hunits'
    exact Except.ok.inj (hunits'.symm.trans h.units)
  have hdependencies : v'.dependencies = v.dependencies := by
    have hasked := h.dependencies
    have hasked' := h'.dependencies
    rw [hsame.dependencies, hfolder] at hasked'
    split at hasked
    · rename_i hdeps
      rw [if_pos hdeps] at hasked'
      exact Except.ok.inj (hasked'.symm.trans hasked)
    · rename_i hdeps
      rw [if_neg hdeps] at hasked'
      exact hasked'.trans hasked.symm
  constructor
  · rw [h'.findings, h.findings, h'.audit, h.audit, hunits, hrules, hdependencies]
  · have hpath' := h'.baselinePath
    rw [hfolder, hsame.baseline, hsettings] at hpath'
    exact Except.ok.inj (hpath'.symm.trans h.baselinePath)

/-- A comparison that is asked for is one with the baseline at the resolved path. -/
theorem Compared.exists_compare (h : Compared m t i b u) {given : Path}
    (hgiven : i.baselinePath = some given) :
    ∃ path c, resolvePath m.workingDir given = .ok path ∧ b = some c ∧
      Baseline.compare m.limits.baseline t path m.now i.findings = (.ok c, u) := by
  cases h with
  | unasked hnone =>
    rw [hgiven] at hnone
    cases hnone
  | asked hsome hresolve hcompare =>
    rw [hgiven, Option.some.injEq] at hsome
    subst hsome
    exact ⟨_, _, hresolve, rfl, hcompare⟩

theorem Compared.eq_none (h : Compared m t i b u) (hnone : i.baselinePath = none) : b = none := by
  cases h with
  | unasked _ => rfl
  | asked hsome _ _ =>
    rw [hnone] at hsome
    cases hsome

/-- Two comparisons of the same findings with the same baseline give the same. -/
theorem Compared.agree (h : Compared m files i b t)
    (h' : Compared { m with now := later } files i' b' t') (hfindings : i'.findings = i.findings)
    (hpath : i'.baselinePath = i.baselinePath) : b' = b := by
  cases hgiven : i.baselinePath with
  | none => rw [h.eq_none hgiven, h'.eq_none (hpath.trans hgiven)]
  | some given =>
    obtain ⟨path, c, hresolve, rfl, hcompare⟩ := h.exists_compare hgiven
    obtain ⟨path', c', hresolve', rfl, hcompare'⟩ := h'.exists_compare (hpath.trans hgiven)
    obtain rfl := Except.ok.inj (hresolve.symm.trans hresolve')
    rw [hfindings] at hcompare'
    rw [Baseline.eq_of_compare_later hcompare hcompare']

/-! ### The file of the baseline -/

/-- The absolute path of the baseline that an audit works with. -/
def BaselineAt (m : Machine) (files : FileTree) (o : ScanOptions) (path : Path) : Prop :=
  ∃ i given, Inspects m files o i ∧ i.baselinePath = some given ∧
    resolvePath m.workingDir given = .ok path

/-- The report is not stored at a path. -/
def StoresElsewhere (m : Machine) (o : ScanOptions) (path : Path) : Prop :=
  ∀ output, nonEmpty o.output = some output → Path.resolve m.workingDir (.parse output) ≠ path

/-- A file at a resolved path stays as it is when a report is stored elsewhere. -/
theorem Stored.read_eq (h : Stored m o r t u) {given : Path}
    (hresolve : resolvePath m.workingDir given = .ok path) (helsewhere : StoresElsewhere m o path)
    {bytes : List UInt8} (hread : t.read path = .ok bytes) : u.read path = .ok bytes := by
  cases h with
  | unasked hnone => exact hread
  | @asked output text cs u houtput htext hcs hwrite =>
    have hparts := not_mem_parts_of_resolvePath hresolve
    rw [FileTree.read_eq_ok_iff hparts] at hread ⊢
    refine ⟨hread.1, ?_⟩
    obtain ⟨place, hwritten⟩ := FileTree.written_of_writeMaking hwrite
    have hne : path.parts ≠ place := by
      intro heq
      refine helsewhere output houtput ?_
      rw [Path.resolve, ← FileTree.eq_collapse_of_locate hwritten.located, ← heq]
      rw [resolvePath] at hresolve
      split at hresolve
      · cases hresolve
        rfl
      · cases hresolve
    rcases hwritten.elsewhere path.parts hne with hkept | ⟨hnone, -⟩
    · rw [hkept, hread.2]
    · rw [hread.2] at hnone
      cases hnone

end Scan

/-- The bytes of one baseline in two files, up to the times at which each was made. -/
inductive Baseline.SameButTime (now later : String) : List UInt8 → List UInt8 → Prop where
  /-- Neither run has made the baseline. -/
  | kept (bytes : List UInt8) : SameButTime now later bytes bytes
  /-- Each run has made it. -/
  | made (d : Document) : SameButTime now later (Utf8.encode { d with createdAt := now }.text)
      (Utf8.encode { d with createdAt := later }.text)

namespace Scan

variable {m : Machine} {o o' : ScanOptions} {i i' : Inspection} {later : String}
variable {files t u t' u' : FileTree} {b b' : Option Baseline.Comparison} {r r' : Report}

/-- After two comparisons that give the same, the baseline is the same up to its time, wherever else
the reports are stored. -/
theorem Compared.sameButTime {given path : Path} (h : Compared m files i b t)
    (h' : Compared { m with now := later } files i' b' t') (hfindings : i'.findings = i.findings)
    (hpath : i'.baselinePath = i.baselinePath) (hgiven : i.baselinePath = some given)
    (hresolve : resolvePath m.workingDir given = .ok path) :
    ∃ bytes bytes', t.read path = .ok bytes ∧ t'.read path = .ok bytes' ∧
      Baseline.SameButTime m.now later bytes bytes' := by
  obtain ⟨resolved, c, hresolved, -, hcompare⟩ := h.exists_compare hgiven
  obtain ⟨resolved', c', hresolved', -, hcompare'⟩ := h'.exists_compare (hpath.trans hgiven)
  obtain rfl := Except.ok.inj (hresolve.symm.trans hresolved)
  obtain rfl := Except.ok.inj (hresolve.symm.trans hresolved')
  rw [hfindings] at hcompare'
  -- whether a baseline is found does not depend on the time
  rcases Baseline.read_of_compare hcompare with ⟨hhas, old, hold, hread⟩ | ⟨hhas, hread⟩
  · rcases Baseline.read_of_compare hcompare' with ⟨-, old', hold', hread'⟩ | ⟨hhas', -⟩
    · obtain rfl := Except.ok.inj (hold.symm.trans hold')
      exact ⟨old, old, hread, hread', .kept old⟩
    · exact absurd (hhas.symm.trans hhas') (by simp)
  · rcases Baseline.read_of_compare hcompare' with ⟨hhas', -⟩ | ⟨-, hread'⟩
    · exact absurd (hhas'.symm.trans hhas) (by simp)
    · exact ⟨_, _, hread, hread', .made (Baseline.Document.ofFindings m.now i.findings)⟩

end Scan

/-! ### Command lines -/

/-- A command line for an audit that ends with code zero has inspected, compared and stored its
report. -/
theorem exists_stored_of_exitCode {m : Machine} {files : FileTree} {words : List String}
    {o : ScanOptions} (hparse : Invocation.parse words = .ok (.scan o))
    (hcode : (runCommandLine m files words).ending.exitCode = 0) :
    ∃ i b t r, Scan.Inspects m files o i ∧ Scan.Compared m files i b t ∧ i.report m t b = .ok r ∧
      Scan.Stored m o r t (runCommandLine m files words).session.files := by
  rcases Scan.run_cases m files o with
    ⟨i, b, t, r, u, hi, hc, hr, hstored, s, hs, rfl⟩ | ⟨u, e, s, hs, he, -⟩
  · rw [runCommandLine_of_ok hparse hs]
    exact ⟨i, b, t, r, hi, hc, hr, hstored⟩
  · rw [runCommandLine_of_error hparse hs, he] at hcode
    cases hcode

/-- **How an audit is presented does not touch the baseline.** Two audits of the same files by the
same machine at two times, which ask for the same but for the presentation, end with code zero and
store no report in place of the baseline: their reports tell the same comparison with the baseline,
and the baseline is the same afterwards, up to the time that is noted in it. -/
theorem presentation_keeps_baseline {m : Machine} {later : String} {files : FileTree}
    {words words' : List String} {o o' : ScanOptions}
    (hparse : Invocation.parse words = .ok (.scan o))
    (hparse' : Invocation.parse words' = .ok (.scan o')) (hsame : o.SameAudit o')
    (hcode : (runCommandLine m files words).ending.exitCode = 0)
    (hcode' : (runCommandLine { m with now := later } files words').ending.exitCode = 0)
    (helsewhere : ∀ path, Scan.BaselineAt m files o path →
      Scan.StoresElsewhere m o path ∧ Scan.StoresElsewhere m o' path) :
    (∃ r r', Scan.Presents m files o r ∧ Scan.Presents { m with now := later } files o' r' ∧
      r'.toJson.field? "baseline_diff" = r.toJson.field? "baseline_diff") ∧
    ∀ path, Scan.BaselineAt m files o path → ∃ bytes bytes',
      (runCommandLine m files words).session.files.read path = .ok bytes ∧
      (runCommandLine { m with now := later } files words').session.files.read path = .ok bytes' ∧
      Baseline.SameButTime m.now later bytes bytes' := by
  obtain ⟨i, b, t, r, hi, hc, hr, hstored⟩ := exists_stored_of_exitCode hparse hcode
  obtain ⟨i', b', t', r', hi', hc', hr', hstored'⟩ := exists_stored_of_exitCode hparse' hcode'
  obtain ⟨v, hv⟩ := Scan.exists_supports hi
  obtain ⟨v', hv'⟩ := Scan.exists_supports hi'
  obtain ⟨hfindings, hpath⟩ := hv.agree hv' hsame
  refine ⟨⟨r, r', Scan.presents hi hc hr, Scan.presents hi' hc' hr', ?_⟩, ?_⟩
  · have hbaseline : r'.baseline = r.baseline := by
      rw [Scan.baseline_of_report hr', Scan.baseline_of_report hr, hc.agree hc' hfindings hpath]
    exact Report.field?_baseline_congr hbaseline
  · intro path hbaseline
    obtain ⟨helse, helse'⟩ := helsewhere path hbaseline
    obtain ⟨j, given, hj, hgiven, hresolve⟩ := hbaseline
    obtain ⟨rfl, -⟩ := Run.Goes.unique hi hj
    obtain ⟨bytes, bytes', hread, hread', htime⟩ :=
      hc.sameButTime hc' hfindings hpath hgiven hresolve
    exact ⟨bytes, bytes', hstored.read_eq hresolve helse hread,
      hstored'.read_eq hresolve helse' hread', htime⟩

/-- A first run that tells its summary, and one that leaves out all but severe findings, prints and
stores its report as JSON and keeps quiet: both make the same baseline. -/
theorem presentation_keeps_baseline_severe :
    let m : Machine :=
      { workingDir := .parse "/"
        parser := fun _ _ source => .onLine 1 "program" none source [
          .onLine 1 "call_expression" none "x.messages.create()" [
            .onLine 1 "identifier" (some "function") "x.messages.create" [],
            .onLine 1 "arguments" (some "arguments") "()" []]]
        registry := fun _ => .unreachable
        now := "2026-01-01T00:00:00"
        emoji := .none
        limits := ⟨8, 8, ⟨8, by decide⟩, ⟨8, by decide⟩⟩ }
    let files := FileTree.empty.put ["app.ts"] (.file [])
    let words := ["scan", ".", "--baseline", "base.json"]
    let words' := ["scan", ".", "--baseline", "base.json", "--severity", "high", "--limit", "1",
      "--format", "json", "--output", "report.json", "--quiet", "--debug"]
    let later := "2026-01-02T00:00:00"
    let out := runCommandLine m files words
    let out' := runCommandLine { m with now := later } files words'
    files.has (.parse "/base.json") = false ∧ ∃ bytes bytes',
      out.session.files.read (.parse "/base.json") = .ok bytes ∧
      out'.session.files.read (.parse "/base.json") = .ok bytes' ∧
      Baseline.SameButTime m.now later bytes bytes' := by
  intro m files words words' later
  change files.has (.parse "/base.json") = false ∧ ∃ bytes bytes',
    (runCommandLine m files words).session.files.read (.parse "/base.json") = .ok bytes ∧
    (runCommandLine { m with now := later } files words').session.files.read
      (.parse "/base.json") = .ok bytes' ∧ Baseline.SameButTime m.now later bytes bytes'
  let o : ScanOptions := ⟨".", none, none, false, 5, none, none, some "base.json", false, none,
    false, false⟩
  let o' : ScanOptions := { o with
    severity := some "high", limit := 1, format := some "json", output := some "report.json"
    debug := true, quiet := true }
  have hparse : Invocation.parse words = .ok (.scan o) := by with_unfolding_all rfl
  have hparse' : Invocation.parse words' = .ok (.scan o') := by with_unfolding_all rfl
  have hcode : (runCommandLine m files words).ending.exitCode = 0 := by decide +kernel
  have hcode' : (runCommandLine { m with now := later } files words').ending.exitCode = 0 := by
    decide +kernel
  have hpath : ∀ i, Scan.Inspects m files o i → i.baselinePath = some (.parse "base.json") := by
    intro i hi
    obtain ⟨v, hv⟩ := Scan.exists_supports hi
    exact (Except.ok.inj hv.baselinePath).symm
  have hresolve : resolvePath m.workingDir (.parse "base.json") = .ok (.parse "/base.json") := by
    decide +kernel
  have helsewhere : ∀ path, Scan.BaselineAt m files o path →
      Scan.StoresElsewhere m o path ∧ Scan.StoresElsewhere m o' path := by
    rintro path ⟨i, given, hi, hgiven, hresolved⟩
    rw [hpath i hi, Option.some.injEq] at hgiven
    subst hgiven
    obtain rfl := Except.ok.inj (hresolve.symm.trans hresolved)
    refine ⟨fun output houtput => ?_, fun output houtput => ?_⟩
    · cases houtput
    · obtain rfl : "report.json" = output := Option.some.inj houtput
      decide +kernel
  obtain ⟨i, -, -, -, hi, -⟩ := exists_stored_of_exitCode hparse hcode
  obtain ⟨-, hbaseline⟩ := presentation_keeps_baseline hparse hparse' ⟨rfl, rfl, rfl, rfl, rfl, rfl⟩
    hcode hcode' helsewhere
  exact ⟨by with_unfolding_all rfl, hbaseline _ ⟨i, _, hi, hpath i hi, hresolve⟩⟩

end LlmAudit
