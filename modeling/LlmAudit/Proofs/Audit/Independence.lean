import LlmAudit.Audit
import LlmAudit.Proofs.Check.Reports
import LlmAudit.Proofs.Suppression.Lanes

/-!
# What the parts of an audit do not do to each other

Section 5 of the specification says that "rule execution order does not affect final output because
dedupe and ignore-matching operate on a globally sorted view".

An audit joins, sorts and suppresses the findings of all checks in all files together. Neither files
nor checks influence each other all the same, since findings meet only within a lane, one rule in
one file (`Audit.withChecks_restrict`):

* the audit of some files among others finds in them what the audit of these files alone does
  (`Audit.ofUnits_interleaving`);
* chosen checks find what they find among all checks (`Audit.ofUnits_chosen`);
* the order in which the checks run does not change what is found (`Audit.withChecks_perm`).
-/

namespace LlmAudit

/-! ### The audit of some lanes -/

namespace Audit

/-- What checks find before anything is joined. -/
def raw (checks : List Check) (units : List SourceUnit) : List Finding :=
  checks.flatMap fun c => c.run units

theorem raw_cons (c : Check) (checks : List Check) (units : List SourceUnit) :
    raw (c :: checks) units = c.run units ++ raw checks units :=
  List.flatMap_cons

theorem findings_withChecks (checks : List Check) (units : List SourceUnit) :
    (withChecks checks units).findings =
      (suppress (Directive.Table.ofUnits units) (Finding.dedupe (raw checks units))).active :=
  rfl

theorem ignored_withChecks (checks : List Check) (units : List SourceUnit) :
    (withChecks checks units).ignored =
      (suppress (Directive.Table.ofUnits units) (Finding.dedupe (raw checks units))).ignored :=
  rfl

/-- Without a choice all checks run. -/
theorem ofUnits_nil (units : List SourceUnit) : ofUnits units [] = withChecks Check.all units := rfl

/-- The outcome of the findings when they are taken as they come. -/
def unsorted (checks : List Check) (units : List SourceUnit) : Suppression :=
  suppressInOrder (Directive.Table.ofUnits units) (Finding.dedupe (raw checks units))

/-- Findings that come by place need not be sorted. -/
theorem withChecks_of_sorted {checks : List Check} {units : List SourceUnit}
    (h : (Finding.dedupe (raw checks units)).Pairwise fun f g => f.placeLe g = true) :
    (withChecks checks units).findings = (unsorted checks units).active ∧
      (withChecks checks units).ignored = (unsorted checks units).ignored := by
  rw [findings_withChecks, ignored_withChecks, suppress_of_sorted _ h]
  exact ⟨rfl, rfl⟩

/-- An audit whose findings and directives are those of another audit in some lanes gives what the
other gives in these lanes. -/
theorem withChecks_restrict {p : Lane → Bool} {checks checks' : List Check}
    {units units' : List SourceUnit}
    (hraw : raw checks' units' = (raw checks units).filter fun f => p f.lane)
    (htable : AgreeOn p (Directive.Table.ofUnits units) (Directive.Table.ofUnits units')) :
    (withChecks checks' units').findings =
        (withChecks checks units).findings.filter (fun f => p f.lane) ∧
      (withChecks checks' units').ignored =
        (withChecks checks units).ignored.filter fun i => p i.finding.lane := by
  rw [findings_withChecks, ignored_withChecks, hraw]
  exact htable.suppress_dedupe (raw checks units)

/-- The findings of an audit come by file key and line. -/
theorem findings_pairwise (checks : List Check) (units : List SourceUnit) :
    (withChecks checks units).findings.Pairwise fun f g =>
      fileKey f.file < fileKey g.file ∨ fileKey f.file = fileKey g.file ∧ f.line ≤ g.line := by
  have hsorted := Finding.sortByPlace_pairwise (Finding.dedupe (raw checks units))
  exact ((hsorted.imp Finding.placeLe_iff.1).sublist (active_sublist _ _))

end Audit

/-! ### A small source file -/

/-- A named node on a line. -/
def Node.onLine (line : Nat) (type : String) (field : Option String) (text : String)
    (children : List Node) : Node :=
  ⟨type, field, true, 0, 0, line, text, children⟩

/-- A source file whose request handler sends a record about a user to a model on the third line,
with a line above the handler. -/
def SourceUnit.chat (path above : String) : SourceUnit where
  path := path
  lines := [above, "function chat(req) \x7b", "  openai(user)", "\x7d"]
  root :=
    .onLine 1 "program" none "" [
      .onLine 2 "function_declaration" none "" [
        .onLine 2 "formal_parameters" (some "parameters") "(req)" [
          .onLine 2 "identifier" none "req" []],
        .onLine 3 "call_expression" none "openai(user)" [
          .onLine 3 "identifier" (some "function") "openai" [],
          .onLine 3 "arguments" (some "arguments") "(user)" [
            .onLine 3 "identifier" none "user" []]]]]

/-! ### Files -/

/-- `zs` is made of `xs` and `ys`, the elements of each in their order. -/
inductive Interleaving {α : Type} : List α → List α → List α → Prop where
  /-- Nothing is made of nothing. -/
  | nil : Interleaving [] [] []
  /-- The next element is the next one on the left. -/
  | left {x : α} {xs ys zs : List α} : Interleaving xs ys zs → Interleaving (x :: xs) ys (x :: zs)
  /-- The next element is the next one on the right. -/
  | right {y : α} {xs ys zs : List α} : Interleaving xs ys zs → Interleaving xs (y :: ys) (y :: zs)

namespace Interleaving

variable {α : Type} {xs ys zs : List α}

theorem symm (h : Interleaving xs ys zs) : Interleaving ys xs zs := by
  induction h with
  | nil => exact .nil
  | left _ ih => exact .right ih
  | right _ ih => exact .left ih

/-- What tells the elements of one side from those of the other picks that side. -/
theorem filter_eq_left (h : Interleaving xs ys zs) {p : α → Bool} (hleft : ∀ x ∈ xs, p x = true)
    (hright : ∀ y ∈ ys, ¬ p y = true) : zs.filter p = xs := by
  induction h with
  | nil => rfl
  | left _ ih =>
    rw [List.forall_mem_cons] at hleft
    rw [List.filter_cons_of_pos hleft.1, ih hleft.2 hright]
  | right _ ih =>
    rw [List.forall_mem_cons] at hright
    rw [List.filter_cons_of_neg hright.1, ih hleft hright.2]

end Interleaving

/-- The keys of source files. -/
def SourceUnit.keys (units : List SourceUnit) : List String :=
  units.map fun u => fileKey u.path

namespace Audit

theorem raw_filter_file (checks : List Check) (p : String → Bool) (units : List SourceUnit) :
    raw checks (units.filter fun u => p (fileKey u.path)) =
      (raw checks units).filter fun f => p (fileKey f.file) := by
  rw [raw, raw, List.filter_flatMap]
  exact congrArg (checks.flatMap ·) (funext fun c => c.run_filter_file p units)

/-- The audit of one side of interleaved files gives what the audit of all of them gives there. -/
theorem ofUnits_left {us vs units : List SourceUnit} (h : Interleaving us vs units)
    (hkeys : ∀ u ∈ us, ∀ v ∈ vs, fileKey u.path ≠ fileKey v.path) (chosen : List String) :
    ((ofUnits units chosen).findings.filter fun f => decide (fileKey f.file ∈ SourceUnit.keys us)) =
        (ofUnits us chosen).findings ∧
      ((ofUnits units chosen).ignored.filter fun i =>
          decide (fileKey i.finding.file ∈ SourceUnit.keys us)) =
        (ofUnits us chosen).ignored := by
  have hus : (units.filter fun u => decide (fileKey u.path ∈ SourceUnit.keys us)) = us := by
    refine h.filter_eq_left (fun u hu => ?_) fun v hv => ?_
    · exact decide_eq_true (List.mem_map_of_mem hu)
    · rw [decide_eq_true_iff]
      intro hmem
      obtain ⟨u, hu, heq⟩ := List.mem_map.1 hmem
      exact hkeys u hu v hv heq
  have hraw := raw_filter_file (Check.select chosen)
    (fun key => decide (key ∈ SourceUnit.keys us)) units
  have htable := AgreeOn.ofUnits_filter (fun key => decide (key ∈ SourceUnit.keys us)) units
  rw [hus] at hraw htable
  obtain ⟨hfindings, hignored⟩ := withChecks_restrict hraw htable
  exact ⟨hfindings.symm, hignored.symm⟩

/-- **Files do not influence each other.** In the audit of files of two kinds, in whatever order
they come, the findings of each kind, active and ignored, are those of the audit of that kind alone,
as long as no file of one kind has the key of one of the other. -/
theorem ofUnits_interleaving {us vs units : List SourceUnit} (h : Interleaving us vs units)
    (hkeys : ∀ u ∈ us, ∀ v ∈ vs, fileKey u.path ≠ fileKey v.path) (chosen : List String) :
    (((ofUnits units chosen).findings.filter fun f =>
          decide (fileKey f.file ∈ SourceUnit.keys us)) = (ofUnits us chosen).findings ∧
      ((ofUnits units chosen).ignored.filter fun i =>
          decide (fileKey i.finding.file ∈ SourceUnit.keys us)) = (ofUnits us chosen).ignored) ∧
    ((ofUnits units chosen).findings.filter fun f =>
          decide (fileKey f.file ∈ SourceUnit.keys vs)) = (ofUnits vs chosen).findings ∧
      ((ofUnits units chosen).ignored.filter fun i =>
          decide (fileKey i.finding.file ∈ SourceUnit.keys vs)) = (ofUnits vs chosen).ignored :=
  ⟨ofUnits_left h hkeys chosen,
    ofUnits_left h.symm (fun v hv u hu heq => hkeys u hu v hv heq.symm) chosen⟩

/-- A file between a file and its compiled twin: the twins are audited as if it were not there. -/
theorem ofUnits_interleaving_twins :
    let us := [SourceUnit.chat "app.ts" "// secureai-ignore AI004: reviewed",
      SourceUnit.chat "App.js" ""]
    let vs := [SourceUnit.chat "lib.ts" "// secureai-ignore AI003: reviewed"]
    let units := [SourceUnit.chat "app.ts" "// secureai-ignore AI004: reviewed",
      SourceUnit.chat "lib.ts" "// secureai-ignore AI003: reviewed", SourceUnit.chat "App.js" ""]
    Interleaving us vs units ∧
      (∀ u ∈ us, ∀ v ∈ vs, fileKey u.path ≠ fileKey v.path) ∧
      (((ofUnits units []).findings.filter fun f =>
          decide (fileKey f.file ∈ SourceUnit.keys us)).map fun f => (f.file, f.line, f.ruleId)) =
        [("app.ts", 3, "AI003")] ∧
      (((ofUnits units []).ignored.filter fun i =>
          decide (fileKey i.finding.file ∈ SourceUnit.keys us)).map fun i =>
            (i.finding.ruleId, i.reason, i.directiveLine)) = [("AI004", "reviewed", 1)] := by
  intro us vs units
  have hmixed : Interleaving us vs units := .left (.right (.left .nil))
  have hkeys : ∀ u ∈ us, ∀ v ∈ vs, fileKey u.path ≠ fileKey v.path := by decide
  obtain ⟨⟨hfindings, hignored⟩, -⟩ := ofUnits_interleaving hmixed hkeys []
  have hrun : (Finding.dedupe (raw Check.all us)).Pairwise (fun f g => f.placeLe g = true) ∧
      ((unsorted Check.all us).active.map fun f => (f.file, f.line, f.ruleId)) =
        [("app.ts", 3, "AI003")] ∧
      ((unsorted Check.all us).ignored.map fun i =>
        (i.finding.ruleId, i.reason, i.directiveLine)) = [("AI004", "reviewed", 1)] := by
    decide +kernel
  obtain ⟨hactive, hsuppressed⟩ := withChecks_of_sorted hrun.1
  refine ⟨hmixed, hkeys, ?_, ?_⟩
  · rw [hfindings, ofUnits_nil, hactive, hrun.2.1]
  · rw [hignored, ofUnits_nil, hsuppressed, hrun.2.2]

end Audit

/-! ### The choice of checks -/

namespace Check

/-- Whether a rule is one of those under which some checks report. -/
def covers (p : Check → Bool) (ruleId : String) : Bool :=
  all.any fun c => p c && c.emits.contains ruleId

theorem covers_iff {p : Check → Bool} {ruleId : String} :
    covers p ruleId = true ↔ ∃ c, p c = true ∧ ruleId ∈ c.emits := by
  simp [covers, mem_all]

/-- The rule of a check's finding belongs to the check alone. -/
theorem covers_of_mem_emits {p : Check → Bool} {c : Check} {ruleId : String}
    (h : ruleId ∈ c.emits) : covers p ruleId = p c := by
  rw [Bool.eq_iff_iff, covers_iff]
  constructor
  · rintro ⟨c', hp, hc'⟩
    rwa [eq_of_mem_emits h hc']
  · exact fun hp => ⟨c, hp, h⟩

/-- Of what a check finds, some checks cover everything or nothing. -/
theorem run_filter_covers (p : Check → Bool) (c : Check) (units : List SourceUnit) :
    (c.run units).filter (fun f => covers p f.ruleId) = if p c then c.run units else [] := by
  have hcovers : ∀ f ∈ c.run units, covers p f.ruleId = p c := by
    intro f hf
    obtain ⟨unit, -, hreports⟩ := exists_reports_of_mem_run hf
    exact covers_of_mem_emits hreports.rule
  rw [List.filter_congr hcovers]
  cases p c with
  | true => exact List.filter_true _
  | false => exact List.filter_false _

end Check

namespace Audit

theorem raw_filter_checks (p : Check → Bool) (checks : List Check) (units : List SourceUnit) :
    raw (checks.filter p) units = (raw checks units).filter fun f => Check.covers p f.ruleId := by
  induction checks with
  | nil => rfl
  | cons c checks ih =>
    rw [raw_cons, List.filter_append, Check.run_filter_covers, ← ih, List.filter_cons]
    split
    · exact raw_cons c _ units
    · rfl

/-- **Checks do not influence each other.** Chosen checks give, active and ignored, what the audit
by all checks gives under the rules that they report. -/
theorem ofUnits_chosen {chosen : List String} (h : chosen ≠ []) (units : List SourceUnit) :
    (ofUnits units chosen).findings =
        (ofUnits units []).findings.filter (fun f =>
          Check.all.any fun c => chosen.contains c.id && c.emits.contains f.ruleId) ∧
      (ofUnits units chosen).ignored =
        (ofUnits units []).ignored.filter fun i =>
          Check.all.any fun c => chosen.contains c.id && c.emits.contains i.finding.ruleId := by
  have hselect : Check.select chosen = Check.all.filter fun c => chosen.contains c.id := by
    rw [Check.select, if_neg (by simpa using h)]
  rw [ofUnits, hselect]
  exact withChecks_restrict (p := fun l => Check.covers (fun c => chosen.contains c.id) l.ruleId)
    (raw_filter_checks _ Check.all units) (.refl _ _)

/-- One check, chosen twice beside an unknown one: the finding that the other check has there, and
the directive for it, do not matter. -/
theorem ofUnits_chosen_twice :
    let chosen := ["AI003", "AI999", "AI003"]
    let units := [SourceUnit.chat "app.ts" "// secureai-ignore AI004: reviewed"]
    chosen ≠ [] ∧
      (((ofUnits units []).findings.filter fun f =>
          Check.all.any fun c => chosen.contains c.id && c.emits.contains f.ruleId).map
        Finding.ruleId) = ["AI003"] ∧
      ((ofUnits units []).ignored.filter fun i =>
        Check.all.any fun c => chosen.contains c.id && c.emits.contains i.finding.ruleId) = [] := by
  intro chosen units
  have hchosen : chosen ≠ [] := by decide
  obtain ⟨hfindings, hignored⟩ := ofUnits_chosen hchosen units
  have hrun : (Finding.dedupe (raw (Check.select chosen) units)).Pairwise
        (fun f g => f.placeLe g = true) ∧
      (unsorted (Check.select chosen) units).active.map Finding.ruleId = ["AI003"] ∧
      (unsorted (Check.select chosen) units).ignored = [] := by
    decide +kernel
  obtain ⟨hactive, hsuppressed⟩ := withChecks_of_sorted hrun.1
  refine ⟨hchosen, ?_, ?_⟩
  · rw [← hfindings, ofUnits, hactive, hrun.2.1]
  · rw [← hignored, ofUnits, hsuppressed, hrun.2.2]

end Audit

/-! ### The order of checks -/

/-- Lists in which each class of a key is the same hold the same elements. -/
theorem perm_of_filter_eq {α β : Type} [DecidableEq α] [DecidableEq β] (key : α → β)
    {l l' : List α}
    (h : ∀ b, (l.filter fun a => key a == b) = l'.filter fun a => key a == b) : l.Perm l' := by
  rw [List.perm_iff_count]
  intro a
  have hcount : ∀ m : List α, (m.filter fun x => key x == key a).count a = m.count a :=
    fun m => List.count_filter (beq_self_eq_true (key a))
  rw [← hcount l, ← hcount l', h (key a)]

namespace Audit

/-- Under one rule at most one of two checks finds anything. -/
theorem run_filter_rule_comm (c c' : Check) (units : List SourceUnit) (ruleId : String) :
    (c.run units).filter (fun f => f.ruleId == ruleId) ++
        (c'.run units).filter (fun f => f.ruleId == ruleId) =
      (c'.run units).filter (fun f => f.ruleId == ruleId) ++
        (c.run units).filter fun f => f.ruleId == ruleId := by
  have hnil : ∀ {c : Check}, ruleId ∉ c.emits →
      (c.run units).filter (fun f => f.ruleId == ruleId) = [] := by
    intro c hc
    refine List.filter_eq_nil_iff.2 fun f hf heq => hc ?_
    obtain ⟨unit, -, hreports⟩ := Check.exists_reports_of_mem_run hf
    rw [← eq_of_beq heq]
    exact hreports.rule
  by_cases hc : ruleId ∈ c.emits
  · by_cases hc' : ruleId ∈ c'.emits
    · rw [Check.eq_of_mem_emits hc hc']
    · rw [hnil hc', List.append_nil, List.nil_append]
  · rw [hnil hc, List.append_nil, List.nil_append]

/-- What is found under one rule does not depend on the order of the checks. -/
theorem raw_filter_rule_of_perm {checks checks' : List Check} (h : checks.Perm checks')
    (units : List SourceUnit) (ruleId : String) :
    ((raw checks units).filter fun f => f.ruleId == ruleId) =
      (raw checks' units).filter fun f => f.ruleId == ruleId := by
  induction h with
  | nil => rfl
  | cons c _ ih => rw [raw_cons, raw_cons, List.filter_append, List.filter_append, ih]
  | swap c c' checks =>
    simp only [raw_cons, List.filter_append, ← List.append_assoc]
    rw [run_filter_rule_comm]
  | trans _ _ ih ih' => exact ih.trans ih'

/-- The audit under one rule does not depend on the order of the checks. -/
theorem filter_rule_of_perm {checks checks' : List Check} (h : checks.Perm checks')
    (units : List SourceUnit) (ruleId : String) :
    ((withChecks checks units).findings.filter fun f => f.ruleId == ruleId) =
        ((withChecks checks' units).findings.filter fun f => f.ruleId == ruleId) ∧
      ((withChecks checks units).ignored.filter fun i => i.finding.ruleId == ruleId) =
        (withChecks checks' units).ignored.filter fun i => i.finding.ruleId == ruleId := by
  have hagree := AgreeOn.refl (fun l => l.ruleId == ruleId) (Directive.Table.ofUnits units)
  obtain ⟨hfindings, hignored⟩ := hagree.suppress_dedupe (raw checks units)
  obtain ⟨hfindings', hignored'⟩ := hagree.suppress_dedupe (raw checks' units)
  have hraw : ((raw checks units).filter fun f => f.lane.ruleId == ruleId) =
      (raw checks' units).filter fun f => f.lane.ruleId == ruleId :=
    raw_filter_rule_of_perm h units ruleId
  rw [hraw] at hfindings hignored
  exact ⟨hfindings.symm.trans hfindings', hignored.symm.trans hignored'⟩

/-- **The order of the checks does not matter.** In whatever order the checks run, the same findings
are active and the same are ignored for the same reasons, and the active ones come by file key and
line. -/
theorem withChecks_perm {checks : List Check} (h : checks.Perm Check.all)
    (units : List SourceUnit) :
    (withChecks checks units).findings.Perm (withChecks Check.all units).findings ∧
      (withChecks checks units).ignored.Perm (withChecks Check.all units).ignored ∧
      ∀ order ∈ [checks, Check.all], (withChecks order units).findings.Pairwise fun f g =>
        fileKey f.file < fileKey g.file ∨ fileKey f.file = fileKey g.file ∧ f.line ≤ g.line :=
  ⟨perm_of_filter_eq Finding.ruleId fun ruleId => (filter_rule_of_perm h units ruleId).1,
    perm_of_filter_eq (fun i => i.finding.ruleId) fun ruleId =>
      (filter_rule_of_perm h units ruleId).2,
    fun order _ => findings_pairwise order units⟩

/-- The checks backwards: the findings of one line change places, and nothing else changes. -/
theorem withChecks_perm_reverse :
    let units := [SourceUnit.chat "app.ts" ""]
    Check.all.reverse.Perm Check.all ∧
      (withChecks Check.all.reverse units).findings.Perm (withChecks Check.all units).findings ∧
      (withChecks Check.all.reverse units).ignored.Perm (withChecks Check.all units).ignored ∧
      (withChecks Check.all.reverse units).findings.map Finding.ruleId =
        ["AI004", "AI003"] ∧
      (withChecks Check.all units).findings.map Finding.ruleId =
        ["AI003", "AI004"] := by
  intro units
  have hperm : Check.all.reverse.Perm Check.all := List.reverse_perm _
  obtain ⟨hfindings, hignored, -⟩ := withChecks_perm hperm units
  have hrun : (Finding.dedupe (raw Check.all units)).Pairwise (fun f g => f.placeLe g = true) ∧
      (unsorted Check.all units).active.map Finding.ruleId = ["AI003", "AI004"] := by
    decide +kernel
  have hreverse : (Finding.dedupe (raw Check.all.reverse units)).Pairwise
        (fun f g => f.placeLe g = true) ∧
      (unsorted Check.all.reverse units).active.map Finding.ruleId = ["AI004", "AI003"] := by
    decide +kernel
  refine ⟨hperm, hfindings, hignored, ?_, ?_⟩
  · rw [(withChecks_of_sorted hreverse.1).1, hreverse.2]
  · rw [(withChecks_of_sorted hrun.1).1, hrun.2]

end Audit

end LlmAudit
