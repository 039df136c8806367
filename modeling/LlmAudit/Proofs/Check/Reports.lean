import LlmAudit.Check.Catalog
import LlmAudit.Finding.Key
import Mathlib.Data.List.Basic

/-!
# What the findings of a check have in common

Every finding of a check names the file it was found in and a rule of that check, and has the
check's severity and its one summary (`Check.Reports`, `reports_of_mem_runUnit`). No two checks
share a rule (`Check.eq_of_mem_emits`), so a rule determines the check that reports it and with it
the summary. What a check finds in some files is what it finds in all of them, less the other files
(`run_filter_file`). A file under another path has the same findings there (`runUnit_path`).
-/

namespace LlmAudit

namespace Check

/-- The rules under which a check reports: four for the inventory, and its identifier for any other
check. -/
def emits : Check → List String
  | .sdkUsage =>
    ["LLM_OPENAI_CHAT_COMPLETIONS_CREATE", "LLM_OPENAI_CHATCOMPLETION_CREATE",
      "LLM_ANTHROPIC_MESSAGES", "LLM_GEMINI_GENERATECONTENT"]
  | c => [c.id]

/-- The summary of a check's findings. -/
def summary : Check → String
  | .promptInjection => "User input is concatenated into a prompt."
  | .sdkUsage => "LLM SDK usage detected."
  | .promptLogging => "Prompt or response data is logged."
  | .callBeforeAuth => "LLM call occurs before auth checks."
  | .dataExposure => "Large user context sent directly to LLM."

/-- A finding can come from a check of a source file. -/
structure Reports (c : Check) (unit : SourceUnit) (f : Finding) : Prop where
  /-- The rule is one of the check's. -/
  rule : f.ruleId ∈ c.emits
  /-- The severity is the check's. -/
  severity : f.severity = c.severity
  /-- The file is the one that was looked at. -/
  file : f.file = unit.path
  /-- The summary is the check's. -/
  summary : f.summary = c.summary

theorem mem_all (c : Check) : c ∈ all := by
  cases c <;> decide

/-- No two checks report under the same rule. -/
theorem eq_of_mem_emits {c c' : Check} {ruleId : String} (h : ruleId ∈ c.emits)
    (h' : ruleId ∈ c'.emits) : c = c' := by
  cases c <;> cases c' <;> simp_all [emits, id]

end Check

/-! ### One source file -/

variable {unit : SourceUnit} {f : Finding}

theorem reports_of_injectionAt? {taint : Taint} {argument : Node}
    (h : unit.injectionAt? taint argument = some f) : Check.promptInjection.Reports unit f := by
  unfold SourceUnit.injectionAt? at h
  dsimp only at h
  split at h
  · cases h
    exact ⟨List.mem_singleton_self _, rfl, rfl, rfl⟩
  · cases h

theorem reports_of_exposureAt? {argument : Node} (h : unit.exposureAt? argument = some f) :
    Check.dataExposure.Reports unit f := by
  unfold SourceUnit.exposureAt? at h
  dsimp only at h
  split at h
  · cases h
    exact ⟨List.mem_singleton_self _, rfl, rfl, rfl⟩
  · cases h

theorem ruleId_mem_emits_of_usagePattern {p : SourceUnit.UsagePattern}
    (h : p ∈ SourceUnit.usagePatterns) : p.ruleId ∈ Check.sdkUsage.emits :=
  List.mem_map_of_mem (f := SourceUnit.UsagePattern.ruleId) h

/-- What a check finds in a source file is what it can report. -/
theorem reports_of_mem_runUnit {c : Check} (h : f ∈ c.runUnit unit) : c.Reports unit f := by
  cases c with
  | promptInjection =>
    obtain ⟨fn, -, hfn⟩ := List.mem_flatMap.1 h
    dsimp only at hfn
    split at hfn
    · exact absurd hfn List.not_mem_nil
    · obtain ⟨call, -, hcall⟩ := List.mem_flatMap.1 hfn
      obtain ⟨argument, -, hargument⟩ := List.mem_filterMap.1 hcall
      exact reports_of_injectionAt? hargument
  | sdkUsage =>
    obtain ⟨call, -, hcall⟩ := List.mem_flatMap.1 h
    obtain ⟨p, hp, rfl⟩ := List.mem_map.1 hcall
    exact ⟨ruleId_mem_emits_of_usagePattern (List.mem_of_mem_filter hp), rfl, rfl, rfl⟩
  | promptLogging =>
    obtain ⟨call, -, rfl⟩ := List.mem_map.1 h
    exact ⟨List.mem_singleton_self _, rfl, rfl, rfl⟩
  | callBeforeAuth =>
    obtain ⟨fn, -, hfn⟩ := List.mem_flatMap.1 h
    obtain ⟨call, -, rfl⟩ := List.mem_map.1 hfn
    exact ⟨List.mem_singleton_self _, rfl, rfl, rfl⟩
  | dataExposure =>
    obtain ⟨call, -, hcall⟩ := List.mem_flatMap.1 h
    obtain ⟨argument, -, hargument⟩ := List.mem_filterMap.1 hcall
    exact reports_of_exposureAt? hargument

/-! ### Other paths -/

theorem injectionAt?_path (unit : SourceUnit) (path : String) (taint : Taint) (argument : Node) :
    { unit with path := path }.injectionAt? taint argument =
      (unit.injectionAt? taint argument).map fun f => { f with file := path } := by
  unfold SourceUnit.injectionAt?
  dsimp only
  split <;> rfl

theorem exposureAt?_path (unit : SourceUnit) (path : String) (argument : Node) :
    { unit with path := path }.exposureAt? argument =
      (unit.exposureAt? argument).map fun f => { f with file := path } := by
  unfold SourceUnit.exposureAt?
  dsimp only
  split <;> rfl

/-- A check finds the same under another path. -/
theorem runUnit_path (c : Check) (unit : SourceUnit) (path : String) :
    c.runUnit { unit with path := path } =
      (c.runUnit unit).map fun f => { f with file := path } := by
  cases c with
  | promptInjection =>
    simp only [Check.runUnit, SourceUnit.injections, List.map_flatMap, apply_ite, List.map_nil,
      List.map_filterMap, injectionAt?_path]
  | sdkUsage =>
    simp only [Check.runUnit, SourceUnit.modelUses, List.map_flatMap, List.map_map,
      Function.comp_def]
  | promptLogging =>
    simp only [Check.runUnit, SourceUnit.promptLogs, List.map_map, Function.comp_def]
  | callBeforeAuth =>
    simp only [Check.runUnit, SourceUnit.earlyCalls, List.map_flatMap, List.map_map,
      Function.comp_def]
  | dataExposure =>
    simp only [Check.runUnit, SourceUnit.exposures, List.map_flatMap, List.map_filterMap,
      exposureAt?_path]

/-! ### All source files -/

namespace Check

theorem exists_reports_of_mem_run {c : Check} {units : List SourceUnit} (h : f ∈ c.run units) :
    ∃ unit ∈ units, c.Reports unit f := by
  obtain ⟨unit, hunit, hf⟩ := List.mem_flatMap.1 h
  exact ⟨unit, hunit, reports_of_mem_runUnit hf⟩

theorem run_cons (c : Check) (unit : SourceUnit) (units : List SourceUnit) :
    c.run (unit :: units) = c.runUnit unit ++ c.run units :=
  List.flatMap_cons

/-- What a check finds in the files of some keys is what it finds there among all files. -/
theorem run_filter_file (c : Check) (p : String → Bool) (units : List SourceUnit) :
    c.run (units.filter fun u => p (fileKey u.path)) =
      (c.run units).filter fun f => p (fileKey f.file) := by
  induction units with
  | nil => rfl
  | cons unit units ih =>
    rw [run_cons, List.filter_append, ← ih, List.filter_cons]
    by_cases hp : p (fileKey unit.path) = true
    · have hall : ∀ f ∈ c.runUnit unit, p (fileKey f.file) = true := by
        intro f hf
        rw [(reports_of_mem_runUnit hf).file, hp]
      rw [if_pos hp, run_cons, List.filter_eq_self.2 hall]
    · have hnone : ∀ f ∈ c.runUnit unit, ¬ p (fileKey f.file) = true := by
        intro f hf
        rwa [(reports_of_mem_runUnit hf).file]
      rw [if_neg hp, List.filter_eq_nil_iff.2 hnone, List.nil_append]

end Check

end LlmAudit
