import LlmAudit.Proofs.Audit.Independence
import LlmAudit.Proofs.Check.Places
import LlmAudit.Proofs.Check.Prompts
import LlmAudit.Proofs.Suppression.Soundness

/-!
# User input in prompts

The subject is detector 1 of Section 4.2 (Rule Set) of the specification.

The check for user input in prompts visits a call once for each function around it, each time with
the tainted names of that function, and a call can send several prompts on one line. What an audit
reports of all this is said here without the loops (`Audit.ofUnits_injections`).

A prompt together with the call, the function and the file in which the check meets it is a site.
The check goes through the sites in one order (`run_promptInjection`), and a site gives a finding
exactly if it meets a condition on the tree (`Site.exists_finding?_iff`). The key of the finding is
given by the file and the line (`Site.key_of_finding?`), so what is left after joining are the
findings of the first sites of their places (`Audit.mem_injections_iff`).
-/

namespace LlmAudit

/-! ### The findings of one check -/

/-- The key of a finding of a check with one rule is given by its file and its line. -/
theorem Check.Reports.key_eq {c : Check} {unit : SourceUnit} {f : Finding} {ruleId : String}
    (h : c.Reports unit f) (hrule : c.emits = [ruleId]) :
    f.key = ⟨ruleId, fileKey f.file, f.line, c.summary⟩ := by
  have hid : f.ruleId = ruleId := List.mem_singleton.1 (hrule ▸ h.rule)
  rw [Finding.key, hid, h.summary]

theorem Check.nodup_select (chosen : List String) : (Check.select chosen).Nodup := by
  have hall : Check.all.Nodup := by decide
  rw [Check.select]
  split
  · exact hall
  · exact hall.filter _

namespace Audit

/-- The findings of an audit under a rule, active or ignored. -/
def under (audit : Audit) (ruleId : String) : List Finding :=
  (audit.findings ++ audit.ignored.map (·.finding)).filter fun f => f.ruleId == ruleId

theorem raw_filter_rule {c : Check} {checks : List Check} {ruleId : String} (hc : c ∈ checks)
    (hnodup : checks.Nodup) (hrule : c.emits = [ruleId]) (units : List SourceUnit) :
    (raw checks units).filter (fun f => f.ruleId == ruleId) = c.run units := by
  have hone : checks.filter (· == c) = [c] := by
    rw [List.filter_beq, List.count_eq_one_of_mem hnodup hc, List.replicate_one]
  have hcovers : ∀ r, Check.covers (· == c) r = (r == ruleId) := by
    intro r
    rw [Bool.eq_iff_iff, Check.covers_iff, beq_iff_eq]
    simp [hrule]
  have hraw := raw_filter_checks (· == c) checks units
  rw [hone, raw_cons] at hraw
  simpa [hcovers, raw] using hraw.symm

/-- What an audit gives under the one rule of a check is what the check finds, joined. -/
theorem under_perm {c : Check} {chosen : List String} {ruleId : String}
    (hc : c ∈ Check.select chosen) (hrule : c.emits = [ruleId]) (units : List SourceUnit) :
    ((ofUnits units chosen).under ruleId).Perm (Finding.dedupe (c.run units)) := by
  have hkey : ∀ f g : Finding, f.key = g.key → (f.ruleId == ruleId) = (g.ruleId == ruleId) := by
    intro f g hfg
    have hsame : f.ruleId = g.ruleId := congrArg Finding.Key.ruleId hfg
    rw [hsame]
  have hall := (active_append_ignored_perm (Directive.Table.ofUnits units)
    (Finding.sortByPlace (Finding.dedupe (raw (Check.select chosen) units)))).trans
      (Finding.sortByPlace_perm _)
  rw [← raw_filter_rule hc (Check.nodup_select chosen) hrule units, Finding.dedupe_filter hkey]
  exact hall.filter _

/-- The findings of a check with one rule differ in file or line. -/
theorem nodup_places_under {c : Check} {chosen : List String} {ruleId : String}
    (hc : c ∈ Check.select chosen) (hrule : c.emits = [ruleId]) (units : List SourceUnit) :
    (((ofUnits units chosen).under ruleId).map fun f => (fileKey f.file, f.line)).Nodup := by
  have hperm : ((ofUnits units chosen).under ruleId).Perm (Finding.dedupe (c.run units)) :=
    under_perm hc hrule units
  have hkeys : (((ofUnits units chosen).under ruleId).map Finding.key).Nodup :=
    (hperm.map Finding.key).nodup_iff.2 (Finding.nodup_keys_dedupe _)
  have hplace : ((ofUnits units chosen).under ruleId).map Finding.key =
      (((ofUnits units chosen).under ruleId).map fun f => (fileKey f.file, f.line)).map
        fun p => ⟨ruleId, p.1, p.2, c.summary⟩ := by
    rw [List.map_map]
    refine List.map_congr_left fun f hf => ?_
    obtain ⟨unit, -, hreports⟩ :=
      Check.exists_reports_of_mem_run ((Finding.dedupe_sublist _).subset (hperm.subset hf))
    rw [hreports.key_eq hrule, Function.comp_apply]
  rw [hplace] at hkeys
  exact hkeys.of_map

/-- There is a finding of a check with one rule for a file and a line exactly if the check finds
something there. -/
theorem exists_mem_under_iff {c : Check} {chosen : List String} {ruleId : String}
    (hc : c ∈ Check.select chosen) (hrule : c.emits = [ruleId]) (units : List SourceUnit)
    (key : String) (line : Int) :
    (∃ f ∈ (ofUnits units chosen).under ruleId, fileKey f.file = key ∧ f.line = line) ↔
      ∃ f ∈ c.run units, fileKey f.file = key ∧ f.line = line := by
  simp only [(under_perm hc hrule units).mem_iff]
  constructor
  · rintro ⟨f, hf, hplace⟩
    exact ⟨f, (Finding.dedupe_sublist _).subset hf, hplace⟩
  · rintro ⟨f, hf, rfl, rfl⟩
    obtain ⟨g, hg, hkey⟩ := Finding.exists_mem_dedupe hf
    exact ⟨g, hg, congrArg Finding.Key.file hkey, congrArg Finding.Key.line hkey⟩

end Audit

/-! ### Places where a prompt is made -/

/-- A prompt: what a call below a function of a source file sends. -/
structure Site where
  /-- The source file. -/
  unit : SourceUnit
  /-- The function. -/
  fn : Node
  /-- The call. -/
  call : Node
  /-- What is sent. -/
  argument : Node

namespace Site

/-- The prompts of source files: file by file, with the functions of a file and the calls of a
function in document order, and what a call sends as it comes. -/
def all (units : List SourceUnit) : List Site :=
  units.flatMap fun unit =>
    unit.root.listing.flatMap fun fn =>
      fn.listing.flatMap fun call =>
        call.promptArguments.map fun argument => ⟨unit, fn, call, argument⟩

/-- The key of the file and the line. -/
def place (s : Site) : String × Int :=
  (fileKey s.unit.path, s.argument.line)

/-- A model is called with a text into which a tainted name of the function is put. -/
structure Injects (s : Site) : Prop where
  /-- The function is one. -/
  isFunction : s.fn.kind = .functionLike
  /-- The call calls a model. -/
  callsModel : s.call.CallsModel
  /-- The prompt is put together from parts. -/
  isAssembled : s.argument.IsAssembled
  /-- A tainted name occurs in it. -/
  mentions : s.argument.Mentions (Taint.collect s.fn).names

variable {s : Site} {units : List SourceUnit} {f : Finding}

theorem mem_all_iff :
    s ∈ all units ↔
      s.unit ∈ units ∧ s.fn ∈ s.unit.root.listing ∧ s.call ∈ s.fn.listing ∧
        s.call.Sends s.argument := by
  obtain ⟨unit, fn, call, argument⟩ := s
  simp only [all, List.mem_flatMap, List.mem_map, Node.mem_promptArguments_iff, mk.injEq]
  constructor
  · rintro ⟨_, hunit, _, hfn, _, hcall, _, hsends, rfl, rfl, rfl, rfl⟩
    exact ⟨hunit, hfn, hcall, hsends⟩
  · rintro ⟨hunit, hfn, hcall, hsends⟩
    exact ⟨_, hunit, _, hfn, _, hcall, _, hsends, rfl, rfl, rfl, rfl⟩

/-- What the check finds at a place. -/
def finding? (s : Site) : Option Finding :=
  if s.fn.kind = .functionLike ∧ s.call.isModelCall = true then
    s.unit.injectionAt? (Taint.collect s.fn) s.argument
  else none

end Site

theorem exists_injectionAt?_iff {unit : SourceUnit} {taint : Taint} {argument : Node} :
    (∃ f, unit.injectionAt? taint argument = some f) ↔
      argument.IsAssembled ∧ argument.Mentions taint.names := by
  rw [Node.mentions_names_iff, ← Node.isAssembledText_iff, ← Node.any_identifiersIn_iff,
    ← Node.any_identifiersIn_iff, ← Bool.or_eq_true, ← Bool.and_eq_true]
  unfold SourceUnit.injectionAt?
  dsimp only
  split <;> simp_all

/-- The confidence of a finding tells where the tainted names of the prompt come from. -/
theorem confidence_of_injectionAt? {unit : SourceUnit} {taint : Taint} {argument : Node}
    {f : Finding} (h : unit.injectionAt? taint argument = some f) :
    ∃ signals : Confidence.Signals, f.confidence = Confidence.score signals ∧
      (signals.directInput = true ↔ argument.Mentions taint.fromParams) ∧
      (signals.requestData = true ↔ argument.Mentions taint.fromRequest) ∧
      signals.assembledText = true ∧ signals.modelCall = true := by
  unfold SourceUnit.injectionAt? at h
  dsimp only at h
  split at h
  · cases h
    exact ⟨_, rfl, Node.any_identifiersIn_iff, Node.any_identifiersIn_iff, rfl, rfl⟩
  · cases h

namespace Site

variable {s : Site} {f : Finding}

theorem exists_finding?_iff : (∃ f, s.finding? = some f) ↔ s.Injects := by
  rw [finding?]
  constructor
  · rintro ⟨f, hf⟩
    split at hf
    · rename_i h
      obtain ⟨hassembled, hmentions⟩ := exists_injectionAt?_iff.1 ⟨f, hf⟩
      exact ⟨h.1, Node.isModelCall_iff.1 h.2, hassembled, hmentions⟩
    · cases hf
  · rintro ⟨hfn, hcall, hassembled, hmentions⟩
    rw [if_pos ⟨hfn, Node.isModelCall_iff.2 hcall⟩]
    exact exists_injectionAt?_iff.2 ⟨hassembled, hmentions⟩

theorem injectionAt?_of_finding? (h : s.finding? = some f) :
    s.unit.injectionAt? (Taint.collect s.fn) s.argument = some f := by
  rw [finding?] at h
  split at h
  · exact h
  · cases h

/-- The key of a finding is given by its place. -/
theorem key_of_finding? (h : s.finding? = some f) :
    f.key = ⟨"AI001", s.place.1, s.place.2, Check.promptInjection.summary⟩ := by
  have hreports := reports_of_injectionAt? (injectionAt?_of_finding? h)
  rw [hreports.key_eq rfl, hreports.file, line_of_injectionAt? (injectionAt?_of_finding? h)]
  rfl

theorem place_of_finding? (h : s.finding? = some f) : (fileKey f.file, f.line) = s.place := by
  rw [(reports_of_injectionAt? (injectionAt?_of_finding? h)).file,
    line_of_injectionAt? (injectionAt?_of_finding? h), place]

/-- A place gives a finding with the key of another one exactly if there is an injection there, and
the places are the same. -/
theorem exists_key_eq_iff {t : Site} (h : s.finding? = some f) :
    (∃ g, t.finding? = some g ∧ g.key = f.key) ↔ t.Injects ∧ t.place = s.place := by
  rw [← exists_finding?_iff, ← exists_and_right]
  refine exists_congr fun g => and_congr_right fun hg => ?_
  rw [key_of_finding? hg, key_of_finding? h, Finding.Key.mk.injEq, Prod.ext_iff]
  simp

end Site

/-! ### The nested loops -/

theorem flatMap_filter {α β : Type} (p : α → Bool) (g : α → List β) (l : List α) :
    (l.filter p).flatMap g = l.flatMap fun a => if p a then g a else [] := by
  induction l with
  | nil => rfl
  | cons a l ih =>
    rw [List.filter_cons, List.flatMap_cons, ← ih]
    split
    · exact List.flatMap_cons
    · rfl

theorem Node.filter_isModelCall_calls (n : Node) :
    n.calls.filter Node.isModelCall = n.listing.filter Node.isModelCall := by
  rw [Node.calls, Node.descendantsOfKind, Node.descendants_eq_listing, List.filter_filter]
  refine List.filter_congr fun call _ => ?_
  rw [Node.isModelCall]
  cases call.kind == .call <;> simp

/-- Without tainted names nothing is found, so that the function may be skipped. -/
theorem injectionAt?_of_isEmpty {unit : SourceUnit} {taint : Taint} (h : taint.isEmpty = true)
    (argument : Node) : unit.injectionAt? taint argument = none := by
  rw [Option.eq_none_iff_forall_ne_some]
  intro f hf
  obtain ⟨-, i, -, -, hi⟩ := exists_injectionAt?_iff.1 ⟨f, hf⟩
  simp_all [Taint.isEmpty, Taint.names]

/-- What the check finds among the prompts of one call. -/
theorem filterMap_finding? (unit : SourceUnit) (fn call : Node) :
    (call.promptArguments.map fun argument => Site.mk unit fn call argument).filterMap
        Site.finding? =
      if fn.kind = .functionLike ∧ call.isModelCall = true then
        call.promptArguments.filterMap (unit.injectionAt? (Taint.collect fn))
      else [] := by
  rw [List.filterMap_map]
  split
  · rename_i h
    refine List.filterMap_congr fun argument _ => ?_
    rw [Function.comp_apply, Site.finding?, if_pos h]
  · rename_i h
    refine List.filterMap_eq_nil_iff.2 fun argument _ => ?_
    rw [Function.comp_apply, Site.finding?, if_neg h]

/-- The check goes through the prompts in their order. -/
theorem run_promptInjection (units : List SourceUnit) :
    Check.promptInjection.run units = (Site.all units).filterMap Site.finding? := by
  rw [Check.run, Site.all, List.filterMap_flatMap]
  refine congrArg (units.flatMap ·) (funext fun unit => ?_)
  rw [Check.runUnit, SourceUnit.injections, Node.functions, Node.descendantsOfKind,
    Node.descendants_eq_listing, flatMap_filter, List.filterMap_flatMap]
  refine congrArg (unit.root.listing.flatMap ·) (funext fun fn => ?_)
  simp only [List.filterMap_flatMap, filterMap_finding?, Node.filter_isModelCall_calls,
    flatMap_filter]
  -- what is left are the two tests of the check that come before its calls
  by_cases hfn : fn.kind = .functionLike
  · by_cases hempty : (Taint.collect fn).isEmpty = true
    · simp [hfn, hempty, injectionAt?_of_isEmpty hempty]
    · simp [hfn, hempty]
  · simp [hfn]

namespace Audit

theorem mem_injections_iff {chosen : List String} (h : Check.promptInjection ∈ Check.select chosen)
    {units : List SourceUnit} {f : Finding} :
    f ∈ (ofUnits units chosen).under "AI001" ↔
      ∃ s, s.finding? = some f ∧
        IsFirst (fun t => t.Injects ∧ t.place = s.place) (Site.all units) s := by
  have hperm : ((ofUnits units chosen).under "AI001").Perm
      (Finding.dedupe (Check.promptInjection.run units)) := under_perm h rfl units
  rw [hperm.mem_iff, Finding.mem_dedupe_iff, run_promptInjection, IsFirst.filterMap_iff]
  refine exists_congr fun s => and_congr_right fun hs => ?_
  simp only [Site.exists_key_eq_iff hs]

/-- There is a finding for a place exactly if there is an injection at it. -/
theorem exists_mem_injections_iff {chosen : List String}
    (h : Check.promptInjection ∈ Check.select chosen) (units : List SourceUnit)
    (place : String × Int) :
    (∃ f ∈ (ofUnits units chosen).under "AI001", (fileKey f.file, f.line) = place) ↔
      ∃ s ∈ Site.all units, s.Injects ∧ s.place = place := by
  constructor
  · rintro ⟨f, hf, rfl⟩
    obtain ⟨s, hs, hfirst⟩ := (mem_injections_iff h).1 hf
    exact ⟨s, hfirst.mem, hfirst.holds.1, (Site.place_of_finding? hs).symm⟩
  · rintro ⟨s, hs, hinjects, hplace⟩
    obtain ⟨t, hfirst⟩ := IsFirst.exists_of_mem
      (p := fun t : Site => t.Injects ∧ t.place = place) hs ⟨hinjects, hplace⟩
    obtain ⟨f, hf⟩ := Site.exists_finding?_iff.2 hfirst.holds.1
    have heq := hfirst.holds.2
    rw [← heq] at hfirst
    exact ⟨f, (mem_injections_iff h).2 ⟨t, hf, hfirst⟩, (Site.place_of_finding? hf).trans heq⟩

/-- **User input in prompts is found, and found once.** The findings under the rule differ in file
or line. There is one for a file and a line exactly if a function of such a file has a call of a
model below it that sends, on that line, a text into which a tainted name of the function is put.
Its file and its confidence are those of the first such prompt: the confidence tells whether a
parameter and whether data of a request object occur in it. -/
theorem ofUnits_injections {chosen : List String}
    (h : Check.promptInjection ∈ Check.select chosen) (units : List SourceUnit) :
    let found := (ofUnits units chosen).under "AI001"
    (found.map fun f => (fileKey f.file, f.line)).Nodup ∧
      (∀ key line, (∃ f ∈ found, fileKey f.file = key ∧ f.line = line) ↔
        ∃ unit ∈ units, fileKey unit.path = key ∧ ∃ fn ∈ unit.root.listing,
          ∃ call ∈ fn.listing, ∃ argument, call.Sends argument ∧ argument.line = line ∧
            (Site.mk unit fn call argument).Injects) ∧
      ∀ f ∈ found, ∃ s,
        IsFirst (fun t => t.Injects ∧ t.place = (fileKey f.file, f.line)) (Site.all units) s ∧
          f.file = s.unit.path ∧
          ∃ signals : Confidence.Signals, f.confidence = Confidence.score signals ∧
            (signals.directInput = true ↔
              s.argument.Mentions (Taint.collect s.fn).fromParams) ∧
            (signals.requestData = true ↔
              s.argument.Mentions (Taint.collect s.fn).fromRequest) ∧
            signals.assembledText = true ∧ signals.modelCall = true := by
  intro found
  refine ⟨nodup_places_under h rfl units, fun key line => ?_, fun f hf => ?_⟩
  · have hplace := exists_mem_injections_iff h units (key, line)
    simp only [Prod.mk.injEq, Site.place] at hplace
    rw [hplace]
    constructor
    · rintro ⟨s, hs, hinjects, hkey, hline⟩
      obtain ⟨hunit, hfn, hcall, hsends⟩ := Site.mem_all_iff.1 hs
      exact ⟨s.unit, hunit, hkey, s.fn, hfn, s.call, hcall, s.argument, hsends, hline, hinjects⟩
    · rintro ⟨unit, hunit, hkey, fn, hfn, call, hcall, argument, hsends, hline, hinjects⟩
      exact ⟨⟨unit, fn, call, argument⟩, Site.mem_all_iff.2 ⟨hunit, hfn, hcall, hsends⟩, hinjects,
        hkey, hline⟩
  · obtain ⟨s, hs, hfirst⟩ := (mem_injections_iff h).1 hf
    rw [← Site.place_of_finding? hs] at hfirst
    have hinjection := Site.injectionAt?_of_finding? hs
    exact ⟨s, hfirst, (reports_of_injectionAt? hinjection).file,
      confidence_of_injectionAt? hinjection⟩

end Audit

/-! ### A prompt in nested functions -/

/-- A template with the names `input` and `text` in it. -/
def Node.question : Node :=
  .onLine 4 "template_string" (some "value") "" [
    .onLine 4 "template_substitution" none "" [.onLine 4 "identifier" none "input" []],
    .onLine 4 "template_substitution" none "" [.onLine 4 "identifier" none "text" []]]

/-- The content of a message to a model is the template. -/
def Node.asking : Node :=
  .onLine 4 "call_expression" none "" [
    .onLine 4 "identifier" (some "function") "OpenAI" [],
    .onLine 4 "arguments" (some "arguments") "" [
      .onLine 4 "object" none "" [
        .onLine 4 "pair" none "" [
          .onLine 4 "property_identifier" (some "key") "messages" [],
          .onLine 4 "array" (some "value") "" [
            .onLine 4 "object" none "" [
              .onLine 4 "pair" none "" [
                .onLine 4 "string" (some "key") "'content'" [], .question]]]]]]]

/-- A function of `req` that declares `input = req.body`, and a function of `text` in it that asks
the model. -/
def Node.assisting : Node :=
  .onLine 1 "function_declaration" none "" [
    .onLine 1 "formal_parameters" (some "parameters") "(req)" [
      .onLine 1 "identifier" none "req" []],
    .onLine 2 "variable_declarator" none "" [
      .onLine 2 "identifier" (some "name") "input" [],
      .onLine 2 "member_expression" (some "value") "req.body" [
        .onLine 2 "identifier" (some "object") "req" [],
        .onLine 2 "property_identifier" (some "property") "body" []]],
    .onLine 3 "function_declaration" none "" [
      .onLine 3 "formal_parameters" (some "parameters") "(text)" [
        .onLine 3 "identifier" none "text" []],
      .asking]]

/-- A source file with that function. -/
def SourceUnit.assist (path : String) : SourceUnit where
  path := path
  lines := []
  root := .onLine 1 "program" none "" [.assisting]

namespace Audit

/-- A file and its compiled twin, in each of which one prompt is made in two functions: the first
file and the outer function decide. -/
theorem ofUnits_injections_nested :
    let units := [SourceUnit.assist "app.ts", SourceUnit.assist "App.js"]
    Check.promptInjection ∈ Check.select [] ∧
      ∃ f ∈ (ofUnits units []).under "AI001", f.file = "app.ts" ∧ f.line = 4 ∧
        f.confidence =
          Confidence.score { assembledText := true, requestData := true, modelCall := true } := by
  intro units
  have hselect : Check.promptInjection ∈ Check.select [] := by decide
  let s : Site := ⟨.assist "app.ts", .assisting, .asking, .question⟩
  -- Nothing before the call has prompts, so this one comes first of all.
  obtain ⟨rest, hall⟩ : ∃ rest, Site.all units = s :: rest := ⟨_, rfl⟩
  have hmem : s ∈ Site.all units := by rw [hall]; exact List.mem_cons_self
  obtain ⟨hunit, hfn, hcall, hsends⟩ := Site.mem_all_iff.1 hmem
  have hinjects : s.Injects := by
    rw [← Site.exists_finding?_iff, ← Option.isSome_iff_exists]
    decide +kernel
  have hparams : ¬ s.argument.Mentions (Taint.collect s.fn).fromParams := by
    rw [← Node.any_identifiersIn_iff]
    decide +kernel
  have hrequest : s.argument.Mentions (Taint.collect s.fn).fromRequest := by
    rw [← Node.any_identifiersIn_iff]
    decide +kernel
  obtain ⟨-, hplaces, hconfidence⟩ := ofUnits_injections hselect units
  have happ : fileKey "app.ts" = "app" := by decide +kernel
  obtain ⟨f, hf, hkey, hline⟩ := (hplaces "app" 4).2
    ⟨s.unit, hunit, happ, s.fn, hfn, s.call, hcall, s.argument, hsends, rfl, hinjects⟩
  obtain ⟨t, ht, hfile, ⟨direct, assembled, request, model⟩, hscore, hdirect, hderived,
    hassembled, hmodel⟩ := hconfidence f hf
  have hplace : s.place = (fileKey f.file, f.line) := by
    rw [hkey, hline]
    exact Prod.ext happ rfl
  have hts : t = s := ht.unique ⟨⟨hinjects, hplace⟩, [], rest, hall, by simp⟩
  rw [hts] at hfile hdirect hderived
  refine ⟨hselect, f, hf, hfile, hline, ?_⟩
  have hnot : direct = false := Bool.eq_false_iff.2 fun h => hparams (hdirect.1 h)
  have hyes : request = true := hderived.2 hrequest
  rw [hscore, hnot, hyes, show assembled = true from hassembled, show model = true from hmodel]

end Audit

end LlmAudit
