import LlmAudit.Proofs.Audit.Injections
import LlmAudit.Proofs.Syntax.Positions

/-!
# Model calls before authentication

The subject is detector 4 of Section 4.2 (Rule Set) of the specification, a "monotonic one-way state
machine per scope".

The check goes through the calls below a handler in document order and stops at the first that
authenticates. A call in nested handlers is looked at once for each of them, and each has its own
first authentication: one that stands in an outer handler before an inner one does not protect the
calls of the inner one.

What an audit reports of this is said with addresses (`Audit.ofUnits_earlyCalls`): a model call of a
handler is found exactly if no authentication below that handler has a smaller address. The check
reports the model calls with no authentication in front of them (`mem_callsBeforeAuth_iff`), and
what is in front of a node is what has a smaller address (`mem_callsBeforeAuth_calls_iff`).
-/

namespace LlmAudit

/-- A parameter of a function is named for a request, in any case. -/
def Node.HandlesRequests (fn : Node) : Prop :=
  ∃ name ∈ fn.functionParameters, Text.lowered name ∈ ["req", "request", "ctx"]

/-- A call of a model at an address below a function, before which nothing below the function
authenticates. -/
structure Node.CallsEarly (fn : Node) (path : List Nat) (call : Node) : Prop where
  /-- The call hangs below the function. -/
  below : fn.Below path call
  /-- It calls a model. -/
  callsModel : call.CallsModel
  /-- It does not authenticate itself. -/
  noAuth : ¬ call.CalleeHolds authWords
  /-- Nor does a call with a smaller address. -/
  noAuthBefore : ∀ earlier other, fn.Below earlier other → earlier < path →
    other.kind = .call → ¬ other.CalleeHolds authWords

theorem Node.isRequestHandler_iff {fn : Node} :
    fn.isRequestHandler = true ↔ fn.HandlesRequests := by
  simp only [isRequestHandler, HandlesRequests, List.any_eq_true, List.contains_iff_mem]

/-! ### The calls before the first authentication -/

/-- An element stands in a list behind elements of some sort only: at the front, or behind such an
element and again so in the rest. -/
theorem exists_split_cons_iff {α : Type} {p : α → Prop} {a x : α} {l : List α} :
    (∃ before after, x :: l = before ++ a :: after ∧ ∀ b ∈ before, p b) ↔
      a = x ∨ p x ∧ ∃ before after, l = before ++ a :: after ∧ ∀ b ∈ before, p b := by
  constructor
  · rintro ⟨before, after, hsplit, hbefore⟩
    cases before with
    | nil => exact .inl (List.cons.inj hsplit).1.symm
    | cons b before =>
      obtain ⟨rfl, rfl⟩ := List.cons.inj hsplit
      rw [List.forall_mem_cons] at hbefore
      exact .inr ⟨hbefore.1, before, after, rfl, hbefore.2⟩
  · rintro (rfl | ⟨hx, before, after, rfl, hbefore⟩)
    · exact ⟨[], l, rfl, by simp⟩
    · exact ⟨x :: before, after, rfl, List.forall_mem_cons.2 ⟨hx, hbefore⟩⟩

namespace SourceUnit

theorem mem_callsBeforeAuth_iff {nodes : List Node} {call : Node} :
    call ∈ callsBeforeAuth (nodes.filter fun n => n.kind == .call) ↔
      call.isModelCall = true ∧ call.isAuthCall = false ∧
        ∃ before after, nodes = before ++ call :: after ∧
          ∀ b ∈ before, b.kind = .call → b.isAuthCall = false := by
  induction nodes with
  | nil => simp [callsBeforeAuth]
  | cons n nodes ih =>
    rw [exists_split_cons_iff, List.filter_cons]
    by_cases hcall : n.kind = .call
    · rw [if_pos (beq_iff_eq.2 hcall), callsBeforeAuth]
      by_cases hauth : n.isAuthCall = true
      · -- the walk ends here, and whatever comes later stands behind an authentication
        rw [if_pos hauth]
        refine iff_of_false List.not_mem_nil ?_
        rintro ⟨-, hnot, rfl | ⟨hn, -⟩⟩
        · rw [hauth] at hnot
          cases hnot
        · rw [hn hcall] at hauth
          cases hauth
      · rw [if_neg hauth]
        by_cases hmodel : n.isModelCall = true
        · rw [if_pos hmodel, List.mem_cons, ih]
          grind
        · rw [if_neg hmodel, ih]
          grind
    · -- a node that is no call is no model call either
      have hmodel : n.isModelCall = false := by simp [Node.isModelCall, hcall]
      rw [if_neg (mt beq_iff_eq.1 hcall), ih]
      grind

/-- The check finds the early calls of a function. -/
theorem mem_callsBeforeAuth_calls_iff {fn call : Node} :
    call ∈ callsBeforeAuth fn.calls ↔ ∃ path, fn.CallsEarly path call := by
  rw [Node.calls, Node.descendantsOfKind, Node.descendants_eq_listing, mem_callsBeforeAuth_iff,
    Node.isModelCall_iff, Node.exists_split_listing_iff]
  simp only [← Bool.not_eq_true, Node.isAuthCall_iff]
  constructor
  · rintro ⟨hmodel, hauth, path, hbelow, hearlier⟩
    exact ⟨path, hbelow, hmodel, hauth, hearlier⟩
  · rintro ⟨path, hbelow, hmodel, hauth, hearlier⟩
    exact ⟨hmodel, hauth, path, hbelow, hearlier⟩

theorem mem_handlers_iff {unit : SourceUnit} {fn : Node} :
    fn ∈ unit.root.functions.filter Node.isRequestHandler ↔
      ∃ place, unit.root.Below place fn ∧ fn.kind = .functionLike ∧ fn.HandlesRequests := by
  rw [List.mem_filter, Node.mem_functions_iff, Node.mem_listing_iff, Node.isRequestHandler_iff,
    and_assoc, exists_and_right]

/-- The check finds something on a line exactly if an early call of a handler stands there. -/
theorem exists_mem_earlyCalls_iff (unit : SourceUnit) (line : Int) :
    (∃ f ∈ unit.earlyCalls, f.line = line) ↔
      ∃ place fn, unit.root.Below place fn ∧ fn.kind = .functionLike ∧ fn.HandlesRequests ∧
        ∃ path call, fn.CallsEarly path call ∧ call.line = line := by
  constructor
  · rintro ⟨f, hf, rfl⟩
    obtain ⟨fn, hfn, hf⟩ := List.mem_flatMap.1 hf
    obtain ⟨call, hcall, rfl⟩ := List.mem_map.1 hf
    obtain ⟨place, hplace, hkind, hhandles⟩ := mem_handlers_iff.1 hfn
    obtain ⟨path, hearly⟩ := mem_callsBeforeAuth_calls_iff.1 hcall
    exact ⟨place, fn, hplace, hkind, hhandles, path, call, hearly, rfl⟩
  · rintro ⟨place, fn, hplace, hkind, hhandles, path, call, hearly, rfl⟩
    have hfn := mem_handlers_iff.2 ⟨place, hplace, hkind, hhandles⟩
    have hcall := mem_callsBeforeAuth_calls_iff.2 ⟨path, hearly⟩
    exact ⟨_, List.mem_flatMap.2 ⟨fn, hfn, List.mem_map.2 ⟨call, hcall, rfl⟩⟩, rfl⟩

end SourceUnit

namespace Audit

/-- **A model call before authentication is found, and found once.** The findings under the rule
differ in file or line. There is one for a file and a line exactly if a file of that key has a
function with a parameter named for a request, and below this function a call of a model on that
line that does not authenticate, such that no call below the function that authenticates comes
before it in document order. -/
theorem ofUnits_earlyCalls {chosen : List String}
    (h : Check.callBeforeAuth ∈ Check.select chosen) (units : List SourceUnit) :
    let found := (ofUnits units chosen).under "AI003"
    (found.map fun f => (fileKey f.file, f.line)).Nodup ∧
      ∀ key line, (∃ f ∈ found, fileKey f.file = key ∧ f.line = line) ↔
        ∃ unit ∈ units, fileKey unit.path = key ∧
          ∃ place fn, unit.root.Below place fn ∧ fn.kind = .functionLike ∧ fn.HandlesRequests ∧
            ∃ path call, fn.CallsEarly path call ∧ call.line = line := by
  intro found
  refine ⟨nodup_places_under h rfl units, fun key line => ?_⟩
  refine (exists_mem_under_iff h rfl units key line).trans ?_
  simp only [← SourceUnit.exists_mem_earlyCalls_iff]
  constructor
  · rintro ⟨f, hf, rfl, rfl⟩
    obtain ⟨unit, hunit, hf⟩ := List.mem_flatMap.1 hf
    have hfile : f.file = unit.path := (reports_of_mem_runUnit hf).file
    exact ⟨unit, hunit, congrArg fileKey hfile.symm, f, hf, rfl⟩
  · rintro ⟨unit, hunit, rfl, f, hf, rfl⟩
    have hfile : f.file = unit.path := (reports_of_mem_runUnit (c := .callBeforeAuth) hf).file
    exact ⟨f, List.mem_flatMap.2 ⟨unit, hunit, hf⟩, congrArg fileKey hfile, rfl⟩

end Audit

/-! ### A handler in a handler -/

/-- A call without arguments. -/
def Node.callOf (line : Nat) (callee : String) : Node :=
  .onLine line "call_expression" none "" [
    .onLine line "identifier" (some "function") callee [],
    .onLine line "arguments" (some "arguments") "()" []]

/-- A function of one parameter. -/
def Node.functionOf (line : Nat) (parameter : String) (body : List Node) : Node :=
  .onLine line "function_declaration" none "" (
    .onLine line "formal_parameters" (some "parameters") "" [
      .onLine line "identifier" none parameter []] :: body)

/-- A handler that authenticates before it declares a handler in it. The inner one calls a model
both before and after it authenticates. -/
def SourceUnit.guarded (path : String) : SourceUnit where
  path := path
  lines := []
  root := .onLine 1 "program" none "" [
    .functionOf 1 "req" [
      .callOf 2 "requireAuth",
      .functionOf 3 "Ctx" [.callOf 4 "OpenAI", .callOf 5 "auth", .callOf 6 "OpenAI"]]]

namespace Audit

/-- The outer authentication does not protect the first call of the inner handler; its own does
protect the second. -/
theorem ofUnits_earlyCalls_guarded :
    let units := [SourceUnit.guarded "app.ts"]
    Check.callBeforeAuth ∈ Check.select [] ∧
      ∀ line, (∃ f ∈ (ofUnits units []).under "AI003", fileKey f.file = "app" ∧ f.line = line) ↔
        line = 4 := by
  intro units
  have hselect : Check.callBeforeAuth ∈ Check.select [] := by decide
  have hkey : fileKey "app.ts" = "app" := by decide +kernel
  have hlines : (SourceUnit.guarded "app.ts").earlyCalls.map Finding.line = [4] := by
    decide +kernel
  refine ⟨hselect, fun line => ?_⟩
  rw [(ofUnits_earlyCalls hselect units).2 "app" line]
  simp only [← SourceUnit.exists_mem_earlyCalls_iff, units, List.mem_singleton, exists_eq_left,
    show (SourceUnit.guarded "app.ts").path = "app.ts" from rfl, hkey, true_and]
  rw [← List.mem_map, hlines, List.mem_singleton]

end Audit

end LlmAudit
