import LlmAudit.Proofs.Audit.Injections
import LlmAudit.Proofs.Taint.Chains

/-!
# Taint of functions in functions

The subject are the function scopes of Section 4.1 (Taint Tracker) of the specification.

The taint of a function is collected from all declarations below it, those of inner functions
included. What is below an inner function stands below the outer one in the same order
(`declarations_sublist`), so that a chain of copies in the inner function is one in the outer
function, too: the outer function knows all data of request objects that the inner one knows
(`fromRequest_subset`). Parameters are another matter, since each function starts with its own.

A prompt that is found for the inner function because of request data is therefore found for the
outer one (`inner_request_taint`).
-/

namespace LlmAudit

variable {f g : Node}

theorem Node.listing_sublist (h : g ∈ f.listing) : g.listing.Sublist f.listing := by
  obtain ⟨before, after, hlisting⟩ := Node.exists_listing_eq_append h
  have hinner : g.listing.Sublist (g :: (g.listing ++ after)) :=
    (List.sublist_append_left ..).cons g
  rw [hlisting]
  exact hinner.trans (List.sublist_append_right ..)

theorem Node.declarations_sublist (h : g ∈ f.listing) : g.declarations.Sublist f.declarations :=
  (Node.listing_sublist h).filter _

theorem Node.Mentions.mono {n : Node} {names names' : List String} (h : n.Mentions names)
    (hsub : names ⊆ names') : n.Mentions names' := by
  obtain ⟨i, hi, hkind, hname⟩ := h
  exact ⟨i, hi, hkind, hsub hname⟩

namespace Taint

/-- A function knows all data of request objects that is known below it. -/
theorem fromRequest_subset (h : g ∈ f.listing) :
    (collect g).fromRequest ⊆ (collect f).fromRequest := by
  intro x hx
  rw [collect_eq_foldl, mem_fromRequest_foldl rfl] at hx ⊢
  obtain ⟨ds, hsub, hchain⟩ := hx
  exact ⟨ds, hsub.trans (Node.declarations_sublist h), hchain⟩

/-- **An inner function never knows more request data than an outer one.** Of a node and a function
below it, the names that hold request data in the function hold it in the node as well. So if the
node is itself a function, each prompt for which the check reports a finding in the scope of the
inner function, because of a name that holds request data there, is one for which it reports a
finding on the same line in the scope of the outer function, again because of such a name. -/
theorem inner_request_taint (hg : g ∈ f.functions) :
    (collect g).fromRequest ⊆ (collect f).fromRequest ∧
      ∀ (units : List SourceUnit) (unit : SourceUnit) (call argument : Node) (x : Finding),
        Site.mk unit g call argument ∈ Site.all units →
        (Site.mk unit g call argument).finding? = some x →
        argument.Mentions (collect g).fromRequest →
        f ∈ unit.root.functions →
          Site.mk unit f call argument ∈ Site.all units ∧
            argument.Mentions (collect f).fromRequest ∧
            ∃ y ∈ Check.promptInjection.run units,
              (Site.mk unit f call argument).finding? = some y ∧
                y.file = x.file ∧ y.line = x.line := by
  have hmem : g ∈ f.listing := (Node.mem_functions_iff.1 hg).1
  have hsub := fromRequest_subset hmem
  refine ⟨hsub, fun units unit call argument x hsite hx hrequest hf => ?_⟩
  obtain ⟨hfn, hkind⟩ := Node.mem_functions_iff.1 hf
  obtain ⟨hunit, -, hcall, hsends⟩ := Site.mem_all_iff.1 hsite
  have hinjects := Site.exists_finding?_iff.1 ⟨x, hx⟩
  have houter : argument.Mentions (collect f).fromRequest := hrequest.mono hsub
  have hsite' : Site.mk unit f call argument ∈ Site.all units :=
    Site.mem_all_iff.2 ⟨hunit, hfn, (Node.listing_sublist hmem).subset hcall, hsends⟩
  have hinjects' : (Site.mk unit f call argument).Injects :=
    { isFunction := hkind
      callsModel := hinjects.callsModel
      isAssembled := hinjects.isAssembled
      mentions := Node.mentions_names_iff.2 (.inr houter) }
  obtain ⟨y, hy⟩ := Site.exists_finding?_iff.2 hinjects'
  have hrun : y ∈ Check.promptInjection.run units := by
    rw [run_promptInjection]
    exact List.mem_filterMap.2 ⟨_, hsite', hy⟩
  have hx' := Site.injectionAt?_of_finding? hx
  have hy' := Site.injectionAt?_of_finding? hy
  refine ⟨hsite', houter, y, hrun, hy, ?_, ?_⟩
  · rw [(reports_of_injectionAt? hy').file, (reports_of_injectionAt? hx').file]
  · rw [line_of_injectionAt? hy', line_of_injectionAt? hx']

end Taint

/-! ### A function that reads the request for another one -/

/-- A function of `req` that declares `input = req.body` and asks the model about it. -/
def Node.reading : Node :=
  .onLine 2 "function_declaration" none "" [
    .onLine 2 "formal_parameters" (some "parameters") "(req)" [
      .onLine 2 "identifier" none "req" []],
    .declaring "input" (.onLine 3 "member_expression" (some "value") "req.body" [
      .onLine 3 "identifier" (some "object") "req" [],
      .onLine 3 "property_identifier" (some "property") "body" []]),
    .asking]

/-- A function without parameters around it. -/
def Node.wrapping : Node :=
  .onLine 1 "function_declaration" none "" [
    .onLine 1 "formal_parameters" (some "parameters") "()" [], .reading]

/-- A source file with that function. -/
def SourceUnit.wrapped : SourceUnit where
  path := "app.ts"
  lines := []
  root := .onLine 1 "program" none "" [.wrapping]

namespace Taint

/-- The outer function has no parameters and no declarations of its own, and all the same the prompt
is found for it. -/
theorem inner_request_taint_wrapped :
    let unit := SourceUnit.wrapped
    Node.reading ∈ Node.wrapping.functions ∧ Node.wrapping ∈ unit.root.functions ∧
      Node.wrapping.functionParameters = [] ∧
      Node.question.Mentions (collect .reading).fromRequest ∧
      ∃ x y, (Site.mk unit .reading .asking .question).finding? = some x ∧
        (Site.mk unit .wrapping .asking .question).finding? = some y ∧ y.line = x.line := by
  intro unit
  have hinner : Node.reading ∈ Node.wrapping.functions :=
    Node.mem_functions_iff.2 ⟨List.mem_cons_of_mem _ List.mem_cons_self, by decide +kernel⟩
  have houter : Node.wrapping ∈ unit.root.functions :=
    Node.mem_functions_iff.2 ⟨List.mem_cons_self, by decide +kernel⟩
  have hmentions : Node.question.Mentions (collect .reading).fromRequest := by
    rw [← Node.any_identifiersIn_iff]
    decide +kernel
  -- the prompt is met first in the outer function and then in the inner one
  obtain ⟨rest, hall⟩ : ∃ rest, Site.all [unit] = ⟨unit, .wrapping, .asking, .question⟩ ::
      ⟨unit, .reading, .asking, .question⟩ :: rest := ⟨_, rfl⟩
  have hsite : Site.mk unit .reading .asking .question ∈ Site.all [unit] := by
    rw [hall]
    exact List.mem_cons_of_mem _ List.mem_cons_self
  obtain ⟨x, hx⟩ : ∃ x, (Site.mk unit .reading .asking .question).finding? = some x := by
    rw [← Option.isSome_iff_exists]
    decide +kernel
  obtain ⟨-, -, y, -, hy, -, hline⟩ :=
    (inner_request_taint hinner).2 [unit] unit .asking .question x hsite hx hmentions houter
  exact ⟨hinner, houter, rfl, hmentions, x, y, hx, hy, hline⟩

end Taint

end LlmAudit
