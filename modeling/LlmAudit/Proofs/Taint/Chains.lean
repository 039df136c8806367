import LlmAudit.Proofs.Audit.Independence
import LlmAudit.Proofs.Syntax.Preorder
import Mathlib.Data.List.Induction
import Mathlib.Tactic.Tauto

/-!
# Tainted names are the ends of chains of copies

The subject is the propagation in Section 4.1 (Taint Tracker) of the specification.

A pass over the declarations of a function in document order finds the names that hold a parameter
and those that hold data of a request. Such a name is the end of a chain of declarations, each of
which copies the name that the one before it declares (`Taint.Chain`). The chain stands in the
function in document order, so no declaration is used before it is reached, and none is missed. One
declaration adds to either set of names in the same way (`mem_fromParams_step`,
`mem_fromRequest_step`), and what a pass adds up to is one statement for both
(`iff_exists_chain`).
-/

namespace LlmAudit

/-- A declaration gives a plain name a value to start with. -/
def Node.Declares (decl : Node) (name : String) (value : Node) : Prop :=
  decl.declarationName? = some name ∧ decl.declarationInitializer? = some value

/-- What holds of some value of a name that a declaration declares, holds of its value. -/
theorem Node.Declares.exists_iff {decl value : Node} {name x : String} {p : Node → Prop}
    (h : decl.Declares name value) : (∃ v, decl.Declares x v ∧ p v) ↔ x = name ∧ p value := by
  constructor
  · rintro ⟨v, hv, hp⟩
    obtain rfl := Option.some.inj (hv.2.symm.trans h.2)
    exact ⟨Option.some.inj (hv.1.symm.trans h.1), hp⟩
  · rintro ⟨rfl, hp⟩
    exact ⟨value, h, hp⟩

/-- The declarations below a node in document order. -/
def Node.declarations (n : Node) : List Node :=
  n.listing.filter fun d => d.kind == .variableDecl

namespace Taint

/-- Declarations each of which copies the name that the one before it declares. The value of the
first is a source, and the last one declares the name. -/
inductive Chain (Source : Node → Prop) : List Node → String → Prop where
  /-- One declaration whose value is a source. -/
  | start {decl value : Node} {name : String} :
      decl.Declares name value → Source value → Chain Source [decl] name
  /-- One more declaration, whose value is the name declared last. -/
  | copy {decls : List Node} {decl value : Node} {name : String} :
      Chain Source decls value.text → decl.Declares name value → value.kind = .identifier →
      Chain Source (decls ++ [decl]) name

variable {Source : Node → Prop} {decls : List Node} {decl value : Node} {name x : String}
  {t : Taint}

/-! ### Chains -/

/-- The last declaration of a chain declares its name, as a source if it is the only one and as a
copy otherwise. -/
theorem chain_concat_iff :
    Chain Source (decls ++ [decl]) x ↔
      ∃ value, decl.Declares x value ∧
        (decls = [] ∧ Source value ∨ value.kind = .identifier ∧ Chain Source decls value.text) := by
  constructor
  · intro h
    generalize hds : decls ++ [decl] = ds at h
    cases h with
    | start hdeclares hsource =>
      rcases List.append_eq_singleton_iff.1 hds with ⟨rfl, hlast⟩ | ⟨-, hlast⟩
      · obtain rfl := List.singleton_inj.1 hlast
        exact ⟨_, hdeclares, .inl ⟨rfl, hsource⟩⟩
      · cases hlast
    | copy hchain hdeclares hkind =>
      obtain ⟨rfl, hlast⟩ := List.append_inj' hds rfl
      obtain rfl := List.singleton_inj.1 hlast
      exact ⟨_, hdeclares, .inr ⟨hkind, hchain⟩⟩
  · rintro ⟨value, hdeclares, ⟨rfl, hsource⟩ | ⟨hkind, hchain⟩⟩
    · exact .start hdeclares hsource
    · exact .copy hchain hdeclares hkind

theorem not_chain_nil : ¬ Chain Source [] x := by
  intro h
  generalize hds : ([] : List Node) = ds at h
  cases h <;> simp_all

/-- The chains among declarations with one more at the end: the old ones, and those that end with
the new declaration. -/
theorem exists_chain_concat_iff :
    (∃ ds, ds.Sublist (decls ++ [decl]) ∧ Chain Source ds x) ↔
      (∃ ds, ds.Sublist decls ∧ Chain Source ds x) ∨
        ∃ value, decl.Declares x value ∧
          (Source value ∨ value.kind = .identifier ∧
            ∃ ds, ds.Sublist decls ∧ Chain Source ds value.text) := by
  constructor
  · rintro ⟨ds, hsub, hchain⟩
    obtain ⟨before, last, rfl, hbefore, hlast⟩ := List.sublist_append_iff.1 hsub
    rcases List.sublist_singleton.1 hlast with rfl | rfl
    · exact .inl ⟨before, hbefore, by simpa using hchain⟩
    · obtain ⟨value, hdeclares, ⟨-, hsource⟩ | ⟨hkind, hrest⟩⟩ := chain_concat_iff.1 hchain
      · exact .inr ⟨value, hdeclares, .inl hsource⟩
      · exact .inr ⟨value, hdeclares, .inr ⟨hkind, before, hbefore, hrest⟩⟩
  · rintro (⟨ds, hsub, hchain⟩ | ⟨value, hdeclares, hsource | ⟨hkind, ds, hsub, hchain⟩⟩)
    · exact ⟨ds, hsub.trans (List.sublist_append_left ..), hchain⟩
    · exact ⟨[decl], List.sublist_append_right .., .start hdeclares hsource⟩
    · exact ⟨ds ++ [decl], hsub.append (List.Sublist.refl _), .copy hchain hdeclares hkind⟩

/-- Names that are collected declaration by declaration, each of which adds its name if its value is
a source or copies a name that is there, are those at the start and the ends of chains. -/
theorem iff_exists_chain (Source : Node → Prop) (seed : String → Prop)
    (names : List Node → String → Prop) (hnil : ∀ x, names [] x ↔ seed x)
    (hconcat : ∀ decls decl x, names (decls ++ [decl]) x ↔ names decls x ∨
      ∃ value, decl.Declares x value ∧
        (Source value ∨ value.kind = .identifier ∧ names decls value.text))
    (decls : List Node) (x : String) :
    names decls x ↔ seed x ∨ ∃ ds, ds.Sublist decls ∧
      Chain (fun value => Source value ∨ value.kind = .identifier ∧ seed value.text) ds x := by
  induction decls using List.reverseRecOn generalizing x with
  | nil =>
    rw [hnil]
    refine ⟨.inl, fun h => h.resolve_right ?_⟩
    rintro ⟨ds, hsub, hchain⟩
    rw [List.sublist_nil.1 hsub] at hchain
    exact not_chain_nil hchain
  | append_singleton decls decl ih =>
    rw [hconcat, exists_chain_concat_iff, ih, or_assoc]
    refine or_congr_right (or_congr_right (exists_congr fun value => and_congr_right fun _ => ?_))
    rw [ih]
    tauto

/-! ### One declaration -/

theorem mem_insertName {names : List String} :
    x ∈ insertName names name ↔ x ∈ names ∨ x = name := by
  rw [insertName]
  split
  · rename_i hname
    exact ⟨.inl, fun h => h.elim id fun heq => heq ▸ hname⟩
  · rw [List.mem_append, List.mem_singleton]

/-- A declaration with a plain name and a value declares that value; any other changes nothing. -/
theorem step_cases (t : Taint) (decl : Node) :
    (∃ name value, decl.Declares name value ∧ t.step decl = t.declare name value) ∨
      (∀ name value, ¬ decl.Declares name value) ∧ t.step decl = t := by
  rw [step]
  split
  · rename_i name value hname hvalue
    exact .inl ⟨name, value, ⟨hname, hvalue⟩, rfl⟩
  · rename_i hnone
    exact .inr ⟨fun name value h => hnone name value h.1 h.2, rfl⟩

/-- A declaration adds its name to those that hold a parameter if it copies one of them. -/
theorem mem_fromParams_step :
    x ∈ (t.step decl).fromParams ↔ x ∈ t.fromParams ∨
      ∃ value, decl.Declares x value ∧ value.kind = .identifier ∧ value.text ∈ t.fromParams := by
  rcases t.step_cases decl with ⟨name, value, hdeclares, hstep⟩ | ⟨hnone, hstep⟩
  · have hvalue : (∃ v, decl.Declares x v ∧ v.kind = .identifier ∧ v.text ∈ t.fromParams) ↔
        x = name ∧ value.kind = .identifier ∧ value.text ∈ t.fromParams :=
      hdeclares.exists_iff
    rw [hstep, hvalue, declare]
    by_cases hkind : value.kind = .identifier
    · rw [if_pos hkind]
      by_cases hmem : value.text ∈ t.fromParams
      · simp [hkind, hmem, mem_insertName]
      · simp [hmem]
    · rw [if_neg hkind]
      split <;> simp [hkind]
  · rw [hstep]
    simp [hnone]

/-- A declaration adds its name to those that hold data of a request if it reads a request object or
copies one of them. -/
theorem mem_fromRequest_step :
    x ∈ (t.step decl).fromRequest ↔ x ∈ t.fromRequest ∨
      ∃ value, decl.Declares x value ∧
        (value.isRequestAccess = true ∨ value.kind = .identifier ∧ value.text ∈ t.fromRequest) := by
  rcases t.step_cases decl with ⟨name, value, hdeclares, hstep⟩ | ⟨hnone, hstep⟩
  · rw [hstep, hdeclares.exists_iff, declare]
    by_cases hkind : value.kind = .identifier
    · -- a name is no access, so the two ways to be added exclude each other
      have haccess : value.isRequestAccess = false := by simp [Node.isRequestAccess, hkind]
      rw [if_pos hkind]
      by_cases hmem : value.text ∈ t.fromRequest
      · simp [hkind, hmem, mem_insertName]
      · simp [hmem, haccess]
    · rw [if_neg hkind]
      by_cases haccess : value.isRequestAccess = true
      · simp [haccess, mem_insertName]
      · simp [hkind, haccess]
  · rw [hstep]
    simp [hnone]

/-! ### All declarations -/

theorem mem_foldl_insertName {names params : List String} :
    x ∈ params.foldl insertName names ↔ x ∈ names ∨ x ∈ params := by
  induction params generalizing names with
  | nil => simp
  | cons name params ih =>
    rw [List.foldl_cons, ih, mem_insertName, List.mem_cons, or_assoc]

theorem foldl_step_concat (t : Taint) (decls : List Node) (decl : Node) :
    (decls ++ [decl]).foldl step t = (decls.foldl step t).step decl := by
  rw [List.foldl_append, List.foldl_cons, List.foldl_nil]

theorem collect_eq_foldl (n : Node) : collect n = n.declarations.foldl step (initial n) := by
  rw [collect, Node.descendantsOfKind, Node.descendants_eq_listing, Node.declarations]

/-- The names that hold a parameter after a pass: the ones at its start and the ends of chains of
copies of these. -/
theorem mem_fromParams_foldl (t : Taint) (decls : List Node) (x : String) :
    x ∈ (decls.foldl step t).fromParams ↔ x ∈ t.fromParams ∨
      ∃ ds, ds.Sublist decls ∧
        Chain (fun value => value.kind = .identifier ∧ value.text ∈ t.fromParams) ds x := by
  have h := iff_exists_chain (fun _ => False) (· ∈ t.fromParams)
    (fun decls x => x ∈ (decls.foldl step t).fromParams) (fun _ => Iff.rfl)
    (fun decls decl x => by rw [foldl_step_concat, mem_fromParams_step]; simp only [false_or])
    decls x
  simpa only [false_or] using h

/-- The names that hold data of a request after a pass that starts with none: the ends of chains of
copies of what is read from a request object. -/
theorem mem_fromRequest_foldl {t : Taint} (ht : t.fromRequest = []) (decls : List Node)
    (x : String) :
    x ∈ (decls.foldl step t).fromRequest ↔
      ∃ ds, ds.Sublist decls ∧ Chain (fun value => value.isRequestAccess = true) ds x := by
  have h := iff_exists_chain (fun value => value.isRequestAccess = true) (fun _ => False)
    (fun decls x => x ∈ (decls.foldl step t).fromRequest) (fun x => by simp [ht])
    (fun decls decl x => by rw [foldl_step_concat, mem_fromRequest_step]) decls x
  simpa only [and_false, or_false, false_or] using h

/-- **Taint is what forward chains of copies carry.** A name of a function holds a parameter exactly
if it is a parameter or the end of a chain of declarations of the function, in document order, whose
first value names a parameter; and it holds data of a request exactly if it is the end of such a
chain whose first value reads a request object. -/
theorem mem_collect_iff {fn : Node} (hfn : fn.kind = .functionLike) (x : String) :
    (x ∈ (collect fn).fromParams ↔ x ∈ fn.functionParameters ∨
      ∃ ds, ds.Sublist fn.declarations ∧
        Chain (fun value => value.kind = .identifier ∧ value.text ∈ fn.functionParameters) ds x) ∧
    (x ∈ (collect fn).fromRequest ↔
      ∃ ds, ds.Sublist fn.declarations ∧
        Chain (fun value => value.isRequestAccess = true) ds x) := by
  have hparams : ∀ y, y ∈ (initial fn).fromParams ↔ y ∈ fn.functionParameters := by
    intro y
    rw [initial, if_pos hfn, mem_foldl_insertName]
    simp
  rw [collect_eq_foldl]
  refine ⟨?_, mem_fromRequest_foldl rfl _ x⟩
  rw [mem_fromParams_foldl]
  simp only [hparams]

end Taint

/-! ### A function that copies -/

/-- A declaration on the first line. -/
def Node.declaring (name : String) (value : Node) : Node :=
  .onLine 1 "variable_declarator" none "" [.onLine 1 "identifier" (some "name") name [], value]

/-- A function of `req` and `p` that declares `early = later`, `later = req.body`, `p = later` and
`q = p`, in this order. -/
def Node.copying : Node :=
  .onLine 1 "function_declaration" none "" [
    .onLine 1 "formal_parameters" (some "parameters") "(req, p)" [
      .onLine 1 "identifier" none "req" [], .onLine 1 "identifier" none "p" []],
    .declaring "early" (.onLine 1 "identifier" (some "value") "later" []),
    .declaring "later" (.onLine 1 "member_expression" (some "value") "req.body" [
      .onLine 1 "identifier" (some "object") "req" [],
      .onLine 1 "property_identifier" (some "property") "body" []]),
    .declaring "p" (.onLine 1 "identifier" (some "value") "later" []),
    .declaring "q" (.onLine 1 "identifier" (some "value") "p" [])]

namespace Taint

/-- A name at the end of a chain of each sort, and one that copies a name before it is declared. -/
theorem mem_collect_iff_copying :
    let fn := Node.copying
    fn.kind = .functionLike ∧ "q" ∉ fn.functionParameters ∧
      (∃ ds, ds.Sublist fn.declarations ∧ Chain
        (fun value => value.kind = .identifier ∧ value.text ∈ fn.functionParameters) ds "q") ∧
      (∃ ds, ds.Sublist fn.declarations ∧
        Chain (fun value => value.isRequestAccess = true) ds "q") ∧
      ¬ ∃ ds, ds.Sublist fn.declarations ∧
        Chain (fun value => value.isRequestAccess = true) ds "early" := by
  intro fn
  have hrun : fn.kind = .functionLike ∧ "q" ∉ fn.functionParameters ∧
      "q" ∈ (collect fn).fromParams ∧ "q" ∈ (collect fn).fromRequest ∧
      "early" ∉ (collect fn).fromRequest := by
    decide +kernel
  obtain ⟨hfn, hparameter, hparams, hrequest, hearly⟩ := hrun
  obtain ⟨hparams_iff, hrequest_iff⟩ := mem_collect_iff hfn "q"
  refine ⟨hfn, hparameter, ?_, hrequest_iff.1 hrequest, fun hchain => ?_⟩
  · exact (hparams_iff.1 hparams).resolve_left hparameter
  · exact hearly ((mem_collect_iff hfn "early").2.2 hchain)

end Taint

end LlmAudit
