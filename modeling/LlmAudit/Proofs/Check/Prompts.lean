import LlmAudit.Check.Prompt
import LlmAudit.Proofs.Syntax.Preorder
import Mathlib.Data.List.Basic

/-!
# What a call sends to a model

The subject are the words of Section 4.2 (Rule Set) of the specification: LLM calls, prompt-bearing
arguments, concatenations and templates.

The parts of a call that the checks look at, said in terms of the tree: which words its callee holds
(`Node.CalleeHolds`) and so which calls are calls of a model (`Node.CallsModel`), which nodes such a
call sends (`Node.Sends`), which of them are texts put together from parts (`Node.IsAssembled`), and
which names occur in them (`Node.Mentions`). For each of them there is the function that the checks
run.
-/

namespace LlmAudit.Node

variable {n call object value : Node} {name : String}

/-! ### Functions and calls -/

theorem mem_functions_iff {fn : Node} :
    fn ∈ n.functions ↔ fn ∈ n.listing ∧ fn.kind = .functionLike := by
  rw [functions, descendantsOfKind, descendants_eq_listing, List.mem_filter, beq_iff_eq]

/-- One of the words occurs somewhere in the text of a node, in any case. -/
def TextHolds (n : Node) (words : List String) : Prop :=
  ∃ word ∈ words, word.toList <:+: (Text.lowered n.text).toList

/-- One of the words occurs in the text of what is called. -/
def CalleeHolds (call : Node) (words : List String) : Prop :=
  ∃ callee, call.callee? = some callee ∧ callee.TextHolds words

/-- A call without a callee holds no word, so that the empty text which stands for it does no
harm. -/
theorem containsAny_calleeText_iff {words : List String} (h : "" ∉ words) :
    Text.containsAny call.calleeText words = true ↔ call.CalleeHolds words := by
  rw [Text.containsAny_iff, calleeText, CalleeHolds]
  cases call.callee? with
  | some callee => simp [TextHolds]
  | none => simpa using h

theorem isAuthCall_iff : call.isAuthCall = true ↔ call.CalleeHolds authWords :=
  containsAny_calleeText_iff (by decide)

theorem isLoggerCall_iff : call.isLoggerCall = true ↔ call.CalleeHolds loggerWords :=
  containsAny_calleeText_iff (by decide)

/-- A call with a word of a model vendor somewhere in its callee's text, in any case. -/
def CallsModel (n : Node) : Prop :=
  n.kind = .call ∧ ∃ callee, n.callee? = some callee ∧
    ∃ word ∈ modelWords, word.toList <:+: (Text.lowered callee.text).toList

theorem isModelCall_iff : n.isModelCall = true ↔ n.CallsModel := by
  have hempty : "" ∉ modelWords := by decide
  rw [isModelCall, Bool.and_eq_true, beq_iff_eq, containsAny_calleeText_iff hempty]
  exact Iff.rfl

/-! ### Prompts -/

/-- An object literal has a value for a name, written `name: value` or with a quoted name. -/
def HasProperty (object : Node) (name : String) (value : Node) : Prop :=
  ∃ pair ∈ object.namedChildren, pair.type = "pair" ∧
    ∃ key, pair.childByField? "key" = some key ∧ unquoted key.text = name ∧
      pair.childByField? "value" = some value

theorem mem_propertyValues_iff :
    value ∈ object.propertyValues name ↔ object.HasProperty name value := by
  rw [propertyValues, List.mem_filterMap]
  refine exists_congr fun pair => and_congr_right fun _ => ?_
  by_cases htype : pair.type = "pair"
  · rw [if_pos htype, and_iff_right htype]
    cases pair.childByField? "key" with
    | none => simp
    | some key =>
      cases pair.childByField? "value" with
      | none => simp
      | some found =>
        by_cases hname : unquoted key.text = name
        · simp [hname]
        · simp [hname]
  · rw [if_neg htype]
    simp [htype]

/-- What a call sends: its first argument; or, if that is an object literal, its prompts and the
contents of the objects in its lists of messages. -/
inductive Sends (call : Node) : Node → Prop where
  /-- The first argument. -/
  | first {a : Node} : call.callArguments.head? = some a → a.kind ≠ .objectLiteral → Sends call a
  /-- A prompt. -/
  | prompt {options a : Node} :
      call.callArguments.head? = some options → options.kind = .objectLiteral →
      options.HasProperty "prompt" a → Sends call a
  /-- The content of a message. -/
  | message {options messages element a : Node} :
      call.callArguments.head? = some options → options.kind = .objectLiteral →
      options.HasProperty "messages" messages → messages.kind = .arrayLiteral →
      element ∈ messages.namedChildren → element.kind = .objectLiteral →
      element.HasProperty "content" a → Sends call a

theorem mem_messageContents_iff {messages a : Node} :
    a ∈ messages.messageContents ↔
      messages.kind = .arrayLiteral ∧ ∃ element ∈ messages.namedChildren,
        element.kind = .objectLiteral ∧ element.HasProperty "content" a := by
  rw [messageContents]
  split
  · rename_i hkind
    simp [hkind, mem_propertyValues_iff, and_assoc]
  · rename_i hkind
    simp [hkind]

theorem mem_promptArguments_iff {a : Node} : a ∈ call.promptArguments ↔ call.Sends a := by
  rw [promptArguments]
  cases harguments : call.callArguments with
  | nil =>
    refine iff_of_false List.not_mem_nil fun h => ?_
    cases h <;> simp_all
  | cons options rest =>
    have hhead : call.callArguments.head? = some options := by rw [harguments, List.head?_cons]
    by_cases hkind : options.kind = .objectLiteral
    · simp only [if_pos hkind, List.mem_append, List.mem_flatMap, mem_propertyValues_iff,
        mem_messageContents_iff]
      constructor
      · rintro (h | ⟨messages, hmessages, harray, element, hmem, hobject, h⟩)
        · exact .prompt hhead hkind h
        · exact .message hhead hkind hmessages harray hmem hobject h
      · intro h
        cases h with
        | first hhead' hother =>
          obtain rfl := Option.some.inj (hhead.symm.trans hhead')
          exact absurd hkind hother
        | prompt hhead' _ h =>
          obtain rfl := Option.some.inj (hhead.symm.trans hhead')
          exact Or.inl h
        | message hhead' _ hmessages harray hmem hobject h =>
          obtain rfl := Option.some.inj (hhead.symm.trans hhead')
          exact Or.inr ⟨_, hmessages, harray, _, hmem, hobject, h⟩
    · simp only [if_neg hkind, List.mem_singleton]
      constructor
      · rintro rfl
        exact .first hhead hkind
      · intro h
        cases h with
        | first hhead' => exact Option.some.inj (hhead'.symm.trans hhead)
        | prompt hhead' hkind' =>
          obtain rfl := Option.some.inj (hhead.symm.trans hhead')
          exact absurd hkind' hkind
        | message hhead' hkind' =>
          obtain rfl := Option.some.inj (hhead.symm.trans hhead')
          exact absurd hkind' hkind

/-! ### Texts -/

/-- A sum of two operands or a template. -/
def IsAssembled (n : Node) : Prop :=
  (n.kind = .binaryOp ∧ ∃ operator, n.childByField? "operator" = some operator ∧
      operator.type = "+") ∨
    n.kind = .templateLiteral

theorem isAssembledText_iff : n.isAssembledText = true ↔ n.IsAssembled := by
  rw [isAssembledText, Bool.or_eq_true, isConcatenation, Bool.and_eq_true, beq_iff_eq, beq_iff_eq,
    IsAssembled]
  cases n.childByField? "operator" with
  | none => simp
  | some operator => simp

/-- A name of a list occurs in a node, the node itself included. -/
def Mentions (n : Node) (names : List String) : Prop :=
  ∃ i ∈ n :: n.listing, i.kind = .identifier ∧ i.text ∈ names

theorem any_identifiersIn_iff {names : List String} :
    ((n.identifiersIn.map Node.text).any fun x => names.contains x) = true ↔ n.Mentions names := by
  rw [identifiersIn, descendants_eq_listing, Mentions]
  simp only [List.any_map, List.any_eq_true, List.mem_filter, beq_iff_eq, Function.comp_apply,
    List.contains_iff_mem, and_assoc]

theorem mentions_names_iff {taint : Taint} :
    n.Mentions taint.names ↔ n.Mentions taint.fromParams ∨ n.Mentions taint.fromRequest := by
  have hnames : ∀ x, x ∈ taint.names ↔ x ∈ taint.fromParams ∨ x ∈ taint.fromRequest := by
    intro x
    by_cases hx : x ∈ taint.fromParams <;> simp [Taint.names, hx]
  simp only [Mentions, hnames, and_or_left, exists_or]

end LlmAudit.Node
