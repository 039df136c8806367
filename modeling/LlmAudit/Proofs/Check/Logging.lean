import LlmAudit.Proofs.Check.Prompts
import LlmAudit.Proofs.Check.Reports
import LlmAudit.Proofs.Syntax.Spans
import LlmAudit.Proofs.Text.Case
import Mathlib.Data.List.Forall2

/-!
# What the check on logging looks at

The subject is detector 3 of Section 4.2 (Rule Set) of the specification.

The check on logging looks for sensitive words in the names of an argument, in the properties that
it reads and in its text. The first two are part of the third wherever the spans of a tree are
nested, so that the text alone decides (`holdsSensitiveData_eq`), and the findings are one for each
call of a logger with such a text among its arguments.
-/

namespace LlmAudit

namespace Node

variable {root n m argument call : Node} {source : String}

theorem isSensitiveName_text_iff : isSensitiveName n.text = true ↔ n.TextHolds sensitiveWords :=
  Text.containsAny_iff

instance (n : Node) (words : List String) : Decidable (n.TextHolds words) :=
  decidable_of_iff _ Text.containsAny_iff

/-- A call of a logger with a sensitive word in the text of an argument. -/
def LogsSensitiveText (n : Node) : Prop :=
  n.kind = .call ∧ n.CalleeHolds loggerWords ∧
    ∃ argument ∈ n.callArguments, argument.TextHolds sensitiveWords

instance (n : Node) : Decidable n.LogsSensitiveText :=
  have : Decidable (n.CalleeHolds loggerWords) := decidable_of_iff _ isLoggerCall_iff
  inferInstanceAs (Decidable (_ ∧ _ ∧ _))

theorem no_sigma_of_mem_sensitiveWords {word : String} (h : word ∈ sensitiveWords) :
    ∀ c ∈ ['σ', 'ς'], c ∉ word.toList := by
  have hall : (sensitiveWords.all fun word =>
      ['σ', 'ς'].all fun c => !word.toList.contains c) = true := by decide
  intro c hc hmem
  have hword := List.all_eq_true.1 (List.all_eq_true.1 hall word h) c hc
  rw [Bool.not_eq_true', List.contains_eq_mem, decide_eq_false_iff_not] at hword
  exact hword hmem

/-- A sensitive word in a part of a text is one in the text. -/
theorem TextHolds.of_isInfix (h : m.TextHolds sensitiveWords)
    (hpart : m.text.toList <:+: n.text.toList) : n.TextHolds sensitiveWords := by
  obtain ⟨word, hword, hinfix⟩ := h
  refine ⟨word, hword, ?_⟩
  rw [Text.lowered, String.toList_ofList] at hinfix ⊢
  exact Text.isInfix_lower_of_isInfix (no_sigma_of_mem_sensitiveWords hword) hpart hinfix

/-- An access without a property reads none with a sensitive word. -/
theorem exists_property_of_isSensitiveName (h : isSensitiveName n.memberProperty = true) :
    ∃ property, n.childByField? "property" = some property ∧
      property.TextHolds sensitiveWords := by
  rw [memberProperty] at h
  split at h
  · rename_i property hproperty
    exact ⟨property, hproperty, isSensitiveName_text_iff.1 h⟩
  · exact absurd h (by decide)

theorem within_of_mem_identifiersIn (h : m ∈ n.identifiersIn) : n.Within m := by
  rcases List.mem_cons.1 (List.mem_of_mem_filter h) with rfl | h
  · exact .self
  · exact .of_mem_descendants h

/-- Whatever holds a sensitive word in an argument holds it as a part of the argument. -/
theorem exists_within_of_holdsSensitiveData (h : argument.holdsSensitiveData = true) :
    ∃ n, argument.Within n ∧ n.TextHolds sensitiveWords := by
  rw [holdsSensitiveData, Bool.or_eq_true, Bool.or_eq_true, List.any_eq_true,
    List.any_eq_true] at h
  rcases h with (⟨name, hname, h⟩ | ⟨access, haccess, h⟩) | h
  · exact ⟨name, within_of_mem_identifiersIn hname, isSensitiveName_text_iff.1 h⟩
  · obtain ⟨property, hproperty, hholds⟩ := exists_property_of_isSensitiveName h
    have hwithin := Within.of_mem_descendants (List.mem_of_mem_filter haccess)
    exact ⟨property, hwithin.trans (.of_childByField? hproperty), hholds⟩
  · exact ⟨argument, .self, isSensitiveName_text_iff.1 h⟩

section Nested

variable (hspells : root.Spells (Utf8.bytesOf source)) (hnested : root.Nested source.toList)

include hspells hnested

theorem holdsSensitiveData_iff (hargument : root.Within argument) :
    argument.holdsSensitiveData = true ↔ argument.TextHolds sensitiveWords := by
  constructor
  · intro h
    obtain ⟨n, hn, hholds⟩ := exists_within_of_holdsSensitiveData h
    exact hholds.of_isInfix (text_isInfix hspells hnested hargument hn)
  · intro h
    rw [holdsSensitiveData, isSensitiveName_text_iff.2 h, Bool.or_true]

/-- The names and the properties of an argument never change the answer. -/
theorem holdsSensitiveData_eq (hargument : root.Within argument) :
    argument.holdsSensitiveData = isSensitiveName argument.text := by
  rw [Bool.eq_iff_iff, isSensitiveName_text_iff]
  exact holdsSensitiveData_iff hspells hnested hargument

theorem logsSensitiveText_iff (hcall : root.Within call) :
    call.LogsSensitiveText ↔
      call.kind = .call ∧ call.isLoggerCall = true ∧
        call.callArguments.any holdsSensitiveData = true := by
  rw [LogsSensitiveText, isLoggerCall_iff, List.any_eq_true]
  refine and_congr_right fun _ => and_congr_right fun _ => exists_congr fun argument => ?_
  refine and_congr_right fun hmem => ?_
  have hwithin := hcall.trans (.of_mem_callArguments hmem)
  exact (holdsSensitiveData_iff hspells hnested hwithin).symm

end Nested

end Node

namespace SourceUnit

/-- **The text of an argument decides.** In a tree with nested spans an argument holds sensitive
data exactly if a sensitive word occurs in its text, in any case, and the findings are, in document
order, one for each call of a logger that has such an argument. -/
theorem promptLogs_of_nested (unit : SourceUnit) (source : String)
    (hspells : unit.root.Spells (Utf8.bytesOf source))
    (hnested : unit.root.Nested source.toList) :
    (∀ argument, unit.root.Within argument →
      argument.holdsSensitiveData = Node.isSensitiveName argument.text ∧
        (argument.holdsSensitiveData = true ↔ argument.TextHolds Node.sensitiveWords)) ∧
    List.Forall₂ (fun call f => Check.promptLogging.Reports unit f ∧ f.line = call.line)
      (unit.root.listing.filter fun n => n.LogsSensitiveText) unit.promptLogs := by
  constructor
  · intro argument hargument
    exact ⟨Node.holdsSensitiveData_eq hspells hnested hargument,
      Node.holdsSensitiveData_iff hspells hnested hargument⟩
  · have hcalls : (unit.root.listing.filter fun n => n.LogsSensitiveText) =
        unit.root.calls.filter fun call =>
          call.isLoggerCall && call.callArguments.any Node.holdsSensitiveData := by
      rw [Node.calls, Node.descendantsOfKind, Node.descendants_eq_listing, List.filter_filter]
      refine List.filter_congr fun call hcall => ?_
      rw [← Node.descendants_eq_listing] at hcall
      rw [Bool.eq_iff_iff, decide_eq_true_iff,
        Node.logsSensitiveText_iff hspells hnested (.of_mem_descendants hcall)]
      simp [and_comm]
    rw [hcalls, promptLogs, List.forall₂_map_right_iff, List.forall₂_same]
    exact fun call _ => ⟨⟨List.mem_singleton_self _, rfl, rfl, rfl⟩, rfl⟩

/-- A line that logs a property. The letter before it takes two bytes. -/
def loggedText : String :=
  "logger.info(\"é\", u.eMail)"

/-- The outline of the line. -/
def loggedOutline : List Node.OutlineRow :=
  [⟨0, "program", none, true, 0, 26, 0⟩,
    ⟨1, "call_expression", none, true, 0, 26, 0⟩,
    ⟨2, "member_expression", some "function", true, 0, 11, 0⟩,
    ⟨2, "arguments", some "arguments", true, 11, 26, 0⟩,
    ⟨3, "string", none, true, 12, 16, 0⟩,
    ⟨3, "member_expression", none, true, 18, 25, 0⟩,
    ⟨4, "property_identifier", some "property", true, 20, 25, 0⟩]

/-- The line as a source file. -/
def logged : SourceUnit :=
  ⟨"app.ts", .ofOutline (Utf8.bytesOf loggedText) loggedOutline, [loggedText]⟩

theorem nested_logged : logged.root.Nested loggedText.toList := by
  have hbounds : ∀ k ∈ [0, 11, 12, 16, 18, 20, 25, 26], Utf8.IsBoundary loggedText.toList k := by
    decide +kernel
  simp [logged, loggedOutline, Node.ofOutline, Node.forest, Node.nested_ofRow_iff, hbounds]

/-- The property is found in the text of the access to it, beyond the letter of two bytes. -/
theorem promptLogs_of_nested_logged :
    logged.root.Spells (Utf8.bytesOf loggedText) ∧ logged.root.Nested loggedText.toList ∧
      logged.promptLogs.length = 1 := by
  have hspells : logged.root.Spells (Utf8.bytesOf loggedText) :=
    Node.spells_ofOutline (Utf8.bytesOf loggedText) loggedOutline
  have hfindings := (promptLogs_of_nested logged loggedText hspells nested_logged).2
  refine ⟨hspells, nested_logged, ?_⟩
  rw [← hfindings.length_eq]
  decide +kernel

end SourceUnit

end LlmAudit
