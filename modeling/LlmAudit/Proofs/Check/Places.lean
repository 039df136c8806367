import LlmAudit.Check.Catalog
import Mathlib.Data.List.Basic

/-!
# Where findings stand

The walks and the parts of nodes never leave the tree (`Within.of_mem_descendants`,
`Within.of_mem_promptArguments`), and a check reports the line of a node that it has seen. The line
of a finding is therefore the line of a node of the tree (`exists_within_of_mem_runUnit`).
-/

namespace LlmAudit

/-- A node of a tree: the root or a child of one of its nodes, named or not. -/
inductive Node.Within (root : Node) : Node → Prop where
  /-- The root itself. -/
  | self : Within root root
  /-- A child of a node of the tree. -/
  | child {n c : Node} : Within root n → c ∈ n.children → Within root c

namespace Node.Within

variable {root n m : Node}

theorem trans (h : root.Within n) (h' : n.Within m) : root.Within m := by
  induction h' with
  | self => exact h
  | child _ hmem ih => exact ih.child hmem

theorem of_mem_namedChildren (h : m ∈ n.namedChildren) : n.Within m :=
  self.child (List.mem_of_mem_filter h)

theorem of_childByField? {name : String} (h : n.childByField? name = some m) : n.Within m :=
  self.child (List.mem_of_find?_eq_some h)

theorem of_argumentList? (h : n.argumentList? = some m) : n.Within m :=
  of_childByField? (Option.filter_eq_some_iff.1 h).1

/-! ### Walks -/

/-- A walk stays below the pending nodes. -/
theorem of_mem_walk {pending : List Node} (h : m ∈ walk pending) : ∃ n ∈ pending, n.Within m := by
  fun_induction walk pending with
  | case1 => exact absurd h List.not_mem_nil
  | case2 n pending ih =>
    rcases List.mem_cons.1 h with rfl | h
    · exact ⟨m, List.mem_cons_self, self⟩
    · obtain ⟨c, hc, hwithin⟩ := ih h
      rcases List.mem_append.1 hc with hc | hc
      · exact ⟨n, List.mem_cons_self, (of_mem_namedChildren hc).trans hwithin⟩
      · exact ⟨c, List.mem_cons_of_mem n hc, hwithin⟩

theorem of_mem_descendants (h : m ∈ n.descendants) : n.Within m := by
  obtain ⟨c, hc, hwithin⟩ := of_mem_walk h
  exact (of_mem_namedChildren hc).trans hwithin

theorem of_mem_calls (h : m ∈ n.calls) : n.Within m :=
  of_mem_descendants (List.mem_of_mem_filter h)

theorem of_mem_functions (h : m ∈ n.functions) : n.Within m :=
  of_mem_descendants (List.mem_of_mem_filter h)

/-! ### Parts of calls -/

theorem of_mem_callArguments (h : m ∈ n.callArguments) : n.Within m := by
  rw [callArguments] at h
  split at h
  · rename_i list hlist
    exact (of_argumentList? hlist).trans (of_mem_namedChildren h)
  · exact absurd h List.not_mem_nil

theorem of_mem_propertyValues {name : String} (h : m ∈ n.propertyValues name) : n.Within m := by
  obtain ⟨pair, hpair, hvalue⟩ := List.mem_filterMap.1 h
  split at hvalue
  · split at hvalue
    · rename_i key value hkey hfield
      split at hvalue
      · cases hvalue
        exact (of_mem_namedChildren hpair).trans (of_childByField? hfield)
      · cases hvalue
    · cases hvalue
  · cases hvalue

theorem of_mem_messageContents (h : m ∈ n.messageContents) : n.Within m := by
  rw [messageContents] at h
  split at h
  · obtain ⟨message, hmessage, hcontent⟩ := List.mem_flatMap.1 h
    exact (of_mem_namedChildren (List.mem_of_mem_filter hmessage)).trans
      (of_mem_propertyValues hcontent)
  · exact absurd h List.not_mem_nil

theorem of_mem_promptArguments (h : m ∈ n.promptArguments) : n.Within m := by
  rw [promptArguments] at h
  split at h
  · exact absurd h List.not_mem_nil
  · rename_i first rest harguments
    have hfirst : n.Within first := of_mem_callArguments (harguments ▸ List.mem_cons_self)
    split at h
    · rcases List.mem_append.1 h with h | h
      · exact hfirst.trans (of_mem_propertyValues h)
      · obtain ⟨messages, hmessages, hcontent⟩ := List.mem_flatMap.1 h
        exact hfirst.trans
          ((of_mem_propertyValues hmessages).trans (of_mem_messageContents hcontent))
    · rw [List.mem_singleton.1 h]
      exact hfirst

end Node.Within

/-! ### Checks -/

theorem mem_of_mem_callsBeforeAuth {call : Node} {calls : List Node}
    (h : call ∈ SourceUnit.callsBeforeAuth calls) : call ∈ calls := by
  fun_induction SourceUnit.callsBeforeAuth calls with
  | case1 => exact h
  | case2 => exact absurd h List.not_mem_nil
  | case3 first rest _ _ ih =>
    rcases List.mem_cons.1 h with rfl | h
    · exact List.mem_cons_self
    · exact List.mem_cons_of_mem first (ih h)
  | case4 first rest _ _ ih => exact List.mem_cons_of_mem first (ih h)

variable {unit : SourceUnit} {f : Finding}

theorem line_of_injectionAt? {taint : Taint} {argument : Node}
    (h : unit.injectionAt? taint argument = some f) : f.line = argument.line := by
  unfold SourceUnit.injectionAt? at h
  dsimp only at h
  split at h
  · cases h
    rfl
  · cases h

theorem line_of_exposureAt? {argument : Node} (h : unit.exposureAt? argument = some f) :
    f.line = argument.line := by
  unfold SourceUnit.exposureAt? at h
  dsimp only at h
  split at h
  · cases h
    rfl
  · cases h

/-- A finding has the line of a node of the tree. -/
theorem exists_within_of_mem_runUnit {c : Check} (h : f ∈ c.runUnit unit) :
    ∃ n, unit.root.Within n ∧ f.line = n.line := by
  cases c with
  | promptInjection =>
    obtain ⟨fn, hfn, hf⟩ := List.mem_flatMap.1 h
    dsimp only at hf
    split at hf
    · exact absurd hf List.not_mem_nil
    · obtain ⟨call, hcall, hf⟩ := List.mem_flatMap.1 hf
      obtain ⟨argument, hargument, hf⟩ := List.mem_filterMap.1 hf
      have hwithin := (Node.Within.of_mem_functions hfn).trans
        (.of_mem_calls (List.mem_of_mem_filter hcall))
      exact ⟨argument, hwithin.trans (.of_mem_promptArguments hargument), line_of_injectionAt? hf⟩
  | sdkUsage =>
    obtain ⟨call, hcall, hf⟩ := List.mem_flatMap.1 h
    obtain ⟨p, -, rfl⟩ := List.mem_map.1 hf
    exact ⟨call, .of_mem_calls hcall, rfl⟩
  | promptLogging =>
    obtain ⟨call, hcall, rfl⟩ := List.mem_map.1 h
    exact ⟨call, .of_mem_calls (List.mem_of_mem_filter hcall), rfl⟩
  | callBeforeAuth =>
    obtain ⟨fn, hfn, hf⟩ := List.mem_flatMap.1 h
    obtain ⟨call, hcall, rfl⟩ := List.mem_map.1 hf
    have hwithin := Node.Within.of_mem_functions (List.mem_of_mem_filter hfn)
    exact ⟨call, hwithin.trans (.of_mem_calls (mem_of_mem_callsBeforeAuth hcall)), rfl⟩
  | dataExposure =>
    obtain ⟨call, hcall, hf⟩ := List.mem_flatMap.1 h
    obtain ⟨argument, hargument, hf⟩ := List.mem_filterMap.1 hf
    have hwithin := Node.Within.of_mem_calls (List.mem_of_mem_filter hcall)
    exact ⟨argument, hwithin.trans (.of_mem_promptArguments hargument), line_of_exposureAt? hf⟩

end LlmAudit
