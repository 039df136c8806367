import LlmAudit.Proofs.Syntax.Positions
import Mathlib.Data.List.Nodup

/-!
# The walk with a stack

The walk below a node runs with a stack. A round takes the node at the top off it and puts the named
children of this node on it, the last child first, so that the stack grows and shrinks. What a stack
still has to give is the listing of its nodes from the top down (`stackWalk_iff`): the walk ends,
and it visits the nodes below the node in pre-order (`descendants_preorder`). Pre-order is said of
addresses, since equal nodes can hang at several places of a tree (`IsPreorder`).
-/

namespace LlmAudit.Node

/-- From a stack, whose top is its last node, the walk visits some nodes and comes to its end. -/
inductive StackWalk : List Node → List Node → Prop where
  /-- Nothing is left on the stack. -/
  | done : StackWalk [] []
  /-- The top is visited, and its named children take its place, the first of them on top. -/
  | round {stack visited : List Node} {n : Node} :
      StackWalk (stack ++ n.namedChildren.reverse) visited →
        StackWalk (stack ++ [n]) (n :: visited)

theorem stackWalk_walk (pending : List Node) : StackWalk pending.reverse (walk pending) := by
  fun_induction walk pending with
  | case1 => exact .done
  | case2 n pending ih =>
    rw [List.reverse_append] at ih
    rw [List.reverse_cons]
    exact .round ih

/-- A stack gives what a walk gives whose pending nodes are those of the stack from the top down. -/
theorem stackWalk_iff {stack visited : List Node} :
    StackWalk stack visited ↔ visited = walk stack.reverse := by
  constructor
  · intro h
    induction h with
    | done => rw [List.reverse_nil, walk]
    | round _ ih => rw [ih, List.reverse_concat, walk, List.reverse_append, List.reverse_reverse]
  · rintro rfl
    simpa using stackWalk_walk stack.reverse

/-! ### Pre-order -/

/-- The places below a node, each an address with the node there, stand in pre-order. -/
structure IsPreorder (n : Node) (places : List (List Nat × Node)) : Prop where
  /-- They are all places that named nodes lead to. -/
  complete : ∀ path m, (path, m) ∈ places ↔ n.Below path m
  /-- Each of them comes once. -/
  once : (places.map Prod.fst).Nodup
  /-- Directly after a place come, in one piece, the places below it, and they come nowhere else. -/
  segment : ∀ before path m after, places = before ++ (path, m) :: after →
    ∃ inside rest, after = inside ++ rest ∧ inside.map Prod.snd = m.descendants ∧
      (∀ p ∈ inside, path <+: p.1) ∧ ∀ p ∈ before ++ rest, ¬path <+: p.1

variable {n m c : Node} {i : Nat} {path : List Nat}

theorem at?_append (n : Node) (path rest : List Nat) :
    n.at? (path ++ rest) = (n.at? path).bind fun m => m.at? rest := by
  induction path generalizing n with
  | nil => rfl
  | cons i path ih =>
    rw [List.cons_append, at?, at?, Option.bind_assoc]
    exact Option.bind_congr fun c _ => ih c

/-- The places below a node, seen from above: the way to the node stands before their addresses. -/
def positionsUnder (path : List Nat) (m : Node) : List (List Nat × Node) :=
  m.positions.map fun p => (path ++ p.1, p.2)

theorem map_snd_positionsUnder (path : List Nat) (m : Node) :
    (m.positionsUnder path).map Prod.snd = m.descendants := by
  rw [positionsUnder, List.map_map, descendants_eq_listing, ← map_snd_positions]
  rfl

/-- What is below a child, its own places included, seen from the parent. -/
theorem positions_eq_append_of_child (h : n.namedChildren[i]? = some c) :
    ∃ before after,
      n.positions = before ++ (([i], c) :: c.positionsUnder [i]) ++ after := by
  have hmem : (c, i) ∈ n.namedChildren.zipIdx := List.mem_zipIdx_iff_getElem?.2 h
  obtain ⟨before, after, hsplit⟩ := List.append_of_mem hmem
  refine ⟨before.flatMap positionsAt, after.flatMap positionsAt, ?_⟩
  rw [positions_eq_flatMap, hsplit, List.flatMap_append, List.flatMap_cons, List.append_assoc]
  rfl

/-- Somewhere in the places of a tree, what is below a node stands directly after the node. -/
theorem exists_positions_eq_append (h : n.Below path m) :
    ∃ before after, n.positions = before ++ (path, m) :: (m.positionsUnder path ++ after) := by
  induction path generalizing n with
  | nil => exact absurd rfl h.1
  | cons i path ih =>
    obtain ⟨c, hchild, hat⟩ := at?_cons_eq_some_iff.1 h.2
    obtain ⟨before, after, hpositions⟩ := positions_eq_append_of_child hchild
    by_cases hnil : path = []
    · subst hnil
      obtain rfl : c = m := Option.some.inj hat
      exact ⟨before, after, by simpa using hpositions⟩
    · obtain ⟨before', after', hbelow⟩ := ih ⟨hnil, hat⟩
      refine ⟨before ++ ([i], c) :: before'.map (fun p => (i :: p.1, p.2)),
        after'.map (fun p => (i :: p.1, p.2)) ++ after, ?_⟩
      rw [hpositions, positionsUnder, hbelow]
      simp [positionsUnder]

theorem nodup_map_fst_positions (n : Node) : (n.positions.map Prod.fst).Nodup := by
  refine List.pairwise_map.2 (n.pairwise_positions.imp fun hlt heq => ?_)
  rw [heq] at hlt
  exact List.lt_irrefl _ hlt

/-- An address that goes on from another one leads to the node there or below it. -/
theorem eq_or_mem_positionsUnder (hm : n.Below path m) {p : List Nat × Node}
    (hp : p ∈ n.positions) (hpath : path <+: p.1) :
    p = (path, m) ∨ p ∈ m.positionsUnder path := by
  obtain ⟨_, d⟩ := p
  obtain ⟨rest, rfl⟩ := hpath
  have hat := (mem_positions_iff.1 hp).2
  rw [at?_append, hm.2, Option.bind_some] at hat
  by_cases hnil : rest = []
  · subst hnil
    left
    rw [List.append_nil, Option.some.inj hat]
  · right
    exact List.mem_map.2 ⟨(rest, d), mem_positions_iff.2 ⟨hnil, hat⟩, rfl⟩

/-- The places of a tree stand in pre-order. -/
theorem isPreorder_positions (n : Node) : n.IsPreorder n.positions where
  complete := fun _ _ => mem_positions_iff
  once := n.nodup_map_fst_positions
  segment := by
    intro before path m after hsplit
    have hmem : (path, m) ∈ n.positions := by
      rw [hsplit]
      exact List.mem_append_right _ List.mem_cons_self
    have hbelow := mem_positions_iff.1 hmem
    obtain ⟨before', rest, hsegment⟩ := exists_positions_eq_append hbelow
    have hnodup := n.nodup_map_fst_positions.of_map
    -- no place comes twice, so this is the given split
    have hother := hnodup
    rw [hsegment, List.nodup_middle, List.nodup_cons, List.mem_append, not_or] at hother
    obtain ⟨⟨hbefore, hafter⟩, -⟩ := hother
    obtain ⟨rfl, -, rfl⟩ :=
      (List.append_cons_inj_of_notMem hbefore hafter).1 (hsegment.symm.trans hsplit)
    refine ⟨_, rest, rfl, map_snd_positionsUnder path m, fun p hp => ?_, fun p hp hpath => ?_⟩
    · obtain ⟨q, -, rfl⟩ := List.mem_map.1 hp
      exact List.prefix_append ..
    · have hperm : n.positions.Perm
          ((path, m) :: m.positionsUnder path ++ (before' ++ rest)) := by
        rw [hsegment, ← List.cons_append]
        exact List.perm_append_comm_assoc ..
      have hinside := eq_or_mem_positionsUnder hbelow
        (hperm.mem_iff.2 (List.mem_append_right _ hp)) hpath
      exact List.disjoint_of_nodup_append (hperm.nodup_iff.1 hnodup) (List.mem_cons.2 hinside) hp

/-- The walk with a stack is pre-order. It comes to its end with the nodes that are listed below the
node, each named child that is no comment followed by what is below it, and these stand in
pre-order. -/
theorem descendants_preorder (n : Node) :
    (∀ visited, StackWalk n.namedChildren.reverse visited ↔ visited = n.descendants) ∧
      n.descendants = n.listing ∧
      n.descendants = n.namedChildren.flatMap (fun c => c :: c.descendants) ∧
      ∃ places, places.map Prod.snd = n.descendants ∧ n.IsPreorder places := by
  refine ⟨fun visited => ?_, n.descendants_eq_listing, ?_, n.positions, ?_,
    n.isPreorder_positions⟩
  · rw [stackWalk_iff, List.reverse_reverse, descendants]
  · simp only [descendants_eq_listing]
    exact n.listing_eq_flatMap
  · rw [map_snd_positions, descendants_eq_listing]

end LlmAudit.Node
