import LlmAudit.Proofs.Syntax.Preorder
import Mathlib.Data.List.Basic

/-!
# Addresses of nodes

The nodes below a node have addresses: the numbers of the children on the way down, of which only
named ones that are no comments count (`Node.at?`). Equal nodes can hang at several places of a
tree, so that what comes before a node is said of addresses. Document order is the dictionary order
of addresses: the listing of a node is its positions without their addresses
(`map_snd_positions`), which are all addresses below it (`mem_positions_iff`) in increasing order
(`pairwise_positions`). What stands before a place of the listing is therefore what has a smaller
address (`exists_split_listing_iff`).
-/

namespace LlmAudit.Node

variable {n m c : Node} {i : Nat} {path : List Nat}

/-- The node at an address; none if the way leaves the tree. -/
def at? (n : Node) : List Nat → Option Node
  | [] => some n
  | i :: path => n.namedChildren[i]?.bind fun c => c.at? path

/-- A node hangs below another at an address. -/
def Below (n : Node) (path : List Nat) (m : Node) : Prop :=
  path ≠ [] ∧ n.at? path = some m

theorem at?_cons_eq_some_iff :
    n.at? (i :: path) = some m ↔ ∃ c, n.namedChildren[i]? = some c ∧ c.at? path = some m := by
  rw [at?, Option.bind_eq_some_iff]

/-! ### Positions -/

mutual

/-- The nodes below a node in document order, each with its address. -/
def positions : Node → List (List Nat × Node)
  | ⟨_, _, _, _, _, _, _, children⟩ => positionsFrom 0 children

/-- Each visible node of a list with its number, counted from `i` on, followed by the nodes below
it. -/
def positionsFrom (i : Nat) : List Node → List (List Nat × Node)
  | [] => []
  | n :: rest =>
    if n.isVisible then
      ([i], n) :: (positions n).map (fun p => (i :: p.1, p.2)) ++ positionsFrom (i + 1) rest
    else positionsFrom i rest

end

/-- The positions of a child with its number, the child itself first. -/
def positionsAt (c : Node × Nat) : List (List Nat × Node) :=
  ([c.2], c.1) :: c.1.positions.map fun p => (c.2 :: p.1, p.2)

theorem mem_positionsAt_iff :
    (path, m) ∈ positionsAt (c, i) ↔
      path = [i] ∧ m = c ∨ ∃ rest, path = i :: rest ∧ (rest, m) ∈ c.positions := by
  rw [positionsAt, List.mem_cons, List.mem_map, Prod.mk.injEq]
  refine or_congr_right ?_
  constructor
  · rintro ⟨⟨rest, m'⟩, hrest, heq⟩
    obtain ⟨rfl, rfl⟩ := Prod.mk.inj heq
    exact ⟨rest, rfl, hrest⟩
  · rintro ⟨rest, rfl, hrest⟩
    exact ⟨(rest, m), hrest, rfl⟩

theorem positionsFrom_eq_flatMap (i : Nat) (ns : List Node) :
    positionsFrom i ns = ((ns.filter isVisible).zipIdx i).flatMap positionsAt := by
  induction ns generalizing i with
  | nil => rfl
  | cons n ns ih =>
    rw [positionsFrom, List.filter_cons]
    split
    · rw [List.zipIdx_cons, List.flatMap_cons, ih, positionsAt]
    · exact ih i

/-- The positions of a node: each named child that is no comment, followed by its own positions. -/
theorem positions_eq_flatMap (n : Node) :
    n.positions = n.namedChildren.zipIdx.flatMap positionsAt := by
  cases n
  rw [positions, positionsFrom_eq_flatMap, namedChildren]

/-- The positions without their addresses are the listing. -/
theorem map_snd_positions (n : Node) : n.positions.map Prod.snd = n.listing := by
  induction n using namedInduction with
  | h n ih =>
    have hchild : ∀ c ∈ n.namedChildren.zipIdx,
        (positionsAt c).map Prod.snd = c.1 :: c.1.listing := by
      intro c hc
      rw [positionsAt, List.map_cons, List.map_map, ← ih c.1 (List.fst_mem_of_mem_zipIdx hc)]
      rfl
    rw [positions_eq_flatMap, List.map_flatMap, List.flatMap_congr hchild, listing_eq_flatMap]
    conv_rhs => rw [← List.zipIdx_map_fst 0 n.namedChildren, List.flatMap_map]

/-- The positions of a node are all addresses below it. -/
theorem mem_positions_iff : (path, m) ∈ n.positions ↔ n.Below path m := by
  induction n using namedInduction generalizing path with
  | h n ih =>
    rw [positions_eq_flatMap, List.mem_flatMap]
    constructor
    · rintro ⟨⟨c, i⟩, hc, hmem⟩
      have hchild := List.mem_zipIdx_iff_getElem?.1 hc
      rcases mem_positionsAt_iff.1 hmem with ⟨rfl, rfl⟩ | ⟨rest, rfl, hrest⟩
      · exact ⟨List.cons_ne_nil _ _, at?_cons_eq_some_iff.2 ⟨m, hchild, rfl⟩⟩
      · have hbelow := (ih c (List.mem_of_getElem? hchild)).1 hrest
        exact ⟨List.cons_ne_nil _ _, at?_cons_eq_some_iff.2 ⟨c, hchild, hbelow.2⟩⟩
    · rintro ⟨hne, hat⟩
      obtain ⟨i, rest, rfl⟩ := List.exists_cons_of_ne_nil hne
      obtain ⟨c, hchild, hrest⟩ := at?_cons_eq_some_iff.1 hat
      refine ⟨(c, i), List.mem_zipIdx_iff_getElem?.2 hchild, mem_positionsAt_iff.2 ?_⟩
      by_cases hnil : rest = []
      · subst hnil
        exact .inl ⟨rfl, (Option.some.inj hrest).symm⟩
      · exact .inr ⟨rest, rfl, (ih c (List.mem_of_getElem? hchild)).2 ⟨hnil, hrest⟩⟩

theorem exists_cons_of_mem_positionsAt (h : (path, m) ∈ positionsAt (c, i)) :
    ∃ rest, path = i :: rest := by
  rcases mem_positionsAt_iff.1 h with ⟨rfl, -⟩ | ⟨rest, rfl, -⟩
  · exact ⟨[], rfl⟩
  · exact ⟨rest, rfl⟩

theorem pairwise_snd_zipIdx {α : Type} (l : List α) :
    l.zipIdx.Pairwise fun a b => a.2 < b.2 := by
  have hrange : (l.zipIdx.map Prod.snd).Pairwise (· < ·) := by
    rw [List.zipIdx_map_snd]
    exact List.pairwise_lt_range'
  exact List.pairwise_map.1 hrange

/-- Addresses grow in document order. -/
theorem pairwise_positions (n : Node) : n.positions.Pairwise fun p q => p.1 < q.1 := by
  induction n using namedInduction with
  | h n ih =>
    rw [positions_eq_flatMap, List.pairwise_flatMap]
    constructor
    · -- below one child: first the child itself, then what is below it
      rintro ⟨c, i⟩ hc
      have hchild := List.mem_zipIdx_iff_getElem?.1 hc
      rw [positionsAt, List.pairwise_cons, List.pairwise_map]
      refine ⟨?_, (ih c (List.mem_of_getElem? hchild)).imp fun h => ?_⟩
      · intro p hp
        obtain ⟨⟨rest, m⟩, hrest, rfl⟩ := List.mem_map.1 hp
        obtain ⟨j, rest, rfl⟩ := List.exists_cons_of_ne_nil (mem_positions_iff.1 hrest).1
        exact List.cons_lt_cons_iff.2 (.inr ⟨rfl, List.nil_lt_cons ..⟩)
      · exact List.cons_lt_cons_iff.2 (.inr ⟨rfl, h⟩)
    · -- an address below an earlier child starts with a smaller number
      refine (pairwise_snd_zipIdx n.namedChildren).imp fun hij p hp q hq => ?_
      obtain ⟨rest, hrest⟩ := exists_cons_of_mem_positionsAt hp
      obtain ⟨rest', hrest'⟩ := exists_cons_of_mem_positionsAt hq
      rw [hrest, hrest']
      exact List.cons_lt_cons_iff.2 (.inl hij)

/-! ### What comes before a node -/

theorem mem_listing_iff : m ∈ n.listing ↔ ∃ path, n.Below path m := by
  rw [← map_snd_positions, List.mem_map]
  constructor
  · rintro ⟨⟨path, m'⟩, hmem, rfl⟩
    exact ⟨path, mem_positions_iff.1 hmem⟩
  · rintro ⟨path, hbelow⟩
    exact ⟨(path, m), mem_positions_iff.2 hbelow, rfl⟩

/-- Before a position stand the nodes with smaller addresses. -/
theorem mem_before_iff {before after : List (List Nat × Node)}
    (h : n.positions = before ++ (path, m) :: after) {p : List Nat} {b : Node} :
    (p, b) ∈ before ↔ n.Below p b ∧ p < path := by
  have hsorted := n.pairwise_positions
  rw [h, List.pairwise_append, List.pairwise_cons] at hsorted
  obtain ⟨-, ⟨hafter, -⟩, hbefore⟩ := hsorted
  rw [← mem_positions_iff, h]
  constructor
  · intro hp
    exact ⟨List.mem_append_left _ hp, hbefore _ hp _ List.mem_cons_self⟩
  · rintro ⟨hp, hlt⟩
    rcases List.mem_append.1 hp with hp | hp
    · exact hp
    · rcases List.mem_cons.1 hp with heq | hp
      · obtain ⟨rfl, -⟩ := Prod.mk.inj heq
        exact absurd hlt (List.lt_irrefl _)
      · exact absurd (List.lt_trans hlt (hafter _ hp)) (List.lt_irrefl _)

/-- A node stands at a place of the listing before which there are only nodes of some sort, exactly
if it has an address before which there are only such nodes. -/
theorem exists_split_listing_iff {p : Node → Prop} :
    (∃ before after, n.listing = before ++ m :: after ∧ ∀ b ∈ before, p b) ↔
      ∃ path, n.Below path m ∧ ∀ earlier b, n.Below earlier b → earlier < path → p b := by
  constructor
  · rintro ⟨before, after, hsplit, hbefore⟩
    rw [← map_snd_positions] at hsplit
    obtain ⟨before, rest, hpositions, rfl, hrest⟩ := List.map_eq_append_iff.1 hsplit
    obtain ⟨⟨path, m'⟩, after, rfl, rfl, rfl⟩ := List.map_eq_cons_iff.1 hrest
    have hbelow : n.Below path m' := by
      rw [← mem_positions_iff, hpositions]
      exact List.mem_append_right _ List.mem_cons_self
    refine ⟨path, hbelow, fun earlier b hb hlt => ?_⟩
    have hmem : (earlier, b) ∈ before := (mem_before_iff hpositions).2 ⟨hb, hlt⟩
    exact hbefore b (List.mem_map_of_mem (f := Prod.snd) hmem)
  · rintro ⟨path, hbelow, hbefore⟩
    obtain ⟨before, after, hpositions⟩ := List.append_of_mem (mem_positions_iff.2 hbelow)
    refine ⟨before.map Prod.snd, after.map Prod.snd, ?_, fun b hb => ?_⟩
    · rw [← map_snd_positions, hpositions, List.map_append, List.map_cons]
    · obtain ⟨⟨earlier, b⟩, hmem, rfl⟩ := List.mem_map.1 hb
      obtain ⟨hb, hlt⟩ := (mem_before_iff hpositions).1 hmem
      exact hbefore earlier b hb hlt

end LlmAudit.Node
