import LlmAudit.Syntax.Node

/-!
# Walks follow the shape of the tree

The nodes below a node are visited with a list of pending nodes. What comes out is the listing that
the shape of the tree gives, each child and then what is below it (`descendants_eq_listing`), since
a pending node is left only when all below it has been visited (`walk_eq_flatMap`). What is below a
node of the listing therefore comes in one piece, directly after the node
(`exists_listing_eq_append`).
-/

namespace LlmAudit.Node

/-- What holds of a node once it holds of its named children, comments left out, holds of all
nodes. -/
theorem namedInduction {motive : Node → Prop}
    (h : ∀ n : Node, (∀ c ∈ n.namedChildren, motive c) → motive n) (n : Node) : motive n :=
  h n fun c hc =>
    have : sizeOf c < sizeOf n :=
      Nat.lt_trans (List.sizeOf_lt_of_mem hc) (sizeOf_namedChildren_lt n)
    namedInduction h c
termination_by sizeOf n

theorem listingOf_eq_flatMap (ns : List Node) :
    listingOf ns = (ns.filter isVisible).flatMap fun n => n :: n.listing := by
  induction ns with
  | nil => rfl
  | cons n ns ih =>
    rw [listingOf, ih, List.filter_cons]
    split
    · rw [List.flatMap_cons]
    · rw [List.nil_append]

/-- The listing of a node: each named child that is no comment, followed by its own listing. -/
theorem listing_eq_flatMap (n : Node) :
    n.listing = n.namedChildren.flatMap fun c => c :: c.listing := by
  cases n
  rw [listing, listingOf_eq_flatMap, namedChildren]

/-- A walk visits each pending node and all below it before it goes on to the next. -/
theorem walk_eq_flatMap (pending : List Node) :
    walk pending = pending.flatMap fun n => n :: n.listing := by
  fun_induction walk pending with
  | case1 => rfl
  | case2 n pending ih =>
    rw [ih, List.flatMap_append, ← listing_eq_flatMap, List.flatMap_cons, List.cons_append]

/-- The nodes below a node come in document order. -/
theorem descendants_eq_listing (n : Node) : n.descendants = n.listing := by
  rw [descendants, walk_eq_flatMap, ← listing_eq_flatMap]

/-- What is below a node of a listing stands in it directly after the node. -/
theorem exists_listing_eq_append {n m : Node} (h : m ∈ n.listing) :
    ∃ before after, n.listing = before ++ m :: (m.listing ++ after) := by
  induction n using namedInduction with
  | h n ih =>
    rw [listing_eq_flatMap] at h ⊢
    obtain ⟨c, hc, hm⟩ := List.mem_flatMap.1 h
    obtain ⟨before, after, hsplit⟩ := List.append_of_mem hc
    rw [hsplit, List.flatMap_append, List.flatMap_cons]
    rcases List.mem_cons.1 hm with rfl | hm
    · exact ⟨_, _, rfl⟩
    · obtain ⟨before', after', hlisting⟩ := ih c hc hm
      rw [hlisting]
      exact ⟨before.flatMap (fun c => c :: c.listing) ++ c :: before',
        after' ++ after.flatMap fun c => c :: c.listing, by simp⟩

end LlmAudit.Node
