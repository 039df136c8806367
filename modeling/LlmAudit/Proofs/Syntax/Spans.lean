import LlmAudit.Proofs.Check.Places
import LlmAudit.Proofs.Text.Slices

/-!
# Texts of nodes

A node covers a span of the bytes of its source, and its text is what these bytes are read as
(`Node.Spells`), which holds of every tree that is made of an outline (`spells_ofOutline`). Where
the span of each child lies in that of its parent and begins and ends between characters
(`Node.Nested`), the text of a node is part of the text of any node above it (`text_isInfix`).
-/

namespace LlmAudit

namespace Node

variable {root n m : Node} {source : List UInt8}

theorem within_iff : root.Within m ↔ m = root ∨ ∃ c ∈ root.children, c.Within m := by
  constructor
  · intro h
    induction h with
    | self => exact .inl rfl
    | child _ hc ih =>
      rcases ih with rfl | ⟨c, hmem, hwithin⟩
      · exact .inr ⟨_, hc, .self⟩
      · exact .inr ⟨c, hmem, hwithin.child hc⟩
  · rintro (rfl | ⟨c, hmem, hwithin⟩)
    · exact .self
    · exact (Within.self.child hmem).trans hwithin

/-! ### Texts -/

/-- The text of each node of a tree is what its bytes in the source are read as. -/
def Spells (source : List UInt8) (root : Node) : Prop :=
  ∀ n, root.Within n → n.text = sliceText source n.start n.stop

theorem spells_ofRow {row : OutlineRow} {children : List Node}
    (h : ∀ c ∈ children, c.Spells source) : (ofRow source row children).Spells source := by
  intro n hn
  rcases within_iff.1 hn with rfl | ⟨c, hmem, hwithin⟩
  · rfl
  · exact h c hmem n hwithin

theorem spells_forest (source : List UInt8) (rows : List OutlineRow) :
    ∀ t ∈ forest source rows, t.2.Spells source := by
  induction rows with
  | nil => exact fun t ht => absurd ht List.not_mem_nil
  | cons row rows ih =>
    intro t ht
    rcases List.mem_cons.1 ht with rfl | ht
    · refine spells_ofRow fun c hc => ?_
      obtain ⟨t, ht, rfl⟩ := List.mem_map.1 hc
      exact ih t ((List.takeWhile_sublist _).subset ht)
    · exact ih t ((List.dropWhile_sublist _).subset ht)

/-- A tree that is made of an outline has the texts of its source. -/
theorem spells_ofOutline (source : List UInt8) (rows : List OutlineRow) :
    (ofOutline source rows).Spells source := by
  rw [ofOutline]
  split
  · rename_i depth root rest hforest
    have hmem : (depth, root) ∈ forest source rows := hforest ▸ List.mem_cons_self
    exact spells_forest source rows _ hmem
  · exact spells_ofRow fun c hc => absurd hc List.not_mem_nil

/-! ### Spans -/

@[simp] theorem start_ofRow (source : List UInt8) (row : OutlineRow) (children : List Node) :
    (ofRow source row children).start = row.start := rfl

@[simp] theorem stop_ofRow (source : List UInt8) (row : OutlineRow) (children : List Node) :
    (ofRow source row children).stop = row.stop := rfl

/-- The span of each child in a tree lies in the span of its parent, and it begins and ends between
characters of the text. -/
def Nested (text : List Char) (root : Node) : Prop :=
  ∀ n, root.Within n → ∀ c ∈ n.children,
    n.start ≤ c.start ∧ c.stop ≤ n.stop ∧
      Utf8.IsBoundary text c.start ∧ Utf8.IsBoundary text c.stop

theorem nested_ofRow_iff {text : List Char} {row : OutlineRow} {children : List Node} :
    (ofRow source row children).Nested text ↔
      ∀ c ∈ children, (row.start ≤ c.start ∧ c.stop ≤ row.stop ∧
        Utf8.IsBoundary text c.start ∧ Utf8.IsBoundary text c.stop) ∧ c.Nested text := by
  constructor
  · intro h c hc
    have hchild : (ofRow source row children).Within c := Within.self.child hc
    exact ⟨h _ .self c hc, fun n hn => h n (hchild.trans hn)⟩
  · intro h n hn
    rcases within_iff.1 hn with rfl | ⟨c, hmem, hwithin⟩
    · exact fun c hc => (h c hc).1
    · exact (h c hmem).2 n hwithin

/-- The text of a node is part of the text of any node above it. -/
theorem text_isInfix {source : String} (hspells : root.Spells (Utf8.bytesOf source))
    (hnested : root.Nested source.toList) (hn : root.Within n) (hm : n.Within m) :
    m.text.toList <:+: n.text.toList := by
  induction hm with
  | self => exact List.infix_rfl
  | child hm hc ih =>
    have hparent := hn.trans hm
    obtain ⟨hstart, hstop, hbegin, hend⟩ := hnested _ hparent _ hc
    refine List.IsInfix.trans ?_ ih
    rw [hspells _ (hparent.child hc), hspells _ hparent, Utf8.bytesOf_eq_encode]
    exact Utf8.sliceText_isInfix hbegin hend hstart hstop

end Node

end LlmAudit
