import LlmAudit.Directive.Suppression
import Mathlib.Data.String.Basic
import Mathlib.Order.Defs.LinearOrder

/-!
# Suppression step by step

What one finding does to the directives, and what a whole run does, as far as every later statement
needs it. A finding either finds no directive that suits it and leaves the table alone, or it
consumes the first one that does (`consumeFirst_eq_none_iff`, `consumeFirst_eq_some_iff`). A run
over two lists of findings is a run over the first and then one over the second
(`suppressInOrder_append`).
-/

namespace LlmAudit

open Directive

/-! ### Tables -/

namespace Directive.Table

@[simp] theorem get_set_self (table : Table) (key : String) (ds : List Directive) :
    (table.set key ds).get key = ds := by
  induction table with
  | nil => simp [set, get]
  | cons entry rest ih =>
    obtain ⟨k, old⟩ := entry
    by_cases h : k = key
    · simp [set, get, h]
    · simp [set, get, h, ih]

theorem get_set_of_ne (table : Table) {key other : String} (h : other ≠ key) (ds : List Directive) :
    (table.set key ds).get other = table.get other := by
  induction table with
  | nil => simp [set, get, Ne.symm h]
  | cons entry rest ih =>
    obtain ⟨k, old⟩ := entry
    by_cases hk : k = key
    · simp [set, get, hk, Ne.symm h]
    · by_cases ho : k = other
      · subst ho
        simp [set, get, hk]
      · simp [set, get, hk, ho, ih]

end Directive.Table

/-! ### One finding -/

theorem Directive.suits_iff {d : Directive} {f : Finding} :
    d.suits f = true ↔ d.consumed = false ∧ d.ruleId = f.ruleId ∧ d.line < f.line := by
  simp [suits, and_assoc]

/-- The directive after it has suppressed a finding. -/
def Directive.spent (d : Directive) : Directive :=
  { d with consumed := true }

@[simp] theorem Directive.suits_spent (d : Directive) (f : Finding) : d.spent.suits f = false := by
  simp [suits, spent]

theorem consumeFirst_append (f : Finding) (xs ys : List Directive) :
    consumeFirst f (xs ++ ys) =
      match consumeFirst f xs with
      | some (d, xs') => some (d, xs' ++ ys)
      | none => (consumeFirst f ys).map fun (d, ys') => (d, xs ++ ys') := by
  induction xs with
  | nil => simp [consumeFirst]
  | cons x xs ih =>
    by_cases h : x.suits f = true
    · simp [consumeFirst, h]
    · simp only [List.cons_append, consumeFirst, h, ih]
      cases consumeFirst f xs with
      | some found => rfl
      | none => cases consumeFirst f ys <;> rfl

/-- A finding stays active exactly if no directive suits it. -/
theorem consumeFirst_eq_none_iff {f : Finding} {ds : List Directive} :
    consumeFirst f ds = none ↔ ∀ d ∈ ds, d.suits f = false := by
  induction ds with
  | nil => simp [consumeFirst]
  | cons d ds ih =>
    by_cases h : d.suits f = true
    · simp [consumeFirst, h]
    · simp [consumeFirst, h, ih]

/-- A finding that is ignored has consumed the first directive that suits it, and no other. -/
theorem consumeFirst_eq_some_iff {f : Finding} {ds : List Directive} {d : Directive}
    {ds' : List Directive} :
    consumeFirst f ds = some (d, ds') ↔
      ∃ xs ys, ds = xs ++ d :: ys ∧ (∀ x ∈ xs, x.suits f = false) ∧ d.suits f = true ∧
        ds' = xs ++ d.spent :: ys := by
  constructor
  · intro h
    induction ds generalizing ds' with
    | nil => simp [consumeFirst] at h
    | cons x rest ih =>
      by_cases hx : x.suits f = true
      · simp only [consumeFirst, hx, if_true, Option.some.injEq, Prod.mk.injEq] at h
        obtain ⟨rfl, rfl⟩ := h
        exact ⟨[], rest, rfl, by simp, hx, rfl⟩
      · rw [consumeFirst, if_neg hx, Option.map_eq_some_iff] at h
        obtain ⟨⟨m, rest'⟩, hm, heq⟩ := h
        simp only [Prod.mk.injEq] at heq
        obtain ⟨rfl, rfl⟩ := heq
        obtain ⟨xs, ys, rfl, hxs, hd, rfl⟩ := ih hm
        refine ⟨x :: xs, ys, rfl, ?_, hd, rfl⟩
        intro y hy
        rcases List.mem_cons.1 hy with rfl | hy
        · simpa using hx
        · exact hxs y hy
  · rintro ⟨xs, ys, rfl, hxs, hd, rfl⟩
    rw [consumeFirst_append, consumeFirst_eq_none_iff.2 hxs]
    simp [consumeFirst, hd, spent]

/-! ### A run -/

theorem suppressInOrder_cons_of_none {table : Table} {f : Finding} {fs : List Finding}
    (h : consumeFirst f (table.get (fileKey f.file)) = none) :
    suppressInOrder table (f :: fs) =
      { suppressInOrder table fs with active := f :: (suppressInOrder table fs).active } := by
  simp [suppressInOrder, h]

theorem suppressInOrder_cons_of_some {table : Table} {f : Finding} {fs : List Finding}
    {d : Directive} {ds : List Directive}
    (h : consumeFirst f (table.get (fileKey f.file)) = some (d, ds)) :
    suppressInOrder table (f :: fs) =
      { suppressInOrder (table.set (fileKey f.file) ds) fs with
        ignored := ⟨f, d.reason, d.line⟩ ::
          (suppressInOrder (table.set (fileKey f.file) ds) fs).ignored } := by
  simp [suppressInOrder, h]

/-- A run over two lists is a run over the first, and one over the second from the directives that
the first leaves. -/
theorem suppressInOrder_append (table : Table) (fs gs : List Finding) :
    suppressInOrder table (fs ++ gs) =
      ⟨(suppressInOrder table fs).active ++
          (suppressInOrder (suppressInOrder table fs).table gs).active,
        (suppressInOrder table fs).ignored ++
          (suppressInOrder (suppressInOrder table fs).table gs).ignored,
        (suppressInOrder (suppressInOrder table fs).table gs).table⟩ := by
  induction fs generalizing table with
  | nil => simp [suppressInOrder]
  | cons f fs ih =>
    rw [List.cons_append]
    cases h : consumeFirst f (table.get (fileKey f.file)) with
    | none => simp [suppressInOrder_cons_of_none h, ih]
    | some found =>
      obtain ⟨d, ds⟩ := found
      simp [suppressInOrder_cons_of_some h, ih]

/-- The active findings are some of the findings, in their order. -/
theorem active_sublist (table : Table) (fs : List Finding) :
    (suppressInOrder table fs).active.Sublist fs := by
  induction fs generalizing table with
  | nil => simp [suppressInOrder]
  | cons f fs ih =>
    cases h : consumeFirst f (table.get (fileKey f.file)) with
    | none =>
      rw [suppressInOrder_cons_of_none h]
      exact (ih table).cons_cons f
    | some found =>
      obtain ⟨d, ds⟩ := found
      rw [suppressInOrder_cons_of_some h]
      exact (ih _).cons f

/-! ### The order of findings -/

theorem Finding.placeLe_iff {f g : Finding} :
    f.placeLe g = true ↔
      fileKey f.file < fileKey g.file ∨ fileKey f.file = fileKey g.file ∧ f.line ≤ g.line := by
  simp [placeLe]

/-- In one file the earlier finding has no greater line. -/
theorem Finding.line_le_of_placeLe {f g : Finding} (h : f.placeLe g = true)
    (hfile : fileKey f.file = fileKey g.file) : f.line ≤ g.line := by
  rcases placeLe_iff.1 h with hlt | ⟨-, hle⟩
  · exact absurd hfile (ne_of_lt hlt)
  · exact hle

theorem Finding.placeLe_trans (f g h : Finding) (hfg : f.placeLe g = true)
    (hgh : g.placeLe h = true) : f.placeLe h = true := by
  rw [placeLe_iff] at *
  rcases hfg with hfg | ⟨hfg, hl⟩
  · rcases hgh with hgh | ⟨hgh, -⟩
    · exact Or.inl (lt_trans hfg hgh)
    · exact Or.inl (hgh ▸ hfg)
  · rcases hgh with hgh | ⟨hgh, hl'⟩
    · exact Or.inl (hfg ▸ hgh)
    · exact Or.inr ⟨hfg.trans hgh, le_trans hl hl'⟩

theorem Finding.placeLe_total (f g : Finding) : (f.placeLe g || g.placeLe f) = true := by
  rw [Bool.or_eq_true, placeLe_iff, placeLe_iff]
  rcases lt_trichotomy (fileKey f.file) (fileKey g.file) with h | h | h
  · exact Or.inl (Or.inl h)
  · rcases le_total f.line g.line with hl | hl
    · exact Or.inl (Or.inr ⟨h, hl⟩)
    · exact Or.inr (Or.inr ⟨h.symm, hl⟩)
  · exact Or.inr (Or.inl h)

theorem Finding.sortByPlace_perm (fs : List Finding) : (sortByPlace fs).Perm fs :=
  List.mergeSort_perm fs _

theorem Finding.sortByPlace_pairwise (fs : List Finding) :
    (sortByPlace fs).Pairwise fun f g => f.placeLe g = true :=
  List.pairwise_mergeSort placeLe_trans placeLe_total fs

theorem suppress_of_sorted (table : Table) {fs : List Finding}
    (h : fs.Pairwise fun f g => f.placeLe g = true) :
    suppress table fs = suppressInOrder table fs := by
  rw [suppress, Finding.sortByPlace, List.mergeSort_of_pairwise h]

/-- A finding with its place and nothing else. -/
def Finding.bare (ruleId file : String) (line : Int) : Finding :=
  ⟨ruleId, "", .low, file, line, "", "", "", .none⟩

end LlmAudit
