import LlmAudit.Dependency.Lookalike
import Mathlib.Data.List.Basic
import Mathlib.Order.Bounds.Defs
import Mathlib.Order.MinMax

/-!
# Edit counts are least

An edit puts one letter in, takes one out or exchanges one for another (`Edit`), and a text turns
into another by a number of edits one after the other (`Edits`). The table of `editCount` finds the
least such number. The argument goes through a recursion on the first letters (`editDistance`):

* the rows of the table hold its values for the front parts of the texts, read backwards
  (`editRow_editEntries`, `editCount_eq_editDistance`);
* so many edits are enough (`edits_editDistance`), and one more edit gains at most one
  (`Edit.editDistance_le`), so that fewer are not.

Edits read backwards are edits (`Edits.reverse`), which joins the two (`editCount_isLeast`).

## Main statements

* `editCount_isLeast` — the table counts the least number of edits.
* `nearEditCount_exact` — the count with the short cut is the least number where the lengths differ
  by at most one, and tells apart no edit, one edit and more everywhere.
-/

namespace LlmAudit

variable {α : Type}

/-- One letter is put in, taken out or exchanged for another. -/
inductive Edit : List α → List α → Prop where
  /-- A letter is put in. -/
  | insert (s : List α) (c : α) (t : List α) : Edit (s ++ t) (s ++ c :: t)
  /-- A letter is taken out. -/
  | delete (s : List α) (c : α) (t : List α) : Edit (s ++ c :: t) (s ++ t)
  /-- A letter is exchanged for another one. -/
  | exchange (s : List α) {c d : α} (t : List α) :
      c ≠ d → Edit (s ++ c :: t) (s ++ d :: t)

/-- A number of edits, one after the other, turns a text into another. -/
inductive Edits : Nat → List α → List α → Prop where
  /-- No edit leaves the text as it is. -/
  | refl (a : List α) : Edits 0 a a
  /-- One more edit. -/
  | step {n : Nat} {a b c : List α} : Edits n a b → Edit b c → Edits (n + 1) a c

variable {a b c : List α} {m n : Nat}

/-! ### Edits -/

namespace Edit

/-- An edit further on in a text. -/
theorem cons (x : α) (h : Edit a b) : Edit (x :: a) (x :: b) := by
  cases h with
  | insert s c t => exact insert (x :: s) c t
  | delete s c t => exact delete (x :: s) c t
  | exchange s t hne => exact exchange (x :: s) t hne

theorem reverse (h : Edit a b) : Edit a.reverse b.reverse := by
  cases h with
  | insert s c t => simpa using insert t.reverse c s.reverse
  | delete s c t => simpa using delete t.reverse c s.reverse
  | exchange s t hne => simpa using exchange t.reverse s.reverse hne

theorem ne (h : Edit a b) : a ≠ b := by
  cases h with
  | insert s c t => simp
  | delete s c t => simp
  | exchange s t hne => simpa using hne

theorem length_le (h : Edit a b) : a.length ≤ b.length + 1 ∧ b.length ≤ a.length + 1 := by
  cases h with
  | insert s c t => simp only [List.length_append, List.length_cons]; omega
  | delete s c t => simp only [List.length_append, List.length_cons]; omega
  | exchange s t hne => simp only [List.length_append, List.length_cons]; omega

end Edit

namespace Edits

theorem trans (h : Edits m a b) (h' : Edits n b c) : Edits (m + n) a c := by
  induction h' with
  | refl => exact h
  | step _ hedit ih => exact (ih h).step hedit

theorem cons (x : α) (h : Edits n a b) : Edits n (x :: a) (x :: b) := by
  induction h with
  | refl a => exact refl (x :: a)
  | step _ hedit ih => exact ih.step (hedit.cons x)

theorem reverse (h : Edits n a b) : Edits n a.reverse b.reverse := by
  induction h with
  | refl a => exact refl a.reverse
  | step _ hedit ih => exact ih.step hedit.reverse

theorem length_le (h : Edits n a b) : a.length ≤ b.length + n ∧ b.length ≤ a.length + n := by
  induction h with
  | refl a => exact ⟨Nat.le_refl _, Nat.le_refl _⟩
  | step _ hedit ih =>
    have hstep := hedit.length_le
    omega

theorem zero_iff : Edits 0 a b ↔ a = b := by
  constructor
  · intro h
    cases h
    rfl
  · rintro rfl
    exact refl a

theorem one_iff : Edits 1 a b ↔ Edit a b := by
  constructor
  · intro h
    cases h with
    | step hnone hedit => exact zero_iff.1 hnone ▸ hedit
  · exact (refl a).step

/-- The first letter is put in after the other edits. -/
theorem insert_first (x : α) (h : Edits n a b) : Edits (n + 1) a (x :: b) :=
  h.step (.insert [] x b)

/-- The first letter is taken out before the other edits. -/
theorem delete_first (x : α) (h : Edits n a b) : Edits (n + 1) (x :: a) b := by
  have hfirst : Edits 1 (x :: a) a := one_iff.2 (.delete [] x a)
  rw [Nat.add_comm]
  exact hfirst.trans h

/-- The first letter is exchanged after the other edits. -/
theorem exchange_first {x y : α} (hne : x ≠ y) (h : Edits n a b) :
    Edits (n + 1) (x :: a) (y :: b) :=
  (h.cons x).step (.exchange [] b hne)

end Edits

variable [DecidableEq α]

/-! ### The recursion on the first letters -/

/-- The least number of edits between two texts: the first letter of one of them is put in or taken
out, or the first letters stand for each other. -/
def editDistance : List α → List α → Nat
  | [], b => b.length
  | a, [] => a.length
  | x :: a, y :: b =>
    min (min (editDistance a (y :: b) + 1) (editDistance (x :: a) b + 1))
      (editDistance a b + if x = y then 0 else 1)
termination_by a b => a.length + b.length

theorem editDistance_nil_left (b : List α) : editDistance [] b = b.length := by
  rw [editDistance]

theorem editDistance_nil_right (a : List α) : editDistance a [] = a.length := by
  cases a with
  | nil => rw [editDistance_nil_left]
  | cons x a => rw [editDistance]; simp

theorem editDistance_cons_cons (x y : α) (a b : List α) :
    editDistance (x :: a) (y :: b) =
      min (min (editDistance a (y :: b) + 1) (editDistance (x :: a) b + 1))
        (editDistance a b + if x = y then 0 else 1) := by
  rw [editDistance]

/-- So many edits are enough. -/
theorem edits_editDistance (a b : List α) : Edits (editDistance a b) a b := by
  fun_induction editDistance a b with
  | case1 b =>
    induction b with
    | nil => exact .refl []
    | cons y b ih => exact ih.insert_first y
  | case2 a hne =>
    clear hne
    induction a with
    | nil => exact .refl []
    | cons x a ih => exact ih.delete_first x
  | case3 x a y b hdelete hinsert hboth =>
    -- the least of the three numbers is one of them, and each comes with its edits
    have hexchange : Edits (editDistance a b + if x = y then 0 else 1) (x :: a) (y :: b) := by
      split
      · rename_i heq
        exact heq ▸ hboth.cons x
      · rename_i hne
        exact hboth.exchange_first hne
    rcases min_choice (min (editDistance a (y :: b) + 1) (editDistance (x :: a) b + 1))
      (editDistance a b + if x = y then 0 else 1) with hmin | hmin
    · rw [hmin]
      rcases min_choice (editDistance a (y :: b) + 1) (editDistance (x :: a) b + 1) with hmin | hmin
      · rw [hmin]
        exact hdelete.delete_first x
      · rw [hmin]
        exact hinsert.insert_first y
    · rw [hmin]
      exact hexchange

/-! ### One more edit -/

theorem editDistance_cons_left_le (x : α) (a b : List α) :
    editDistance (x :: a) b ≤ editDistance a b + 1 := by
  cases b with
  | nil => simp only [editDistance_nil_right, List.length_cons]; omega
  | cons y b => rw [editDistance_cons_cons]; omega

theorem editDistance_cons_right_le (y : α) (a b : List α) :
    editDistance a (y :: b) ≤ editDistance a b + 1 := by
  cases a with
  | nil => simp only [editDistance_nil_left, List.length_cons]; omega
  | cons x a => rw [editDistance_cons_cons]; omega

theorem editDistance_le_cons_right (y : α) (a b : List α) :
    editDistance a b ≤ editDistance a (y :: b) + 1 := by
  induction a with
  | nil => simp only [editDistance_nil_left, List.length_cons]; omega
  | cons x a ih =>
    have hx := editDistance_cons_left_le x a b
    rw [editDistance_cons_cons]
    omega

theorem editDistance_exchange_le (y z : α) (a b : List α) :
    editDistance a (z :: b) ≤ editDistance a (y :: b) + 1 := by
  induction a with
  | nil => simp only [editDistance_nil_left, List.length_cons]; omega
  | cons x a ih =>
    rw [editDistance_cons_cons, editDistance_cons_cons]
    split <;> split <;> omega

/-- A text that is at most one further away from any text than another is, stays so behind one more
letter. -/
theorem editDistance_cons_le_of_le (h : ∀ a, editDistance a c ≤ editDistance a b + 1) (y : α)
    (a : List α) : editDistance a (y :: c) ≤ editDistance a (y :: b) + 1 := by
  induction a with
  | nil =>
    have hnil := h []
    simp only [editDistance_nil_left, List.length_cons] at hnil ⊢
    omega
  | cons x a ih =>
    have hboth := h a
    have hinsert := h (x :: a)
    rw [editDistance_cons_cons, editDistance_cons_cons]
    omega

theorem editDistance_append_le_of_le (h : ∀ a, editDistance a c ≤ editDistance a b + 1)
    (s a : List α) : editDistance a (s ++ c) ≤ editDistance a (s ++ b) + 1 := by
  induction s generalizing a with
  | nil => exact h a
  | cons y s ih => exact editDistance_cons_le_of_le ih y a

/-- One more edit gains at most one. -/
theorem Edit.editDistance_le (h : Edit b c) (a : List α) :
    editDistance a c ≤ editDistance a b + 1 := by
  cases h with
  | insert s x t =>
    exact editDistance_append_le_of_le (fun a => editDistance_cons_right_le x a t) s a
  | delete s x t =>
    exact editDistance_append_le_of_le (fun a => editDistance_le_cons_right x a t) s a
  | exchange s t hne =>
    exact editDistance_append_le_of_le (fun a => editDistance_exchange_le _ _ a t) s a

theorem editDistance_self (a : List α) : editDistance a a = 0 := by
  induction a with
  | nil => rw [editDistance_nil_left, List.length_nil]
  | cons x a ih => rw [editDistance_cons_cons, ih, if_pos rfl]; omega

/-- Fewer edits are not enough. -/
theorem Edits.editDistance_le (h : Edits n a b) : editDistance a b ≤ n := by
  induction h with
  | refl a => exact (editDistance_self a).le
  | step _ hedit ih => exact (hedit.editDistance_le _).trans (Nat.succ_le_succ ih)

/-! ### The table -/

/-- The entries of a row from a place in `b` on: what stands before the place is `done`, last letter
first, and what stands after it is the rest. The row belongs to the front part of a text that is
`p`, last letter first. -/
def editEntries (p : List α) : List α → List α → List Nat
  | done, [] => [editDistance p done]
  | done, y :: rest => editDistance p done :: editEntries p (y :: done) rest

theorem editEntries_eq_cons (p done rest : List α) :
    ∃ later, editEntries p done rest = editDistance p done :: later := by
  cases rest with
  | nil => exact ⟨[], rfl⟩
  | cons y rest => exact ⟨_, rfl⟩

/-- The entries of the first row count up. -/
theorem editEntries_nil (done rest : List α) :
    editEntries [] done rest = List.range' done.length (rest.length + 1) := by
  induction rest generalizing done with
  | nil => simp [editEntries, editDistance_nil_left]
  | cons y rest ih =>
    rw [editEntries, ih, editDistance_nil_left, List.length_cons, ← List.range'_succ,
      List.length_cons]

theorem getLast?_editEntries (p done rest : List α) :
    (editEntries p done rest).getLast? = some (editDistance p (rest.reverse ++ done)) := by
  induction rest generalizing done with
  | nil => rfl
  | cons y rest ih =>
    obtain ⟨later, hlater⟩ := editEntries_eq_cons p (y :: done) rest
    have hlast := ih (y :: done)
    rw [hlater] at hlast
    rw [editEntries, hlater, List.getLast?_cons_cons, hlast]
    simp

/-- The further entries of the next row, from those of the row before. -/
theorem editRowFrom_editEntries (x : α) (p done rest : List α) :
    editDistance (x :: p) done ::
        editRowFrom x (editDistance (x :: p) done) rest (editEntries p done rest) =
      editEntries (x :: p) done rest := by
  induction rest generalizing done with
  | nil => simp [editEntries, editRowFrom]
  | cons y rest ih =>
    obtain ⟨later, hlater⟩ := editEntries_eq_cons p (y :: done) rest
    rw [editEntries, editEntries, hlater, editRowFrom, ← editDistance_cons_cons, ← hlater, ih]

/-- One more letter takes a row of the table to the next one. -/
theorem editRow_editEntries (x : α) (p b : List α) :
    editRow x b (editEntries p [] b) = editEntries (x :: p) [] b := by
  obtain ⟨later, hlater⟩ := editEntries_eq_cons p [] b
  have hfirst : editDistance p [] + 1 = editDistance (x :: p) [] := by
    rw [editDistance_nil_right, editDistance_nil_right, List.length_cons]
  rw [hlater, editRow, ← hlater, hfirst, editRowFrom_editEntries]

theorem foldl_editRow (p a b : List α) :
    a.foldl (fun row x => editRow x b row) (editEntries p [] b) =
      editEntries (a.reverse ++ p) [] b := by
  induction a generalizing p with
  | nil => rfl
  | cons x a ih => rw [List.foldl_cons, editRow_editEntries, ih]; simp

theorem editCount_eq_editDistance (a b : List α) :
    editCount a b = editDistance a.reverse b.reverse := by
  have hfirst : List.range (b.length + 1) = editEntries [] [] b := by
    rw [editEntries_nil, List.range_eq_range', List.length_nil]
  rw [editCount, hfirst, foldl_editRow, getLast?_editEntries]
  simp

/-! ### Least numbers of edits -/

/-- The table counts the least number of edits. -/
theorem editCount_isLeast (a b : List α) : IsLeast {n | Edits n a b} (editCount a b) := by
  rw [editCount_eq_editDistance]
  constructor
  · have henough := (edits_editDistance a.reverse b.reverse).reverse
    rwa [List.reverse_reverse, List.reverse_reverse] at henough
  · intro n hn
    exact hn.reverse.editDistance_le

theorem nearEditCount_of_far (h : a.length + 1 < b.length ∨ b.length + 1 < a.length) :
    nearEditCount a b = 2 := by
  have hne : a ≠ b := by
    rintro rfl
    omega
  rw [nearEditCount, if_neg hne, if_pos h]

theorem nearEditCount_of_near (h : ¬ (a.length + 1 < b.length ∨ b.length + 1 < a.length)) :
    nearEditCount a b = editCount a b := by
  by_cases heq : a = b
  · have hleast : editCount a b ≤ 0 := (editCount_isLeast a b).2 (Edits.zero_iff.2 heq)
    rw [nearEditCount, if_pos heq]
    omega
  · rw [nearEditCount, if_neg heq, if_neg h]

/-- The short cut keeps apart none, one and more edits. -/
theorem nearEditCount_eq_iff_of_le_one (hn : n ≤ 1) :
    nearEditCount a b = n ↔ editCount a b = n := by
  by_cases h : a.length + 1 < b.length ∨ b.length + 1 < a.length
  · have hlength := (editCount_isLeast a b).1.length_le
    rw [nearEditCount_of_far h]
    omega
  · rw [nearEditCount_of_near h]

theorem editCount_eq_zero_iff : editCount a b = 0 ↔ a = b := by
  have hleast := editCount_isLeast a b
  rw [← Edits.zero_iff]
  constructor
  · intro h
    exact h ▸ hleast.1
  · intro h
    exact Nat.le_zero.1 (hleast.2 h)

theorem editCount_eq_one_iff : editCount a b = 1 ↔ Edit a b := by
  have hleast := editCount_isLeast a b
  rw [← Edits.one_iff]
  constructor
  · intro h
    exact h ▸ hleast.1
  · intro h
    have hle : editCount a b ≤ 1 := hleast.2 h
    have hzero : editCount a b ≠ 0 := fun h0 =>
      (Edits.one_iff.1 h).ne (editCount_eq_zero_iff.1 h0)
    omega

/-- **The edit count is the least number of edits where it matters.** Between any two texts there is
a least number of edits. The count is this number if the lengths differ by at most one, and else it
is two and the least number is not below. So the count is zero exactly for equal texts, and one
exactly for texts that a single edit separates. -/
theorem nearEditCount_exact (a b : List α) :
    (∃ least, IsLeast {n | Edits n a b} least ∧
      if a.length ≤ b.length + 1 ∧ b.length ≤ a.length + 1 then nearEditCount a b = least
      else nearEditCount a b = 2 ∧ 2 ≤ least) ∧
    (nearEditCount a b = 0 ↔ a = b) ∧ (nearEditCount a b = 1 ↔ Edit a b) := by
  refine ⟨⟨editCount a b, editCount_isLeast a b, ?_⟩, ?_, ?_⟩
  · split
    · exact nearEditCount_of_near (by omega)
    · have hlength := (editCount_isLeast a b).1.length_le
      exact ⟨nearEditCount_of_far (by omega), by omega⟩
  · rw [nearEditCount_eq_iff_of_le_one (Nat.zero_le 1), editCount_eq_zero_iff]
  · rw [nearEditCount_eq_iff_of_le_one (Nat.le_refl 1), editCount_eq_one_iff]

/-- Beyond two edits the short cut says less than the table. -/
example : nearEditCount ['n', 'p'] ['n', 'u', 'm', 'p', 'y'] = 2 ∧
    editCount ['n', 'p'] ['n', 'u', 'm', 'p', 'y'] = 3 := by
  decide

end LlmAudit
