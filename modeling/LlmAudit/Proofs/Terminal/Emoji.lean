import LlmAudit.Terminal.Emoji
import Mathlib.Data.List.Count

/-!
# Texts without pictures

The codes that stand in a text (`Emoji.codes`) do not depend on the pictures that a terminal knows.
A text stays as it is exactly if the terminal knows a picture for none of them
(`Emoji.replace_eq_self_iff`). A picture may be of any length, so that the length of a text tells
nothing; but a code that is replaced takes two colons with it, and no picture brings one back
(`Emoji.replaceFrom_cases`).
-/

namespace LlmAudit.Emoji

/-- The codes that stand in a text; the state is that of `replaceFrom`. -/
def codesFrom : (code : Option (List Point)) → List Point → List (List Point)
  | _, [] => []
  | .none, p :: rest =>
    if p = .char ':' then codesFrom (some []) rest else codesFrom .none rest
  | some code, p :: rest =>
    if p = .char ':' then code.reverse :: codesFrom .none rest
    else if p.isBlank then codesFrom .none rest
    else codesFrom (some (p :: code)) rest

/-- The codes that stand in a text: from the left, each one from a colon to the next one, with no
blank between them. -/
def codes (s : List Point) : List (List Point) :=
  codesFrom .none s

/-- A terminal knows a picture for none of the codes in a text. -/
def Uncoded (e : Emoji) (s : List Point) : Prop :=
  ∀ code ∈ codes s, e.pictureOf? code = .none

/-- What has been read of a code. -/
def pending : (code : Option (List Point)) → List Point
  | .none => []
  | some code => .char ':' :: code.reverse

/-- The number of colons in a text. -/
def colons (s : List Point) : Nat :=
  s.count (.char ':')

@[simp]
theorem colons_nil : colons [] = 0 := rfl

@[simp]
theorem colons_append (s t : List Point) : colons (s ++ t) = colons s + colons t :=
  List.count_append

@[simp]
theorem colons_colon (s : List Point) : colons (.char ':' :: s) = colons s + 1 :=
  List.count_cons_self

theorem colons_cons_of_ne {p : Point} (h : p ≠ .char ':') (s : List Point) :
    colons (p :: s) = colons s :=
  List.count_cons_of_ne h

/-- Codes are looked for behind what holds no colon. -/
theorem codes_append {x : List Point} (h : .char ':' ∉ x) (s : List Point) :
    codes (x ++ s) = codes s := by
  induction x with
  | nil => rfl
  | cons p x ih =>
    rw [List.mem_cons, not_or] at h
    rw [← ih h.2, codes, List.cons_append, codesFrom, if_neg (Ne.symm h.1)]
    rfl

variable {e : Emoji} {s code : List Point} {p : Point}

theorem selector_ne : ∀ v ∈ variants, v.2 ≠ ':' := by
  simp only [variants, List.forall_mem_cons, List.not_mem_nil, false_implies, implies_true,
    and_true]
  decide

/-- No picture holds a colon, with its selector neither. -/
theorem colons_picture {picture : List Char} (h : e.pictureOf? code = some picture) :
    colons (picture.map Point.char) = 0 := by
  obtain ⟨bare, hbare, rfl⟩ := Option.map_eq_some_iff.1 h
  obtain ⟨name, -, hname⟩ := Option.bind_eq_some_iff.1 hbare
  have hselector : ':' ∉ (nameOf code).2 := by
    rw [nameOf]
    split
    · rename_i v hv
      rw [List.mem_singleton]
      exact (selector_ne v (List.mem_of_find?_eq_some hv)).symm
    · exact List.not_mem_nil
  rw [colons, List.count_eq_zero, List.mem_map]
  rintro ⟨c, hc, hcolon⟩
  obtain rfl := Point.char.inj hcolon
  rcases List.mem_append.1 hc with hc | hc
  · exact e.colonless _ _ hname hc
  · exact hselector hc

/-- What is made of a code adds to what is made of the text behind it. -/
theorem replaceFrom_code
    (h : ((∀ code ∈ codesFrom .none s, e.pictureOf? code = .none) ∧
        e.replaceFrom .none s = s) ∨
      ((∃ code ∈ codesFrom .none s, e.pictureOf? code ≠ .none) ∧
        colons (e.replaceFrom .none s) < colons s)) :
    ((∀ c ∈ code.reverse :: codesFrom .none s, e.pictureOf? c = .none) ∧
      e.shownCode code.reverse ++ e.replaceFrom .none s =
        pending (some code) ++ .char ':' :: s) ∨
    ((∃ c ∈ code.reverse :: codesFrom .none s, e.pictureOf? c ≠ .none) ∧
      colons (e.shownCode code.reverse ++ e.replaceFrom .none s) <
        colons (pending (some code) ++ .char ':' :: s)) := by
  have hle : colons (e.replaceFrom .none s) ≤ colons s := by
    rcases h with ⟨-, hsame⟩ | ⟨-, hless⟩
    · exact Nat.le_of_eq (congrArg colons hsame)
    · exact Nat.le_of_lt hless
  cases hpicture : e.pictureOf? code.reverse with
  | some picture =>
    refine .inr ⟨⟨_, List.mem_cons_self, by rw [hpicture]; exact Option.some_ne_none _⟩, ?_⟩
    rw [shownCode, hpicture]
    simp only [pending, colons_append, colons_colon, colons_picture hpicture]
    omega
  | none =>
    have hshown : e.shownCode code.reverse = pending (some code) ++ [.char ':'] := by
      rw [shownCode, hpicture]
      rfl
    rcases h with ⟨hnone, hsame⟩ | ⟨⟨c, hc, hsome⟩, hless⟩
    · refine .inl ⟨List.forall_mem_cons.2 ⟨hpicture, hnone⟩, ?_⟩
      rw [hshown, hsame, List.append_assoc]
      rfl
    · refine .inr ⟨⟨c, List.mem_cons_of_mem _ hc, hsome⟩, ?_⟩
      rw [hshown]
      simp only [colons_append, colons_colon, colons_nil]
      omega

/-- A text from which no code is replaced stays as it is, and another one loses colons. -/
theorem replaceFrom_cases (e : Emoji) (state : Option (List Point)) (s : List Point) :
    ((∀ code ∈ codesFrom state s, e.pictureOf? code = .none) ∧
      e.replaceFrom state s = pending state ++ s) ∨
    ((∃ code ∈ codesFrom state s, e.pictureOf? code ≠ .none) ∧
      colons (e.replaceFrom state s) < colons (pending state ++ s)) := by
  induction s generalizing state with
  | nil =>
    refine .inl ⟨by cases state <;> exact List.forall_mem_nil _, ?_⟩
    cases state with
    | none => rfl
    | some code => exact (List.append_nil _).symm
  | cons p s ih =>
    cases state with
    | none =>
      by_cases hp : p = .char ':'
      · -- a code may start here
        rw [codesFrom, replaceFrom, if_pos hp, if_pos hp, hp]
        exact ih (some [])
      · rw [codesFrom, replaceFrom, if_neg hp, if_neg hp]
        rcases ih .none with ⟨hnone, hsame⟩ | ⟨hsome, hless⟩
        · exact .inl ⟨hnone, congrArg (p :: ·) hsame⟩
        · refine .inr ⟨hsome, ?_⟩
          rw [colons_cons_of_ne hp]
          exact Nat.lt_of_lt_of_eq hless (colons_cons_of_ne hp _).symm
    | some code =>
      by_cases hp : p = .char ':'
      · rw [codesFrom, replaceFrom, if_pos hp, if_pos hp, hp]
        exact replaceFrom_code (ih .none)
      · by_cases hblank : p.isBlank = true
        · -- the colon starts no code
          rw [codesFrom, replaceFrom, if_neg hp, if_neg hp, if_pos hblank, if_pos hblank]
          rcases ih .none with ⟨hnone, hsame⟩ | ⟨hsome, hless⟩
          · exact .inl ⟨hnone, by rw [hsame]; rfl⟩
          · refine .inr ⟨hsome, ?_⟩
            simp only [pending, colons_colon, colons_append, colons_cons_of_ne hp,
              List.cons_append, List.nil_append] at hless ⊢
            omega
        · rw [codesFrom, replaceFrom, if_neg hp, if_neg hp, if_neg hblank, if_neg hblank]
          have hrest := ih (some (p :: code))
          rwa [pending, List.reverse_cons, ← List.cons_append, List.append_assoc,
            List.singleton_append] at hrest

theorem replace_cases (e : Emoji) (s : List Point) :
    (e.Uncoded s ∧ e.replace s = s) ∨ (¬e.Uncoded s ∧ colons (e.replace s) < colons s) := by
  rcases e.replaceFrom_cases .none s with ⟨hnone, hsame⟩ | ⟨⟨code, hcode, hsome⟩, hless⟩
  · exact .inl ⟨hnone, hsame⟩
  · exact .inr ⟨fun hall => hsome (hall code hcode), hless⟩

/-- A text stays as it is exactly if the terminal knows none of its codes. -/
theorem replace_eq_self_iff : e.replace s = s ↔ e.Uncoded s := by
  rcases e.replace_cases s with ⟨hall, hsame⟩ | ⟨hnot, hless⟩
  · exact iff_of_true hsame hall
  · refine iff_of_false (fun hsame => ?_) hnot
    rw [hsame] at hless
    exact Nat.lt_irrefl _ hless

/-- A text that keeps its colons stays as it is. -/
theorem replace_of_colons_le (h : colons s ≤ colons (e.replace s)) : e.replace s = s := by
  rcases e.replace_cases s with ⟨-, hsame⟩ | ⟨-, hless⟩
  · exact hsame
  · omega

/-! ### Pictures are characters -/

theorem isChar_shownCode (h : ∀ p ∈ code, p.isChar = true) :
    ∀ p ∈ e.shownCode code, p.isChar = true := by
  rw [shownCode]
  split
  · rename_i picture _
    rw [List.forall_mem_map]
    exact fun _ _ => rfl
  · rw [List.forall_mem_cons, List.forall_mem_append, List.forall_mem_singleton]
    exact ⟨rfl, h, rfl⟩

/-- A text of characters stays one. -/
theorem isChar_replaceFrom (e : Emoji) (state : Option (List Point))
    (h : ∀ p ∈ pending state ++ s, p.isChar = true) :
    ∀ p ∈ e.replaceFrom state s, p.isChar = true := by
  fun_induction replaceFrom e state s with
  | case1 => exact h
  | case2 code =>
    rw [List.append_nil] at h
    exact h
  | case3 rest ih => exact ih h
  | case4 p rest hp ih =>
    rw [pending, List.nil_append, List.forall_mem_cons] at h
    exact List.forall_mem_cons.2 ⟨h.1, ih h.2⟩
  | case5 code rest ih =>
    rw [pending, List.cons_append, List.forall_mem_cons, List.forall_mem_append,
      List.forall_mem_cons] at h
    exact List.forall_mem_append.2 ⟨isChar_shownCode h.2.1, ih h.2.2.2⟩
  | case6 code p rest hp hblank ih =>
    rw [pending, List.cons_append, List.forall_mem_cons, List.forall_mem_append,
      List.forall_mem_cons] at h
    rw [List.forall_mem_cons, List.forall_mem_append, List.forall_mem_cons]
    exact ⟨rfl, h.2.1, h.2.2.1, ih h.2.2.2⟩
  | case7 code p rest hp hblank ih =>
    refine ih ?_
    rwa [pending, List.reverse_cons, ← List.cons_append, List.append_assoc, List.singleton_append]

end LlmAudit.Emoji
