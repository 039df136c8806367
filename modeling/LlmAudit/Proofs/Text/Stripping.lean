import LlmAudit.Text.Blank
import LlmAudit.Text.Word
import Mathlib.Data.List.DropRight

/-!
# Stripping blanks

A text is its stripped part with blanks around it (`exists_eq_strip`), and the stripped part has no
blank at either end (`trimmed_strip`). A part of a text that has none stays whole when the text is
stripped (`strip_append_append`). Blanks are in no word (`not_isWordChar_of_isBlank`).

What is stripped from the left is a run of blanks (`Run`, `stripLeft_eq_iff`): the characters of a
class with which a text starts, up to the first one of another kind.
-/

namespace LlmAudit.Text

variable {s t : List Char} {c : Char}

/-- Blanks only. -/
def AllBlank (s : List Char) : Prop :=
  ∀ c ∈ s, isBlank c = true

instance (s : List Char) : Decidable (AllBlank s) :=
  List.decidableBAll (fun c => isBlank c = true) s

/-- No blank at either end. -/
structure Trimmed (s : List Char) : Prop where
  /-- The first character is no blank. -/
  head : ∀ c ∈ s.head?, isBlank c = false
  /-- The last character is no blank. -/
  last : ∀ c ∈ s.getLast?, isBlank c = false

/-! ### Blanks and words -/

/-- The intervals of the code points of blanks. -/
def blankIntervals : List (Nat × Nat) :=
  [(0x09, 0x0D), (0x1C, 0x20), (0x85, 0x85), (0xA0, 0xA0), (0x1680, 0x1680), (0x2000, 0x200A),
    (0x2028, 0x2029), (0x202F, 0x202F), (0x205F, 0x205F), (0x3000, 0x3000)]

theorem exists_blankInterval (h : isBlank c = true) :
    ∃ b ∈ blankIntervals, b.1 ≤ c.toNat ∧ c.toNat ≤ b.2 := by
  simp only [isBlank, decide_eq_true_eq] at h
  simp only [blankIntervals, List.mem_cons, List.not_mem_nil, or_false, exists_eq_or_imp,
    exists_eq_left]
  omega

/-- No interval of letters and numerals meets an interval of blanks. -/
theorem alphanumericIntervals_disjoint :
    (alphanumericIntervals.toList.all fun a =>
      blankIntervals.all fun b => decide (a.2 < b.1 ∨ b.2 < a.1)) = true := by
  decide +kernel

theorem toNat_of_isAlphanum (h : c.isAlphanum = true) : 0x30 ≤ c.toNat ∧ c.toNat < 0x80 := by
  have hval : c.val.toNat = c.toNat := rfl
  delta Char.isAlphanum Char.isAlpha Char.isUpper Char.isLower Char.isDigit at h
  simp only [ge_iff_le, UInt32.le_iff_toNat_le, hval, Bool.or_eq_true, Bool.and_eq_true,
    decide_eq_true_eq, Char.reduceVal, UInt32.reduceToNat] at h
  omega

/-- A blank is no ASCII letter, digit or underscore. -/
theorem not_isAsciiNameChar_of_isBlank (h : isBlank c = true) :
    isAsciiNameChar ['_'] c = false := by
  have hpoint : c.toNat < 0x30 ∨ 0x80 ≤ c.toNat := by
    simp only [isBlank, decide_eq_true_eq] at h
    omega
  rw [isAsciiNameChar, Bool.or_eq_false_iff]
  constructor
  · refine Bool.eq_false_iff.2 fun halphanum => ?_
    have := toNat_of_isAlphanum halphanum
    omega
  · refine Bool.eq_false_iff.2 fun hcontains => ?_
    obtain rfl : c = '_' := by simpa using hcontains
    exact absurd hpoint (by decide)

/-- A blank is no word character. -/
theorem not_isWordChar_of_isBlank (h : isBlank c = true) : isWordChar c = false := by
  rw [isWordChar]
  split
  · simpa [isAsciiNameChar] using not_isAsciiNameChar_of_isBlank h
  · obtain ⟨b, hb, hlow, hhigh⟩ := exists_blankInterval h
    rw [inIntervals, ← Array.any_toList, List.any_eq_false]
    intro a ha
    have hdisjoint := List.all_eq_true.1 alphanumericIntervals_disjoint a ha
    have hapart := List.all_eq_true.1 hdisjoint b hb
    simp only [decide_eq_true_eq] at hapart ⊢
    omega

theorem any_isWordChar_of_isBlank {next : Option Char} (h : ∀ c ∈ next, isBlank c = true) :
    next.any isWordChar = false := by
  cases next with
  | none => rfl
  | some c => exact not_isWordChar_of_isBlank (h c rfl)

/-! ### Stripping -/

theorem stripRight_eq_rdropWhile (s : List Char) : stripRight s = s.rdropWhile isBlank := rfl

/-- Stripping from the left stops at the first character that is no blank. -/
theorem stripLeft_append_cons (hc : isBlank c = false) (t s : List Char) :
    stripLeft (t ++ c :: s) = stripLeft t ++ c :: s := by
  have hstop : (c :: s).dropWhile isBlank = c :: s :=
    List.dropWhile_cons_of_neg (Bool.eq_false_iff.1 hc)
  rw [stripLeft, stripLeft, List.dropWhile_append, hstop]
  split
  · rename_i hempty
    rw [List.isEmpty_iff.1 hempty, List.nil_append]
  · rfl

/-- Stripping from the right stops at the last character that is no blank. -/
theorem stripRight_append_cons (hc : isBlank c = false) (s t : List Char) :
    stripRight (s ++ c :: t) = s ++ c :: stripRight t := by
  have hleft := stripLeft_append_cons hc t.reverse s.reverse
  rw [stripLeft, stripLeft] at hleft
  rw [stripRight, stripRight, List.reverse_append, List.reverse_cons, List.append_assoc,
    List.singleton_append, hleft]
  simp

/-- Blanks at the end stay at the end when the front is stripped. -/
theorem isBlank_of_mem_getLast?_stripLeft (ht : AllBlank t) (hne : t ≠ []) :
    ∀ c ∈ (stripLeft (s ++ t)).getLast?, isBlank c = true := by
  intro c hc
  obtain ⟨dropped, hdropped⟩ := stripLeft_suffix (s ++ t)
  have hlast : (s ++ t).getLast? = some c := by
    rw [← hdropped, List.getLast?_append, Option.mem_def.1 hc, Option.some_or]
  rw [List.getLast?_append_of_ne_nil _ hne] at hlast
  exact ht c (List.mem_of_getLast? hlast)

/-- Blanks at the front stay at the front when the end is stripped. -/
theorem isBlank_of_mem_head?_stripRight (ht : AllBlank t) (hne : t ≠ []) :
    ∀ c ∈ (stripRight (t ++ s)).head?, isBlank c = true := by
  intro c hc
  obtain ⟨dropped, hdropped⟩ := List.rdropWhile_prefix isBlank (t ++ s)
  have hhead : (t ++ s).head? = some c := by
    rw [← hdropped, List.head?_append, ← stripRight_eq_rdropWhile, Option.mem_def.1 hc,
      Option.some_or]
  rw [List.head?_append_of_ne_nil _ hne] at hhead
  exact ht c (List.mem_of_head? hhead)

/-- A part of a text without blanks at its ends stays whole, and what stands around it is stripped
on the outer side. -/
theorem strip_append_append (hs : Trimmed s) (hne : s ≠ []) (t u : List Char) :
    strip (t ++ (s ++ u)) = stripLeft t ++ (s ++ stripRight u) := by
  obtain ⟨c, first, hfirst⟩ := List.exists_cons_of_ne_nil hne
  obtain ⟨last, d, hlast⟩ := List.eq_nil_or_concat s |>.resolve_left hne
  have hc : isBlank c = false := hs.head c (by rw [hfirst]; rfl)
  have hd : isBlank d = false := hs.last d (by rw [hlast]; simp)
  have hleft : stripLeft (t ++ (s ++ u)) = stripLeft t ++ (s ++ u) := by
    rw [hfirst, List.cons_append, stripLeft_append_cons hc]
  have hright : stripRight (stripLeft t ++ (s ++ u)) = stripLeft t ++ (s ++ stripRight u) := by
    rw [hlast, List.concat_eq_append, List.append_assoc, List.singleton_append, ← List.append_assoc,
      stripRight_append_cons hd]
    simp
  rw [strip, hleft, hright]

/-- A text is its stripped part with blanks around it. -/
theorem exists_eq_strip (s : List Char) :
    ∃ front back, s = front ++ (strip s ++ back) ∧ AllBlank front ∧ AllBlank back := by
  refine ⟨s.takeWhile isBlank, (stripLeft s).rtakeWhile isBlank, ?_,
    fun c hc => List.mem_takeWhile_imp hc, fun c hc => List.mem_rtakeWhile_imp hc⟩
  rw [strip, stripRight_eq_rdropWhile, List.rdropWhile_append_rtakeWhile, stripLeft,
    List.takeWhile_append_dropWhile]

theorem trimmed_strip (s : List Char) : Trimmed (strip s) := by
  constructor
  · intro c hc
    -- what is stripped on the right is not the first character of what is left of it
    obtain ⟨rest, hrest⟩ : strip s <+: stripLeft s := List.rdropWhile_prefix isBlank (stripLeft s)
    have hhead : (stripLeft s).head? = some c := by
      rw [← hrest, List.head?_append, Option.mem_def.1 hc, Option.some_or]
    have hnot := List.head?_dropWhile_not isBlank s
    rw [← stripLeft, hhead] at hnot
    simpa using hnot
  · intro c hc
    obtain ⟨hne, rfl⟩ := List.mem_getLast?_eq_getLast hc
    exact Bool.eq_false_iff.2 (List.rdropWhile_last_not isBlank (stripLeft s) hne)

theorem strip_eq_nil_iff : strip s = [] ↔ AllBlank s := by
  constructor
  · intro h
    obtain ⟨front, back, hs, hfront, hback⟩ := exists_eq_strip s
    rw [hs, h, List.nil_append]
    intro c hc
    rcases List.mem_append.1 hc with hc | hc
    · exact hfront c hc
    · exact hback c hc
  · intro h
    have hleft : stripLeft s = [] := List.dropWhile_eq_nil_iff.2 h
    rw [strip, hleft]
    rfl

theorem strip_subset (s : List Char) : strip s ⊆ s := by
  obtain ⟨front, back, hs, -, -⟩ := exists_eq_strip s
  intro c hc
  rw [hs]
  simp [hc]

/-! ### Runs of characters -/

section

variable {α : Type} {p : α → Bool} {s a b a' b' : List α}

/-- A text starts with a run of characters of a class, and the run ends where the rest starts. -/
structure Run (p : α → Bool) (s a b : List α) : Prop where
  /-- The text is the run and the rest. -/
  eq_append : s = a ++ b
  /-- The characters of the run are in the class. -/
  all : ∀ c ∈ a, p c = true
  /-- The rest starts with no character of the class. -/
  stop : ∀ c ∈ b.head?, p c = false

/-- Runs are what is taken and what is dropped while the class holds. -/
theorem run_iff : Run p s a b ↔ s.takeWhile p = a ∧ s.dropWhile p = b := by
  constructor
  · rintro ⟨rfl, hall, hstop⟩
    rw [List.takeWhile_append_of_pos hall, List.dropWhile_append_of_pos hall]
    cases b with
    | nil => simp
    | cons c b =>
      have hc : ¬ p c = true := Bool.eq_false_iff.1 (hstop c rfl)
      rw [List.takeWhile_cons_of_neg hc, List.dropWhile_cons_of_neg hc, List.append_nil]
      exact ⟨rfl, rfl⟩
  · rintro ⟨rfl, rfl⟩
    refine ⟨(List.takeWhile_append_dropWhile).symm, fun c hc => List.mem_takeWhile_imp hc, ?_⟩
    intro c hc
    have hnot := List.head?_dropWhile_not p s
    rw [Option.mem_def.1 hc] at hnot
    simpa using hnot

/-- A text starts with one run of a class only. -/
theorem Run.unique (h : Run p s a b) (h' : Run p s a' b') : a = a' ∧ b = b' := by
  obtain ⟨rfl, rfl⟩ := run_iff.1 h
  exact run_iff.1 h'

/-- A text starts with the run that is taken while a class holds. -/
theorem run_takeWhile (p : α → Bool) (s : List α) :
    Run p s (s.takeWhile p) (s.drop (s.takeWhile p).length) := by
  have hrun : Run p s (s.takeWhile p) (s.dropWhile p) := run_iff.2 ⟨rfl, rfl⟩
  have hrest := congrArg (List.drop (s.takeWhile p).length) hrun.eq_append
  rw [List.drop_left] at hrest
  rwa [hrest]

end

theorem stripLeft_eq_iff {b : List Char} : stripLeft s = b ↔ ∃ a, Run isBlank s a b := by
  simp only [run_iff, exists_eq_left', stripLeft]

end LlmAudit.Text
