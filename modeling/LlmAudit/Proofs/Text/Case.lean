import LlmAudit.Text.Case
import Mathlib.Data.List.Basic

/-!
# Lower case letter by letter

The lower case of a letter can depend on the letters around it, and it can have two characters.
Both concern a few letters only: a capital sigma, and `İ`, which becomes an `i` with a dot. Whether
a lower-case text is or starts with a word that has neither an `i` nor a sigma is therefore seen
letter by letter (`lower_eq_iff`, `isPrefix_lower_iff`). What stands around a letter only decides
the form of a sigma, so that a word without sigmas in a part of a text is one in the text
(`isInfix_lower_of_isInfix`), and of what follows a text counts only whether a word goes on there
(`exists_lowerFrom_append`).
-/

namespace LlmAudit.Text

/-- A word with none of the letters with which `İ` or a capital sigma starts in lower case. -/
def Steady (w : List Char) : Prop :=
  ∀ c ∈ ['i', 'σ', 'ς'], c ∉ w

instance (w : List Char) : Decidable (Steady w) :=
  List.decidableBAll (fun c => c ∉ w) ['i', 'σ', 'ς']

variable {before s t t' w : List Char} {c : Char}

/-- The lower case of a text starts with that of its first letter alone, and goes on with that of
the rest; or both ways the first letter gives an `i` or a sigma. -/
theorem lowerFrom_cons_cases (before : List Char) (c : Char) (s : List Char) :
    lowerFrom before (c :: s) = lowerLetter c :: lowerFrom (c :: before) s ∨
      ∃ a rest, lowerFrom before (c :: s) = a :: rest ∧ a ∈ ['i', 'σ', 'ς'] ∧
        lowerLetter c ∈ ['i', 'σ', 'ς'] := by
  rw [lowerFrom]
  by_cases hsigma : c.toNat = 0x3A3
  · obtain rfl : c = 'Σ' := Char.toNat_inj.1 hsigma
    right
    rw [if_pos hsigma]
    refine ⟨_, _, rfl, ?_, by decide +kernel⟩
    split <;> decide +kernel
  · rw [if_neg hsigma, lowerChar]
    by_cases hdotted : c.toNat = 0x130
    · obtain rfl : c = 'İ' := Char.toNat_inj.1 hdotted
      right
      rw [if_pos hdotted]
      exact ⟨_, _, rfl, by decide, by decide +kernel⟩
    · left
      rw [if_neg hdotted, List.singleton_append]

theorem lowerFrom_eq_nil_iff : lowerFrom before s = [] ↔ s = [] := by
  cases s with
  | nil => simp [lowerFrom]
  | cons c s =>
    rcases lowerFrom_cons_cases before c s with heq | ⟨a, rest, heq, -, -⟩
    · simp [heq]
    · simp [heq]

/-- Where a text in lower case starts with a word without `i` and sigma, the word comes letter by
letter from the start of the text, and what is left comes from the rest. -/
theorem lowerFrom_eq_append_iff {t : List Char} (hw : Steady w) :
    lowerFrom before s = w ++ t ↔
      ∃ s₁ s₂, s = s₁ ++ s₂ ∧ s₁.map lowerLetter = w ∧ lowerFrom (s₁.reverse ++ before) s₂ = t := by
  induction w generalizing before s with
  | nil =>
    constructor
    · exact fun h => ⟨[], s, rfl, rfl, h⟩
    · rintro ⟨s₁, s₂, rfl, hs₁, h⟩
      obtain rfl := List.map_eq_nil_iff.1 hs₁
      exact h
  | cons a w ih =>
    have hrest : Steady w := fun x hx hmem => hw x hx (List.mem_cons_of_mem a hmem)
    have ha : a ∉ ['i', 'σ', 'ς'] := fun hmem => hw a hmem List.mem_cons_self
    constructor
    · intro h
      cases s with
      | nil => cases h
      | cons c s =>
        rcases lowerFrom_cons_cases before c s with heq | ⟨b, rest, heq, hb, -⟩
        · rw [heq, List.cons_append, List.cons.injEq] at h
          obtain ⟨s₁, s₂, rfl, hs₁, hs₂⟩ := (ih hrest).1 h.2
          exact ⟨c :: s₁, s₂, rfl, by rw [List.map_cons, h.1, hs₁], by simpa using hs₂⟩
        · rw [heq, List.cons_append, List.cons.injEq] at h
          exact absurd (h.1 ▸ hb) ha
    · rintro ⟨s₁, s₂, rfl, hs₁, hs₂⟩
      obtain ⟨c, s₁, rfl, rfl, hmap⟩ := List.map_eq_cons_iff.1 hs₁
      rw [List.cons_append, List.cons_append]
      rcases lowerFrom_cons_cases before c (s₁ ++ s₂) with heq | ⟨b, rest, -, -, hletter⟩
      · rw [heq, (ih hrest).2 ⟨s₁, s₂, rfl, hmap, by simpa using hs₂⟩]
      · exact absurd hletter ha

/-- A text in lower case starts with a word without `i` and sigma exactly if it does letter by
letter. -/
theorem isPrefix_lower_iff (hw : Steady w) : w <+: lower s ↔ w <+: s.map lowerLetter := by
  constructor
  · rintro ⟨t, ht⟩
    obtain ⟨s₁, s₂, rfl, rfl, -⟩ := (lowerFrom_eq_append_iff hw).1 ht.symm
    rw [List.map_append]
    exact List.prefix_append ..
  · rintro ⟨t, ht⟩
    obtain ⟨s₁, s₂, rfl, hs₁, -⟩ := List.map_eq_append_iff.1 ht.symm
    exact ⟨_, ((lowerFrom_eq_append_iff hw).2 ⟨s₁, s₂, rfl, hs₁, rfl⟩).symm⟩

/-- A text in lower case is a word without `i` and sigma exactly if it is letter by letter. -/
theorem lower_eq_iff (hw : Steady w) : lower s = w ↔ s.map lowerLetter = w := by
  rw [lower, ← List.append_nil w, lowerFrom_eq_append_iff hw, List.append_nil]
  constructor
  · rintro ⟨s₁, s₂, rfl, hs₁, hs₂⟩
    obtain rfl := lowerFrom_eq_nil_iff.1 hs₂
    rwa [List.append_nil]
  · exact fun h => ⟨s, [], (List.append_nil s).symm, h, rfl⟩

theorem lowered_eq_iff {t word : String} (hw : Steady word.toList) :
    lowered t = word ↔ t.toList.map lowerLetter = word.toList := by
  rw [lowered, ← lower_eq_iff hw, ← String.toList_inj, String.toList_ofList]

/-! ### Parts of texts -/

/-- A letter, with the plain sigma for the final one. -/
def plainSigma (c : Char) : Char :=
  if c = 'ς' then 'σ' else c

/-- Apart from the form of its sigmas, the lower case of a text is that of its letters one by
one. -/
theorem map_plainSigma_lowerFrom (before s : List Char) :
    (lowerFrom before s).map plainSigma = s.flatMap fun c => (lower [c]).map plainSigma := by
  induction s generalizing before with
  | nil => rfl
  | cons c s ih =>
    rw [List.flatMap_cons, lowerFrom, lower, lowerFrom]
    by_cases hsigma : c.toNat = 0x3A3
    · have hform : ∀ final : Bool,
          plainSigma (Char.ofNat (if final then 0x3C2 else 0x3C3)) = 'σ' := by
        intro final
        cases final <;> decide
      rw [if_pos hsigma, if_pos hsigma, List.map_cons, List.map_cons, ih, hform, hform]
      rfl
    · rw [if_neg hsigma, if_neg hsigma, List.map_append, List.map_append, ih]
      simp [lowerFrom]

/-- A word without sigmas does not notice their form. -/
theorem isInfix_map_plainSigma_iff (hw : ∀ c ∈ ['σ', 'ς'], c ∉ w) :
    w <:+: s.map plainSigma ↔ w <:+: s := by
  have hplain : ∀ c, plainSigma c ∈ w ∨ c ∈ w → plainSigma c = c := by
    intro c hc
    have hfinal : c ≠ 'ς' := by
      rintro rfl
      rcases hc with hc | hc
      · exact hw 'σ' (by simp) hc
      · exact hw 'ς' (by simp) hc
    exact if_neg hfinal
  constructor
  · rintro ⟨front, back, happend⟩
    obtain ⟨rest, s₃, rfl, hrest, -⟩ := List.map_eq_append_iff.1 happend.symm
    obtain ⟨s₁, s₂, rfl, -, rfl⟩ := List.map_eq_append_iff.1 hrest
    have hsame : s₂.map plainSigma = s₂.map id :=
      List.map_congr_left fun c hc => hplain c (.inl (List.mem_map_of_mem hc))
    rw [List.map_id] at hsame
    exact ⟨s₁, s₃, by rw [hsame]⟩
  · rintro ⟨front, back, rfl⟩
    have hsame : w.map plainSigma = w.map id :=
      List.map_congr_left fun c hc => hplain c (.inr hc)
    rw [List.map_id] at hsame
    exact ⟨front.map plainSigma, back.map plainSigma, by simp [hsame]⟩

/-- A word without sigmas that occurs in the lower case of a part of a text occurs in that of the
text. -/
theorem isInfix_lower_of_isInfix {t : List Char} (hw : ∀ c ∈ ['σ', 'ς'], c ∉ w) (hst : s <:+: t)
    (h : w <:+: lower s) : w <:+: lower t := by
  rw [← isInfix_map_plainSigma_iff hw, lower, map_plainSigma_lowerFrom] at h ⊢
  obtain ⟨front, back, rfl⟩ := hst
  rw [List.flatMap_append, List.flatMap_append]
  exact h.trans (List.infix_append ..)

/-! ### What follows a text -/

theorem startsInWord_append_congr (h : startsInWord t = startsInWord t') (s : List Char) :
    startsInWord (s ++ t) = startsInWord (s ++ t') := by
  induction s with
  | nil => exact h
  | cons c s ih => rw [List.cons_append, List.cons_append, startsInWord, startsInWord, ih]

/-- What follows a text decides its lower case only by whether a word goes on there. -/
theorem exists_lowerFrom_append (h : startsInWord t = startsInWord t') (before s : List Char) :
    ∃ w, lowerFrom before (s ++ t) = w ++ lowerFrom (s.reverse ++ before) t ∧
      lowerFrom before (s ++ t') = w ++ lowerFrom (s.reverse ++ before) t' := by
  induction s generalizing before with
  | nil => exact ⟨[], rfl, rfl⟩
  | cons c s ih =>
    obtain ⟨w, hw, hw'⟩ := ih (c :: before)
    rw [List.cons_append, List.cons_append, lowerFrom, lowerFrom, hw, hw',
      startsInWord_append_congr h, List.reverse_cons, List.append_assoc, List.singleton_append]
    split
    · exact ⟨_ :: w, rfl, rfl⟩
    · exact ⟨lowerChar c ++ w, (List.append_assoc ..).symm, (List.append_assoc ..).symm⟩

/-! ### ASCII -/

/-- Only capital ASCII letters change, each by the same step. -/
theorem toLower_cases (c : Char) :
    c.toLower = c ∨
      0x41 ≤ c.toNat ∧ c.toNat ≤ 0x5A ∧ c.toLower.toNat = c.toNat + 0x20 := by
  have hval : c.val.toNat = c.toNat := rfl
  delta Char.toLower
  split
  · rename_i h
    right
    simp only [ge_iff_le, UInt32.le_iff_toNat_le, hval, Char.reduceVal, UInt32.reduceToNat] at h
    refine ⟨h.1, h.2, ?_⟩
    have hstep : ('a'.val - 'A'.val).toNat = 0x20 := rfl
    change (c.val + ('a'.val - 'A'.val)).toNat = _
    rw [UInt32.toNat_add, hstep, hval, Nat.mod_eq_of_lt (by omega)]
  · exact .inl rfl

theorem lowerFrom_of_ascii (h : ∀ c ∈ s, c.toNat < 0x80) (before : List Char) :
    lowerFrom before s = s.map Char.toLower := by
  induction s generalizing before with
  | nil => rfl
  | cons c s ih =>
    rw [List.forall_mem_cons] at h
    rw [lowerFrom, if_neg (by omega), lowerChar, if_neg (by omega), lowerLetter, if_pos h.1,
      ih h.2, List.map_cons, List.singleton_append]

/-- A letter from `A` to `Z`, in upper or lower case. -/
def IsAsciiLetter (c : Char) : Prop :=
  0x41 ≤ c.toNat ∧ c.toNat ≤ 0x5A ∨ 0x61 ≤ c.toNat ∧ c.toNat ≤ 0x7A

instance (c : Char) : Decidable (IsAsciiLetter c) :=
  inferInstanceAs (Decidable (_ ∨ _))

theorem caseIgnorable_disjoint :
    (caseIgnorable.toList.all fun i =>
      decide (i.2 < 0x41 ∨ 0x5A < i.1 ∧ i.2 < 0x61 ∨ 0x7A < i.1)) = true := by
  decide +kernel

theorem IsAsciiLetter.isCaseIgnorable_eq (h : IsAsciiLetter c) : isCaseIgnorable c = false := by
  rw [isCaseIgnorable, inIntervals, ← Array.any_toList, List.any_eq_false]
  intro i hi
  have hapart := List.all_eq_true.1 caseIgnorable_disjoint i hi
  rw [IsAsciiLetter] at h
  simp only [decide_eq_true_eq] at hapart ⊢
  omega

theorem IsAsciiLetter.isCased (h : IsAsciiLetter c) : Text.isCased c = true := by
  rw [Text.isCased, inIntervals, ← Array.any_toList, List.any_eq_true]
  rcases h with h | h
  · exact ⟨(0x41, 0x5A), .head _, decide_eq_true h⟩
  · exact ⟨(0x61, 0x7A), .tail _ (.head _), decide_eq_true h⟩

/-- A word goes on with an ASCII letter, also behind a dot. -/
theorem startsInWord_dot_cons (h : IsAsciiLetter c) (s : List Char) :
    startsInWord ('.' :: c :: s) = true := by
  have hdot : isCaseIgnorable '.' = true := by decide +kernel
  rw [startsInWord, if_pos hdot, startsInWord, h.isCaseIgnorable_eq, if_neg Bool.false_ne_true,
    h.isCased]

/-- Whether a word goes on does not depend on the case of ASCII letters. -/
theorem startsInWord_map_toLower (s : List Char) :
    startsInWord (s.map Char.toLower) = startsInWord s := by
  induction s with
  | nil => rfl
  | cons c s ih =>
    rw [List.map_cons, startsInWord, startsInWord, ih]
    rcases toLower_cases c with heq | ⟨hlow, hhigh, hlower⟩
    · rw [heq]
    · have hupper : IsAsciiLetter c := .inl ⟨hlow, hhigh⟩
      have hlower : IsAsciiLetter c.toLower := .inr (by omega)
      rw [hupper.isCaseIgnorable_eq, hupper.isCased, hlower.isCaseIgnorable_eq, hlower.isCased]

end LlmAudit.Text
