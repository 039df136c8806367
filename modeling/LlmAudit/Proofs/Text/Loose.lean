import LlmAudit.Text.Loose
import Mathlib.Data.List.Basic

/-!
# Texts of characters

A string is a text that holds characters only, and no two strings are the same text
(`LooseText.ofString_injective`). It is got back from the text (`text?_ofString`), and a text that
holds half a pair is no string (`text?_eq_some_iff`). In the order of texts strings stand as in
their own.
-/

namespace LlmAudit

@[simp]
theorem Point.char?_char (c : Char) : (Point.char c).char? = some c := rfl

/-- The half of a pair has no number of a character. -/
theorem Point.toNat_injective : Function.Injective Point.toNat := by
  have hdisjoint (c : Char) (k : Fin 0x800) : (Point.char c).toNat ≠ (Point.half k).toNat := by
    intro h
    have hk := k.isLt
    simp only [Point.toNat, Point.firstHalf] at h
    rcases c.valid with hlow | ⟨hhigh, -⟩
    · exact absurd (h ▸ hlow : 0xD800 + k.val < 0xD800) (by omega)
    · exact absurd (h ▸ hhigh : 0xDFFF < 0xD800 + k.val) (by omega)
  intro p q h
  cases p with
  | char c =>
    cases q with
    | char d => rw [Char.toNat_inj.1 h]
    | half k => exact absurd h (hdisjoint c k)
  | half k =>
    cases q with
    | char d => exact absurd h.symm (hdisjoint d k)
    | half l => rw [Fin.ext (Nat.add_left_cancel h)]

theorem Point.ofNat_toNat (p : Point) : Point.ofNat p.toNat = p := by
  cases p with
  | char c =>
    have hvalid : c.toNat.isValidChar := c.valid
    rw [Point.toNat, Point.ofNat, dif_pos hvalid]
    rfl
  | half k =>
    have hk := k.isLt
    have hvalid : ¬(Point.firstHalf + k.val).isValidChar := by
      rw [Nat.isValidChar, Point.firstHalf]
      omega
    rw [Point.toNat, Point.ofNat, dif_neg hvalid, Nat.add_sub_cancel_left]
    exact congrArg Point.half (Fin.ext (Nat.mod_eq_of_lt hk))

theorem map_char_injective : Function.Injective (List.map Point.char) :=
  List.map_injective_iff.2 fun _ _ => Point.char.inj

theorem filterMap_map_char (cs : List Char) : (cs.map Point.char).filterMap Point.char? = cs := by
  induction cs with
  | nil => rfl
  | cons c cs ih => rw [List.map_cons, List.filterMap_cons_some (Point.char?_char c), ih]

theorem map_char_filterMap {s : List Point} (h : ∀ p ∈ s, p.isChar = true) :
    (s.filterMap Point.char?).map Point.char = s := by
  induction s with
  | nil => rfl
  | cons p s ih =>
    obtain ⟨hp, hs⟩ := List.forall_mem_cons.1 h
    cases p with
    | char c => rw [List.filterMap_cons_some (Point.char?_char c), List.map_cons, ih hs]
    | half k => cases hp

/-- Characters at the front of a text of characters leave characters behind. -/
theorem exists_append_of_map_char {s t : List Char} {r : List Point}
    (h : s.map Point.char = t.map Point.char ++ r) : ∃ r', s = t ++ r' := by
  obtain ⟨front, rest, rfl, hfront, -⟩ := List.map_eq_append_iff.1 h
  exact ⟨rest, by rw [map_char_injective hfront]⟩

namespace LooseText

@[simp]
theorem points_append (s t : LooseText) : (s ++ t).points = s.points ++ t.points := rfl

@[simp]
theorem points_ofList (cs : List Char) : (ofList cs).points = cs.map .char := rfl

@[simp]
theorem points_ofString (s : String) : (ofString s).points = s.toList.map .char := rfl

theorem ofList_injective : Function.Injective ofList := fun _ _ h =>
  map_char_injective (congrArg points h)

theorem ofString_injective : Function.Injective ofString := fun _ _ h =>
  String.toList_injective (ofList_injective h)

@[simp]
theorem ofString_inj {s t : String} : ofString s = ofString t ↔ s = t :=
  ofString_injective.eq_iff

theorem ofList_append (s t : List Char) : ofList (s ++ t) = ofList s ++ ofList t :=
  LooseText.ext List.map_append

theorem ofString_append (s t : String) : ofString (s ++ t) = ofString s ++ ofString t := by
  rw [ofString, String.toList_append, ofList_append]
  rfl

theorem mapM_char? (cs : List Char) : (cs.map Point.char).mapM Point.char? = some cs := by
  induction cs with
  | nil => rfl
  | cons c cs ih =>
    rw [List.map_cons, List.mapM_cons, ih]
    rfl

/-- A text holds some characters only, or also half a pair. -/
theorem chars?_eq_some_iff {t : LooseText} {cs : List Char} :
    t.chars? = some cs ↔ t = ofList cs := by
  constructor
  · intro h
    obtain ⟨points⟩ := t
    refine LooseText.ext ?_
    change points.mapM Point.char? = some cs at h
    change points = cs.map .char
    induction points generalizing cs with
    | nil =>
      obtain rfl : [] = cs := Option.some.inj h
      rfl
    | cons p points ih =>
      rw [List.mapM_cons] at h
      cases p with
      | half k => cases h
      | char c =>
        cases hrest : points.mapM Point.char? with
        | none =>
          rw [hrest] at h
          cases h
        | some ds =>
          rw [hrest] at h
          obtain rfl : c :: ds = cs := Option.some.inj h
          rw [List.map_cons, ← ih hrest]
  · rintro rfl
    exact mapM_char? cs

@[simp]
theorem chars?_ofList (cs : List Char) : (ofList cs).chars? = some cs :=
  chars?_eq_some_iff.2 rfl

theorem text?_eq_some_iff {t : LooseText} {s : String} : t.text? = some s ↔ t = ofString s := by
  rw [text?, Option.map_eq_some_iff]
  constructor
  · rintro ⟨cs, hcs, rfl⟩
    rw [chars?_eq_some_iff.1 hcs, ofString, String.toList_ofList]
  · rintro rfl
    exact ⟨s.toList, chars?_ofList _, String.ofList_toList⟩

@[simp]
theorem text?_ofString (s : String) : (ofString s).text? = some s :=
  text?_eq_some_iff.2 rfl

/-- A text without halves is one run. -/
theorem mapRuns_map_char (change final : List Char → List Char) (run cs : List Char) :
    mapRuns change final run (cs.map .char) = (final (run.reverse ++ cs)).map .char := by
  induction cs generalizing run with
  | nil => rw [List.map_nil, mapRuns, List.append_nil]
  | cons c cs ih => rw [List.map_cons, mapRuns, ih, List.reverse_cons, List.append_assoc]; rfl

/-! ### Order -/

theorem codes_injective : Function.Injective codes := fun _ _ h =>
  LooseText.ext (List.map_injective_iff.2 Point.toNat_injective h)

protected theorem le_total (s t : LooseText) : s ≤ t ∨ t ≤ s :=
  List.le_total s.codes t.codes

protected theorem le_trans {s t u : LooseText} (h : s ≤ t) (h' : t ≤ u) : s ≤ u :=
  List.le_trans h h'

protected theorem le_antisymm {s t : LooseText} (h : s ≤ t) (h' : t ≤ s) : s = t :=
  codes_injective (List.le_antisymm h h')

protected theorem lt_of_le_of_ne {s t : LooseText} (h : s ≤ t) (hne : s ≠ t) : s < t :=
  (List.le_iff_lt_or_eq.1 h).resolve_right fun heq => hne (codes_injective heq)

end LooseText

end LlmAudit
