import LlmAudit.Proofs.Text.Loose
import LlmAudit.Record.Field
import Mathlib.Data.List.Forall2

/-!
# When a record is decoded

A record is decoded exactly if each of its fields is, and a list exactly if each of its items is.
What counts as a whole number and as a number is said without a decoder (`IsWhole`, `IsNumber`):
beside the numbers of the format also truth values, texts that write a number, and for a whole
number also a number without a fraction that is not too large.
-/

namespace LlmAudit.Record

variable {α β : Type}

/-! ### Combinators -/

theorem Decoded.apply_eq_ok_iff {f : Decoded (α → β)} {x : Decoded α} {b : β} :
    f.apply x = .ok b ↔ ∃ g a, f = .ok g ∧ x = .ok a ∧ g a = b := by
  cases f <;> cases x <;> simp [Decoded.apply]

theorem Decoded.under_eq_ok_iff {step : Step} {x : Decoded α} {a : α} :
    x.under step = .ok a ↔ x = .ok a := by
  cases x <;> simp [Decoded.under]

theorem here_eq_ok_iff {x : Except Fault α} {a : α} : here x = .ok a ↔ x = .ok a := by
  cases x <;> simp [here]

theorem atField_eq_ok_iff {name : String} {x : Except Fault α} {a : α} :
    atField name x = .ok a ↔ x = .ok a := by
  rw [atField, Decoded.under_eq_ok_iff, here_eq_ok_iff]

theorem required_eq_ok_iff {read : Json → Except Fault α} {fields : List (LooseText × Json)}
    {name : String} {a : α} :
    required read fields name = .ok a ↔
      ∃ j, Json.getField? fields name = some j ∧ read j = .ok a := by
  unfold required
  cases Json.getField? fields name <;> simp [atField_eq_ok_iff]

/-- A list is decoded exactly if each of its items is. -/
theorem decodeItems_eq_ok_iff {read : Json → Decoded α} {i : Nat} {items : List Json}
    {xs : List α} :
    decodeItems read i items = .ok xs ↔ List.Forall₂ (fun j x => read j = .ok x) items xs := by
  induction items generalizing i xs with
  | nil =>
    rw [decodeItems, List.forall₂_nil_left_iff, Except.ok.injEq]
    exact eq_comm
  | cons j items ih =>
    simp only [decodeItems, Decoded.apply_eq_ok_iff, Decoded.under_eq_ok_iff, Except.ok.injEq]
    rw [List.forall₂_cons_left_iff]
    constructor
    · rintro ⟨_, ys, ⟨_, x, rfl, hx, rfl⟩, hys, rfl⟩
      exact ⟨x, ys, hx, ih.1 hys, rfl⟩
    · rintro ⟨x, ys, hx, hys, rfl⟩
      exact ⟨_, ys, ⟨_, x, rfl, hx, rfl⟩, ih.2 hys, rfl⟩

/-! ### Fields -/

/-- The whole number that a value stands for. -/
inductive IsWhole : Json → Int → Prop where
  /-- A whole number. -/
  | int (n : Int) : IsWhole (.int n) n
  /-- A truth value. -/
  | bool (b : Bool) : IsWhole (.bool b) (if b then 1 else 0)
  /-- A number without a fraction, if the machine has such a whole number. -/
  | float {x : Binary64} {n : Int} : x.toInt? = some n → n.natAbs < wholeBound →
      IsWhole (.float x) n
  /-- A text that writes a whole number. -/
  | text {s : String} {n : Int} : wholeOfText s = .ok n → IsWhole (.str (.ofString s)) n

/-- The number that a value stands for. -/
inductive IsNumber : Json → Binary64 → Prop where
  /-- A number. -/
  | float (x : Binary64) : IsNumber (.float x) x
  /-- A whole number that is not too large. -/
  | int {n : Int} : (Binary64.ofInt n).units?.isSome → IsNumber (.int n) (.ofInt n)
  /-- A truth value. -/
  | bool (b : Bool) : IsNumber (.bool b) (if b then .one else .zero)
  /-- A text that writes a number. -/
  | text {s : String} {x : Binary64} : readNumber? s = some x → IsNumber (.str (.ofString s)) x

theorem readText_eq_ok_iff {j : Json} {t : LooseText} : readText j = .ok t ↔ j = .str t := by
  cases j <;> simp [readText]

theorem wholeText_eq_ok_iff {t : LooseText} {s : String} :
    wholeText t = .ok s ↔ t = .ofString s := by
  rw [wholeText, ← LooseText.text?_eq_some_iff]
  cases t.text? <;> simp

/-- What is read from a text is read from the string of it. -/
theorem bind_wholeText_eq_ok_iff {t : LooseText} {read : String → Except Fault α} {a : α} :
    (wholeText t >>= read) = .ok a ↔ ∃ s, t = .ofString s ∧ read s = .ok a := by
  simp only [← wholeText_eq_ok_iff]
  cases wholeText t with
  | error e =>
    refine iff_of_false nofun ?_
    rintro ⟨s, hs, -⟩
    cases hs
  | ok s => simp [bind, Except.bind]

theorem ofName?_eq_some_iff {s : String} {v : Severity} :
    Severity.ofName? s = some v ↔ s = v.name := by
  refine ⟨fun h => ?_, ?_⟩
  · have hfound := List.find?_some h
    exact (eq_of_beq hfound).symm
  · rintro rfl
    exact Severity.ofName?_name v

theorem readSeverity_eq_ok_iff {j : Json} {v : Severity} :
    readSeverity j = .ok v ↔ j = .str (.ofString v.name) := by
  cases j with
  | str t =>
    rw [readSeverity, bind_wholeText_eq_ok_iff, Json.str.injEq]
    constructor
    · rintro ⟨s, rfl, hs⟩
      split at hs
      · rename_i w hw
        rw [← Except.ok.inj hs, ← ofName?_eq_some_iff.1 hw]
      · cases hs
    · rintro rfl
      exact ⟨v.name, rfl, by rw [Severity.ofName?_name]⟩
  | _ => simp [readSeverity]

theorem readWhole_eq_ok_iff {j : Json} {n : Int} : readWhole j = .ok n ↔ IsWhole j n := by
  constructor
  · intro h
    cases j with
    | int m =>
      cases h
      exact .int n
    | bool b =>
      cases h
      exact .bool b
    | float x =>
      rw [readWhole] at h
      split at h
      · cases h
      · rename_i m _ hint
        split at h
        · rename_i hbound
          cases h
          exact .float hint hbound
        · cases h
      · cases h
    | str t =>
      rw [readWhole, bind_wholeText_eq_ok_iff] at h
      obtain ⟨s, rfl, hs⟩ := h
      split at hs
      · rename_i m hm
        cases hs
        exact .text hm
      · cases hs
      · cases hs
    | _ => cases h
  · intro h
    cases h with
    | int n => rfl
    | bool b => rfl
    | @float x n hint hbound =>
      have hunits : ∃ u, x.units? = some u := by
        rw [Binary64.toInt?] at hint
        split at hint
        · cases hint
        · rename_i u hu
          exact ⟨u, hu⟩
      obtain ⟨u, hu⟩ := hunits
      rw [readWhole, hu, hint]
      exact if_pos hbound
    | @text s n htext =>
      exact bind_wholeText_eq_ok_iff.2 ⟨s, rfl, by rw [htext]⟩

theorem readNumber_eq_ok_iff {j : Json} {x : Binary64} : readNumber j = .ok x ↔ IsNumber j x := by
  constructor
  · intro h
    unfold readNumber at h
    split at h
    · rw [← Except.ok.inj h]
      exact .float _
    · rename_i n
      by_cases hfinite : (Binary64.ofInt n).units?.isSome
      · rw [if_pos hfinite] at h
        rw [← Except.ok.inj h]
        exact .int hfinite
      · rw [if_neg hfinite] at h
        cases h
    · rename_i b
      rw [← Except.ok.inj h]
      exact .bool b
    · rw [bind_wholeText_eq_ok_iff] at h
      obtain ⟨s, rfl, hs⟩ := h
      split at hs
      · rename_i y hy
        rw [← Except.ok.inj hs]
        exact .text hy
      · cases hs
    · cases h
  · intro h
    unfold readNumber
    cases h with
    | float x => rfl
    | int hfinite => exact if_pos hfinite
    | bool b => rfl
    | @text s x htext =>
      exact bind_wholeText_eq_ok_iff.2 ⟨s, rfl, by rw [htext]⟩

end LlmAudit.Record
