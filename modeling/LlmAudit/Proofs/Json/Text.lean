import LlmAudit.Json.Reader
import LlmAudit.Json.Writer
import Mathlib.Data.Char
import Mathlib.Tactic.IntervalCases

/-!
# Characters inside of quotes

Inside of quotes each character is written as itself, as a short escape, or by the hexadecimal
digits of its 16-bit units (`writeChar_cases`), in both alphabets.
-/

namespace LlmAudit.Json

/-! ### Hexadecimal digits -/

/-- Hexadecimal digits with zeros in front up to a width. -/
private def hexPad (width n : Nat) : List Char :=
  List.replicate (width - (Nat.toDigits 16 n).length) '0' ++ Nat.toDigits 16 n

private theorem hexPad_succ {width : Nat} (hwidth : 0 < width) (n : Nat) :
    hexPad (width + 1) n = hexPad width (n / 16) ++ [Nat.digitChar (n % 16)] := by
  rcases Nat.lt_or_ge n 16 with hlt | hge
  · obtain ⟨w, rfl⟩ : ∃ w, width = w + 1 := ⟨width - 1, by omega⟩
    rw [hexPad, hexPad, Nat.toDigits_of_lt_base hlt, Nat.div_eq_of_lt hlt, Nat.mod_eq_of_lt hlt,
      Nat.toDigits_zero]
    simp only [List.length_singleton, Nat.add_sub_cancel]
    rw [List.replicate_succ']
  · rw [hexPad, hexPad, Nat.toDigits_of_base_le (by decide) hge, List.length_append,
      List.length_singleton, Nat.add_sub_add_right, List.append_assoc]

private theorem hexPad_one {n : Nat} (h : n < 16) : hexPad 1 n = [Nat.digitChar n] := by
  rw [hexPad, Nat.toDigits_of_lt_base h]
  rfl

/-- The digits of a 16-bit unit. -/
theorem hexFour_eq {n : Nat} (h : n < 0x10000) :
    hexFour n = [Nat.digitChar (n / 16 / 16 / 16), Nat.digitChar (n / 16 / 16 % 16),
      Nat.digitChar (n / 16 % 16), Nat.digitChar (n % 16)] := by
  have hpad : hexFour n = hexPad 4 n := rfl
  rw [hpad, hexPad_succ (by decide), hexPad_succ (by decide), hexPad_succ (by decide),
    hexPad_one (by omega)]
  rfl

theorem hexDigit?_digitChar {n : Nat} (h : n < 16) : hexDigit? (Nat.digitChar n) = some n := by
  interval_cases n <;> rfl

/-! ### Characters -/

/-- The letters and signs of the short escapes that are written. -/
def shortEscapes : List Char := ['"', '\\', 'n', 'r', 't', 'f', 'b']

/-- How a character is written: by a short escape, by the escape of its code point, or as it is. -/
theorem writeChar_cases (a : Alphabet) (c : Char) :
    (∃ e ∈ shortEscapes, shortEscape? e = some c ∧ writeChar a c = ['\\', e]) ∨
      ((a = .ascii ∨ c.toNat < 0x20) ∧ writeChar a c = escapePoint c.toNat) ∨
      (c ≠ '"' ∧ c ≠ '\\' ∧ 0x20 ≤ c.toNat ∧ (a = .ascii → c.toNat ≤ 0x7E) ∧
        writeChar a c = [c]) := by
  rw [writeChar]
  by_cases hquote : c = '"'
  · exact .inl ⟨'"', by decide, by rw [hquote]; rfl, if_pos hquote⟩
  rw [if_neg hquote]
  by_cases hback : c = '\\'
  · exact .inl ⟨'\\', by decide, by rw [hback]; rfl, if_pos hback⟩
  rw [if_neg hback]
  by_cases hfeed : c = '\n'
  · exact .inl ⟨'n', by decide, by rw [hfeed]; rfl, if_pos hfeed⟩
  rw [if_neg hfeed]
  by_cases hreturn : c = '\r'
  · exact .inl ⟨'r', by decide, by rw [hreturn]; rfl, if_pos hreturn⟩
  rw [if_neg hreturn]
  by_cases htab : c = '\t'
  · exact .inl ⟨'t', by decide, by rw [htab]; rfl, if_pos htab⟩
  rw [if_neg htab]
  by_cases hform : c.toNat = 0x0C
  · exact .inl ⟨'f', by decide, by rw [← Char.ofNat_toNat c, hform]; rfl, if_pos hform⟩
  rw [if_neg hform]
  by_cases hbackspace : c.toNat = 0x08
  · exact .inl ⟨'b', by decide, by rw [← Char.ofNat_toNat c, hbackspace]; rfl, if_pos hbackspace⟩
  rw [if_neg hbackspace]
  by_cases hcontrol : c.toNat < 0x20
  · rw [if_pos hcontrol, escapePoint, if_pos (by omega)]
    exact .inr (.inl ⟨.inr hcontrol, rfl⟩)
  rw [if_neg hcontrol]
  by_cases hescaped : a = .ascii ∧ 0x7E < c.toNat
  · exact .inr (.inl ⟨.inl hescaped.1, if_pos hescaped⟩)
  · exact .inr (.inr ⟨hquote, hback, by omega, fun ha => by simpa [ha] using hescaped,
      if_neg hescaped⟩)

end LlmAudit.Json
