import LlmAudit.Text.Lines
import LlmAudit.Text.Utf8
import Mathlib.Data.Char

/-!
# Texts and their bytes

The bytes of a text are read as the text (`decode_encode`), and no other bytes are
(`decode_eq_ok_iff`). One step of the reader takes the bytes of one character
(`sequence_utf8EncodeChar`, `eq_utf8EncodeChar_of_sequence`); the bounds on the byte after the lead
byte hold because a character is written with as few bytes as possible and is no half of a pair.
-/

namespace LlmAudit

namespace Utf8

theorem toNat_ofNat {n : Nat} (h : n < 256) : (UInt8.ofNat n).toNat = n := by
  rw [UInt8.toNat_ofNat', Nat.mod_eq_of_lt h]

theorem follow_step {count low high bits taken n : Nat} {rest : List UInt8} (hn : n < 256)
    (hlow : low ≤ n) (hhigh : n ≤ high) :
    follow (count + 1) low high bits taken (UInt8.ofNat n :: rest) =
      follow count 0x80 0xBF (bits * 64 + (n - 0x80)) (taken + 1) rest := by
  rw [follow, toNat_ofNat hn, if_pos ⟨hlow, hhigh⟩]

theorem lead?_two {v : Nat} (hlow : 0x80 ≤ v) (hhigh : v < 0x800) :
    lead? (v / 64 % 32 + 192) = some ⟨1, 0x80, 0xBF, v / 64⟩ := by
  have hbits : v / 64 % 32 + 192 - 0xC0 = v / 64 := by omega
  rw [lead?, if_neg (by omega), if_neg (by omega), if_pos (by omega), hbits]

/-- Below U+10000 the bounds leave out longer forms than needed, and halves of pairs. -/
theorem lead?_three {v : Nat} (hlow : 0x800 ≤ v) (hhigh : v < 0x10000)
    (hhalf : v < 0xD800 ∨ 0xDFFF < v) :
    ∃ low high, lead? (v / 4096 % 16 + 224) = some ⟨2, low, high, v / 4096⟩ ∧
      low ≤ v / 64 % 64 + 128 ∧ v / 64 % 64 + 128 ≤ high := by
  have hbits : v / 4096 % 16 + 224 - 0xE0 = v / 4096 := by omega
  rw [lead?, if_neg (by omega), if_neg (by omega), if_neg (by omega), hbits]
  by_cases hfirst : v / 4096 % 16 + 224 = 0xE0
  · exact ⟨0xA0, 0xBF, if_pos hfirst, by omega, by omega⟩
  rw [if_neg hfirst]
  by_cases hhalves : v / 4096 % 16 + 224 = 0xED
  · exact ⟨0x80, 0x9F, if_pos hhalves, by omega, by omega⟩
  · rw [if_neg hhalves, if_pos (by omega)]
    exact ⟨0x80, 0xBF, rfl, by omega, by omega⟩

/-- From U+10000 on the bounds leave out longer forms than needed, and what is beyond U+10FFFF. -/
theorem lead?_four {v : Nat} (hlow : 0x10000 ≤ v) (hhigh : v < 0x110000) :
    ∃ low high, lead? (v / 262144 % 8 + 240) = some ⟨3, low, high, v / 262144⟩ ∧
      low ≤ v / 4096 % 64 + 128 ∧ v / 4096 % 64 + 128 ≤ high := by
  have hbits : v / 262144 % 8 + 240 - 0xF0 = v / 262144 := by omega
  rw [lead?, if_neg (by omega), if_neg (by omega), if_neg (by omega), if_neg (by omega),
    if_neg (by omega), if_neg (by omega), hbits]
  by_cases hfirst : v / 262144 % 8 + 240 = 0xF0
  · exact ⟨0x90, 0xBF, if_pos hfirst, by omega, by omega⟩
  rw [if_neg hfirst]
  by_cases hmiddle : v / 262144 % 8 + 240 ≤ 0xF3
  · exact ⟨0x80, 0xBF, if_pos hmiddle, by omega, by omega⟩
  · rw [if_neg hmiddle, if_pos (by omega)]
    exact ⟨0x80, 0x8F, rfl, by omega, by omega⟩

/-- The bytes of a character are one sequence. -/
theorem sequence_utf8EncodeChar (c : Char) :
    ∃ b bs, String.utf8EncodeChar c = b :: bs ∧
      ∀ rest, sequence b (bs ++ rest) = ⟨.ok c, bs.length⟩ := by
  have hvalid : c.toNat < 0xD800 ∨ 0xDFFF < c.toNat ∧ c.toNat < 0x110000 := c.valid
  obtain ⟨v, hv⟩ : ∃ v, c.toNat = v := ⟨_, rfl⟩
  have hc : Char.ofNat v = c := by rw [← hv, Char.ofNat_toNat]
  have hval : c.val.toNat = v := hv
  rw [hv] at hvalid
  rw [String.utf8EncodeChar, hval]
  split
  · refine ⟨_, _, rfl, fun rest => ?_⟩
    rw [sequence, toNat_ofNat (by omega), lead?, if_pos (by omega)]
    exact congrArg (Sequence.mk · 0) (congrArg Except.ok hc)
  split
  · refine ⟨_, _, rfl, fun rest => ?_⟩
    rw [sequence, toNat_ofNat (by omega), lead?_two (by omega) (by omega)]
    dsimp only [List.cons_append, List.nil_append]
    have hpoint : v / 64 * 64 + (v % 64 + 128 - 0x80) = v := by omega
    rw [follow_step (by omega) (by omega) (by omega), hpoint, follow, hc]
    rfl
  split
  · obtain ⟨low, high, hlead, hlow, hhigh⟩ := lead?_three (v := v) (by omega) (by omega) (by omega)
    refine ⟨_, _, rfl, fun rest => ?_⟩
    rw [sequence, toNat_ofNat (by omega), hlead]
    dsimp only [List.cons_append, List.nil_append]
    have hpoint : (v / 4096 * 64 + (v / 64 % 64 + 128 - 0x80)) * 64 + (v % 64 + 128 - 0x80) = v := by
      omega
    rw [follow_step (by omega) hlow hhigh, follow_step (by omega) (by omega) (by omega), hpoint,
      follow, hc]
    rfl
  · obtain ⟨low, high, hlead, hlow, hhigh⟩ := lead?_four (v := v) (by omega) (by omega)
    refine ⟨_, _, rfl, fun rest => ?_⟩
    rw [sequence, toNat_ofNat (by omega), hlead]
    dsimp only [List.cons_append, List.nil_append]
    have hpoint : ((v / 262144 * 64 + (v / 4096 % 64 + 128 - 0x80)) * 64 +
        (v / 64 % 64 + 128 - 0x80)) * 64 + (v % 64 + 128 - 0x80) = v := by omega
    rw [follow_step (by omega) hlow hhigh, follow_step (by omega) (by omega) (by omega),
      follow_step (by omega) (by omega) (by omega), hpoint, follow, hc]
    rfl

/-- The bytes of a text are read as the text, after what was read before. -/
theorem decodeFrom_encode (cs : List Char) (position : Nat) (text : List Char) :
    decodeFrom position text (encode cs) = .ok (text.reverse ++ cs) := by
  induction cs generalizing position text with
  | nil => rw [encode, List.flatMap_nil, decodeFrom, List.append_nil]
  | cons c cs ih =>
    obtain ⟨b, bs, hbytes, hsequence⟩ := sequence_utf8EncodeChar c
    have hencode : encode (c :: cs) = b :: (bs ++ encode cs) := by
      rw [encode, List.flatMap_cons, hbytes, List.cons_append]
      rfl
    rw [hencode, decodeFrom, hsequence]
    dsimp only
    rw [List.drop_left, ih, List.reverse_cons, List.append_assoc, List.singleton_append]

theorem decode_encode (cs : List Char) : decode (encode cs) = .ok cs := by
  rw [decode, decodeFrom_encode, List.reverse_nil, List.nil_append]

/-! ### What is read is written so -/

theorem utf8EncodeChar_ofNat {v : Nat} (h : v.isValidChar) :
    String.utf8EncodeChar (Char.ofNat v) =
      if v ≤ 0x7F then [UInt8.ofNat v]
      else if v ≤ 0x7FF then [UInt8.ofNat (v / 64 % 32 + 192), UInt8.ofNat (v % 64 + 128)]
      else if v ≤ 0xFFFF then
        [UInt8.ofNat (v / 4096 % 16 + 224), UInt8.ofNat (v / 64 % 64 + 128),
          UInt8.ofNat (v % 64 + 128)]
      else
        [UInt8.ofNat (v / 262144 % 8 + 240), UInt8.ofNat (v / 4096 % 64 + 128),
          UInt8.ofNat (v / 64 % 64 + 128), UInt8.ofNat (v % 64 + 128)] := by
  have hval : (Char.ofNat v).val.toNat = v := by
    rw [Char.ofNat, dif_pos h]
    rfl
  rw [String.utf8EncodeChar, hval]

theorem ofNat_of_eq_toNat {b : UInt8} {n : Nat} (h : n = b.toNat) : UInt8.ofNat n = b := by
  rw [h, UInt8.ofNat_toNat]

/-- What a byte that continues a character has to be. -/
theorem follow_succ_ok {low high bits taken k : Nat} (count : Nat) {c : Char} {bytes : List UInt8}
    (h : follow (count + 1) low high bits taken bytes = ⟨.ok c, k⟩) :
    ∃ b rest, bytes = b :: rest ∧ low ≤ b.toNat ∧ b.toNat ≤ high ∧
      follow count 0x80 0xBF (bits * 64 + (b.toNat - 0x80)) (taken + 1) rest = ⟨.ok c, k⟩ := by
  cases bytes with
  | nil =>
    rw [follow] at h
    cases h
  | cons b rest =>
    rw [follow] at h
    split at h
    · rename_i hb
      exact ⟨b, rest, rfl, hb.1, hb.2, h⟩
    · cases h

theorem follow_zero_ok {low high bits taken k : Nat} {c : Char} {bytes : List UInt8}
    (h : follow 0 low high bits taken bytes = ⟨.ok c, k⟩) : c = Char.ofNat bits ∧ k = taken := by
  rw [follow] at h
  cases h
  exact ⟨rfl, rfl⟩

/-- What the lead byte says. -/
theorem lead?_cases {b count low high bits : Nat} (h : lead? b = some ⟨count, low, high, bits⟩) :
    count = 0 ∧ bits = b ∧ b ≤ 0x7F ∨
      count = 1 ∧ bits + 0xC0 = b ∧ 2 ≤ bits ∧ bits < 32 ∧ 0x80 ≤ low ∧ high ≤ 0xBF ∨
      count = 2 ∧ bits + 0xE0 = b ∧ bits < 16 ∧ 0x80 ≤ low ∧ high ≤ 0xBF ∧
        (bits = 0 → 0xA0 ≤ low) ∧ (bits = 13 → high ≤ 0x9F) ∨
      count = 3 ∧ bits + 0xF0 = b ∧ bits < 5 ∧ 0x80 ≤ low ∧ high ≤ 0xBF ∧
        (bits = 0 → 0x90 ≤ low) ∧ (bits = 4 → high ≤ 0x8F) := by
  unfold lead? at h
  split_ifs at h <;> cases h <;> omega

/-- The bytes that are read as a character are its bytes. -/
theorem eq_utf8EncodeChar_of_sequence {b : UInt8} {rest : List UInt8} {c : Char} {k : Nat}
    (h : sequence b rest = ⟨.ok c, k⟩) :
    ∃ bs tail, rest = bs ++ tail ∧ bs.length = k ∧ b :: bs = String.utf8EncodeChar c := by
  unfold sequence at h
  split at h
  · cases h
  rename_i form hform
  obtain ⟨count, low, high, bits⟩ := form
  dsimp only at h
  rcases lead?_cases hform with ⟨rfl, hb, hle⟩ | ⟨rfl, hb, hlead, hlead', hlow, hhigh⟩ |
    ⟨rfl, hb, hbits, hlow, hhigh, hfirst, hhalf⟩ | ⟨rfl, hb, hbits, hlow, hhigh, hfirst, hlast⟩
  · obtain ⟨rfl, rfl⟩ := follow_zero_ok h
    refine ⟨[], rest, rfl, rfl, ?_⟩
    rw [hb, utf8EncodeChar_ofNat (.inl (by omega)), if_pos hle, UInt8.ofNat_toNat]
  · obtain ⟨b₁, r, rfl, hb₁, hb₁', h⟩ := follow_succ_ok 0 h
    obtain ⟨hc, hk⟩ := follow_zero_ok h
    refine ⟨[b₁], r, rfl, hk.symm, ?_⟩
    rw [hc, utf8EncodeChar_ofNat (.inl (by omega)), if_neg (by omega), if_pos (by omega),
      ofNat_of_eq_toNat (b := b) (by omega), ofNat_of_eq_toNat (b := b₁) (by omega)]
  · obtain ⟨b₁, r, rfl, hb₁, hb₁', h⟩ := follow_succ_ok 1 h
    obtain ⟨b₂, r, rfl, hb₂, hb₂', h⟩ := follow_succ_ok 0 h
    obtain ⟨hc, hk⟩ := follow_zero_ok h
    refine ⟨[b₁, b₂], r, rfl, hk.symm, ?_⟩
    rw [hc, utf8EncodeChar_ofNat, if_neg (by omega), if_neg (by omega), if_pos (by omega),
      ofNat_of_eq_toNat (b := b) (by omega), ofNat_of_eq_toNat (b := b₁) (by omega),
      ofNat_of_eq_toNat (b := b₂) (by omega)]
    rw [Nat.isValidChar]
    omega
  · obtain ⟨b₁, r, rfl, hb₁, hb₁', h⟩ := follow_succ_ok 2 h
    obtain ⟨b₂, r, rfl, hb₂, hb₂', h⟩ := follow_succ_ok 1 h
    obtain ⟨b₃, r, rfl, hb₃, hb₃', h⟩ := follow_succ_ok 0 h
    obtain ⟨hc, hk⟩ := follow_zero_ok h
    refine ⟨[b₁, b₂, b₃], r, rfl, hk.symm, ?_⟩
    rw [hc, utf8EncodeChar_ofNat, if_neg (by omega), if_neg (by omega), if_neg (by omega),
      ofNat_of_eq_toNat (b := b) (by omega), ofNat_of_eq_toNat (b := b₁) (by omega),
      ofNat_of_eq_toNat (b := b₂) (by omega), ofNat_of_eq_toNat (b := b₃) (by omega)]
    rw [Nat.isValidChar]
    omega

/-- What is read is the bytes of a text. -/
theorem eq_encode_of_decodeFrom {bytes : List UInt8} {position : Nat} {text cs : List Char}
    (h : decodeFrom position text bytes = .ok cs) :
    ∃ rest, cs = text.reverse ++ rest ∧ bytes = encode rest := by
  fun_induction decodeFrom position text bytes with
  | case1 position text =>
    cases h
    exact ⟨[], by simp, rfl⟩
  | case2 position text b rest s c hc ih =>
    obtain ⟨r, rfl, hr⟩ := ih h
    have hs : sequence b rest = ⟨.ok c, s.extra⟩ := by
      rw [← hc]
    obtain ⟨bs, tail, rfl, hlength, hbs⟩ := eq_utf8EncodeChar_of_sequence hs
    refine ⟨c :: r, by simp, ?_⟩
    rw [← hlength, List.drop_left] at hr
    rw [encode, List.flatMap_cons, ← hbs, hr]
    rfl
  | case3 position text b rest s fault hfault => cases h

/-- Exactly the bytes of a text are read as the text. -/
theorem decode_eq_ok_iff {bytes : List UInt8} {cs : List Char} :
    decode bytes = .ok cs ↔ bytes = encode cs := by
  constructor
  · intro h
    obtain ⟨rest, hcs, hbytes⟩ := eq_encode_of_decodeFrom h
    rw [hcs]
    exact hbytes
  · rintro rfl
    exact decode_encode cs

end Utf8

/-- Where there is no carriage return, no line break changes. -/
theorem Text.unifyBreaks_of_notMem {cs : List Char} (h : '\r' ∉ cs) : unifyBreaks cs = cs := by
  induction cs with
  | nil => rfl
  | cons c cs ih =>
    rw [List.mem_cons, not_or] at h
    rw [unifyBreaks, ih h.2]
    · rintro r rfl _
      exact h.1 rfl
    · exact fun hc => h.1 hc.symm

end LlmAudit
