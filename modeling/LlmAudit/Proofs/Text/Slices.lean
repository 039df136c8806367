import LlmAudit.Proofs.Text.Utf8
import LlmAudit.Syntax.Outline

/-!
# Slices of texts

The lossy reading of bytes falls into step with the characters: whatever stands before a character,
whole or cut off, is read as if the bytes ended there (`decodeLossy_append`), since no byte at the
start of a character continues another one. The bytes of a text inside others are therefore read as
this text (`decodeLossy_encode_between`), and a slice that begins and ends between characters is
read as a part of what any larger slice is read as (`sliceText_isInfix`).
-/

namespace LlmAudit

namespace Utf8

/-! ### The bytes of a string -/

theorem toList_loop_eq (bytes : ByteArray) (i : Nat) (done : List UInt8) :
    ByteArray.toList.loop bytes i done = done.reverse ++ bytes.data.toList.drop i := by
  fun_induction ByteArray.toList.loop bytes i done with
  | case1 i done h ih =>
    have hi : i < bytes.data.toList.length := by simpa using h
    rw [ih, List.drop_eq_getElem_cons hi]
    simp [ByteArray.get!, h]
  | case2 i done h =>
    rw [List.drop_eq_nil_of_le (by simpa using Nat.le_of_not_lt h), List.append_nil]

/-- The bytes of a string are the bytes of its characters. -/
theorem bytesOf_eq_encode (s : String) : bytesOf s = encode s.toList := by
  rw [bytesOf, ByteArray.toList, toList_loop_eq, String.toUTF8_eq_toByteArray,
    ← String.utf8Encode_toList, List.utf8Encode, List.toList_data_toByteArray]
  rfl

theorem encode_append (s t : List Char) : encode (s ++ t) = encode s ++ encode t :=
  List.flatMap_append

/-! ### Falling into step -/

/-- A byte that stands inside a character. -/
def Continues (b : UInt8) : Prop :=
  0x80 ≤ b.toNat ∧ b.toNat ≤ 0xBF

/-- What a sequence is read as. -/
def Sequence.char (s : Sequence) : Char :=
  s.content.toOption.getD (Char.ofNat 0xFFFD)

theorem decodeLossy_cons (b : UInt8) (rest : List UInt8) :
    decodeLossy (b :: rest) =
      (sequence b rest).char :: decodeLossy (rest.drop (sequence b rest).extra) := by
  rw [decodeLossy, Sequence.char]
  cases (sequence b rest).content <;> rfl

theorem lead?_bounds {b : Nat} {form : Lead} (h : lead? b = some form) :
    0x80 ≤ form.low ∧ form.high ≤ 0xBF := by
  unfold lead? at h
  split_ifs at h <;> cases h <;> simp

section Append

variable {z : List UInt8} (hz : ∀ b ∈ z.head?, ¬ Continues b)

include hz

/-- A character that is cut off before bytes that do not continue it is read as if there were no
bytes. -/
theorem follow_append {low high : Nat} (hlow : 0x80 ≤ low) (hhigh : high ≤ 0xBF)
    (count bits taken : Nat) (rest : List UInt8) :
    (follow count low high bits taken (rest ++ z)).char =
        (follow count low high bits taken rest).char ∧
      (follow count low high bits taken (rest ++ z)).extra =
        (follow count low high bits taken rest).extra ∧
      (follow count low high bits taken rest).extra ≤ taken + rest.length := by
  induction count generalizing low high bits taken rest with
  | zero => simp [follow]
  | succ count ih =>
    cases rest with
    | nil =>
      cases z with
      | nil => simp [follow]
      | cons b z =>
        have hb : ¬ (low ≤ b.toNat ∧ b.toNat ≤ high) := by
          have hlead := hz b rfl
          rw [Continues] at hlead
          omega
        rw [List.nil_append, follow, follow, if_neg hb]
        exact ⟨rfl, rfl, Nat.le_add_right ..⟩
    | cons b rest =>
      rw [List.cons_append, follow, follow]
      split
      · obtain ⟨hchar, hextra, hle⟩ := ih (Nat.le_refl _) (Nat.le_refl _)
          (bits * 64 + (b.toNat - 0x80)) (taken + 1) rest
        refine ⟨hchar, hextra, ?_⟩
        rw [List.length_cons]
        omega
      · exact ⟨rfl, rfl, Nat.le_add_right ..⟩

theorem sequence_append (b : UInt8) (rest : List UInt8) :
    (sequence b (rest ++ z)).char = (sequence b rest).char ∧
      (sequence b (rest ++ z)).extra = (sequence b rest).extra ∧
      (sequence b rest).extra ≤ rest.length := by
  rw [sequence, sequence]
  cases hform : lead? b.toNat with
  | none => exact ⟨rfl, rfl, Nat.zero_le _⟩
  | some form =>
    obtain ⟨hlow, hhigh⟩ := lead?_bounds hform
    have happend := follow_append hz hlow hhigh form.count form.bits 0 rest
    rwa [Nat.zero_add] at happend

/-- Bytes that do not continue a character are read apart from those before them. -/
theorem decodeLossy_append (x : List UInt8) :
    decodeLossy (x ++ z) = decodeLossy x ++ decodeLossy z := by
  induction hn : x.length using Nat.strong_induction_on generalizing x with
  | h n ih =>
    cases x with
    | nil => rw [decodeLossy, List.nil_append, List.nil_append]
    | cons b rest =>
      obtain ⟨hchar, hextra, hle⟩ := sequence_append hz b rest
      have hrest : (rest.drop (sequence b rest).extra).length < n := by
        rw [List.length_drop, ← hn, List.length_cons]
        omega
      rw [List.cons_append, decodeLossy_cons, decodeLossy_cons, hchar, hextra,
        List.drop_append_of_le_length hle, ih _ hrest _ rfl, List.cons_append]

end Append

/-! ### Texts among bytes -/

theorem not_continues_of_sequence {b : UInt8} {rest : List UInt8} {c : Char} {k : Nat}
    (h : sequence b rest = ⟨.ok c, k⟩) : ¬ Continues b := by
  rintro ⟨hlow, hhigh⟩
  have hnone : lead? b.toNat = none := by
    rw [lead?, if_neg (by omega), if_pos (by omega)]
  rw [sequence, hnone] at h
  cases h

theorem decodeLossy_encode_append (s : List Char) (y : List UInt8) :
    decodeLossy (encode s ++ y) = s ++ decodeLossy y := by
  induction s with
  | nil => rfl
  | cons c s ih =>
    obtain ⟨b, bs, hbytes, hsequence⟩ := sequence_utf8EncodeChar c
    have hencode : encode (c :: s) ++ y = b :: (bs ++ (encode s ++ y)) := by
      rw [encode, List.flatMap_cons, hbytes, List.append_assoc, List.cons_append]
      rfl
    rw [hencode, decodeLossy_cons, hsequence]
    dsimp only
    rw [List.drop_left, ih]
    rfl

theorem decodeLossy_encode (s : List Char) : decodeLossy (encode s) = s := by
  have happend := decodeLossy_encode_append s []
  rwa [List.append_nil, decodeLossy, List.append_nil] at happend

/-- The bytes of a text are read as the text, whatever stands around them. -/
theorem decodeLossy_encode_between (x : List UInt8) {s : List Char} (hs : s ≠ []) (y : List UInt8) :
    decodeLossy (x ++ (encode s ++ y)) = decodeLossy x ++ (s ++ decodeLossy y) := by
  obtain ⟨c, s, rfl⟩ := List.exists_cons_of_ne_nil hs
  obtain ⟨b, bs, hbytes, hsequence⟩ := sequence_utf8EncodeChar c
  have hhead : ∀ b' ∈ (encode (c :: s) ++ y).head?, ¬ Continues b' := by
    have hb := not_continues_of_sequence (hsequence [])
    rw [encode, List.flatMap_cons, hbytes]
    rintro b' hb'
    cases hb'
    exact hb
  rw [decodeLossy_append hhead, decodeLossy_encode_append]

/-- A number of bytes after which a character of the text begins, or the text ends. -/
def IsBoundary (text : List Char) (k : Nat) : Prop :=
  ∃ before after, text = before ++ after ∧ (encode before).length = k

theorem isBoundary_iff {text : List Char} {k : Nat} :
    IsBoundary text k ↔ ∃ i < text.length + 1, (encode (text.take i)).length = k := by
  constructor
  · rintro ⟨before, after, rfl, hlength⟩
    refine ⟨before.length, ?_, ?_⟩
    · rw [List.length_append]
      omega
    · rw [List.take_left, hlength]
  · rintro ⟨i, -, hlength⟩
    exact ⟨text.take i, text.drop i, (List.take_append_drop i text).symm, hlength⟩

instance (text : List Char) (k : Nat) : Decidable (IsBoundary text k) :=
  decidable_of_iff _ isBoundary_iff.symm

/-- The bytes between two boundaries are those of a part of the text. -/
theorem exists_part_of_isBoundary {text : List Char} {i j : Nat} (hi : IsBoundary text i)
    (hj : IsBoundary text j) (hij : i < j) :
    ∃ before part after, text = before ++ (part ++ after) ∧ (encode before).length = i ∧
      (encode part).length = j - i := by
  obtain ⟨before, rest, hrest, hbefore⟩ := hi
  obtain ⟨before', after, hafter, hbefore'⟩ := hj
  rcases List.append_eq_append_iff.1 (hrest.symm.trans hafter) with
    ⟨part, rfl, rfl⟩ | ⟨part, rfl, rfl⟩
  · rw [encode_append, List.length_append] at hbefore'
    exact ⟨before, part, after, hrest, hbefore, by omega⟩
  · rw [encode_append, List.length_append] at hbefore
    omega

/-- The bytes of a slice around a part of a text: those of the part, with the end of what comes
before it and the start of what comes after it. -/
theorem take_drop_encode (before part after : List Char) {start stop : Nat}
    (hstart : start ≤ (encode before).length)
    (hstop : (encode before).length + (encode part).length ≤ stop) :
    ((encode (before ++ (part ++ after))).drop start).take (stop - start) =
      (encode before).drop start ++
        (encode part ++
          (encode after).take (stop - ((encode before).length + (encode part).length))) := by
  have hlength : ((encode before).drop start).length = (encode before).length - start :=
    List.length_drop
  have hfront : ((encode before).drop start).length ≤ stop - start := by omega
  have hpart : (encode part).length ≤ stop - start - ((encode before).drop start).length := by
    omega
  have hrest : stop - start - ((encode before).drop start).length - (encode part).length =
      stop - ((encode before).length + (encode part).length) := by omega
  rw [encode_append, encode_append, List.drop_append_of_le_length hstart, List.take_append,
    List.take_of_length_le hfront, List.take_append, List.take_of_length_le hpart, hrest]

/-- A slice between boundaries is read as a part of what a larger slice is read as. -/
theorem sliceText_isInfix {text : List Char} {start stop i j : Nat}
    (hi : IsBoundary text i) (hj : IsBoundary text j) (hstart : start ≤ i) (hstop : j ≤ stop) :
    (Node.sliceText (encode text) i j).toList <:+:
      (Node.sliceText (encode text) start stop).toList := by
  rw [Node.sliceText, Node.sliceText, String.toList_ofList, String.toList_ofList]
  by_cases hij : i < j
  · obtain ⟨before, part, after, rfl, rfl, hpart⟩ := exists_part_of_isBoundary hi hj hij
    obtain rfl : (encode before).length + (encode part).length = j := by omega
    have hne : part ≠ [] := by
      rintro rfl
      rw [encode, encode, List.flatMap_nil, List.length_nil] at hij
      omega
    rw [take_drop_encode before part after hstart hstop,
      take_drop_encode before part after (Nat.le_refl _) (Nat.le_refl _), List.drop_length,
      Nat.sub_self, List.take_zero, List.nil_append, List.append_nil, decodeLossy_encode,
      decodeLossy_encode_between _ hne]
    exact ⟨_, _, List.append_assoc ..⟩
  · -- nothing stands between the bounds
    have hempty : j - i = 0 := by omega
    rw [hempty, List.take_zero, decodeLossy]
    exact List.nil_infix

end Utf8

end LlmAudit
