import LlmAudit.Proofs.Json.Number
import LlmAudit.Proofs.Json.Text
import LlmAudit.Proofs.Text.Loose

/-!
# JSON in printable ASCII

In the ASCII alphabet, the text of a value consists of printable ASCII characters and line feeds
(`plain_asciiText`), whatever the value holds, and these are all of it (`map_asciiText`).
-/

namespace LlmAudit.Json

/-- A printable ASCII character or a line feed. -/
def IsPlain (c : Char) : Prop := c = '\n' ∨ (0x20 ≤ c.toNat ∧ c.toNat ≤ 0x7E)

instance (c : Char) : Decidable (IsPlain c) := inferInstanceAs (Decidable (_ ∨ _))

/-- A text of printable ASCII characters and line feeds. -/
def Plain (s : List Char) : Prop := ∀ c ∈ s, IsPlain c

instance (s : List Char) : Decidable (Plain s) :=
  decidable_of_iff (s.all (fun c => decide (IsPlain c)) = true) (by simp [Plain])

@[simp] theorem plain_nil : Plain [] := fun _ hc => nomatch hc

@[simp] theorem plain_cons {c : Char} {s : List Char} : Plain (c :: s) ↔ IsPlain c ∧ Plain s :=
  List.forall_mem_cons

@[simp] theorem plain_append {s t : List Char} : Plain (s ++ t) ↔ Plain s ∧ Plain t :=
  List.forall_mem_append

theorem Plain.carriage_notMem {s : List Char} (h : Plain s) : '\r' ∉ s := by
  intro hmem
  exact absurd (h '\r' hmem) (by decide)

/-! ### Numbers -/

theorem AllDigits.plain {ds : List Char} (h : AllDigits ds) : Plain ds := by
  intro c hc
  have hdigit := h c hc
  obtain ⟨hlow, hhigh⟩ := Char.isDigit_iff_toNat.1 hdigit
  exact .inr ⟨le_trans (by decide) hlow, le_trans hhigh (by decide)⟩

theorem plain_renderExponent (e : Int) : Plain (Binary64.renderExponent e) := by
  obtain ⟨ds, hrender, hds, -⟩ := exists_renderExponent_eq e
  rw [hrender, plain_cons]
  refine ⟨?_, hds.plain⟩
  split <;> decide

theorem Decimal.plain_text (x : Decimal) : Plain x.text := by
  rw [text, plain_append, plain_append, tail]
  refine ⟨x.wholeDigits.all.plain, ?_, ?_⟩
  · split
    · exact plain_nil
    · exact plain_cons.2 ⟨by decide, x.fractionDigits.plain⟩
  · cases x.exponent with
    | none => exact plain_nil
    | some e => exact plain_cons.2 ⟨by decide, plain_renderExponent e⟩

theorem plain_writeFloat (x : Binary64) : Plain (writeFloat x) := by
  cases x with
  | nan => decide
  | number negative rank =>
    rw [writeFloat, Binary64.renderWith, String.toList_ofList]
    have hmagnitude : Plain (if rank.val < Binary64.infinityRank then
        Binary64.renderMagnitude rank.val else "Infinity".toList) := by
      split
      · rename_i hrank
        obtain ⟨x, htext, -⟩ := exists_renderMagnitude_eq hrank
        rw [htext]
        exact x.plain_text
      · decide
    cases negative with
    | false => exact hmagnitude
    | true => exact plain_cons.2 ⟨by decide, hmagnitude⟩

theorem plain_writeInt (n : Int) : Plain (writeInt n) := by
  have hdigits := (allDigits_decimalDigits n.natAbs).plain
  rw [writeInt, renderInt, String.toList_ofList]
  split
  · exact plain_cons.2 ⟨by decide, hdigits⟩
  · exact hdigits

/-! ### Texts -/

theorem isPlain_digitChar {n : Nat} (h : n < 16) : IsPlain (Nat.digitChar n) := by
  interval_cases n <;> decide

theorem plain_toDigits (n : Nat) : Plain (Nat.toDigits 16 n) := by
  induction n using Nat.strong_induction_on with
  | _ n ih =>
    rcases Nat.lt_or_ge n 16 with hlt | hge
    · rw [Nat.toDigits_of_lt_base hlt, plain_cons]
      exact ⟨isPlain_digitChar hlt, plain_nil⟩
    · rw [Nat.toDigits_of_base_le (by decide) hge, plain_append, plain_cons]
      exact ⟨ih (n / 16) (by omega), isPlain_digitChar (by omega), plain_nil⟩

theorem plain_escapeUnit (n : Nat) : Plain (escapeUnit n) := by
  have hzeros : Plain (List.replicate (4 - (Nat.toDigits 16 n).length) '0') :=
    (allDigits_replicate _).plain
  rw [escapeUnit, plain_cons, plain_cons, hexFour, plain_append]
  exact ⟨by decide, by decide, hzeros, plain_toDigits n⟩

theorem plain_writeChar (c : Char) : Plain (writeChar .ascii c) := by
  rcases writeChar_cases .ascii c with
    ⟨e, he, -, hwrite⟩ | ⟨-, hwrite⟩ | ⟨-, -, hlow, hhigh, hwrite⟩
  · have hplain : Plain shortEscapes := by decide
    rw [hwrite, plain_cons, plain_cons]
    exact ⟨by decide, hplain e he, plain_nil⟩
  · rw [hwrite, escapePoint]
    split
    · exact plain_escapeUnit c.toNat
    · exact plain_append.2 ⟨plain_escapeUnit _, plain_escapeUnit _⟩
  · rw [hwrite, plain_cons]
    exact ⟨.inr ⟨hlow, hhigh rfl⟩, plain_nil⟩

/-- Code points that are printable ASCII characters and line feeds. -/
def PlainPoints (s : List Point) : Prop := ∃ cs, Plain cs ∧ s = cs.map .char

theorem Plain.points {cs : List Char} (h : Plain cs) : PlainPoints (cs.map .char) :=
  ⟨cs, h, rfl⟩

theorem plainPoints_nil : PlainPoints [] := plain_nil.points

theorem PlainPoints.append {s t : List Point} (hs : PlainPoints s) (ht : PlainPoints t) :
    PlainPoints (s ++ t) := by
  obtain ⟨cs, hcs, rfl⟩ := hs
  obtain ⟨ds, hds, rfl⟩ := ht
  exact ⟨cs ++ ds, plain_append.2 ⟨hcs, hds⟩, List.map_append.symm⟩

theorem PlainPoints.cons {c : Char} (hc : IsPlain c) {s : List Point} (hs : PlainPoints s) :
    PlainPoints (.char c :: s) :=
  (plain_cons.2 ⟨hc, plain_nil⟩).points.append hs

theorem plainPoints_writePoint (p : Point) : PlainPoints (writePoint .ascii p) := by
  cases p with
  | char c => exact (plain_writeChar c).points
  | half k => exact (plain_escapeUnit _).points

theorem plainPoints_writeText (t : LooseText) : PlainPoints (writeText .ascii t) := by
  have hpoints : PlainPoints (t.points.flatMap (writePoint .ascii)) := by
    induction t.points with
    | nil => exact plainPoints_nil
    | cons p points ih => exact (plainPoints_writePoint p).append ih
  exact .cons (by decide) (hpoints.append (.cons (by decide) plainPoints_nil))

/-! ### Values -/

theorem plainPoints_newLine (n : Nat) : PlainPoints (newLine n) := by
  have hspaces : Plain (List.replicate (2 * n) ' ') := by
    intro c hc
    rw [List.eq_of_mem_replicate hc]
    decide
  have hpoints := hspaces.points
  rw [List.map_replicate] at hpoints
  exact .cons (by decide) hpoints

-- The cases are those of the three writers, which call each other.
mutual

/-- The text of every value is printable ASCII with line feeds. -/
theorem plainPoints_write (indent : Nat) : ∀ j : Json, PlainPoints (write .ascii indent j)
  | .null => Plain.points (show Plain "null".toList by decide)
  | .bool true => Plain.points (show Plain "true".toList by decide)
  | .bool false => Plain.points (show Plain "false".toList by decide)
  | .int n => (plain_writeInt n).points
  | .float x => (plain_writeFloat x).points
  | .str t => plainPoints_writeText t
  | .list [] => Plain.points (show Plain ['[', ']'] by decide)
  | .list (j :: rest) => by
    have hj := plainPoints_write (indent + 1) j
    have hrest := plainPoints_writeItems (indent + 1) rest
    have hclose : PlainPoints [.char ']'] := .cons (by decide) plainPoints_nil
    rw [write]
    exact .cons (by decide) (((((plainPoints_newLine _).append hj).append hrest).append
      (plainPoints_newLine _)).append hclose)
  | .object [] => Plain.points (show Plain ['\x7b', '\x7d'] by decide)
  | .object ((name, j) :: rest) => by
    have hj := plainPoints_write (indent + 1) j
    have hrest := plainPoints_writeFields (indent + 1) rest
    have hcolon : PlainPoints [.char ':', .char ' '] :=
      Plain.points (show Plain [':', ' '] by decide)
    have hclose : PlainPoints [.char '\x7d'] := .cons (by decide) plainPoints_nil
    rw [write]
    exact .cons (by decide) (((((((plainPoints_newLine _).append (plainPoints_writeText name)).append
      hcolon).append hj).append hrest).append (plainPoints_newLine _)).append hclose)

theorem plainPoints_writeItems (indent : Nat) :
    ∀ items : List Json, PlainPoints (writeItems .ascii indent items)
  | [] => plainPoints_nil
  | j :: rest => by
    have hj := plainPoints_write indent j
    have hrest := plainPoints_writeItems indent rest
    rw [writeItems]
    exact .cons (by decide) (((plainPoints_newLine _).append hj).append hrest)

theorem plainPoints_writeFields (indent : Nat) :
    ∀ fields : List (LooseText × Json), PlainPoints (writeFields .ascii indent fields)
  | [] => plainPoints_nil
  | (name, j) :: rest => by
    have hj := plainPoints_write indent j
    have hrest := plainPoints_writeFields indent rest
    have hcolon : PlainPoints [.char ':', .char ' '] :=
      Plain.points (show Plain [':', ' '] by decide)
    rw [writeFields]
    exact .cons (by decide) (((((plainPoints_newLine _).append (plainPoints_writeText name)).append
      hcolon).append hj).append hrest)

end

theorem plain_asciiText (j : Json) : Plain j.asciiText := by
  obtain ⟨cs, hcs, hwrite⟩ := plainPoints_write 0 j
  rw [asciiText, hwrite, filterMap_map_char]
  exact hcs

/-- Nothing is left out of the text in this alphabet. -/
theorem map_asciiText (j : Json) : j.asciiText.map .char = write .ascii 0 j := by
  obtain ⟨cs, -, hwrite⟩ := plainPoints_write 0 j
  rw [asciiText, hwrite, filterMap_map_char]

end LlmAudit.Json
