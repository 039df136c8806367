import LlmAudit.Proofs.Json.Reading
import LlmAudit.Proofs.Json.Text
import Mathlib.Data.List.Chain
import Mathlib.Data.List.Nodup

/-!
# JSON values read back

The text that is written for a value is a text of the grammar for it (`WellFormed.writes`), in both
alphabets and with every margin. A value within the limits is therefore read as it was written
(`WellFormed.parse_write`), and nothing here looks into the reader.

## Main definitions

* `Json.Alphabet.Keeps` — a text is told by what is written for it. In one alphabet every text is;
  in the other one two halves in a row that are a pair would be read as one character.
* `Json.WellFormed` — all texts of a value are told by what is written, and no two fields of an
  object have the same name.
-/

namespace LlmAudit.Json

/-! ### Quoted texts -/

theorem isPair_iff {high low : Nat} : isPair high low = true ↔
    0xD800 ≤ high ∧ high < 0xDC00 ∧ 0xDC00 ≤ low ∧ low < 0xE000 :=
  decide_eq_true_iff

theorem spells_escapeUnit {n : Nat} (h : n < 0x10000) :
    Spells ((escapeUnit n).map .char) (.unit n) := by
  have hspells := Spells.unit (hexDigit?_digitChar (n := n / 16 / 16 / 16) (by omega))
    (hexDigit?_digitChar (n := n / 16 / 16 % 16) (by omega))
    (hexDigit?_digitChar (n := n / 16 % 16) (by omega))
    (hexDigit?_digitChar (n := n % 16) (by omega))
  have hvalue :
      ((n / 16 / 16 / 16 * 16 + n / 16 / 16 % 16) * 16 + n / 16 % 16) * 16 + n % 16 = n := by omega
  rw [hvalue] at hspells
  rw [escapeUnit, hexFour_eq h]
  exact hspells

/-- What is spelled for a code point: the point, its unit, or its pair of units. -/
inductive Alphabet.PiecesOf (a : Alphabet) (p : Point) : List Piece → Prop where
  /-- It stands there as it is, or by a short escape. -/
  | point : PiecesOf a p [.point p]
  /-- It is escaped, which all of them are in one alphabet but only controls in the other. -/
  | unit : a = .ascii ∨ p.toNat < 0x20 → PiecesOf a p [.unit p.toNat]
  /-- It is escaped by two units. -/
  | pair {high low : Nat} : isPair high low = true → joined high low = p →
      PiecesOf a p [.unit high, .unit low]

theorem Spells.quoted {s : List Point} {piece : Piece} (h : Spells s piece) : Quoted s [piece] := by
  simpa using Quoted.cons h .nil

theorem exists_quoted_escapePoint {a : Alphabet} {c : Char} (h : a = .ascii ∨ c.toNat < 0x20) :
    ∃ pieces, Quoted ((escapePoint c.toNat).map .char) pieces ∧ a.PiecesOf (.char c) pieces := by
  have hvalid : c.toNat < 0xD800 ∨ 0xDFFF < c.toNat ∧ c.toNat < 0x110000 := c.valid
  rw [escapePoint]
  split
  · rename_i hsmall
    exact ⟨_, (spells_escapeUnit hsmall).quoted, .unit h⟩
  · rename_i hlarge
    have hquoted := Quoted.cons
      (spells_escapeUnit (n := 0xD800 + (c.toNat - 0x10000) / 0x400) (by omega))
      (spells_escapeUnit (n := 0xDC00 + (c.toNat - 0x10000) % 0x400) (by omega)).quoted
    rw [List.map_append]
    have hjoin : 0x10000 + (0xD800 + (c.toNat - 0x10000) / 0x400 - 0xD800) * 0x400 +
        (0xDC00 + (c.toNat - 0x10000) % 0x400 - 0xDC00) = c.toNat := by omega
    refine ⟨_, hquoted, .pair (isPair_iff.2 (by omega)) ?_⟩
    rw [joined, hjoin]
    exact Point.ofNat_toNat (.char c)

theorem exists_quoted_writePoint (a : Alphabet) (p : Point) :
    ∃ pieces, Quoted (writePoint a p) pieces ∧ a.PiecesOf p pieces := by
  cases p with
  | char c =>
    rw [writePoint]
    rcases writeChar_cases a c with
      ⟨e, -, hc, hwrite⟩ | ⟨hescaped, hwrite⟩ | ⟨hquote, hback, hlow, -, hwrite⟩
    · rw [hwrite]
      exact ⟨_, (Spells.short hc).quoted, .point⟩
    · rw [hwrite]
      exact exists_quoted_escapePoint hescaped
    · rw [hwrite]
      exact ⟨_, (Spells.plain (fun h => hquote (Point.char.inj h))
        (fun h => hback (Point.char.inj h)) hlow).quoted, .point⟩
  | half k =>
    have hlow : 0xD800 ≤ (Point.half k).toNat := Nat.le_add_right _ _
    have hhigh : (Point.half k).toNat < 0xE000 := by
      have := k.isLt
      simp only [Point.toNat, Point.firstHalf]
      omega
    rw [writePoint]
    split
    · rename_i ha
      exact ⟨_, (spells_escapeUnit (by omega)).quoted, .unit (.inl ha)⟩
    · exact ⟨_, (Spells.plain (p := .half k) (by simp) (by simp) (by omega)).quoted, .point⟩

theorem Quoted.append {s t : List Point} {pieces more : List Piece} (hs : Quoted s pieces)
    (ht : Quoted t more) : Quoted (s ++ t) (pieces ++ more) := by
  induction hs with
  | nil => exact ht
  | cons hp _ ih =>
    rw [List.append_assoc]
    exact .cons hp ih

/-- A text is told by what is written for it: two halves in a row that are escaped are no pair, or
they would be read as one character. -/
def Alphabet.Keeps (a : Alphabet) (t : LooseText) : Prop :=
  a = .ascii → t.points.IsChain fun p q => isPair p.toNat q.toNat = false

theorem keeps_unicode (t : LooseText) : Alphabet.unicode.Keeps t := nofun

theorem not_isPair_char (c : Char) (n : Nat) : isPair c.toNat n = false := by
  have hvalid : c.toNat < 0xD800 ∨ 0xDFFF < c.toNat ∧ c.toNat < 0x110000 := c.valid
  rw [← Bool.not_eq_true, isPair_iff]
  omega

/-- Strings are told in both alphabets. -/
theorem keeps_ofString (a : Alphabet) (s : String) : a.Keeps (.ofString s) := by
  intro _
  rw [LooseText.points_ofString, List.isChain_map]
  induction s.toList with
  | nil => exact .nil
  | cons c cs ih => exact List.isChain_cons.2 ⟨fun d _ => not_isPair_char c d.toNat, ih⟩

/-- What is written for some code points is spelled as pieces that are joined to them again. -/
theorem exists_quoted_flatMap_writePoint {a : Alphabet} {t : LooseText} (h : a.Keeps t) :
    ∃ pieces, Quoted (t.points.flatMap (writePoint a)) pieces ∧ spelled pieces = t := by
  -- a second half at the front of the units is a second half at the front of the points, since the
  -- pair of a character starts with a first half
  suffices hpoints : ∃ pieces, Quoted (t.points.flatMap (writePoint a)) pieces ∧
      joinPairs pieces = t.points ∧ ∀ low, pieces.head? = some (.unit low) → 0xDC00 ≤ low →
        low < 0xE000 → ∃ p, t.points.head? = some p ∧ p.toNat = low by
    obtain ⟨pieces, hquoted, hjoin, -⟩ := hpoints
    exact ⟨pieces, hquoted, LooseText.ext hjoin⟩
  rw [Alphabet.Keeps] at h
  generalize t.points = points at h ⊢
  induction points with
  | nil => exact ⟨[], .nil, rfl, by simp⟩
  | cons p points ih =>
    obtain ⟨more, hmore, hpoints, hhead⟩ := ih fun ha => (h ha).tail
    obtain ⟨pieces, hpieces, hof⟩ := exists_quoted_writePoint a p
    refine ⟨pieces ++ more, Quoted.append hpieces hmore, ?_⟩
    cases hof with
    | point =>
      rw [List.singleton_append, joinPairs, hpoints]
      exact ⟨rfl, by simp⟩
    | unit hunit =>
      have hapart : ∀ low, more.head? = some (.unit low) → isPair p.toNat low = false := by
        intro low hlow
        by_contra hpair
        rw [Bool.not_eq_false] at hpair
        obtain ⟨hhigh, -, hlow', hlow''⟩ := isPair_iff.1 hpair
        obtain ⟨q, hq, rfl⟩ := hhead low hlow hlow' hlow''
        rcases hunit with ha | hcontrol
        · have hnot := (List.isChain_cons.1 (h ha)).1 q hq
          rw [hnot] at hpair
          cases hpair
        · omega
      rw [List.singleton_append, joinPairs_unit hapart, hpoints, Point.ofNat_toNat]
      refine ⟨rfl, ?_⟩
      rintro low ⟨⟩ - -
      exact ⟨p, rfl, rfl⟩
    | @pair high low hpair hp =>
      rw [List.cons_append, List.singleton_append, joinPairs, if_pos hpair, hpoints, hp]
      refine ⟨rfl, ?_⟩
      rintro l ⟨⟩ hlow -
      have hhigh := (isPair_iff.1 hpair).2.1
      omega

/-! ### Numbers -/

theorem scalar_writeInt (n : Int) : Scalar (writeInt n) (.int n) := by
  have hnumber : ∀ negative, Scalar (sign negative ++ (decimalDigits n.natAbs ++ ([] ++ [])))
      (numberOf negative (decimalDigits n.natAbs) none none) := fun _ =>
    .number (wholeDigits_decimalDigits n.natAbs) .absent .absent
  simp only [List.append_nil, numberOf, digitsValue_decimalDigits] at hnumber
  rw [writeInt, renderInt, String.toList_ofList]
  split
  · rename_i hneg
    have hscalar := hnumber true
    rw [if_pos rfl, show -(n.natAbs : Int) = n by omega] at hscalar
    exact hscalar
  · rename_i hneg
    have hscalar := hnumber false
    rw [if_neg (by decide), show (n.natAbs : Int) = n by omega] at hscalar
    exact hscalar

theorem exponent_renderExponent (e : Int) :
    Exponent (some e) ('e' :: Binary64.renderExponent e) := by
  obtain ⟨ds, hrender, hall, hne, hvalue⟩ := exists_renderExponent_eq e
  rw [hrender]
  by_cases hneg : e < 0
  · have hexponent := Exponent.minus (.inl rfl : 'e' = 'e' ∨ 'e' = 'E') hall hne
    rw [hvalue, show -(e.natAbs : Int) = e by omega] at hexponent
    rw [if_pos (decide_eq_true hneg)]
    exact hexponent
  · have hexponent := Exponent.plus (.inl rfl : 'e' = 'e' ∨ 'e' = 'E') hall hne
    rw [hvalue, show (e.natAbs : Int) = e by omega] at hexponent
    rw [if_neg (by simpa using hneg)]
    exact hexponent

theorem Decimal.exponent_tail (x : Decimal) : Exponent x.exponent x.tail := by
  rw [Decimal.tail]
  cases x.exponent with
  | none => exact .absent
  | some e => exact exponent_renderExponent e

/-- The text of a decimal, with its sign, is that of the nearest number. -/
theorem Decimal.scalar_text (x : Decimal) (negative : Bool) :
    Scalar (sign negative ++ x.text) (.float (.ofDecimal negative x.digits x.power)) := by
  rw [Decimal.text, Decimal.digits, Decimal.power]
  by_cases hfraction : x.fraction = []
  · have hscalar : Scalar (sign negative ++ (x.whole ++ ([] ++ x.tail)))
        (numberOf negative x.whole none x.exponent) :=
      .number x.wholeDigits .absent x.exponent_tail
    obtain ⟨e, he⟩ : ∃ e, x.exponent = some e :=
      Option.ne_none_iff_exists'.1 (x.isFloat.resolve_left (not_not_intro hfraction))
    rw [if_pos hfraction, hfraction]
    rw [he] at hscalar ⊢
    exact hscalar
  · have hscalar : Scalar (sign negative ++ (x.whole ++ ('.' :: x.fraction ++ x.tail)))
        (numberOf negative x.whole (some x.fraction) x.exponent) :=
      .number x.wholeDigits (.present x.fractionDigits hfraction) x.exponent_tail
    rw [if_neg hfraction]
    exact hscalar

theorem scalar_writeFloat (x : Binary64) : Scalar (writeFloat x) (.float x) := by
  cases x with
  | nan => exact .nan
  | number negative rank =>
    rw [writeFloat, Binary64.renderWith, String.toList_ofList]
    by_cases hrank : rank.val < Binary64.infinityRank
    · have hofRank : Binary64.ofRank negative rank.val = .number negative rank := by
        rw [Binary64.ofRank]
        congr
        exact Nat.min_eq_left hrank.le
      obtain ⟨x, hmagnitude, hvalue⟩ := exists_renderMagnitude_eq hrank
      have hscalar := x.scalar_text negative
      rw [hvalue, hofRank] at hscalar
      rw [if_pos hrank, hmagnitude]
      cases negative <;> exact hscalar
    · have hinfinity : .number negative rank = Binary64.infinity negative := by
        have hlast : rank.val = Binary64.infinityRank := by omega
        rw [Binary64.infinity, Binary64.ofRank]
        congr
        exact Fin.ext (hlast.trans (Nat.min_self _).symm)
      rw [if_neg hrank, hinfinity]
      cases negative
      · exact .infinity
      · exact .minusInfinity

/-! ### Lists and objects -/

theorem spaces_nil : Spaces [] := fun _ hp => nomatch hp

theorem spaces_newLine (n : Nat) : Spaces (newLine n) := by
  intro p hp
  rcases List.mem_cons.1 hp with rfl | hp
  · rfl
  · rw [List.eq_of_mem_replicate hp]
    rfl

/-- The lines of a list are items of the grammar. -/
theorem exists_items {a : Alphabet} {indent : Nat} {j : Json} {items : List Json}
    (h : ∀ i ∈ j :: items, Writes (write a indent i) i) (outer : Nat) :
    ∃ front last, (∀ i ∈ front ++ [last], i.Padded) ∧
      (∀ i ∈ front ++ [last], Writes i.text i.value) ∧
      (front ++ [last]).map Item.value = j :: items ∧
      newLine indent ++ write a indent j ++ writeItems a indent items ++ newLine outer =
        listed front ++ last.written := by
  induction items generalizing j with
  | nil =>
    refine ⟨[], ⟨newLine indent, write a indent j, newLine outer, j⟩, ?_, ?_, rfl, ?_⟩
    · exact List.forall_mem_singleton.2 ⟨spaces_newLine indent, spaces_newLine outer⟩
    · exact List.forall_mem_singleton.2 (h j List.mem_cons_self)
    · simp [writeItems, listed, Item.written]
  | cons i items ih =>
    obtain ⟨front, last, hpadded, hwrites, hvalues, htext⟩ :=
      ih fun x hx => h x (List.mem_cons_of_mem j hx)
    refine ⟨⟨newLine indent, write a indent j, [], j⟩ :: front, last, ?_, ?_, ?_, ?_⟩
    · exact List.forall_mem_cons.2 ⟨⟨spaces_newLine indent, spaces_nil⟩, hpadded⟩
    · exact List.forall_mem_cons.2 ⟨h j List.mem_cons_self, hwrites⟩
    · rw [List.cons_append, List.map_cons, hvalues]
    · have hlisted : listed (⟨newLine indent, write a indent j, [], j⟩ :: front) ++ last.written =
          newLine indent ++ write a indent j ++ .char ',' :: (listed front ++ last.written) := by
        simp [listed, Item.written]
      rw [hlisted, ← htext, writeItems]
      simp

/-- The lines of an object are fields of the grammar. -/
theorem exists_members {a : Alphabet} {indent : Nat} {name : LooseText} {j : Json}
    {fields : List (LooseText × Json)} (hkeeps : ∀ f ∈ (name, j) :: fields, a.Keeps f.1)
    (h : ∀ f ∈ (name, j) :: fields, Writes (write a indent f.2) f.2) (outer : Nat) :
    ∃ front last, (∀ m ∈ front ++ [last], m.Padded) ∧
      (∀ m ∈ front ++ [last], Writes m.item.text m.item.value) ∧
      (front ++ [last]).map Member.field = (name, j) :: fields ∧
      newLine indent ++ writeText a name ++ [.char ':', .char ' '] ++ write a indent j ++
          writeFields a indent fields ++ newLine outer =
        gathered front ++ last.written := by
  induction fields generalizing name j with
  | nil =>
    obtain ⟨pieces, hquoted, hname⟩ :=
      exists_quoted_flatMap_writePoint (hkeeps (name, j) List.mem_cons_self)
    refine ⟨[], ⟨newLine indent, name.points.flatMap (writePoint a), pieces, [],
      ⟨[.char ' '], write a indent j, newLine outer, j⟩⟩, ?_, ?_, ?_, ?_⟩
    · exact List.forall_mem_singleton.2 ⟨spaces_newLine indent, hquoted, spaces_nil,
        List.forall_mem_singleton.2 rfl, spaces_newLine outer⟩
    · exact List.forall_mem_singleton.2 (h (name, j) List.mem_cons_self)
    · simp [Member.field, hname]
    · simp [writeFields, writeText, gathered, Member.written, Item.written]
  | cons f fields ih =>
    obtain ⟨name', j'⟩ := f
    obtain ⟨front, last, hpadded, hwrites, hfields, htext⟩ :=
      ih (fun x hx => hkeeps x (List.mem_cons_of_mem (name, j) hx))
        fun x hx => h x (List.mem_cons_of_mem (name, j) hx)
    obtain ⟨pieces, hquoted, hname⟩ :=
      exists_quoted_flatMap_writePoint (hkeeps (name, j) List.mem_cons_self)
    refine ⟨⟨newLine indent, name.points.flatMap (writePoint a), pieces, [],
      ⟨[.char ' '], write a indent j, [], j⟩⟩ :: front, last, ?_, ?_, ?_, ?_⟩
    · exact List.forall_mem_cons.2 ⟨⟨spaces_newLine indent, hquoted, spaces_nil,
        List.forall_mem_singleton.2 rfl, spaces_nil⟩, hpadded⟩
    · exact List.forall_mem_cons.2 ⟨h (name, j) List.mem_cons_self, hwrites⟩
    · rw [List.cons_append, List.map_cons, hfields, Member.field, hname]
    · have hgathered : gathered (⟨newLine indent, name.points.flatMap (writePoint a), pieces, [],
          ⟨[.char ' '], write a indent j, [], j⟩⟩ :: front) ++ last.written =
          newLine indent ++ writeText a name ++ [.char ':', .char ' '] ++ write a indent j ++
            .char ',' :: (gathered front ++ last.written) := by
        simp [gathered, Member.written, Item.written, writeText]
      rw [hgathered, ← htext, writeFields]
      simp

/-! ### Values -/

/-- A value that is told by what is written for it. -/
inductive WellFormed (a : Alphabet) : Json → Prop where
  /-- `null`. -/
  | null : WellFormed a .null
  /-- `true` and `false`. -/
  | bool (b : Bool) : WellFormed a (.bool b)
  /-- A whole number. -/
  | int (n : Int) : WellFormed a (.int n)
  /-- A number with a fraction or an exponent. -/
  | float (x : Binary64) : WellFormed a (.float x)
  /-- A text. -/
  | str {t : LooseText} (ht : a.Keeps t) : WellFormed a (.str t)
  /-- A list of such values. -/
  | list {items : List Json} (hitems : ∀ j ∈ items, WellFormed a j) : WellFormed a (.list items)
  /-- An object with fields of different names. -/
  | object {fields : List (LooseText × Json)} (hnames : (fields.map Prod.fst).Nodup)
    (hkeeps : ∀ f ∈ fields, a.Keeps f.1) (hfields : ∀ f ∈ fields, WellFormed a f.2) :
    WellFormed a (.object fields)

/-- An object whose names are different strings. -/
theorem WellFormed.named {a : Alphabet} {fields : List (LooseText × Json)} (names : List String)
    (hfields : fields.map Prod.fst = names.map .ofString) (hnames : names.Nodup)
    (hvalues : ∀ f ∈ fields, WellFormed a f.2) : WellFormed a (.object fields) := by
  refine .object ?_ (fun f hf => ?_) hvalues
  · rw [hfields]
    exact (List.nodup_map_iff LooseText.ofString_injective).2 hnames
  · have hname : f.1 ∈ names.map .ofString := hfields ▸ List.mem_map_of_mem hf
    obtain ⟨name, -, hname⟩ := List.mem_map.1 hname
    rw [← hname]
    exact keeps_ofString a name

/-- The text of a value is a text of the grammar for it. -/
theorem WellFormed.writes {a : Alphabet} {j : Json} (h : WellFormed a j) (indent : Nat) :
    Writes (write a indent j) j := by
  induction h generalizing indent with
  | null => exact .scalar .null
  | bool b =>
    cases b
    · exact .scalar .no
    · exact .scalar .yes
  | int n => exact .scalar (scalar_writeInt n)
  | float x => exact .scalar (scalar_writeFloat x)
  | str ht =>
    obtain ⟨pieces, hquoted, hspelled⟩ := exists_quoted_flatMap_writePoint ht
    have hwrites := Writes.text hquoted
    rw [hspelled] at hwrites
    exact hwrites
  | @list items _ ih =>
    cases items with
    | nil => exact .noItems spaces_nil
    | cons j items =>
      obtain ⟨front, last, hpadded, hwrites, hvalues, htext⟩ :=
        exists_items (fun i hi => ih i hi (indent + 1)) indent
      have hlist := Writes.items hpadded hwrites
      rw [hvalues, ← List.append_assoc, ← htext] at hlist
      rw [write]
      exact hlist
  | @object fields _ hkeeps _ ih =>
    cases fields with
    | nil => exact .noMembers spaces_nil
    | cons f fields =>
      obtain ⟨name, j⟩ := f
      obtain ⟨front, last, hpadded, hwrites, hfields, htext⟩ :=
        exists_members hkeeps (fun f hf => ih f hf (indent + 1)) indent
      have hobject := Writes.members hpadded hwrites
      rw [hfields, ← List.append_assoc, ← htext] at hobject
      rw [write]
      exact hobject

theorem putField_of_notMem {fields : List (LooseText × Json)} {name : LooseText}
    (h : name ∉ fields.map Prod.fst) (j : Json) :
    putField fields name j = fields ++ [(name, j)] := by
  induction fields with
  | nil => rfl
  | cons f fields ih =>
    rw [List.map_cons, List.mem_cons, not_or] at h
    rw [putField, if_neg (Ne.symm h.1), ih h.2, List.cons_append]

/-- Fields of new names are put behind those that are there. -/
theorem mergedFields_of_nodup {before fields : List (LooseText × Json)}
    (hnames : ((before ++ fields).map Prod.fst).Nodup)
    (hvalues : ∀ f ∈ fields, f.2.merged = f.2) :
    mergedFields before fields = before ++ fields := by
  induction fields generalizing before with
  | nil => rw [mergedFields, List.append_nil]
  | cons f fields ih =>
    obtain ⟨name, j⟩ := f
    have hname : name ∉ before.map Prod.fst := by
      rw [List.map_append, List.map_cons, List.nodup_append] at hnames
      intro hmem
      exact hnames.2.2 name hmem name List.mem_cons_self rfl
    have hj : j.merged = j := hvalues (name, j) List.mem_cons_self
    rw [List.append_cons] at hnames
    rw [mergedFields, hj, putField_of_notMem hname,
      ih hnames fun f hf => hvalues f (List.mem_cons_of_mem _ hf), ← List.append_cons]

/-- Nothing is to be merged in such a value. -/
theorem WellFormed.merged_eq {a : Alphabet} {j : Json} (h : WellFormed a j) : j.merged = j := by
  induction h with
  | null | bool | int | float | str => rfl
  | list _ ih => rw [merged, mergedItems_eq_map, List.map_congr_left ih, List.map_id']
  | @object fields hnames _ _ ih =>
    have hfields : mergedFields [] fields = [] ++ fields := mergedFields_of_nodup hnames ih
    rw [merged, hfields, List.nil_append]

/-! ### Limits -/

theorem limitItems?_eq_none_iff {bound depth : Nat} {items : List Json} :
    limitItems? bound depth items = none ↔ ∀ j ∈ items, limit? bound depth j = none := by
  induction items with
  | nil => simp [limitItems?]
  | cons j items ih => rw [limitItems?, Option.or_eq_none_iff, ih, List.forall_mem_cons]

theorem limitFields?_eq_none_iff {bound depth : Nat} {fields : List (LooseText × Json)} :
    limitFields? bound depth fields = none ↔ ∀ f ∈ fields, limit? bound depth f.2 = none := by
  induction fields with
  | nil => simp [limitFields?]
  | cons f fields ih =>
    obtain ⟨name, j⟩ := f
    rw [limitFields?, Option.or_eq_none_iff, ih, List.forall_mem_cons]

theorem limit?_list_eq_none_iff {bound depth : Nat} {items : List Json} :
    limit? bound depth (.list items) = none ↔
      depth < bound ∧ ∀ j ∈ items, limit? bound (depth + 1) j = none := by
  rw [limit?]
  split
  · rename_i hdeep
    exact iff_of_false (Option.some_ne_none _) fun h => absurd h.1 (Nat.not_lt.2 hdeep)
  · rename_i hdeep
    rw [limitItems?_eq_none_iff, and_iff_right (Nat.lt_of_not_le hdeep)]

theorem limit?_object_eq_none_iff {bound depth : Nat} {fields : List (LooseText × Json)} :
    limit? bound depth (.object fields) = none ↔
      depth < bound ∧ ∀ f ∈ fields, limit? bound (depth + 1) f.2 = none := by
  rw [limit?]
  split
  · rename_i hdeep
    exact iff_of_false (Option.some_ne_none _) fun h => absurd h.1 (Nat.not_lt.2 hdeep)
  · rename_i hdeep
    rw [limitFields?_eq_none_iff, and_iff_right (Nat.lt_of_not_le hdeep)]

theorem WellFormed.isText_write {a : Alphabet} {j : Json} (h : WellFormed a j) :
    IsText ⟨write a 0 j⟩ j :=
  ⟨[], _, [], j, spaces_nil, spaces_nil, h.writes 0, by simp, h.merged_eq.symm⟩

/-- The text of a value runs into the limit that the value has, and into no other one. -/
theorem WellFormed.textOverruns_write_iff {a : Alphabet} {j : Json} (h : WellFormed a j)
    {bound : Nat} {e : Limit} :
    TextOverruns bound ⟨write a 0 j⟩ e ↔ j.limit? bound 0 = some e := by
  have hparse : parse bound _ = _ := parse_of_writes spaces_nil (h.writes 0) spaces_nil
  rw [List.nil_append, List.append_nil] at hparse
  rw [← parse_eq_limit_iff, hparse]
  cases j.limit? bound 0 with
  | none => exact iff_of_false (by simp) (by simp)
  | some e' =>
    rw [Option.elim_some, Except.error.injEq, Option.some.injEq]
    exact ⟨Limit.parseError_injective, fun he => he ▸ rfl⟩

/-- The text of a value within the limits, with spaces after it, is read as the value. -/
theorem WellFormed.parse_write {a : Alphabet} {j : Json} (h : WellFormed a j) {bound : Nat}
    (hlimit : j.limit? bound 0 = none) {rest : List Point} (hrest : Spaces rest) :
    parse bound ⟨write a 0 j ++ rest⟩ = .ok j := by
  have hparse : parse bound _ = _ := parse_of_writes spaces_nil (h.writes 0) hrest
  rwa [hlimit, List.nil_append, Option.elim_none, h.merged_eq] at hparse

end LlmAudit.Json
