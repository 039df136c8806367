import LlmAudit.Proofs.Json.Grammar
import LlmAudit.Proofs.Text.Loose
import Mathlib.Data.Char
import Mathlib.Data.List.Induction
import Mathlib.Tactic.IntervalCases

/-!
# Reading quoted texts and numbers

The reader takes from the front of a text exactly what the grammar spells there. For a quoted text
this is so whatever follows its closing quote (`readText_of_quoted`, `quoted_of_readText`); for a
word or a number, as long as what follows does not go on with a number (`readBare_of_scalar`,
`readsAs_readBare`). A whole number with too many digits is refused with their number, also if what
follows is no JSON (`readBare_of_endsWhole`).
-/

namespace LlmAudit.Json

/-! ### Units and pairs -/

/-- A unit that is in no pair with a unit behind it stands for itself. -/
theorem joinPairs_unit {n : Nat} {pieces : List Piece}
    (h : ∀ low, pieces.head? = some (.unit low) → isPair n low = false) :
    joinPairs (.unit n :: pieces) = .ofNat n :: joinPairs pieces := by
  cases pieces with
  | nil => rfl
  | cons piece rest =>
    cases piece with
    | point p => rfl
    | unit low =>
      rw [joinPairs, h low rfl]
      rfl

theorem hexFour?_of_digits {a b c d : Char} {i j k l : Nat} (ha : hexDigit? a = some i)
    (hb : hexDigit? b = some j) (hc : hexDigit? c = some k) (hd : hexDigit? d = some l)
    (rest : List Point) :
    hexFour? (.char a :: .char b :: .char c :: .char d :: rest) =
      some (((i * 16 + j) * 16 + k) * 16 + l, rest) := by
  rw [hexFour?, ha, hb, hc, hd]
  rfl

/-- Four hexadecimal digits that are read are spelled. -/
theorem spells_of_hexFour? {s rest : List Point} {n : Nat} (h : hexFour? s = some (n, rest)) :
    ∃ p, s = p ++ rest ∧ Spells (.char '\\' :: .char 'u' :: p) (.unit n) := by
  unfold hexFour? at h
  split at h
  · rename_i a b c d r
    simp only [Option.bind_eq_bind, Option.bind_eq_some_iff, Option.some.injEq, Prod.mk.injEq] at h
    obtain ⟨i, hi, j, hj, k, hk, l, hl, rfl, rfl⟩ := h
    exact ⟨[.char a, .char b, .char c, .char d], rfl, .unit hi hj hk hl⟩
  · cases h

/-- A unit is spelled by its digits. -/
theorem Spells.exists_digits {p : List Point} {n : Nat} (h : Spells p (.unit n)) :
    ∃ q, p = .char '\\' :: .char 'u' :: q ∧ ∀ rest, hexFour? (q ++ rest) = some (n, rest) := by
  cases h with
  | unit ha hb hc hd => exact ⟨_, rfl, fun rest => hexFour?_of_digits ha hb hc hd rest⟩

/-- A unit is joined with a unit behind it if the two are a pair. -/
theorem joinUnits_of_isPair {p : List Point} {high low : Nat} (hp : Spells p (.unit low))
    (hpair : isPair high low = true) (rest : List Point) :
    joinUnits high (p ++ rest) = (joined high low, rest) := by
  obtain ⟨q, rfl, hq⟩ := hp.exists_digits
  rw [List.cons_append, List.cons_append, joinUnits, hq]
  dsimp only
  rw [if_pos hpair]

/-- What the reader does with a unit: it joins a pair, or leaves all that follows. -/
theorem joinUnits_cases (n : Nat) (s : List Point) :
    (∃ p low rest, s = p ++ rest ∧ Spells p (.unit low) ∧ isPair n low = true ∧
        joinUnits n s = (joined n low, rest)) ∨
      joinUnits n s = (.ofNat n, s) := by
  unfold joinUnits
  split
  · rename_i more
    split
    · rename_i low rest hlow
      split
      · rename_i hpair
        obtain ⟨p, rfl, hp⟩ := spells_of_hexFour? hlow
        exact .inl ⟨_, low, rest, rfl, hp, hpair, rfl⟩
      · exact .inr rfl
    · exact .inr rfl
  · exact .inr rfl

theorem Spells.one_le_length {p : List Point} {piece : Piece} (h : Spells p piece) :
    1 ≤ p.length := by
  cases h <;> exact Nat.succ_le_succ (Nat.zero_le _)

/-- The reader joins a unit with one behind it exactly if the two are a pair. -/
theorem not_isPair_of_joinUnits {p rest : List Point} {n low : Nat} {q : Point}
    (h : joinUnits n (p ++ rest) = (q, p ++ rest)) (hp : Spells p (.unit low)) :
    isPair n low = false := by
  by_contra hpair
  rw [Bool.not_eq_false] at hpair
  rw [joinUnits_of_isPair hp hpair, Prod.mk.injEq] at h
  have hlength := congrArg List.length h.2
  have hone := hp.one_le_length
  rw [List.length_append] at hlength
  omega

theorem joinUnits_of_not_isPair {n : Nat} {s : List Point} {pieces : List Piece}
    (hs : Quoted s pieces) (h : ∀ low, pieces.head? = some (.unit low) → isPair n low = false)
    (rest : List Point) :
    joinUnits n (s ++ .char '"' :: rest) = (.ofNat n, s ++ .char '"' :: rest) := by
  rcases joinUnits_cases n (s ++ .char '"' :: rest) with ⟨p, low, r, hsplit, hp, hpair, -⟩ | hrest
  · obtain ⟨q, rfl, hq⟩ := hp.exists_digits
    rw [List.cons_append, List.cons_append] at hsplit
    -- what stands at the front of the text is what the first piece of it spells
    cases hs with
    | nil =>
      rw [List.nil_append, List.cons.injEq] at hsplit
      exact absurd hsplit.1 (by decide)
    | @cons p' s' n' ns' hp' hs' =>
      cases hp' with
      | plain _ hback _ =>
        rw [List.append_assoc, List.singleton_append, List.cons.injEq] at hsplit
        exact absurd hsplit.1 hback
      | short he =>
        rw [List.append_assoc, List.cons_append, List.cons.injEq, List.cons_append,
          List.cons.injEq] at hsplit
        rw [Point.char.inj hsplit.2.1] at he
        cases he
      | unit ha hb hc hd =>
        rw [List.append_assoc, List.cons_append, List.cons.injEq, List.cons_append,
          List.cons.injEq] at hsplit
        have hfour := hexFour?_of_digits ha hb hc hd (s' ++ .char '"' :: rest)
        have hread := hq r
        rw [← hsplit.2.2] at hread
        have hsame := hfour.symm.trans hread
        rw [Option.some.injEq, Prod.mk.injEq] at hsame
        have hnot := h _ rfl
        rw [hsame.1, hpair] at hnot
        cases hnot
  · exact hrest

/-! ### Quoted texts -/

theorem readText_shortEscape {e c : Char} (he : e ≠ 'u') (hc : shortEscape? e = some c)
    (fuel : Nat) (points rest : List Point) :
    readText (fuel + 1) points (.char '\\' :: .char e :: rest) =
      readText fuel (.char c :: points) rest := by
  rw [readText, if_neg (by decide), if_pos rfl, hc]
  exact he

/-- One step of the reader takes a code point that is spelled at the front. -/
theorem readText_of_point {s : List Point} {p : Point} (hs : Spells s (.point p)) (fuel : Nat)
    (points rest : List Point) :
    readText (fuel + 1) points (s ++ rest) = readText fuel (p :: points) rest := by
  cases hs with
  | plain hquote hback hlow =>
    rw [List.singleton_append, readText.eq_def]
    dsimp only
    rw [if_neg hquote, if_neg hback, if_neg (Nat.not_lt.2 hlow)]
  | @short e c he =>
    have hu : e ≠ 'u' := by
      rintro rfl
      cases he
    exact readText_shortEscape hu he fuel points rest

/-- One step of the reader takes a unit that is spelled at the front, and the one behind it if the
two are a pair. -/
theorem readText_of_unit {s : List Point} {n : Nat} (hs : Spells s (.unit n))
    {rest rest' : List Point} {p : Point} (hjoin : joinUnits n rest = (p, rest')) (fuel : Nat)
    (points : List Point) :
    readText (fuel + 1) points (s ++ rest) = readText fuel (p :: points) rest' := by
  obtain ⟨q, rfl, hq⟩ := hs.exists_digits
  rw [List.cons_append, List.cons_append, readText, if_neg (by decide), if_pos rfl, hq]
  simp only [hjoin]

/-- What is spelled up to a closing quote is read. -/
theorem readText_of_quoted {s : List Point} {pieces : List Piece} (h : Quoted s pieces) {fuel : Nat}
    (hfuel : s.length < fuel) (points rest : List Point) :
    readText fuel points (s ++ .char '"' :: rest) =
      some (⟨points.reverse ++ joinPairs pieces⟩, rest) := by
  -- pairs are taken two at a time, so the induction is that of `joinPairs`
  induction pieces using joinPairs.induct generalizing s fuel points with
  | case1 =>
    cases h with
    | nil =>
      obtain ⟨k, rfl⟩ : ∃ k, fuel = k + 1 := ⟨fuel - 1, by simp at hfuel; omega⟩
      rw [List.nil_append, joinPairs, List.append_nil]
      rfl
  | case2 p pieces ih =>
    cases h with
    | @cons q t _ _ hq ht =>
      have hone := hq.one_le_length
      rw [List.length_append] at hfuel
      obtain ⟨k, rfl⟩ : ∃ k, fuel = k + 1 := ⟨fuel - 1, by omega⟩
      rw [List.append_assoc, readText_of_point hq, ih ht (by omega), joinPairs]
      simp
  | case3 high low pieces hpair ih =>
    cases h with
    | @cons p _ _ _ hp hq =>
      cases hq with
      | @cons q t _ _ hq ht =>
        have hone := hp.one_le_length
        rw [List.length_append, List.length_append] at hfuel
        obtain ⟨k, rfl⟩ : ∃ k, fuel = k + 1 := ⟨fuel - 1, by omega⟩
        rw [List.append_assoc, List.append_assoc,
          readText_of_unit hp (joinUnits_of_isPair hq hpair _), ih ht (by omega), joinPairs,
          if_pos hpair]
        simp
  | case4 high low pieces hpair ih =>
    cases h with
    | @cons p t _ _ hp ht =>
      have hone := hp.one_le_length
      have hnot : ∀ l, (Piece.unit low :: pieces).head? = some (.unit l) →
          isPair high l = false := by
        rintro l ⟨⟩
        simpa using hpair
      rw [List.length_append] at hfuel
      obtain ⟨k, rfl⟩ : ∃ k, fuel = k + 1 := ⟨fuel - 1, by omega⟩
      rw [List.append_assoc, readText_of_unit hp (joinUnits_of_not_isPair ht hnot rest),
        ih ht (by omega), joinPairs_unit hnot]
      simp
  | case5 n pieces hlast ih =>
    cases h with
    | @cons p t _ _ hp ht =>
      have hone := hp.one_le_length
      have hnot : ∀ l, pieces.head? = some (.unit l) → isPair n l = false := by
        intro l hl
        cases pieces with
        | nil => cases hl
        | cons piece pieces =>
          rw [List.head?_cons, Option.some.injEq] at hl
          exact absurd (by rw [hl]) (hlast l pieces)
      rw [List.length_append] at hfuel
      obtain ⟨k, rfl⟩ : ∃ k, fuel = k + 1 := ⟨fuel - 1, by omega⟩
      rw [List.append_assoc, readText_of_unit hp (joinUnits_of_not_isPair ht hnot rest),
        ih ht (by omega), joinPairs_unit hnot]
      simp

/-- What one step of the reader can take: the closing quote, a code point, or a unit with what it is
joined to. -/
theorem readText_succ_cases {fuel : Nat} {points s rest : List Point} {t : LooseText}
    (h : readText (fuel + 1) points s = some (t, rest)) :
    s = .char '"' :: rest ∧ t = ⟨points.reverse⟩ ∨
      (∃ p q s', s = p ++ s' ∧ Spells p (.point q) ∧
        readText fuel (q :: points) s' = some (t, rest)) ∨
      ∃ p n s', s = p ++ s' ∧ Spells p (.unit n) ∧
        readText fuel ((joinUnits n s').1 :: points) (joinUnits n s').2 = some (t, rest) := by
  cases s with
  | nil => cases h
  | cons c s =>
    rw [readText.eq_def] at h
    dsimp only at h
    by_cases hquote : c = .char '"'
    · rw [if_pos hquote, Option.some.injEq, Prod.mk.injEq] at h
      exact .inl ⟨by rw [hquote, h.2], h.1.symm⟩
    rw [if_neg hquote] at h
    by_cases hback : c = .char '\\'
    · rw [if_pos hback] at h
      subst hback
      split at h
      · rename_i more
        split at h
        · rename_i unit s' hunit
          obtain ⟨p, rfl, hp⟩ := spells_of_hexFour? hunit
          exact .inr (.inr ⟨_, unit, s', rfl, hp, h⟩)
        · cases h
      · rename_i e more _
        split at h
        · rename_i c hc
          exact .inr (.inl ⟨_, _, more, rfl, .short hc, h⟩)
        · cases h
      · cases h
    rw [if_neg hback] at h
    by_cases hlow : c.toNat < 0x20
    · rw [if_pos hlow] at h
      cases h
    · rw [if_neg hlow] at h
      exact .inr (.inl ⟨_, _, s, rfl, .plain hquote hback (Nat.not_lt.1 hlow), h⟩)

/-- What is read up to a closing quote is spelled. -/
theorem quoted_of_readText {fuel : Nat} {points s rest : List Point} {t : LooseText}
    (h : readText fuel points s = some (t, rest)) :
    ∃ q pieces, s = q ++ .char '"' :: rest ∧ Quoted q pieces ∧
      t = ⟨points.reverse ++ joinPairs pieces⟩ := by
  induction fuel generalizing points s with
  | zero => cases h
  | succ fuel ih =>
    rcases readText_succ_cases h with
      ⟨rfl, rfl⟩ | ⟨p, c, s', rfl, hp, hread⟩ | ⟨p, n, s', rfl, hp, hread⟩
    · exact ⟨[], [], rfl, .nil, by simp [joinPairs]⟩
    · obtain ⟨q, pieces, rfl, hq, rfl⟩ := ih hread
      exact ⟨p ++ q, .point c :: pieces, by rw [List.append_assoc], .cons hp hq,
        by simp [joinPairs]⟩
    rcases joinUnits_cases n s' with ⟨q, low, s'', rfl, hq, hpair, hjoin⟩ | hjoin
    · rw [hjoin] at hread
      obtain ⟨r, pieces, rfl, hr, rfl⟩ := ih hread
      refine ⟨p ++ (q ++ r), .unit n :: .unit low :: pieces, by simp, .cons hp (.cons hq hr), ?_⟩
      rw [joinPairs, if_pos hpair]
      simp
    · rw [hjoin] at hread
      obtain ⟨q, pieces, rfl, hq, rfl⟩ := ih hread
      have hnot : ∀ low, pieces.head? = some (.unit low) → isPair n low = false := by
        intro low hlow
        cases hq with
        | nil => cases hlow
        | @cons p' q' n' ns' hp' hq' =>
          obtain rfl : n' = .unit low := Option.some.inj hlow
          rw [List.append_assoc] at hjoin
          exact not_isPair_of_joinUnits hjoin hp'
      refine ⟨p ++ q, .unit n :: pieces, by rw [List.append_assoc], .cons hp hq, ?_⟩
      rw [joinPairs_unit hnot]
      simp

/-! ### Digits -/

theorem decimalDigits_digit {c : Char} (hc : c.isDigit = true) :
    decimalDigits (c.toNat - '0'.toNat) = [c] := by
  have hrange : 48 ≤ c.toNat ∧ c.toNat ≤ 57 := Char.isDigit_iff_toNat.1 hc
  obtain ⟨d, hd⟩ : ∃ d, c.toNat = 48 + d := ⟨c.toNat - 48, by omega⟩
  have hlt : d < 10 := by omega
  have hchar : c = Char.ofNat (48 + d) := by rw [← hd, Char.ofNat_toNat]
  rw [hd, hchar, show '0'.toNat = 48 from rfl, Nat.add_sub_cancel_left, decimalDigits]
  interval_cases d <;> rfl

theorem LeadDigits.digitsValue_pos {ds : List Char} (h : LeadDigits ds) : 0 < digitsValue ds := by
  cases ds with
  | nil => exact absurd rfl h.ne_nil
  | cons c ds =>
    have hc := decimalDigits_digit (h.all c List.mem_cons_self)
    have hpos : 0 < c.toNat - '0'.toNat := by
      by_contra hzero
      rw [Nat.eq_zero_of_not_pos hzero] at hc
      exact h.lead (by rw [← (List.cons.inj hc).1]; rfl)
    rw [← List.singleton_append, digitsValue_append]
    have : digitsValue [c] = c.toNat - '0'.toNat := Nat.zero_add _
    rw [this]
    positivity

/-- The digits of a positive number are those that it is written with. -/
theorem LeadDigits.decimalDigits_digitsValue {ds : List Char} (h : LeadDigits ds) :
    decimalDigits (digitsValue ds) = ds := by
  induction ds using List.reverseRecOn with
  | nil => exact absurd rfl h.ne_nil
  | append_singleton ds c ih =>
    have hc := h.all c (by simp)
    have hlast : digitsValue [c] = c.toNat - '0'.toNat := Nat.zero_add _
    cases ds with
    | nil => rw [List.nil_append, hlast, decimalDigits_digit hc]
    | cons d ds =>
      have hfront : LeadDigits (d :: ds) :=
        ⟨fun x hx => h.all x (List.mem_append_left _ hx), List.cons_ne_nil d ds, h.lead⟩
      have hlt : c.toNat - '0'.toNat < 10 := by
        have hrange : 48 ≤ c.toNat ∧ c.toNat ≤ 57 := Char.isDigit_iff_toNat.1 hc
        rw [show '0'.toNat = 48 from rfl]
        omega
      calc decimalDigits (digitsValue (d :: ds ++ [c]))
          = decimalDigits (10 * digitsValue (d :: ds) + (c.toNat - '0'.toNat)) := by
            rw [digitsValue_append, hlast, List.length_singleton, pow_one, Nat.mul_comm]
        _ = decimalDigits (digitsValue (d :: ds)) ++ decimalDigits (c.toNat - '0'.toNat) :=
            (Nat.toDigits_append_toDigits (by decide) hfront.digitsValue_pos hlt).symm
        _ = d :: ds ++ [c] := by rw [ih hfront, decimalDigits_digit hc]

theorem WholeDigits.digitCount_digitsValue {ds : List Char} (h : WholeDigits ds) :
    Binary64.digitCount (digitsValue ds) = ds.length := by
  by_cases hzero : ds.head? = some '0'
  · rw [h.lead hzero]
    rfl
  · have hlead : LeadDigits ds := ⟨h.all, h.ne_nil, hzero⟩
    exact congrArg List.length hlead.decimalDigits_digitsValue

/-! ### The parts of a number -/

/-- No number goes on with a character. -/
def EndsNumber (c : Char) : Prop :=
  c.isDigit = false ∧ c ≠ '.' ∧ c ≠ 'e' ∧ c ≠ 'E'

instance (c : Char) : Decidable (EndsNumber c) :=
  inferInstanceAs (Decidable (_ ∧ _))

theorem takeDigits_append {ds rest : List Char} (hds : AllDigits ds)
    (hrest : ∀ c ∈ rest.head?, c.isDigit = false) : takeDigits (ds ++ rest) = (ds, rest) := by
  have hnone : rest.takeWhile Char.isDigit = [] ∧ rest.dropWhile Char.isDigit = rest := by
    cases rest with
    | nil => exact ⟨rfl, rfl⟩
    | cons c r => simp [hrest c rfl]
  rw [takeDigits, List.takeWhile_append_of_pos hds, List.dropWhile_append_of_pos hds, hnone.1,
    hnone.2, List.append_nil]

theorem takeWhole_append {ds rest : List Char} (hds : WholeDigits ds)
    (hrest : ∀ c ∈ rest.head?, c.isDigit = false) : takeWhole (ds ++ rest) = (ds, rest) := by
  by_cases hzero : ds.head? = some '0'
  · rw [hds.lead hzero]
    rfl
  · rw [takeWhole]
    · exact takeDigits_append hds.all hrest
    · intro r hr
      cases ds with
      | nil => exact hds.ne_nil rfl
      | cons d ds =>
        rw [List.cons_append, List.cons.injEq] at hr
        exact hzero (by rw [hr.1]; rfl)

theorem readFraction_of_ne {rest : List Char} (h : ∀ c ∈ rest.head?, c ≠ '.') :
    readFraction rest = (none, rest) := by
  rw [readFraction]
  rintro r rfl
  exact h '.' rfl rfl

theorem readFraction_append {ds rest : List Char} (hds : AllDigits ds) (hne : ds ≠ [])
    (hrest : ∀ c ∈ rest.head?, c.isDigit = false) :
    readFraction ('.' :: (ds ++ rest)) = (some ds, rest) := by
  cases ds with
  | nil => exact absurd rfl hne
  | cons d ds => simp only [readFraction, takeDigits_append hds hrest]

theorem readExponent_of_endsNumber {rest : List Char} (h : ∀ c ∈ rest.head?, EndsNumber c) :
    readExponent rest = (none, rest) := by
  cases rest with
  | nil => rfl
  | cons c r =>
    obtain ⟨-, -, he, hE⟩ := h c rfl
    simp [readExponent, he, hE]

theorem takeDigits_spec (s : List Char) :
    ∃ ds rest, s = ds ++ rest ∧ AllDigits ds ∧ takeDigits s = (ds, rest) ∧
      ∀ c ∈ rest.head?, c.isDigit = false := by
  refine ⟨_, _, List.takeWhile_append_dropWhile.symm, fun c hc => List.mem_takeWhile_imp hc, rfl,
    fun c hc => ?_⟩
  have hnot := List.head?_dropWhile_not Char.isDigit s
  rw [Option.mem_def.1 hc] at hnot
  exact hnot

theorem takeWhole_cases (s : List Char) :
    (∃ rest, takeWhole s = ([], rest)) ∨ ∃ whole rest, s = whole ++ rest ∧ WholeDigits whole ∧
      takeWhole s = (whole, rest) ∧
      (whole = ['0'] ∨ ∀ c ∈ rest.head?, c.isDigit = false) := by
  unfold takeWhole
  split
  · rename_i r
    exact .inr ⟨['0'], r, rfl, ⟨allDigits_replicate 1, by simp, fun _ => rfl⟩, rfl, .inl rfl⟩
  · rename_i hzero
    obtain ⟨ds, rest, rfl, hds, htake, hrest⟩ := takeDigits_spec s
    rw [htake]
    by_cases hnil : ds = []
    · exact .inl ⟨rest, by rw [hnil]⟩
    · refine .inr ⟨ds, rest, rfl, ⟨hds, hnil, fun hhead => ?_⟩, rfl, .inr hrest⟩
      obtain ⟨c, ds', rfl⟩ := List.exists_cons_of_ne_nil hnil
      rw [List.head?_cons, Option.some.injEq] at hhead
      exact absurd (by rw [hhead]; rfl) (hzero (ds' ++ rest))

theorem Fraction.readFraction {fraction : Option (List Char)} {ft rest : List Char}
    (h : Fraction fraction ft) (hrest : ∀ c ∈ rest.head?, c.isDigit = false ∧ c ≠ '.') :
    readFraction (ft ++ rest) = (fraction, rest) := by
  cases h with
  | absent => exact readFraction_of_ne fun c hc => (hrest c hc).2
  | present hds hne => exact readFraction_append hds hne fun c hc => (hrest c hc).1

theorem exists_takeDigits_append {ds : List Char} (hds : AllDigits ds) (hne : ds ≠ [])
    (s : List Char) : ∃ d ds' rest, takeDigits (ds ++ s) = (d :: ds', rest) := by
  obtain ⟨d, ds, rfl⟩ := List.exists_cons_of_ne_nil hne
  rw [List.cons_append, takeDigits, List.takeWhile_cons_of_pos (hds d List.mem_cons_self)]
  exact ⟨d, _, _, rfl⟩

theorem Fraction.isSome_readFraction {ds ft : List Char} (h : Fraction (some ds) ft)
    (s : List Char) : (Json.readFraction (ft ++ s)).1.isSome = true := by
  cases h with
  | present hds hne =>
    obtain ⟨d, ds', rest, htake⟩ := exists_takeDigits_append hds hne s
    rw [List.cons_append, Json.readFraction, htake]
    rfl

theorem readFraction_cases (s : List Char) :
    ∃ fraction ft rest, s = ft ++ rest ∧ Fraction fraction ft ∧
      readFraction s = (fraction, rest) := by
  unfold readFraction
  split
  · rename_i s
    obtain ⟨ds, rest, rfl, hds, htake, -⟩ := takeDigits_spec s
    rw [htake]
    cases ds with
    | nil => exact ⟨none, [], _, rfl, .absent, rfl⟩
    | cons d ds => exact ⟨some (d :: ds), _, rest, rfl, .present hds (List.cons_ne_nil d ds), rfl⟩
  · exact ⟨none, [], s, rfl, .absent, rfl⟩

theorem takeSign_of_isDigit {c : Char} (hc : c.isDigit = true) (s : List Char) :
    takeSign (c :: s) = (false, c :: s) := by
  rw [takeSign]
  · rintro r ⟨⟩
    cases hc
  · rintro r ⟨⟩
    cases hc

/-- What an exponent is written with is what the reader goes through. -/
theorem Exponent.exists_parts {n : Int} {et : List Char} (h : Exponent (some n) et) :
    ∃ e negative sg ds, et = e :: (sg ++ ds) ∧ (e = 'e' ∨ e = 'E') ∧ AllDigits ds ∧ ds ≠ [] ∧
      (∀ s, takeSign (sg ++ (ds ++ s)) = (negative, ds ++ s)) ∧
      n = if negative then -(digitsValue ds : Int) else digitsValue ds := by
  cases h with
  | @plain e ds he hds hne =>
    refine ⟨e, false, [], ds, rfl, he, hds, hne, fun s => ?_, rfl⟩
    obtain ⟨d, ds, rfl⟩ := List.exists_cons_of_ne_nil hne
    exact takeSign_of_isDigit (hds d List.mem_cons_self) (ds ++ s)
  | @plus e ds he hds hne => exact ⟨e, false, ['+'], ds, rfl, he, hds, hne, fun _ => rfl, rfl⟩
  | @minus e ds he hds hne => exact ⟨e, true, ['-'], ds, rfl, he, hds, hne, fun _ => rfl, rfl⟩

theorem Exponent.isSome_readExponent {n : Int} {et : List Char} (h : Exponent (some n) et)
    (s : List Char) : (Json.readExponent (et ++ s)).1.isSome = true := by
  obtain ⟨e, negative, sg, ds, rfl, he, hds, hne, hsign, -⟩ := h.exists_parts
  obtain ⟨d, ds', rest, htake⟩ := exists_takeDigits_append hds hne s
  rw [List.cons_append, List.append_assoc, Json.readExponent, if_pos he, hsign]
  dsimp only
  rw [htake]
  rfl

theorem Exponent.readExponent {exponent : Option Int} {et rest : List Char}
    (h : Exponent exponent et) (hrest : ∀ c ∈ rest.head?, EndsNumber c) :
    Json.readExponent (et ++ rest) = (exponent, rest) := by
  cases exponent with
  | none =>
    cases h with
    | absent => exact readExponent_of_endsNumber hrest
  | some n =>
    obtain ⟨e, negative, sg, ds, rfl, he, hds, hne, hsign, rfl⟩ := h.exists_parts
    have htake := takeDigits_append hds fun c hc => (hrest c hc).1
    rw [List.cons_append, List.append_assoc, Json.readExponent, if_pos he, hsign]
    dsimp only
    rw [htake]
    obtain ⟨d, ds, rfl⟩ := List.exists_cons_of_ne_nil hne
    rfl

/-- The sign that the reader takes is one that an exponent can have. -/
theorem takeSign_cases (s : List Char) :
    ∃ sg rest negative, s = sg ++ rest ∧ takeSign s = (negative, rest) ∧
      ∀ {e : Char} {ds : List Char}, e = 'e' ∨ e = 'E' → AllDigits ds → ds ≠ [] →
        Exponent (some (if negative then -(digitsValue ds : Int) else digitsValue ds))
          (e :: (sg ++ ds)) := by
  unfold takeSign
  split
  · rename_i r
    exact ⟨['-'], r, true, rfl, rfl, .minus⟩
  · rename_i r
    exact ⟨['+'], r, false, rfl, rfl, .plus⟩
  · exact ⟨[], s, false, rfl, rfl, .plain⟩

theorem readExponent_cases (s : List Char) :
    ∃ exponent et rest, s = et ++ rest ∧ Exponent exponent et ∧
      readExponent s = (exponent, rest) := by
  cases s with
  | nil => exact ⟨none, [], [], rfl, .absent, rfl⟩
  | cons e s =>
    by_cases he : e = 'e' ∨ e = 'E'
    · obtain ⟨sg, t, negative, rfl, hsign, hexp⟩ := takeSign_cases s
      obtain ⟨ds, rest, rfl, hds, htake, -⟩ := takeDigits_spec t
      rw [readExponent, if_pos he, hsign]
      dsimp only
      rw [htake]
      cases ds with
      | nil => exact ⟨none, [], _, rfl, .absent, rfl⟩
      | cons d ds =>
        refine ⟨_, _, rest, ?_, hexp he hds (List.cons_ne_nil d ds), rfl⟩
        simp
    · rw [readExponent, if_neg he]
      exact ⟨none, [], e :: s, rfl, .absent, rfl⟩

/-! ### Numbers -/

theorem limit?_numberOf {whole : List Char} (h : WholeDigits whole) (negative : Bool)
    (fraction : Option (List Char)) (exponent : Option Int) (bound depth : Nat) :
    (numberOf negative whole fraction exponent).limit? bound depth =
      if fraction = none ∧ exponent = none ∧ digitLimit < whole.length then
        some (.tooManyDigits whole.length) else none := by
  unfold numberOf
  split
  · have hcount : Binary64.digitCount
        (if negative then -(digitsValue whole : Int) else digitsValue whole).natAbs =
          whole.length := by
      rw [← h.digitCount_digitsValue]
      cases negative <;> simp
    rw [limit?, isWritable, hcount]
    by_cases hlong : digitLimit < whole.length
    · simp [hlong]
    · simp [hlong, Nat.le_of_not_lt hlong]
  · rename_i hboth
    rw [limit?, if_neg]
    · rintro ⟨rfl, rfl, -⟩
      exact hboth rfl rfl
    all_goals simp

theorem merged_numberOf (negative : Bool) (whole : List Char) (fraction : Option (List Char))
    (exponent : Option Int) :
    (numberOf negative whole fraction exponent).merged =
      numberOf negative whole fraction exponent := by
  unfold numberOf
  split <;> rfl

/-- What the reader makes of the parts of a number. -/
theorem readNumber_eq_taken {s rest rest' rest'' whole : List Char} {fraction : Option (List Char)}
    {exponent : Option Int} (hwhole : WholeDigits whole) (htake : takeWhole s = (whole, rest))
    (hfraction : readFraction rest = (fraction, rest'))
    (hexponent : readExponent rest' = (exponent, rest'')) (negative : Bool) (bound depth : Nat) :
    readNumber negative s =
      (numberOf negative whole fraction exponent).taken bound depth rest'' := by
  have hempty : whole.isEmpty = false := by simp [hwhole.ne_nil]
  rw [taken, limit?_numberOf hwhole, merged_numberOf, readNumber, htake]
  dsimp only
  rw [hempty, hfraction]
  dsimp only
  rw [hexponent]
  cases fraction with
  | none =>
    cases exponent with
    | none =>
      by_cases hlong : digitLimit < whole.length
      · simp [hlong, Limit.parseError]
      · simp [hlong, numberOf]
    | some e => simp [numberOf]
  | some ds => cases exponent <;> simp [numberOf]

theorem Exponent.stops {exponent : Option Int} {et rest : List Char} (h : Exponent exponent et)
    (hrest : ∀ c ∈ rest.head?, EndsNumber c) :
    ∀ c ∈ (et ++ rest).head?, c.isDigit = false ∧ c ≠ '.' := by
  cases exponent with
  | none =>
    cases h with
    | absent => exact fun c hc => ⟨(hrest c hc).1, (hrest c hc).2.1⟩
  | some n =>
    obtain ⟨e, negative, sg, ds, rfl, he, -⟩ := h.exists_parts
    rintro c ⟨⟩
    rcases he with rfl | rfl <;> decide

theorem Fraction.stops {fraction : Option (List Char)} {ft rest : List Char}
    (h : Fraction fraction ft) (hrest : ∀ c ∈ rest.head?, c.isDigit = false) :
    ∀ c ∈ (ft ++ rest).head?, c.isDigit = false := by
  cases h with
  | absent => exact hrest
  | present _ _ =>
    rintro c ⟨⟩
    decide

/-- A number is read, or refused for its length, if what follows does not go on with it. -/
theorem readNumber_append {whole ft et rest : List Char} {fraction : Option (List Char)}
    {exponent : Option Int} (hwhole : WholeDigits whole) (hft : Fraction fraction ft)
    (het : Exponent exponent et) (hrest : ∀ c ∈ rest.head?, EndsNumber c) (negative : Bool)
    (bound depth : Nat) :
    readNumber negative (whole ++ (ft ++ (et ++ rest))) =
      (numberOf negative whole fraction exponent).taken bound depth rest :=
  readNumber_eq_taken hwhole
    (takeWhole_append hwhole (hft.stops fun c hc => (het.stops hrest c hc).1))
    (hft.readFraction (het.stops hrest)) (het.readExponent hrest) negative bound depth

theorem EndsWhole.not_isDigit {rest : List Char} (h : EndsWhole (rest.map .char)) :
    ∀ c ∈ rest.head?, c.isDigit = false := by
  intro c hc
  refine h.digit c ?_
  rw [List.head?_map, Option.mem_def.1 hc]
  rfl

/-- A whole number with too many digits is refused, whatever follows it. -/
theorem readNumber_of_endsWhole {whole rest : List Char} (hwhole : WholeDigits whole)
    (hlong : digitLimit < whole.length) (hrest : EndsWhole (rest.map .char)) (negative : Bool) :
    readNumber negative (whole ++ rest) = .error (.tooManyDigits whole.length) := by
  have hfraction : readFraction rest = (none, rest) := by
    obtain ⟨fraction, ft, r, hsplit, hft, hread⟩ := readFraction_cases rest
    cases hft with
    | absent => rw [hread, hsplit, List.nil_append]
    | present hds hne =>
      refine absurd ?_ (hrest.fraction (.present hds hne) (r := r.map .char))
      rw [hsplit, List.map_append]
  have hexponent : readExponent rest = (none, rest) := by
    obtain ⟨exponent, et, r, hsplit, het, hread⟩ := readExponent_cases rest
    cases exponent with
    | none =>
      cases het with
      | absent => rw [hread, hsplit, List.nil_append]
    | some n =>
      refine absurd ?_ (hrest.exponent het (r := r.map .char))
      rw [hsplit, List.map_append]
  rw [readNumber_eq_taken hwhole (takeWhole_append hwhole hrest.not_isDigit) hfraction hexponent
    negative 0 0, taken, limit?_numberOf hwhole, if_pos ⟨rfl, rfl, hlong⟩]
  rfl

/-- What the reader finds at the front of a text that it takes for a number. -/
theorem readNumber_cases (negative : Bool) (s : List Char) (bound depth : Nat) :
    readNumber negative s = .error .malformed ∨
      ∃ whole ft et rest fraction exponent, s = whole ++ (ft ++ (et ++ rest)) ∧
        WholeDigits whole ∧ Fraction fraction ft ∧ Exponent exponent et ∧
        (fraction = none → exponent = none → digitLimit < whole.length →
          EndsWhole (rest.map .char)) ∧
        readNumber negative s =
          (numberOf negative whole fraction exponent).taken bound depth rest := by
  rcases takeWhole_cases s with ⟨rest, hnil⟩ | ⟨whole, t, rfl, hwhole, htake, hdigit⟩
  · left
    rw [readNumber, hnil]
    rfl
  right
  obtain ⟨fraction, ft, t', rfl, hft, hfraction⟩ := readFraction_cases t
  obtain ⟨exponent, et, rest, rfl, het, hexponent⟩ := readExponent_cases t'
  refine ⟨whole, ft, et, rest, fraction, exponent, rfl, hwhole, hft, het, ?_,
    readNumber_eq_taken hwhole htake hfraction hexponent negative bound depth⟩
  rintro rfl rfl hlong
  cases hft with
  | absent =>
    cases het with
    | absent =>
      have hdigit : ∀ c ∈ rest.head?, c.isDigit = false := by
        refine hdigit.resolve_left ?_
        rintro rfl
        exact absurd hlong (by decide)
      refine ⟨fun c hc => ?_, fun {ds ft r} hft heq => ?_, fun {e et r} het heq => ?_⟩
      · rw [List.head?_map, Option.map_eq_some_iff] at hc
        obtain ⟨d, hd, hdc⟩ := hc
        exact hdigit c (by rw [← Point.char.inj hdc]; exact hd)
      · obtain ⟨r, heq⟩ := exists_append_of_map_char heq
        have hsome := hft.isSome_readFraction r
        rw [← heq] at hsome
        rw [List.nil_append, List.nil_append] at hfraction
        rw [hfraction] at hsome
        cases hsome
      · obtain ⟨r, heq⟩ := exists_append_of_map_char heq
        have hsome := het.isSome_readExponent r
        rw [← heq] at hsome
        rw [List.nil_append] at hexponent
        rw [hexponent] at hsome
        cases hsome

/-! ### Words and numbers -/

/-- Characters are different if one passes a test and the other does not. -/
theorem ne_of_test {p : Char → Bool} {c d : Char} (hc : p c = true) (hd : p d = false) : c ≠ d := by
  rintro rfl
  rw [hc] at hd
  cases hd

/-- A text that starts with a digit is a number without a sign. -/
theorem readScalar_of_digit {c : Char} (hc : c.isDigit = true) (s : List Char) :
    readScalar (c :: s) = readNumber false (c :: s) := by
  rw [readScalar]
  -- None of the words, and no sign, starts with a digit.
  all_goals
    intro r hr
    rw [List.cons.injEq] at hr
    exact ne_of_test hc (by decide) hr.1

/-- A text that starts with a minus and a digit is a number with a sign. -/
theorem readScalar_neg_of_digit {c : Char} (hc : c.isDigit = true) (s : List Char) :
    readScalar ('-' :: c :: s) = readNumber true (c :: s) := by
  rw [readScalar]
  intro r hr
  rw [List.cons.injEq] at hr
  exact ne_of_test hc (by decide) hr.1

theorem WholeDigits.exists_cons {ds : List Char} (h : WholeDigits ds) :
    ∃ d ds', ds = d :: ds' ∧ d.isDigit = true := by
  obtain ⟨d, ds, rfl⟩ := List.exists_cons_of_ne_nil h.ne_nil
  exact ⟨d, ds, rfl, h.all d List.mem_cons_self⟩

theorem readScalar_sign {whole : List Char} (h : WholeDigits whole) (negative : Bool)
    (s : List Char) :
    readScalar (sign negative ++ (whole ++ s)) = readNumber negative (whole ++ s) := by
  obtain ⟨d, ds, rfl, hd⟩ := h.exists_cons
  cases negative with
  | false => exact readScalar_of_digit hd (ds ++ s)
  | true => exact readScalar_neg_of_digit hd (ds ++ s)

/-- A word or a number is read, or refused for its length. -/
theorem readScalar_of_scalar {s : List Char} {j : Json} (h : Scalar s j) {rest : List Char}
    (hrest : ∀ c ∈ rest.head?, EndsNumber c) (bound depth : Nat) :
    readScalar (s ++ rest) = j.taken bound depth rest := by
  cases h with
  | number hwhole hft het =>
    simp only [List.append_assoc]
    rw [readScalar_sign hwhole, readNumber_append hwhole hft het hrest]
  | null => rfl
  | yes => rfl
  | no => rfl
  | nan => rfl
  | infinity => rfl
  | minusInfinity => rfl

/-- A whole number with too many digits is refused, whatever follows it. -/
theorem readScalar_of_endsWhole {whole rest : List Char} (hwhole : WholeDigits whole)
    (hlong : digitLimit < whole.length) (hrest : EndsWhole (rest.map .char)) (negative : Bool) :
    readScalar (sign negative ++ (whole ++ rest)) = .error (.tooManyDigits whole.length) := by
  rw [readScalar_sign hwhole, readNumber_of_endsWhole hwhole hlong hrest]

/-- What is read at the front of some characters is what stands there: a word or a number, or a
whole number with too many digits. -/
def ScalarReadsAs (bound depth : Nat) (s : List Char)
    (result : Except ParseError (Json × List Char)) : Prop :=
  result = .error .malformed ∨
    (∃ p raw rest, s = p ++ rest ∧ Scalar p raw ∧ raw.limit? bound depth = none ∧
      result = .ok (raw.merged, rest)) ∨
    ∃ negative whole rest, s = sign negative ++ whole ++ rest ∧ WholeDigits whole ∧
      digitLimit < whole.length ∧ EndsWhole (rest.map .char) ∧
      result = .error (.tooManyDigits whole.length)

theorem scalarReadsAs_readWord {word : String} {j : Json} (hword : Scalar word.toList j)
    {bound depth : Nat} (hlimit : j.limit? bound depth = none) (hmerged : j.merged = j)
    (s : List Char) : ScalarReadsAs bound depth s (readWord word j s) := by
  unfold readWord
  split
  · rename_i hpre
    obtain ⟨rest, rfl⟩ := List.isPrefixOf_iff_prefix.1 hpre
    refine .inr (.inl ⟨word.toList, j, rest, rfl, hword, hlimit, ?_⟩)
    rw [hmerged, ← String.length_toList, List.drop_left]
  · exact .inl rfl

theorem scalarReadsAs_readNumber (negative : Bool) (s : List Char) (bound depth : Nat) :
    ScalarReadsAs bound depth (sign negative ++ s) (readNumber negative s) := by
  rcases readNumber_cases negative s bound depth with
    hbad | ⟨whole, ft, et, rest, fraction, exponent, rfl, hwhole, hft, het, hends, hread⟩
  · exact .inl hbad
  rw [hread, taken, limit?_numberOf hwhole]
  split
  · rename_i hlong
    obtain ⟨rfl, rfl, hlong⟩ := hlong
    cases hft with
    | absent =>
      cases het with
      | absent =>
        exact .inr (.inr ⟨negative, whole, rest, by simp, hwhole, hlong, hends rfl rfl hlong, rfl⟩)
  · rename_i hshort
    refine .inr (.inl ⟨sign negative ++ (whole ++ (ft ++ et)), _, rest, by simp,
      .number hwhole hft het, ?_, rfl⟩)
    rw [limit?_numberOf hwhole, if_neg hshort]

theorem scalarReadsAs_readScalar (bound depth : Nat) (s : List Char) :
    ScalarReadsAs bound depth s (readScalar s) := by
  unfold readScalar
  split
  · exact scalarReadsAs_readWord .null rfl rfl _
  · exact scalarReadsAs_readWord .yes rfl rfl _
  · exact scalarReadsAs_readWord .no rfl rfl _
  · exact scalarReadsAs_readWord .nan rfl rfl _
  · exact scalarReadsAs_readWord .infinity rfl rfl _
  · exact scalarReadsAs_readWord .minusInfinity rfl rfl _
  · exact scalarReadsAs_readNumber true _ bound depth
  · exact scalarReadsAs_readNumber false _ bound depth

/-! ### Characters before half a pair -/

/-- No number goes on with a text. -/
def Stops (rest : List Point) : Prop :=
  ∀ c, rest.head? = some (.char c) → EndsNumber c

theorem takeChars_append (s : List Point) :
    (takeChars s).1.map .char ++ (takeChars s).2 = s := by
  rw [takeChars, map_char_filterMap fun p hp => List.mem_takeWhile_imp hp]
  exact List.takeWhile_append_dropWhile

theorem takeChars_map_append (cs : List Char) (rest : List Point) :
    takeChars (cs.map .char ++ rest) = (cs ++ (takeChars rest).1, (takeChars rest).2) := by
  have hall : ∀ p ∈ cs.map Point.char, p.isChar = true := by
    intro p hp
    obtain ⟨c, -, rfl⟩ := List.mem_map.1 hp
    rfl
  rw [takeChars, List.takeWhile_append_of_pos hall, List.dropWhile_append_of_pos hall,
    List.filterMap_append, filterMap_map_char]
  rfl

/-- What is left after the characters starts with none. -/
theorem head?_takeChars_ne (s : List Point) (c : Char) :
    (takeChars s).2.head? ≠ some (.char c) := by
  intro h
  have hnot := List.head?_dropWhile_not Point.isChar s
  rw [show (s.dropWhile Point.isChar).head? = some (.char c) from h] at hnot
  cases hnot

theorem head?_takeChars {s : List Point} {c : Char} (h : (takeChars s).1.head? = some c) :
    s.head? = some (.char c) := by
  cases hcs : (takeChars s).1 with
  | nil =>
    rw [hcs] at h
    cases h
  | cons d cs =>
    rw [hcs, List.head?_cons, Option.some.injEq] at h
    rw [← takeChars_append s, hcs, h]
    rfl

/-- Characters at the front of a text stand at the front of its characters. -/
theorem exists_takeChars_append {s r : List Point} {cs : List Char} (h : s = cs.map .char ++ r) :
    ∃ r', (takeChars s).1 = cs ++ r' := by
  rw [h, takeChars_map_append]
  exact ⟨_, rfl⟩

/-- Whether a whole number ends is told by the characters that follow. -/
theorem endsWhole_takeChars_iff {rest : List Point} :
    EndsWhole ((takeChars rest).1.map .char) ↔ EndsWhole rest := by
  constructor
  · intro h
    refine ⟨fun c hc => ?_, fun {ds ft r} hft heq => ?_, fun {e et r} het heq => ?_⟩
    · cases rest with
      | nil => cases hc
      | cons p rest =>
        obtain rfl : p = .char c := Option.some.inj hc
        exact h.digit c rfl
    · obtain ⟨r', hr'⟩ := exists_takeChars_append heq
      exact h.fraction hft (by rw [hr', List.map_append])
    · obtain ⟨r', hr'⟩ := exists_takeChars_append heq
      exact h.exponent het (by rw [hr', List.map_append])
  · intro h
    refine ⟨fun c hc => ?_, fun {ds ft r} hft heq => ?_, fun {e et r} het heq => ?_⟩
    · rw [List.head?_map, Option.map_eq_some_iff] at hc
      obtain ⟨d, hd, hdc⟩ := hc
      exact h.digit c (by rw [← hdc]; exact head?_takeChars hd)
    · exact h.fraction hft (by rw [← List.append_assoc, ← heq]; exact (takeChars_append rest).symm)
    · exact h.exponent het (by rw [← List.append_assoc, ← heq]; exact (takeChars_append rest).symm)

/-- A word or a number is read, or refused for its length. -/
theorem readBare_of_scalar {s : List Char} {j : Json} (h : Scalar s j) {rest : List Point}
    (hrest : Stops rest) (bound depth : Nat) :
    readBare (s.map .char ++ rest) = j.taken bound depth rest := by
  have hstops : ∀ c ∈ (takeChars rest).1.head?, EndsNumber c :=
    fun c hc => hrest c (head?_takeChars hc)
  have hread := readScalar_of_scalar h hstops bound depth
  rw [readBare, takeChars_map_append]
  dsimp only
  rw [hread, taken, taken]
  cases j.limit? bound depth with
  | none =>
    rw [Option.elim_none, Option.elim_none]
    dsimp only
    rw [takeChars_append]
  | some e => rfl

/-- A whole number with too many digits is refused, whatever follows it. -/
theorem readBare_of_endsWhole {whole : List Char} {rest : List Point} (hwhole : WholeDigits whole)
    (hlong : digitLimit < whole.length) (hrest : EndsWhole rest) (negative : Bool) :
    readBare ((sign negative ++ whole).map .char ++ rest) =
      .error (.tooManyDigits whole.length) := by
  rw [readBare, takeChars_map_append]
  dsimp only
  rw [List.append_assoc,
    readScalar_of_endsWhole hwhole hlong (endsWhole_takeChars_iff.2 hrest) negative]

theorem readsAs_readBare (bound depth : Nat) (s : List Point) :
    ReadsAs bound depth s (readBare s) := by
  rw [readBare]
  dsimp only
  rcases scalarReadsAs_readScalar bound depth (takeChars s).1 with
    hbad | ⟨p, raw, rest, hsplit, hp, hlimit, hread⟩ |
      ⟨negative, whole, rest, hsplit, hwhole, hlong, hends, hread⟩
  · rw [hbad]
    exact .inl rfl
  · rw [hread]
    refine .inr (.inl ⟨p.map .char, raw, rest.map .char ++ (takeChars s).2, ?_, .scalar hp, hlimit,
      rfl⟩)
    rw [← List.append_assoc, ← List.map_append, ← hsplit, takeChars_append]
  · rw [hread]
    have hs : s = (sign negative ++ whole).map .char ++ (rest.map .char ++ (takeChars s).2) := by
      rw [← List.append_assoc, ← List.map_append, ← hsplit, takeChars_append]
    have hrest : EndsWhole (rest.map .char ++ (takeChars s).2) := by
      refine endsWhole_takeChars_iff.1 ?_
      have htail : (takeChars (takeChars s).2).1 = [] := by
        cases hnil : (takeChars (takeChars s).2).1 with
        | nil => rfl
        | cons c cs => exact absurd (head?_takeChars (by rw [hnil]; rfl)) (head?_takeChars_ne s c)
      rw [takeChars_map_append, htail, List.append_nil]
      exact hends
    refine .inr (.inr ⟨.tooManyDigits whole.length, ?_, rfl⟩)
    rw [hs]
    exact .digits hwhole hlong hrest

end LlmAudit.Json
