import LlmAudit.Json.Reader
import LlmAudit.Json.Writer
import LlmAudit.Proofs.Number.Shortest
import Mathlib.Data.List.TakeWhile

/-!
# Decimals

How numbers are written in decimal digits. A whole number has no zero in front
(`wholeDigits_decimalDigits`). A finite binary64 number is written as a decimal with a fraction or
an exponent, and is the number nearest to that decimal (`exists_renderMagnitude_eq`).
-/

namespace LlmAudit.Json

/-! ### Digits -/

/-- Some characters are digits. -/
def AllDigits (ds : List Char) : Prop := ∀ c ∈ ds, c.isDigit = true

theorem AllDigits.append {as bs : List Char} (ha : AllDigits as) (hb : AllDigits bs) :
    AllDigits (as ++ bs) := by
  intro c hc
  exact (List.mem_append.1 hc).elim (ha c) (hb c)

theorem allDigits_decimalDigits (n : Nat) : AllDigits (decimalDigits n) := by
  intro c hc
  exact Nat.isDigit_of_mem_toDigits (by decide) (by decide) hc

theorem allDigits_replicate (n : Nat) : AllDigits (List.replicate n '0') := by
  intro c hc
  rw [List.eq_of_mem_replicate hc]
  decide

theorem digitsValue_eq (ds : List Char) : digitsValue ds = Nat.ofDigitChars 10 ds 0 := by
  rw [digitsValue, Nat.ofDigitChars_eq_foldl]
  simp only [Nat.mul_comm 10]

theorem digitsValue_decimalDigits (n : Nat) : digitsValue (decimalDigits n) = n := by
  rw [digitsValue_eq]
  exact Nat.ofDigitChars_ten_toDigits

theorem digitsValue_append (as bs : List Char) :
    digitsValue (as ++ bs) = digitsValue as * 10 ^ bs.length + digitsValue bs := by
  simp only [digitsValue_eq]
  rw [Nat.ofDigitChars_append, Nat.ofDigitChars_eq_ofDigitChars_zero, Nat.mul_comm]

theorem digitsValue_replicate (n : Nat) : digitsValue (List.replicate n '0') = 0 := by
  rw [digitsValue_eq, Nat.ofDigitChars_replicate_zero, Nat.mul_zero]

/-! ### The parts of a number -/

/-- The digits of a whole number: no digit follows a leading zero. -/
structure WholeDigits (ds : List Char) : Prop where
  /-- All are digits. -/
  all : AllDigits ds
  /-- There are some. -/
  ne_nil : ds ≠ []
  /-- Only zero starts with a zero. -/
  lead : ds.head? = some '0' → ds = ['0']

/-- The digits of a positive number: no zero stands in front. -/
structure LeadDigits (ds : List Char) : Prop where
  /-- All are digits. -/
  all : AllDigits ds
  /-- There are some. -/
  ne_nil : ds ≠ []
  /-- The first one is no zero. -/
  lead : ds.head? ≠ some '0'

theorem LeadDigits.whole {ds : List Char} (h : LeadDigits ds) : WholeDigits ds :=
  ⟨h.all, h.ne_nil, fun hzero => absurd hzero h.lead⟩

/-- The digits of a positive number do not start with a zero. -/
theorem head?_decimalDigits_ne {n : Nat} (h : 0 < n) : (decimalDigits n).head? ≠ some '0' := by
  induction n using Nat.strong_induction_on with
  | _ n ih =>
    rw [decimalDigits]
    rcases Nat.lt_or_ge n 10 with hlt | hge
    · rw [Nat.toDigits_of_lt_base hlt, List.head?_cons, ne_eq, Option.some.injEq,
        Nat.digitChar_eq_zero]
      exact h.ne'
    · have hhead := ih (n / 10) (by omega) (by omega)
      have hne : Nat.toDigits 10 (n / 10) ≠ [] := Nat.toDigits_ne_nil
      obtain ⟨d, ds, hd⟩ := List.exists_cons_of_ne_nil hne
      rw [decimalDigits, hd] at hhead
      rw [Nat.toDigits_of_base_le (by decide) hge, hd]
      exact hhead

theorem wholeDigits_decimalDigits (n : Nat) : WholeDigits (decimalDigits n) := by
  refine ⟨allDigits_decimalDigits n, Nat.toDigits_ne_nil, fun hhead => ?_⟩
  rcases Nat.eq_zero_or_pos n with rfl | hpos
  · rfl
  · exact absurd hhead (head?_decimalDigits_ne hpos)

theorem digitsValue_cons_zero (ds : List Char) : digitsValue ('0' :: ds) = digitsValue ds := by
  rw [digitsValue, List.foldl_cons]
  rfl

/-- An exponent is written as its sign and its digits. -/
theorem exists_renderExponent_eq (e : Int) :
    ∃ ds, Binary64.renderExponent e = (if decide (e < 0) then '-' else '+') :: ds ∧
      AllDigits ds ∧ ds ≠ [] ∧ digitsValue ds = e.natAbs := by
  have hall := allDigits_decimalDigits e.natAbs
  have hval := digitsValue_decimalDigits e.natAbs
  by_cases hlength : (decimalDigits e.natAbs).length < 2
  · refine ⟨'0' :: decimalDigits e.natAbs, by simp [Binary64.renderExponent, hlength], ?_, by simp,
      by rw [digitsValue_cons_zero, hval]⟩
    exact AllDigits.append (allDigits_replicate 1) hall
  · refine ⟨decimalDigits e.natAbs, by simp [Binary64.renderExponent, hlength], hall, ?_, hval⟩
    exact Nat.toDigits_ne_nil

/-! ### Decimals -/

/-- A written decimal: digits, a point and more digits, and an exponent. Without a fraction and an
exponent it would be a whole number. -/
structure Decimal where
  /-- The digits before the point. -/
  whole : List Char
  /-- The digits behind the point. -/
  fraction : List Char
  /-- The exponent. -/
  exponent : Option Int
  /-- No digit follows a leading zero. -/
  wholeDigits : WholeDigits whole
  /-- Behind the point are digits only. -/
  fractionDigits : AllDigits fraction
  /-- There is a fraction or an exponent. -/
  isFloat : fraction ≠ [] ∨ exponent ≠ none

namespace Decimal

/-- The text of the exponent, if there is one. -/
def tail (x : Decimal) : List Char :=
  x.exponent.elim [] fun e => 'e' :: Binary64.renderExponent e

/-- The text. -/
def text (x : Decimal) : List Char :=
  x.whole ++ ((if x.fraction = [] then [] else '.' :: x.fraction) ++ x.tail)

/-- All digits as one number. -/
def digits (x : Decimal) : Nat :=
  digitsValue (x.whole ++ x.fraction)

/-- The power of ten that the digits are multiplied with. -/
def power (x : Decimal) : Int :=
  x.exponent.getD 0 - x.fraction.length

end Decimal

/-! ### Shortest decimals -/

/-- The zeros at the end of some digits are cut off, and counted. -/
theorem eq_append_cutZeros (ds : List Char) :
    ds = (Binary64.cutZeros ds).1 ++ List.replicate (Binary64.cutZeros ds).2 '0' := by
  obtain ⟨zeros, kept, hsplit, hzeros, hkept⟩ : ∃ zeros kept, ds.reverse = zeros ++ kept ∧
      (∀ c ∈ zeros, c = '0') ∧ ds.reverse.dropWhile (· == '0') = kept :=
    ⟨_, _, List.takeWhile_append_dropWhile.symm,
      fun c hc => by simpa using List.mem_takeWhile_imp hc, rfl⟩
  have hds : ds = kept.reverse ++ zeros := by
    rw [← List.reverse_reverse ds, hsplit, List.reverse_append, List.eq_replicate_of_mem hzeros,
      List.reverse_replicate]
  have hlength : ds.length - kept.reverse.length = zeros.length := by
    rw [hds, List.length_append, Nat.add_sub_cancel_left]
  simp only [Binary64.cutZeros, hkept, hlength]
  rw [← List.eq_replicate_of_mem hzeros]
  exact hds

/-- A text writes a decimal that rounds to a rank. -/
def WritesRank (rank : Nat) (text : List Char) : Prop :=
  ∃ x : Decimal, text = x.text ∧ Binary64.DecimalRoundsTo rank x.digits x.power

section Digits

variable {rank : Nat} {ds : List Char} {point : Int}

/-- All digits stand behind the point. -/
theorem writesRank_behind (hds : LeadDigits ds) (hpoint : point ≤ 0)
    (h : Binary64.DecimalRoundsTo rank (digitsValue ds) (point - ds.length)) :
    WritesRank rank ('0' :: '.' :: (List.replicate (-point).toNat '0' ++ ds)) := by
  have hzero : WholeDigits ['0'] := ⟨allDigits_replicate 1, by simp, fun _ => rfl⟩
  refine ⟨⟨['0'], List.replicate (-point).toNat '0' ++ ds, none, hzero,
    (allDigits_replicate _).append hds.all, .inl (by simp [hds.ne_nil])⟩, ?_, ?_⟩
  · simp [Decimal.text, Decimal.tail, hds.ne_nil]
  · rw [Decimal.digits, Decimal.power]
    dsimp only
    rw [List.singleton_append, digitsValue_cons_zero, digitsValue_append, digitsValue_replicate,
      Nat.zero_mul, Nat.zero_add]
    convert h using 1
    simp
    omega

/-- All digits stand before the point. -/
theorem writesRank_before (hds : LeadDigits ds) (hpoint : (ds.length : Int) ≤ point)
    (h : Binary64.DecimalRoundsTo rank (digitsValue ds) (point - ds.length)) :
    WritesRank rank (ds ++ List.replicate (point.toNat - ds.length) '0' ++ ['.', '0']) := by
  obtain ⟨zeros, hzeros⟩ : ∃ zeros, point.toNat - ds.length = zeros := ⟨_, rfl⟩
  rw [hzeros]
  have hwhole : WholeDigits (ds ++ List.replicate zeros '0') := by
    refine LeadDigits.whole ⟨hds.all.append (allDigits_replicate _), by simp [hds.ne_nil], ?_⟩
    rw [List.head?_append, Option.or_of_isSome (by simp [hds.ne_nil])]
    exact hds.lead
  refine ⟨⟨ds ++ List.replicate zeros '0', ['0'], none, hwhole, allDigits_replicate 1,
    .inl (by simp)⟩, ?_, ?_⟩
  · simp [Decimal.text, Decimal.tail]
  · rw [Decimal.digits, Decimal.power]
    dsimp only
    rw [List.append_assoc, ← List.replicate_one, List.replicate_append_replicate,
      digitsValue_append, digitsValue_replicate, List.length_replicate, Nat.add_zero]
    have hscale := (Binary64.decimalRoundsTo_mul_pow (zeros + 1)).2 h
    convert hscale using 1
    simp
    omega

/-- The point stands between the digits. -/
theorem writesRank_between (hds : LeadDigits ds) (hpositive : 0 < point)
    (hpoint : point < ds.length)
    (h : Binary64.DecimalRoundsTo rank (digitsValue ds) (point - ds.length)) :
    WritesRank rank (ds.take point.toNat ++ '.' :: ds.drop point.toNat) := by
  have hbehind : ds.drop point.toNat ≠ [] := by
    rw [ne_eq, List.drop_eq_nil_iff]
    omega
  have hwhole : WholeDigits (ds.take point.toNat) := by
    refine LeadDigits.whole ⟨fun c hc => hds.all c (List.mem_of_mem_take hc), ?_, ?_⟩
    · simp [hds.ne_nil]
      omega
    · rw [List.head?_take, if_neg (by omega)]
      exact hds.lead
  refine ⟨⟨ds.take point.toNat, ds.drop point.toNat, none, hwhole,
    fun c hc => hds.all c (List.mem_of_mem_drop hc), .inl hbehind⟩, ?_, ?_⟩
  · simp only [Decimal.text, Decimal.tail, if_neg hbehind, Option.elim_none, List.append_nil]
  · rw [Decimal.digits, Decimal.power]
    dsimp only
    rw [List.take_append_drop]
    convert h using 1
    rw [List.length_drop, Option.getD_none]
    omega

/-- The digits have an exponent, and a point stands behind the first. -/
theorem writesRank_scientific {d : Char} {more : List Char} (hds : LeadDigits (d :: more))
    (h : Binary64.DecimalRoundsTo rank (digitsValue (d :: more)) (point - (d :: more).length)) :
    WritesRank rank (d :: ((if more = [] then [] else '.' :: more) ++
      'e' :: Binary64.renderExponent (point - 1))) := by
  have hwhole : WholeDigits [d] :=
    LeadDigits.whole ⟨fun c hc => hds.all c (List.mem_singleton.1 hc ▸ List.mem_cons_self),
      by simp, hds.lead⟩
  refine ⟨⟨[d], more, some (point - 1), hwhole, fun c hc => hds.all c (List.mem_cons_of_mem d hc),
    .inr (by simp)⟩, rfl, ?_⟩
  rw [Decimal.digits, Decimal.power]
  dsimp only
  rw [List.singleton_append]
  convert h using 1
  simp
  omega

/-- The text of digits with a point writes the decimal of their value. -/
theorem writesRank_renderDigits (hds : LeadDigits ds)
    (h : Binary64.DecimalRoundsTo rank (digitsValue ds) (point - ds.length)) :
    WritesRank rank (Binary64.renderDigits ds point) := by
  unfold Binary64.renderDigits
  dsimp only
  split
  · split
    · rename_i hpoint
      exact writesRank_behind hds hpoint h
    · split
      · rename_i hpoint
        exact writesRank_before hds hpoint h
      · rename_i hpositive hpoint
        exact writesRank_between hds (by omega) (by omega) h
  · cases ds with
    | nil => exact absurd rfl hds.ne_nil
    | cons d more =>
      cases more with
      | nil => exact writesRank_scientific hds h
      | cons d' more => exact writesRank_scientific hds h

end Digits

/-- The digits of a positive number without the zeros at their end. -/
theorem cutZeros_decimalDigits {digits : Nat} (h : 0 < digits) {kept : List Char} {zeros : Nat}
    (hcut : Binary64.cutZeros (decimalDigits digits) = (kept, zeros)) :
    LeadDigits kept ∧ (decimalDigits digits).length = kept.length + zeros ∧
      digits = digitsValue kept * 10 ^ zeros := by
  have hsplit := eq_append_cutZeros (decimalDigits digits)
  rw [hcut] at hsplit
  have hvalue : digits = digitsValue kept * 10 ^ zeros := by
    have := digitsValue_decimalDigits digits
    rw [hsplit, digitsValue_append, digitsValue_replicate, List.length_replicate] at this
    exact this.symm
  have hne : kept ≠ [] := by
    rintro rfl
    rw [show digitsValue [] = 0 from rfl, Nat.zero_mul] at hvalue
    omega
  refine ⟨⟨fun c hc => ?_, hne, ?_⟩, ?_, hvalue⟩
  · refine allDigits_decimalDigits digits c ?_
    rw [hsplit]
    exact List.mem_append_left _ hc
  · obtain ⟨d, more, rfl⟩ := List.exists_cons_of_ne_nil hne
    have hhead := head?_decimalDigits_ne h
    rw [hsplit] at hhead
    exact hhead
  · rw [hsplit, List.length_append, List.length_replicate]

/-- The text of a finite magnitude is the text of a decimal that is read as that magnitude. -/
theorem exists_renderMagnitude_eq {rank : Nat} (hrank : rank < Binary64.infinityRank) :
    ∃ x : Decimal, Binary64.renderMagnitude rank = x.text ∧
      ∀ negative, Binary64.ofDecimal negative x.digits x.power = .ofRank negative rank := by
  rcases Nat.eq_zero_or_pos rank with rfl | hpos
  · have hzero : WholeDigits ['0'] := ⟨allDigits_replicate 1, by simp, fun _ => rfl⟩
    exact ⟨⟨['0'], ['0'], none, hzero, hzero.all, .inl (by simp)⟩, rfl, fun negative => rfl⟩
  · have hshortest := Binary64.decimalRoundsTo_shortest hpos
    rw [Binary64.renderMagnitude, if_neg hpos.ne']
    generalize Binary64.shortest rank = found at hshortest ⊢
    obtain ⟨digits, exponent⟩ := found
    dsimp only at hshortest ⊢
    have hdigits := hshortest.digits_pos hpos
    rcases hcut : Binary64.cutZeros (decimalDigits digits) with ⟨kept, zeros⟩
    obtain ⟨hlead, hlength, hvalue⟩ := cutZeros_decimalDigits hdigits hcut
    have hkept : Binary64.DecimalRoundsTo rank (digitsValue kept)
        ((decimalDigits digits).length + exponent - kept.length) := by
      rw [← Binary64.decimalRoundsTo_mul_pow zeros, ← hvalue]
      convert hshortest using 1
      omega
    obtain ⟨x, htext, hrounds⟩ := writesRank_renderDigits hlead hkept
    exact ⟨x, htext, fun negative =>
      Binary64.ofDecimal_of_decimalRoundsTo negative hpos hrank hrounds⟩

end LlmAudit.Json
