import LlmAudit.Proofs.Json.RoundTrip
import LlmAudit.Report.Export
import Mathlib.Data.List.Sort

/-!
# The canonical text of a JSON value

The subject is the canonical JSON of Section 16 (Reporting) of the specification: "sorted keys,
2-space indent, LF, trailing newline".

A value has a canonical text if its whole numbers are not too long and it is not too high, wherever
the bound for this is. That text is the value with the fields of each object in increasing order of
their names, and one line feed. It is read as the same value again, and two values have the same
canonical text exactly if they are the same up to the order of fields, however deep the objects are
in which the order differs (`canonical_lossless`).

## Main definitions

* `Json.Within` — a value stands in another one.
* `Json.height` — how many lists and objects stand in each other.
* `Json.Same` — two values are the same up to the order of fields.
* `Json.IsCanonical` — what is asked of a canonical text.
-/

namespace LlmAudit.Json

/-! ### What stands in a value -/

/-- A value is another one or stands in it. -/
inductive Within (k : Json) : Json → Prop where
  /-- It is the value. -/
  | self : Within k k
  /-- It stands in an item of a list. -/
  | item {items : List Json} {j : Json} : j ∈ items → Within k j → Within k (.list items)
  /-- It stands in the value of a field. -/
  | field {fields : List (LooseText × Json)} {f : LooseText × Json} :
      f ∈ fields → Within k f.2 → Within k (.object fields)

mutual

/-- How many lists and objects stand in each other. -/
def height : Json → Nat
  | .list items => heightItems items + 1
  | .object fields => heightFields fields + 1
  | _ => 0

/-- The greatest height of some items. -/
def heightItems : List Json → Nat
  | [] => 0
  | j :: rest => max (height j) (heightItems rest)

/-- The greatest height of the values of some fields. -/
def heightFields : List (LooseText × Json) → Nat
  | [] => 0
  | (_, j) :: rest => max (height j) (heightFields rest)

end

theorem heightItems_le_iff {items : List Json} {n : Nat} :
    heightItems items ≤ n ↔ ∀ j ∈ items, j.height ≤ n := by
  induction items with
  | nil => simp [heightItems]
  | cons j items ih => rw [heightItems, max_le_iff, ih, List.forall_mem_cons]

theorem heightFields_le_iff {fields : List (LooseText × Json)} {n : Nat} :
    heightFields fields ≤ n ↔ ∀ f ∈ fields, f.2.height ≤ n := by
  induction fields with
  | nil => simp [heightFields]
  | cons f fields ih =>
    obtain ⟨name, j⟩ := f
    rw [heightFields, max_le_iff, ih, List.forall_mem_cons]

/-- The whole numbers in a value are not too long. -/
def WholesWritable (j : Json) : Prop :=
  ∀ n, Within (.int n) j → isWritable n = true

theorem wholesWritable_list_iff {items : List Json} :
    WholesWritable (.list items) ↔ ∀ j ∈ items, WholesWritable j := by
  constructor
  · intro h j hj n hn
    exact h n (.item hj hn)
  · intro h n hn
    cases hn with
    | item hj hn => exact h _ hj n hn

theorem wholesWritable_object_iff {fields : List (LooseText × Json)} :
    WholesWritable (.object fields) ↔ ∀ f ∈ fields, WholesWritable f.2 := by
  constructor
  · intro h f hf n hn
    exact h n (.field hf hn)
  · intro h n hn
    cases hn with
    | field hf hn => exact h _ hf n hn

theorem wholesWritable_int_iff {n : Int} : WholesWritable (.int n) ↔ isWritable n = true := by
  constructor
  · intro h
    exact h n .self
  · intro h m hm
    cases hm
    exact h

/-- A value is within the limits exactly if its whole numbers are not too long and it is not too
high. -/
theorem WellFormed.limit?_eq_none_iff {a : Alphabet} {j : Json} (h : WellFormed a j)
    {bound depth : Nat} :
    j.limit? bound depth = none ↔
      WholesWritable j ∧ (0 < j.height → depth + j.height ≤ bound) := by
  -- the depth counts where a list or an object stands, so a value without height is let through
  induction h generalizing depth with
  | null | bool | float | str =>
    refine iff_of_true rfl ⟨fun n hn => ?_, fun hpos => absurd hpos (Nat.lt_irrefl 0)⟩
    cases hn
  | int n =>
    have hheight : 0 < height (.int n) → depth + height (.int n) ≤ bound := fun hpos =>
      absurd hpos (Nat.lt_irrefl 0)
    rw [limit?, wholesWritable_int_iff, and_iff_left hheight]
    by_cases hn : isWritable n = true
    · exact iff_of_true (if_pos hn) hn
    · exact iff_of_false (by rw [if_neg hn]; exact Option.some_ne_none _) hn
  | @list items _ ih =>
    rw [limit?_list_eq_none_iff, wholesWritable_list_iff, height]
    constructor
    · rintro ⟨hdepth, hitems⟩
      have hall := fun j hj => (ih j hj).1 (hitems j hj)
      have hheight : heightItems items ≤ bound - (depth + 1) := by
        rw [heightItems_le_iff]
        intro j hj
        have := (hall j hj).2
        omega
      exact ⟨fun j hj => (hall j hj).1, fun _ => by omega⟩
    · rintro ⟨hwholes, hheight⟩
      have hsum := hheight (Nat.succ_pos _)
      refine ⟨by omega, fun j hj => (ih j hj).2 ⟨hwholes j hj, fun _ => ?_⟩⟩
      have := heightItems_le_iff.1 (Nat.le_refl (heightItems items)) j hj
      omega
  | @object fields _ _ _ ih =>
    rw [limit?_object_eq_none_iff, wholesWritable_object_iff, height]
    constructor
    · rintro ⟨hdepth, hfields⟩
      have hall := fun f hf => (ih f hf).1 (hfields f hf)
      have hheight : heightFields fields ≤ bound - (depth + 1) := by
        rw [heightFields_le_iff]
        intro f hf
        have := (hall f hf).2
        omega
      exact ⟨fun f hf => (hall f hf).1, fun _ => by omega⟩
    · rintro ⟨hwholes, hheight⟩
      have hsum := hheight (Nat.succ_pos _)
      refine ⟨by omega, fun f hf => (ih f hf).2 ⟨hwholes f hf, fun _ => ?_⟩⟩
      have := heightFields_le_iff.1 (Nat.le_refl (heightFields fields)) f hf
      omega

/-! ### The same up to the order of fields -/

/-- Two values are the same up to the order of fields. -/
inductive Same : Json → Json → Prop where
  /-- A value is the same as itself. -/
  | refl (j : Json) : Same j j
  /-- Lists are that have the same items at the same places. -/
  | list {items items' : List Json} : items.length = items'.length →
      (∀ (i : Nat) (h : i < items.length) (h' : i < items'.length), Same items[i] items'[i]) →
      Same (.list items) (.list items')
  /-- Objects are that have the same names, and the same values for them. -/
  | object {fields fields' : List (LooseText × Json)} :
      (fields.map Prod.fst).Perm (fields'.map Prod.fst) →
      (∀ f ∈ fields, ∀ f' ∈ fields', f.1 = f'.1 → Same f.2 f'.2) →
      Same (.object fields) (.object fields')

theorem Same.symm {j k : Json} (h : Same j k) : Same k j := by
  induction h with
  | refl j => exact .refl j
  | list hlength _ ih => exact .list hlength.symm fun i hi hi' => ih i hi' hi
  | object hnames _ ih =>
    exact .object hnames.symm fun f hf f' hf' hname => ih f' hf' f hf hname.symm

/-- A field has a partner among fields of the same names. -/
theorem exists_partner {fields fields' : List (LooseText × Json)}
    (h : (fields.map Prod.fst).Perm (fields'.map Prod.fst)) {f : LooseText × Json}
    (hf : f ∈ fields) :
    ∃ f' ∈ fields', f'.1 = f.1 :=
  List.mem_map.1 (h.mem_iff.1 (List.mem_map_of_mem hf))

theorem Same.trans {j k l : Json} (h : Same j k) (h' : Same k l) : Same j l := by
  induction h generalizing l with
  | refl j => exact h'
  | list hlength hitems ih =>
    cases h' with
    | refl => exact .list hlength hitems
    | list hlength' hitems' =>
      exact .list (hlength.trans hlength') fun i hi hi' =>
        ih i hi (hlength ▸ hi) (hitems' i (hlength ▸ hi) hi')
  | object hnames hfields ih =>
    cases h' with
    | refl => exact .object hnames hfields
    | object hnames' hfields' =>
      -- the field of this name in the middle carries the two steps
      refine .object (hnames.trans hnames') fun f hf g hg hname => ?_
      obtain ⟨f', hf', hpartner⟩ := exists_partner hnames hf
      exact ih f hf f' hf' hpartner.symm (hfields' f' hf' g hg (hpartner.trans hname))

theorem Same.wellFormed {a : Alphabet} {j k : Json} (h : Same j k) (hj : WellFormed a j) :
    WellFormed a k := by
  induction h with
  | refl => exact hj
  | list hlength _ ih =>
    cases hj with
    | list hitems =>
      refine .list fun k hk => ?_
      obtain ⟨i, hi, rfl⟩ := List.getElem_of_mem hk
      have hi' := hlength ▸ hi
      exact ih i hi' hi (hitems _ (List.getElem_mem hi'))
  | object hnames _ ih =>
    cases hj with
    | object hnodup hkeeps hfields =>
      refine .object (hnames.nodup_iff.1 hnodup) (fun f' hf' => ?_) fun f' hf' => ?_
      · obtain ⟨f, hf, hpartner⟩ := exists_partner hnames.symm hf'
        rw [← hpartner]
        exact hkeeps f hf
      · obtain ⟨f, hf, hpartner⟩ := exists_partner hnames.symm hf'
        exact ih f hf f' hf' hpartner (hfields f hf)

theorem Same.limit?_eq_none {j k : Json} (h : Same j k) {bound depth : Nat}
    (hj : j.limit? bound depth = none) : k.limit? bound depth = none := by
  induction h generalizing depth with
  | refl => exact hj
  | list hlength _ ih =>
    rw [limit?_list_eq_none_iff] at hj ⊢
    refine ⟨hj.1, fun k hk => ?_⟩
    obtain ⟨i, hi, rfl⟩ := List.getElem_of_mem hk
    have hi' := hlength ▸ hi
    exact ih i hi' hi (hj.2 _ (List.getElem_mem hi'))
  | object hnames _ ih =>
    rw [limit?_object_eq_none_iff] at hj ⊢
    refine ⟨hj.1, fun f' hf' => ?_⟩
    obtain ⟨f, hf, hpartner⟩ := exists_partner hnames.symm hf'
    exact ih f hf f' hf' hpartner (hj.2 f hf)

/-! ### Sorted fields -/

theorem insertField_perm (f : LooseText × Json) (fields : List (LooseText × Json)) :
    (insertField f fields).Perm (f :: fields) := by
  induction fields with
  | nil => exact .refl _
  | cons g fields ih =>
    rw [insertField]
    split
    · exact .refl _
    · exact (ih.cons g).trans (.swap f g fields)

/-- A field is put before those whose names are not less, so the order is kept. -/
theorem pairwise_insertField {f : LooseText × Json} {fields : List (LooseText × Json)}
    (h : fields.Pairwise fun a b => a.1 ≤ b.1) :
    (insertField f fields).Pairwise fun a b => a.1 ≤ b.1 := by
  induction fields with
  | nil => exact List.pairwise_singleton _ _
  | cons g fields ih =>
    obtain ⟨hhead, htail⟩ := List.pairwise_cons.1 h
    rw [insertField]
    split
    · rename_i hle
      refine List.pairwise_cons.2 ⟨fun k hk => ?_, h⟩
      rcases List.mem_cons.1 hk with rfl | hk
      · exact hle
      · exact LooseText.le_trans hle (hhead k hk)
    · rename_i hle
      refine List.pairwise_cons.2 ⟨fun k hk => ?_, ih htail⟩
      rcases List.mem_cons.1 ((insertField_perm f fields).mem_iff.1 hk) with rfl | hk
      · exact (LooseText.le_total k.1 g.1).resolve_left hle
      · exact hhead k hk

theorem sortItems_eq_map (items : List Json) : sortItems items = items.map sortFields := by
  induction items with
  | nil => rfl
  | cons j items ih => rw [sortItems, ih, List.map_cons]

theorem sortMembers_perm (fields : List (LooseText × Json)) :
    (sortMembers fields).Perm (fields.map fun f => (f.1, f.2.sortFields)) := by
  induction fields with
  | nil => exact .refl _
  | cons f fields ih =>
    obtain ⟨name, j⟩ := f
    rw [sortMembers, List.map_cons]
    exact (insertField_perm _ _).trans (ih.cons _)

theorem mem_sortMembers {fields : List (LooseText × Json)} {f : LooseText × Json} :
    f ∈ sortMembers fields ↔ ∃ g ∈ fields, (g.1, g.2.sortFields) = f := by
  rw [(sortMembers_perm fields).mem_iff, List.mem_map]

theorem names_sortMembers (fields : List (LooseText × Json)) :
    ((sortMembers fields).map Prod.fst).Perm (fields.map Prod.fst) := by
  have hnames := (sortMembers_perm fields).map Prod.fst
  rwa [List.map_map] at hnames

theorem pairwise_sortMembers (fields : List (LooseText × Json)) :
    (sortMembers fields).Pairwise fun a b => a.1 ≤ b.1 := by
  induction fields with
  | nil => exact .nil
  | cons f fields ih =>
    obtain ⟨name, j⟩ := f
    rw [sortMembers]
    exact pairwise_insertField ih

/-- Of names that are different, the sorted ones increase strictly. -/
theorem increasing_sortMembers {fields : List (LooseText × Json)}
    (h : (fields.map Prod.fst).Nodup) : ((sortMembers fields).map Prod.fst).Pairwise (· < ·) := by
  have hnodup : ((sortMembers fields).map Prod.fst).Nodup :=
    (names_sortMembers fields).nodup_iff.2 h
  have hle : ((sortMembers fields).map Prod.fst).Pairwise (· ≤ ·) :=
    List.pairwise_map.2 (pairwise_sortMembers fields)
  exact hle.imp₂ (fun _ _ hab hne => LooseText.lt_of_le_of_ne hab hne) hnodup

/-- A value is the same as the one with sorted fields. -/
theorem WellFormed.same_sortFields {a : Alphabet} {j : Json} (h : WellFormed a j) :
    Same j j.sortFields := by
  induction h with
  | null | bool | int | float | str => exact .refl _
  | list _ ih =>
    rw [sortFields, sortItems_eq_map]
    refine .list (List.length_map _).symm fun i hi hi' => ?_
    rw [List.getElem_map]
    exact ih _ (List.getElem_mem hi)
  | @object fields hnames _ _ ih =>
    refine .object (names_sortMembers fields).symm fun f hf f' hf' hname => ?_
    obtain ⟨g, hg, rfl⟩ := mem_sortMembers.1 hf'
    obtain rfl : f = g := List.inj_on_of_nodup_map hnames hf hg hname
    exact ih f hf

/-- There is one order in which fields of different names are sorted. -/
theorem sortMembers_eq_of_mem_iff {fields fields' : List (LooseText × Json)}
    (hnodup : (fields.map Prod.fst).Nodup) (hnodup' : (fields'.map Prod.fst).Nodup)
    (h : ∀ f, f ∈ sortMembers fields ↔ f ∈ sortMembers fields') :
    sortMembers fields = sortMembers fields' := by
  have hsorted : ((sortMembers fields).map Prod.fst).Nodup :=
    (names_sortMembers fields).nodup_iff.2 hnodup
  have hsorted' : ((sortMembers fields').map Prod.fst).Nodup :=
    (names_sortMembers fields').nodup_iff.2 hnodup'
  have hperm : (sortMembers fields).Perm (sortMembers fields') :=
    (List.perm_ext_iff_of_nodup hsorted.of_map hsorted'.of_map).2 h
  refine hperm.eq_of_pairwise (fun f g hf hg hfg hgf => ?_) (pairwise_sortMembers fields)
    (pairwise_sortMembers fields')
  exact List.inj_on_of_nodup_map hsorted hf (hperm.mem_iff.2 hg) (LooseText.le_antisymm hfg hgf)

/-- Fields whose partners have the same sorted values are sorted to the same fields. -/
theorem sortMembers_subset {fields fields' : List (LooseText × Json)}
    (hnames : (fields.map Prod.fst).Perm (fields'.map Prod.fst))
    (h : ∀ f ∈ fields, ∀ f' ∈ fields', f.1 = f'.1 → f.2.sortFields = f'.2.sortFields)
    {f : LooseText × Json} (hf : f ∈ sortMembers fields) : f ∈ sortMembers fields' := by
  obtain ⟨g, hg, rfl⟩ := mem_sortMembers.1 hf
  obtain ⟨g', hg', hpartner⟩ := exists_partner hnames hg
  exact mem_sortMembers.2 ⟨g', hg', by rw [hpartner, h g hg g' hg' hpartner.symm]⟩

/-- Values that are the same have the same sorted fields. -/
theorem Same.sortFields_eq {a : Alphabet} {j k : Json} (h : Same j k) (hj : WellFormed a j) :
    j.sortFields = k.sortFields := by
  induction h with
  | refl => rfl
  | list hlength _ ih =>
    cases hj with
    | list hitems =>
      rw [sortFields, sortFields, sortItems_eq_map, sortItems_eq_map]
      congr 1
      refine List.ext_getElem (by simpa using hlength) fun i hi hi' => ?_
      rw [List.length_map] at hi hi'
      rw [List.getElem_map, List.getElem_map]
      exact ih i hi hi' (hitems _ (List.getElem_mem hi))
  | @object fields fields' hnames _ ih =>
    cases hj with
    | object hnodup _ hfields =>
      have hsort : ∀ f ∈ fields, ∀ f' ∈ fields', f.1 = f'.1 →
          f.2.sortFields = f'.2.sortFields := fun f hf f' hf' hname =>
        ih f hf f' hf' hname (hfields f hf)
      have hsorted : sortMembers fields = sortMembers fields' := by
        refine sortMembers_eq_of_mem_iff hnodup (hnames.nodup_iff.1 hnodup) fun f => ⟨?_, ?_⟩
        · exact sortMembers_subset hnames hsort
        · exact sortMembers_subset hnames.symm fun f' hf' f hf hname =>
            (hsort f hf f' hf' hname.symm).symm
      exact congrArg Json.object hsorted

/-- Every object of a value with sorted fields has its names in increasing order. -/
theorem WellFormed.increasing {a : Alphabet} {j : Json} (h : WellFormed a j)
    {fields : List (LooseText × Json)} (hfields : Within (.object fields) j.sortFields) :
    (fields.map Prod.fst).Pairwise (· < ·) := by
  induction h with
  | null | bool | int | float | str => cases hfields
  | list _ ih =>
    rw [sortFields, sortItems_eq_map] at hfields
    cases hfields with
    | item hj hin =>
      obtain ⟨i, hi, rfl⟩ := List.mem_map.1 hj
      exact ih i hi hin
  | @object members hnames _ _ ih =>
    -- the sorted object has to be a variable, or its fields cannot be told from those within it
    generalize hk : (Json.object members).sortFields = k at hfields
    cases hfields with
    | self =>
      obtain rfl : sortMembers members = fields := Json.object.inj hk
      exact increasing_sortMembers hnames
    | item _ _ => cases hk
    | @field fields' f hf hin =>
      obtain rfl : sortMembers members = fields' := Json.object.inj hk
      obtain ⟨g, hg, rfl⟩ := mem_sortMembers.1 hf
      exact ih g hg hin

/-! ### How texts end -/

theorem not_isSpace_of_isDigit {c : Char} (hc : c.isDigit = true) : isSpace (.char c) = false :=
  not_isSpace_of_startsScalar (by rw [startsScalar, hc, Bool.true_or])

theorem not_isSpace_of_all {s : List Char} (h : (s.all fun c => !isSpace (.char c)) = true) :
    ∀ c ∈ s, isSpace (.char c) = false := by
  intro c hc
  simpa using List.all_eq_true.1 h c hc

theorem Fraction.not_isSpace {fraction : Option (List Char)} {ft : List Char}
    (h : Fraction fraction ft) : ∀ c ∈ ft, isSpace (.char c) = false := by
  cases h with
  | absent => nofun
  | present hds _ =>
    exact List.forall_mem_cons.2 ⟨rfl, fun c hc => not_isSpace_of_isDigit (hds c hc)⟩

theorem Exponent.not_isSpace {exponent : Option Int} {et : List Char}
    (h : Exponent exponent et) : ∀ c ∈ et, isSpace (.char c) = false := by
  cases h with
  | absent => nofun
  | plain he hds _ =>
    refine List.forall_mem_cons.2 ⟨?_, fun c hc => not_isSpace_of_isDigit (hds c hc)⟩
    rcases he with rfl | rfl <;> rfl
  | plus he hds _ | minus he hds _ =>
    refine List.forall_mem_cons.2 ⟨?_, List.forall_mem_cons.2 ⟨rfl, fun c hc =>
      not_isSpace_of_isDigit (hds c hc)⟩⟩
    rcases he with rfl | rfl <;> rfl

theorem not_isSpace_of_mem_sign {negative : Bool} :
    ∀ c ∈ sign negative, isSpace (.char c) = false := by
  cases negative
  · nofun
  · exact List.forall_mem_singleton.2 rfl

/-- There are no spaces in a word or a number. -/
theorem Scalar.not_isSpace {s : List Char} {j : Json} (h : Scalar s j) :
    ∀ c ∈ s, isSpace (.char c) = false := by
  cases h with
  | null | yes | no | nan | infinity | minusInfinity =>
    exact not_isSpace_of_all rfl
  | number hwhole hfraction hexponent =>
    intro c hc
    simp only [List.mem_append] at hc
    rcases hc with hc | hc | hc | hc
    · exact not_isSpace_of_mem_sign c hc
    · exact not_isSpace_of_isDigit (hwhole.all c hc)
    · exact hfraction.not_isSpace c hc
    · exact hexponent.not_isSpace c hc

/-- A text of the grammar does not end in a space. -/
theorem Writes.not_isSpace_getLast? {s : List Point} {j : Json} (h : Writes s j) :
    ∀ p ∈ s.getLast?, isSpace p = false := by
  have hbracket : ∀ (p q : Point) (t : List Point), isSpace q = false →
      ∀ r ∈ (p :: (t ++ [q])).getLast?, isSpace r = false := by
    intro p q t hq r hr
    rw [← List.cons_append, List.getLast?_concat] at hr
    cases hr
    exact hq
  cases h with
  | scalar h =>
    intro p hp
    obtain ⟨c, hc, rfl⟩ := List.mem_map.1 (List.mem_of_getLast? hp)
    exact h.not_isSpace c hc
  | text _ | noItems _ | noMembers _ => exact hbracket _ _ _ rfl
  | items _ _ | members _ _ =>
    rw [← List.append_assoc]
    exact hbracket _ _ _ rfl

/-! ### The canonical text -/

/-- What is asked of a canonical text, where `bound` lists and objects may stand in each other. -/
structure IsCanonical (bound : Nat) (j : Json) (text : LooseText) : Prop where
  /-- Behind the text of a value, which does not end in one, stands a line feed. A reader who lets
  as many lists and objects stand in each other reads the text as that value, which is the same as
  the given one, and whose objects stand there with their names in increasing order. -/
  reads : ∃ s v, text.points = s ++ [.char '\n'] ∧ s.getLast? ≠ some (.char '\n') ∧ Writes s v ∧
    (∀ limit, j.height ≤ limit → parse limit text = .ok v) ∧
    Same j v ∧ ∀ fields, Within (.object fields) v → (fields.map Prod.fst).Pairwise (· < ·)
  /-- Exactly the values that are the same have this text. -/
  alike : ∀ k, WellFormed .unicode k → (k.canonical bound = .ok text ↔ Same j k)

theorem canonical_eq_ok_iff {bound : Nat} {j : Json} {text : LooseText} :
    j.canonical bound = .ok text ↔ j.sortFields.limit? bound 0 = none ∧
      ⟨write .unicode 0 j.sortFields ++ [.char '\n']⟩ = text := by
  rw [canonical]
  cases j.sortFields.limit? bound 0 with
  | none => simp
  | some e => simp

namespace WellFormed

variable {j k : Json}

/-- Sorting the fields changes nothing about what is too much. -/
theorem limit?_sortFields_iff (h : WellFormed .unicode j) {bound : Nat} :
    j.sortFields.limit? bound 0 = none ↔ WholesWritable j ∧ j.height ≤ bound := by
  have hsort : j.sortFields.limit? bound 0 = none ↔ j.limit? bound 0 = none :=
    ⟨h.same_sortFields.symm.limit?_eq_none, h.same_sortFields.limit?_eq_none⟩
  rw [hsort, h.limit?_eq_none_iff, Nat.zero_add]
  refine and_congr_right fun _ => ⟨fun hheight => ?_, fun hheight _ => hheight⟩
  rcases Nat.eq_zero_or_pos j.height with hzero | hpos
  · rw [hzero]
    exact Nat.zero_le _
  · exact hheight hpos

/-- The canonical text is read as the value with sorted fields. -/
theorem parse_canonical (h : WellFormed .unicode j) {limit : Nat} (hwholes : WholesWritable j)
    (hheight : j.height ≤ limit) :
    parse limit ⟨write .unicode 0 j.sortFields ++ [.char '\n']⟩ = .ok j.sortFields :=
  (h.same_sortFields.wellFormed h).parse_write (h.limit?_sortFields_iff.2 ⟨hwholes, hheight⟩)
    (List.forall_mem_singleton.2 rfl)

/-- Values have one canonical text exactly if they are the same. -/
theorem canonical_eq_iff (hj : WellFormed .unicode j) (hk : WellFormed .unicode k) {bound : Nat}
    (hlimit : j.sortFields.limit? bound 0 = none) :
    k.canonical bound = .ok ⟨write .unicode 0 j.sortFields ++ [.char '\n']⟩ ↔ Same j k := by
  rw [canonical_eq_ok_iff]
  constructor
  · rintro ⟨hlimit', htext⟩
    -- both are read from the one text
    obtain ⟨hwholes, hheight⟩ := hj.limit?_sortFields_iff.1 hlimit
    obtain ⟨hwholes', hheight'⟩ := hk.limit?_sortFields_iff.1 hlimit'
    have hread := hk.parse_canonical hwholes' hheight'
    rw [htext, hj.parse_canonical hwholes hheight, Except.ok.injEq] at hread
    have hsame := hk.same_sortFields
    rw [← hread] at hsame
    exact hj.same_sortFields.trans hsame.symm
  · intro hsame
    rw [← hsame.sortFields_eq hj]
    exact ⟨hlimit, rfl⟩

theorem isCanonical (h : WellFormed .unicode j) {bound : Nat} {text : LooseText}
    (htext : j.canonical bound = .ok text) : IsCanonical bound j text := by
  obtain ⟨hlimit, rfl⟩ := canonical_eq_ok_iff.1 htext
  have hwrites := (h.same_sortFields.wellFormed h).writes 0
  refine ⟨⟨_, j.sortFields, rfl, fun hlast => ?_, hwrites, fun limit hheight => ?_,
    h.same_sortFields, fun fields hfields => h.increasing hfields⟩,
    fun k hk => h.canonical_eq_iff hk hlimit⟩
  · have hspace := hwrites.not_isSpace_getLast? _ hlast
    revert hspace
    decide
  · exact h.parse_canonical (h.limit?_sortFields_iff.1 hlimit).1 hheight

/-- A value whose whole numbers are not too long has a canonical text as long as it is not too
high. -/
theorem exists_canonical (h : WellFormed .unicode j) {bound : Nat} (hwholes : WholesWritable j)
    (hheight : j.height ≤ bound) : ∃ text, j.canonical bound = .ok text :=
  ⟨_, canonical_eq_ok_iff.2 ⟨h.limit?_sortFields_iff.2 ⟨hwholes, hheight⟩, rfl⟩⟩

/-- A value with a whole number that is too long has none, wherever the bound is. -/
theorem wholesWritable_of_canonical (h : WellFormed .unicode j) {bound : Nat}
    (htext : ∃ text, j.canonical bound = .ok text) : WholesWritable j := by
  obtain ⟨text, htext⟩ := htext
  exact (h.limit?_sortFields_iff.1 (canonical_eq_ok_iff.1 htext).1).1

end WellFormed

/-! ### Reports -/

/-- A value as a reader gives it, in which at most so many lists and objects stand in each other. -/
structure UpTo (n : Nat) (j : Json) : Prop where
  /-- It is as a reader gives it. -/
  wellFormed : WellFormed .unicode j
  /-- It is not higher. -/
  height_le : j.height ≤ n

namespace UpTo

variable {n : Nat}

theorem null : UpTo n .null := ⟨.null, Nat.zero_le n⟩

theorem bool (b : Bool) : UpTo n (.bool b) := ⟨.bool b, Nat.zero_le n⟩

theorem int (i : Int) : UpTo n (.int i) := ⟨.int i, Nat.zero_le n⟩

theorem float (x : Binary64) : UpTo n (.float x) := ⟨.float x, Nat.zero_le n⟩

theorem str (t : LooseText) : UpTo n (.str t) := ⟨.str (keeps_unicode t), Nat.zero_le n⟩

theorem list_map {α : Type} {toJson : α → Json} (h : ∀ x, UpTo n (toJson x)) (xs : List α) :
    UpTo (n + 1) (.list (xs.map toJson)) := by
  have hitems : ∀ j ∈ xs.map toJson, UpTo n j := by
    intro j hj
    obtain ⟨x, -, rfl⟩ := List.mem_map.1 hj
    exact h x
  refine ⟨.list fun j hj => (hitems j hj).wellFormed, ?_⟩
  rw [height, Nat.add_le_add_iff_right, heightItems_le_iff]
  exact fun j hj => (hitems j hj).height_le

/-- An object whose names are different strings. -/
theorem named {fields : List (LooseText × Json)} (names : List String)
    (hfields : fields.map Prod.fst = names.map .ofString) (hnames : names.Nodup)
    (hvalues : ∀ f ∈ fields, UpTo n f.2) : UpTo (n + 1) (.object fields) := by
  refine ⟨.named names hfields hnames fun f hf => (hvalues f hf).wellFormed, ?_⟩
  rw [height, Nat.add_le_add_iff_right, heightFields_le_iff]
  exact fun f hf => (hvalues f hf).height_le

end UpTo

end LlmAudit.Json

namespace LlmAudit.Report

open Json (UpTo)

theorem upTo_snippetJson (l : SnippetLine) : UpTo 1 (snippetJson l) := by
  refine .named ["line_number", "text", "highlight"] rfl (by decide) ?_
  simp only [List.forall_mem_cons]
  exact ⟨.int _, .str _, .bool _, nofun⟩

theorem upTo_occurrenceJson (o : Occurrence) : UpTo 3 (occurrenceJson o) := by
  refine .named ["file", "line", "confidence", "snippet"] rfl (by decide) ?_
  simp only [List.forall_mem_cons]
  exact ⟨.str _, .int _, .float _, .list_map upTo_snippetJson _, nofun⟩

theorem upTo_groupJson (g : FindingGroup) : UpTo 5 (groupJson g) := by
  refine .named ["rule_id", "title", "severity", "confidence_min", "confidence_max", "summary",
    "description", "recommendation", "occurrences"] rfl (by decide) ?_
  simp only [List.forall_mem_cons]
  exact ⟨.str _, .str _, .str _, .float _, .float _, .str _, .str _, .str _,
    .list_map upTo_occurrenceJson _, nofun⟩

theorem upTo_findingJson (f : Finding) : UpTo 5 (findingJson f) := by
  refine .named ["rule_id", "title", "severity", "file", "line", "summary", "description",
    "recommendation", "confidence"] rfl (by decide) ?_
  simp only [List.forall_mem_cons]
  exact ⟨.str _, .str _, .str _, .str _, .int _, .str _, .str _, .str _, .float _, nofun⟩

theorem upTo_ignoredJson (i : IgnoredFinding) : UpTo 5 (ignoredJson i) := by
  refine .named ["rule_id", "title", "severity", "file", "line", "reason",
    "annotation_line"] rfl (by decide) ?_
  simp only [List.forall_mem_cons]
  exact ⟨.str _, .str _, .str _, .str _, .int _, .str _, .int _, nofun⟩

theorem upTo_comparisonJson (c : Baseline.Comparison) : UpTo 6 (comparisonJson c) := by
  refine .named ["created", "baseline_path", "baseline_count", "current_count",
    "new_or_regressed_count", "unchanged_count"] rfl (by decide) ?_
  simp only [List.forall_mem_cons]
  exact ⟨.bool _, .str _, .int _, .int _, .int _, .int _, nofun⟩

theorem upTo_metaJson (m : ReportMeta) : UpTo 6 (metaJson m) := by
  refine .named ["tool", "version", "scanned_at", "scan_target"] rfl (by decide) ?_
  simp only [List.forall_mem_cons]
  exact ⟨.str _, .str _, .str _, .str _, nofun⟩

theorem upTo_summaryJson (s : ReportSummary) : UpTo 6 (summaryJson s) := by
  have hcounts : UpTo 5 (.object (Severity.all.map fun v => (v.name, .int (s.count v)))) := by
    refine .named (Severity.all.map Severity.name) rfl (by decide) fun f hf => ?_
    obtain ⟨v, -, rfl⟩ := List.mem_map.1 hf
    exact .int _
  refine .named ["total", "by_severity"] rfl (by decide) ?_
  simp only [List.forall_mem_cons]
  exact ⟨.int _, hcounts, nofun⟩

/-- A report is written as a value with different names in each object, and not too high. -/
theorem upTo_toJson (r : Report) : UpTo 7 r.toJson := by
  refine .named ["meta", "summary", "baseline_diff", "findings", "grouped_findings",
    "informational", "ignored_findings", "scanned_files"] rfl (by decide) ?_
  simp only [List.forall_mem_cons]
  refine ⟨upTo_metaJson _, upTo_summaryJson _, ?_, .list_map upTo_findingJson _,
    .list_map upTo_groupJson _, .list_map upTo_groupJson _, .list_map upTo_ignoredJson _,
    .list_map (fun f => .str (.ofString f)) _, nofun⟩
  cases r.baseline with
  | none => exact .null
  | some c => exact upTo_comparisonJson c

end LlmAudit.Report

namespace LlmAudit.Json

/-- A value whose whole numbers are not too long has a canonical text as long as not too many lists
and objects stand in each other, and one with a whole number that is too long has none. There are
never too many lists and objects in a report. The text loses nothing, and it is the text of the same
values and of no other ones. -/
theorem canonical_lossless :
    (∀ (bound : Nat) (j : Json), WellFormed .unicode j →
      (WholesWritable j → j.height ≤ bound → ∃ text, j.canonical bound = .ok text) ∧
        ((∃ text, j.canonical bound = .ok text) → WholesWritable j) ∧
        ∀ text, j.canonical bound = .ok text → IsCanonical bound j text) ∧
    ∀ (limit : DepthLimit) (r : Report),
      ((∃ text, r.toJson.canonical limit.count = .ok text) ↔ WholesWritable r.toJson) ∧
        ∀ text, r.toJson.canonical limit.count = .ok text →
          IsCanonical limit.count r.toJson text := by
  refine ⟨fun bound j hj => ⟨hj.exists_canonical, hj.wholesWritable_of_canonical, fun text =>
    hj.isCanonical⟩, fun limit r => ?_⟩
  obtain ⟨hwellFormed, hheight⟩ := r.upTo_toJson
  exact ⟨⟨hwellFormed.wholesWritable_of_canonical, fun hwholes =>
    hwellFormed.exists_canonical hwholes (hheight.trans limit.room)⟩, fun text =>
    hwellFormed.isCanonical⟩

/-- A value with objects in each other. -/
def nested : Json :=
  .object [(.ofString "name", .str (.ofString "\"é\\😀\n")),
    (.ofString "list", .list [.object [(.ofString "b", .int (-7)), (.ofString "a", .float .one)],
      .list [], .object []])]

/-- The value with the fields of both objects in another order. -/
def shuffled : Json :=
  .object [
    (.ofString "list", .list [.object [(.ofString "a", .float .one), (.ofString "b", .int (-7))],
      .list [], .object []]),
    (.ofString "name", .str (.ofString "\"é\\😀\n"))]

/-- The canonical text of both. -/
def nestedText : String :=
  "\x7b\n  \"list\": [\n    \x7b\n      \"a\": 1.0,\n      \"b\": -7\n    \x7d,\n    [],\n" ++
    "    \x7b\x7d\n  ],\n  \"name\": \"\\\"é\\\\😀\\n\"\n\x7d\n"

theorem wellFormed_nested : WellFormed .unicode nested := by
  have hinner :
      UpTo 1 (.object [(.ofString "b", .int (-7)), (.ofString "a", .float .one)]) := by
    refine .named ["b", "a"] rfl (by decide) ?_
    simp only [List.forall_mem_cons]
    exact ⟨.int _, .float _, nofun⟩
  have hlist : WellFormed .unicode
      (.list [.object [(.ofString "b", .int (-7)), (.ofString "a", .float .one)], .list [],
        .object []]) := by
    refine .list ?_
    simp only [List.forall_mem_cons]
    exact ⟨hinner.wellFormed, .list nofun, .object List.nodup_nil nofun nofun, nofun⟩
  refine .named ["name", "list"] rfl (by decide) ?_
  simp only [List.forall_mem_cons]
  exact ⟨.str (keeps_unicode _), hlist, nofun⟩

theorem sortFields_nested : nested.sortFields = shuffled := by
  rfl

/-- The text is the same wherever the bound is, from the height of the value on. -/
theorem canonical_nested : nested.canonical 3 = .ok (.ofString nestedText) := by
  rw [canonical_eq_ok_iff, sortFields_nested]
  exact ⟨by decide +kernel, by decide +kernel⟩

/-- A finding on a line. -/
def onLine (line : Int) : Finding :=
  ⟨"AI003", "Call before sign-in", .low, "app.ts", line, .ofString "", "", "", .none⟩

/-- The report of a finding on a line. -/
def flagged (line : Int) : Report where
  about := .ofTarget "now" "/app"
  summary := Report.summarize [onLine line]
  baseline := none
  findings := [onLine line]
  issues := [(FindingGroup.opened (onLine line)).note ⟨"app.ts", line, .none, []⟩]
  inventory := []
  ignored := []
  scannedFiles := ["app.ts"]

theorem build_flagged (line : Int) :
    Report.build (.ofTarget "now" "/app") none [onLine line] [] none ["app.ts"] =
      .ok (flagged line) := by
  have hinventory : (onLine line).isInformational = false := by
    change isInventoryRule "AI003" = false
    decide
  have hissues : (Report.groups [onLine line]).run (.new none) =
      .ok ((flagged line).issues, .new none) :=
    congrArg (fun groups => Except.ok (groups, Snippet.Reader.new none))
      (List.mergeSort_singleton _)
  have hnone : (Report.groups []).run (.new none) = .ok ([], .new none) :=
    congrArg (fun groups => Except.ok (groups, Snippet.Reader.new none)) List.mergeSort_nil
  simp only [Report.build, List.filter_cons, hinventory, List.filter_nil, Bool.not_false, if_true,
    Bool.false_eq_true, if_false, hissues]
  change (do
    let inventory ← (Report.groups []).run (.new none)
    pure { flagged line with inventory := inventory.1 }) = _
  rw [hnone]
  rfl

/-- Fields in another order give the same text, at every depth, and a report has such a text. -/
theorem canonical_shuffled :
    WellFormed .unicode nested ∧ nested.canonical 3 = .ok (.ofString nestedText) ∧
      IsCanonical 3 nested (.ofString nestedText) ∧
      shuffled.canonical 3 = .ok (.ofString nestedText) ∧
      ∃ text, (flagged 3).toJson.canonical 7 = .ok text ∧
        IsCanonical 7 (flagged 3).toJson text := by
  obtain ⟨hvalues, hreports⟩ := canonical_lossless
  have hnested : IsCanonical 3 nested (.ofString nestedText) :=
    (hvalues 3 nested wellFormed_nested).2.2 (.ofString nestedText) canonical_nested
  have hsame : Same nested shuffled := sortFields_nested ▸ wellFormed_nested.same_sortFields
  have hshuffled := (hnested.alike shuffled (hsame.wellFormed wellFormed_nested)).2 hsame
  have hlimit : (flagged 3).toJson.limit? 7 0 = none := by decide +kernel
  have hwholes := ((flagged 3).upTo_toJson.wellFormed.limit?_eq_none_iff.1 hlimit).1
  obtain ⟨text, htext⟩ := (hreports ⟨7, Nat.le_refl 7⟩ (flagged 3)).1.2 hwholes
  exact ⟨wellFormed_nested, canonical_nested, hnested, hshuffled, text, htext,
    (hreports ⟨7, Nat.le_refl 7⟩ (flagged 3)).2 text htext⟩

/-- The report of a finding whose line has more digits than can be written has no text. -/
theorem long_line_has_no_text :
    Report.build (.ofTarget "now" "/app") none [onLine (10 ^ digitLimit)] [] none ["app.ts"] =
        .ok (flagged (10 ^ digitLimit)) ∧
      ∀ bound, ¬∃ text, (flagged (10 ^ digitLimit)).toJson.canonical bound = .ok text := by
  refine ⟨build_flagged _, fun bound htext => ?_⟩
  have hwholes :=
    (flagged (10 ^ digitLimit)).upTo_toJson.wellFormed.wholesWritable_of_canonical htext
  rw [Report.toJson, wholesWritable_object_iff] at hwholes
  simp only [List.forall_mem_cons] at hwholes
  have hfinding := wholesWritable_list_iff.1 hwholes.2.2.2.1 _ List.mem_cons_self
  rw [Report.findingJson, wholesWritable_object_iff] at hfinding
  simp only [List.forall_mem_cons] at hfinding
  have hline := wholesWritable_int_iff.1 hfinding.2.2.2.2.1
  have hlong := not_isWritable_pow (Nat.le_refl digitLimit)
  exact absurd (hline.symm.trans hlong) (by decide)

end LlmAudit.Json
