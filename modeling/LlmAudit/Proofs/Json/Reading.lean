import LlmAudit.Proofs.Json.Lexeme

/-!
# The reader of JSON follows its grammar

What is read is what the grammar says, and all of it (`parse_eq_ok_iff`). A text that is refused as
too much runs into a limit of the reader (`parse_eq_limit_iff`), and every other refused text writes
no value (`parse_eq_malformed_iff`).

One direction is by induction on the grammar: each text of it is at least as long as the recursion
of the reader over it is deep, so the reader does not run out of fuel (`Writes.read`,
`Overruns.read`). The other is by induction on the fuel, for the three functions of the reader
together; what is behind the reader in a list or an object is kept as the items or fields that it
passed (`readsAs_readValue`).

## Main statements

* `Json.parse_eq_ok_iff`, `Json.parse_eq_limit_iff`, `Json.parse_eq_malformed_iff`
-/

namespace LlmAudit.Json

/-! ### Spaces -/

theorem Spaces.skipSpaces_append {b : List Point} (h : Spaces b) (s : List Point) :
    skipSpaces (b ++ s) = skipSpaces s :=
  List.dropWhile_append_of_pos h

theorem skipSpaces_cons {p : Point} (hp : isSpace p = false) (s : List Point) :
    skipSpaces (p :: s) = p :: s := by
  rw [skipSpaces, List.dropWhile_cons_of_neg (by rw [hp]; decide)]

theorem exists_spaces (s : List Point) : ∃ b, Spaces b ∧ s = b ++ skipSpaces s :=
  ⟨s.takeWhile isSpace, fun _ hc => List.mem_takeWhile_imp hc,
    List.takeWhile_append_dropWhile.symm⟩

theorem stops_of_isSpace {p : Point} (hp : isSpace p = true) (s : List Point) : Stops (p :: s) := by
  rintro c ⟨⟩
  simp only [isSpace, Bool.or_eq_true, beq_iff_eq, Point.char.injEq] at hp
  rcases hp with ((rfl | rfl) | rfl) | rfl <;> decide

/-- Spaces end a number, and so does what ends it without them. -/
theorem Spaces.stops {b rest : List Point} (h : Spaces b) (hrest : Stops rest) :
    Stops (b ++ rest) := by
  cases b with
  | nil => exact hrest
  | cons p b => exact stops_of_isSpace (h p List.mem_cons_self) (b ++ rest)

theorem stops_nil : Stops [] := by
  rintro c ⟨⟩

theorem stops_comma (s : List Point) : Stops (.char ',' :: s) := by
  rintro c ⟨⟩
  decide

theorem stops_bracket (s : List Point) : Stops (.char ']' :: s) := by
  rintro c ⟨⟩
  decide

theorem stops_brace (s : List Point) : Stops (.char '\x7d' :: s) := by
  rintro c ⟨⟩
  decide

variable {bound : Nat}

/-! ### What values and limits do along a list -/

theorem mergedItems_eq_map (items : List Json) : mergedItems items = items.map merged := by
  induction items with
  | nil => rfl
  | cons j items ih => rw [mergedItems, ih, List.map_cons]

theorem mergedFields_append (fields xs ys : List (LooseText × Json)) :
    mergedFields fields (xs ++ ys) = mergedFields (mergedFields fields xs) ys := by
  induction xs generalizing fields with
  | nil => rfl
  | cons x xs ih =>
    obtain ⟨name, j⟩ := x
    rw [List.cons_append, mergedFields, ih, mergedFields]

theorem limitItems?_append (depth : Nat) (xs ys : List Json) :
    limitItems? bound depth (xs ++ ys) =
      (limitItems? bound depth xs).or (limitItems? bound depth ys) := by
  induction xs with
  | nil => rfl
  | cons x xs ih => rw [List.cons_append, limitItems?, ih, limitItems?, Option.or_assoc]

theorem limitFields?_append (depth : Nat) (xs ys : List (LooseText × Json)) :
    limitFields? bound depth (xs ++ ys) =
      (limitFields? bound depth xs).or (limitFields? bound depth ys) := by
  induction xs with
  | nil => rfl
  | cons x xs ih =>
    obtain ⟨name, j⟩ := x
    rw [List.cons_append, limitFields?, ih, limitFields?, Option.or_assoc]

theorem limitItems?_singleton (depth : Nat) (j : Json) :
    limitItems? bound depth [j] = limit? bound depth j := by
  rw [limitItems?, limitItems?, Option.or_none]

theorem limitFields?_singleton (depth : Nat) (f : LooseText × Json) :
    limitFields? bound depth [f] = limit? bound depth f.2 := by
  obtain ⟨name, j⟩ := f
  rw [limitFields?, limitFields?, Option.or_none]

theorem listed_append (xs ys : List Item) : listed (xs ++ ys) = listed xs ++ listed ys :=
  List.flatMap_append

theorem gathered_append (xs ys : List Member) : gathered (xs ++ ys) = gathered xs ++ gathered ys :=
  List.flatMap_append

theorem length_le_length_listed (front : List Item) : front.length ≤ (listed front).length := by
  induction front with
  | nil => exact Nat.le_refl 0
  | cons i front ih =>
    simp only [listed, List.flatMap_cons, List.length_append, List.length_cons] at ih ⊢
    omega

theorem length_le_length_gathered (front : List Member) :
    front.length ≤ (gathered front).length := by
  induction front with
  | nil => exact Nat.le_refl 0
  | cons m front ih =>
    simp only [gathered, List.flatMap_cons, List.length_append, List.length_cons] at ih ⊢
    omega

/-! ### How texts begin -/

/-- A text begins neither with a space nor like the end of a list. -/
def Opens (s : List Point) : Prop :=
  ∃ p t, s = p :: t ∧ isSpace p = false ∧ p ≠ .char ']'

theorem Opens.append {s : List Point} (h : Opens s) (t : List Point) : Opens (s ++ t) := by
  obtain ⟨p, r, rfl, hp⟩ := h
  exact ⟨p, r ++ t, rfl, hp⟩

theorem Opens.skipSpaces_eq {s : List Point} (h : Opens s) : skipSpaces s = s := by
  obtain ⟨p, t, rfl, hp, -⟩ := h
  exact skipSpaces_cons hp t

theorem Opens.ne_bracket {s : List Point} (h : Opens s) (r : List Point) : s ≠ .char ']' :: r := by
  obtain ⟨p, t, rfl, -, hp⟩ := h
  rintro ⟨⟩
  exact hp rfl

theorem Opens.one_le_length {s : List Point} (h : Opens s) : 1 ≤ s.length := by
  obtain ⟨p, t, rfl, -⟩ := h
  exact Nat.succ_le_succ (Nat.zero_le _)

/-- The characters with which a word or a number starts. -/
def startsScalar (c : Char) : Bool :=
  c.isDigit || ['-', 'N', 'I', 'n', 't', 'f'].contains c

theorem not_isSpace_of_startsScalar {c : Char} (hc : startsScalar c = true) :
    isSpace (.char c) = false := by
  simp only [isSpace, Bool.or_eq_false_iff, beq_eq_false_iff_ne, ne_eq, Point.char.injEq]
  exact ⟨⟨⟨ne_of_test hc rfl, ne_of_test hc rfl⟩, ne_of_test hc rfl⟩, ne_of_test hc rfl⟩

theorem opens_of_startsScalar {c : Char} (hc : startsScalar c = true) (t : List Point) :
    Opens (.char c :: t) :=
  ⟨.char c, t, rfl, not_isSpace_of_startsScalar hc,
    fun h => ne_of_test hc rfl (Point.char.inj h)⟩

theorem startsScalar_sign {whole : List Char} (h : WholeDigits whole) (negative : Bool)
    (s : List Char) :
    ∃ c t, sign negative ++ (whole ++ s) = c :: t ∧ startsScalar c = true := by
  cases negative with
  | true => exact ⟨'-', _, rfl, rfl⟩
  | false =>
    obtain ⟨d, ds, rfl, hd⟩ := h.exists_cons
    exact ⟨d, _, rfl, by rw [startsScalar, hd, Bool.true_or]⟩

theorem Scalar.exists_startsScalar {s : List Char} {j : Json} (h : Scalar s j) :
    ∃ c t, s = c :: t ∧ startsScalar c = true := by
  cases h with
  | number hwhole _ _ => exact startsScalar_sign hwhole _ _
  | null => exact ⟨_, _, rfl, rfl⟩
  | yes => exact ⟨_, _, rfl, rfl⟩
  | no => exact ⟨_, _, rfl, rfl⟩
  | nan => exact ⟨_, _, rfl, rfl⟩
  | infinity => exact ⟨_, _, rfl, rfl⟩
  | minusInfinity => exact ⟨_, _, rfl, rfl⟩

theorem Writes.opens {s : List Point} {raw : Json} (h : Writes s raw) : Opens s := by
  cases h with
  | scalar h =>
    obtain ⟨c, t, rfl, hc⟩ := h.exists_startsScalar
    exact opens_of_startsScalar hc (t.map .char)
  | text _ => exact ⟨.char '"', _, rfl, rfl, by decide⟩
  | noItems _ => exact ⟨.char '[', _, rfl, rfl, by decide⟩
  | items _ _ => exact ⟨.char '[', _, rfl, rfl, by decide⟩
  | noMembers _ => exact ⟨.char '\x7b', _, rfl, rfl, by decide⟩
  | members _ _ => exact ⟨.char '\x7b', _, rfl, rfl, by decide⟩

theorem Overruns.opens {depth : Nat} {s : List Point} {e : Limit} (h : Overruns bound depth s e) :
    Opens s := by
  cases h with
  | digits hwhole _ _ =>
    obtain ⟨c, t, hs, hc⟩ := startsScalar_sign hwhole _ []
    rw [List.append_nil] at hs
    rw [hs]
    exact opens_of_startsScalar hc (t.map .char ++ _)
  | list _ => exact ⟨.char '[', _, rfl, rfl, by decide⟩
  | object _ => exact ⟨.char '\x7b', _, rfl, rfl, by decide⟩
  | item _ _ _ _ _ _ => exact ⟨.char '[', _, rfl, rfl, by decide⟩
  | member _ _ _ _ _ _ _ _ _ => exact ⟨.char '\x7b', _, rfl, rfl, by decide⟩

/-! ### The branches of the reader -/

section Branches

-- The equations of the three readers are made here, once, and not by each proof that opens one.
attribute [local simp] readValue readItems readFields

theorem readValue_of_startsScalar {c : Char} (hc : startsScalar c = true) (fuel depth : Nat)
    (s : List Point) :
    readValue bound (fuel + 1) depth (.char c :: s) = readBare (.char c :: s) := by
  have hbrace : Point.char c ≠ .char '\x7b' := fun h => ne_of_test hc rfl (Point.char.inj h)
  rw [readValue, if_neg hbrace]
  · exact fun h => ne_of_test hc rfl (Point.char.inj h)
  · exact fun h => ne_of_test hc rfl (Point.char.inj h)

theorem readValue_quote (fuel depth : Nat) (s : List Point) :
    readValue bound (fuel + 1) depth (.char '"' :: s) =
      (readText fuel [] s).elim (.error .malformed) fun p => .ok (.str p.1, p.2) := by
  rw [readValue]
  cases readText fuel [] s <;> rfl

theorem readValue_bracket_of_le {depth : Nat} (h : bound ≤ depth) (fuel : Nat)
    (s : List Point) : readValue bound (fuel + 1) depth (.char '[' :: s) = .error .tooDeep := by
  rw [readValue, if_pos h]

theorem readValue_noItems {depth : Nat} (h : depth < bound) {s r : List Point}
    (hs : skipSpaces s = .char ']' :: r) (fuel : Nat) :
    readValue bound (fuel + 1) depth (.char '[' :: s) = .ok (.list [], r) := by
  rw [readValue, if_neg (Nat.not_le.2 h), hs]
  rfl

theorem readValue_items {depth : Nat} (h : depth < bound) {s : List Point}
    (hs : ∀ r, skipSpaces s ≠ .char ']' :: r) (fuel : Nat) :
    readValue bound (fuel + 1) depth (.char '[' :: s) =
      readItems bound fuel (depth + 1) [] (skipSpaces s) := by
  rw [readValue, if_neg (Nat.not_le.2 h)]
  split
  · rename_i r hr
    exact absurd hr (hs r)
  · rfl

theorem readValue_brace_of_le {depth : Nat} (h : bound ≤ depth) (fuel : Nat)
    (s : List Point) : readValue bound (fuel + 1) depth (.char '\x7b' :: s) = .error .tooDeep := by
  rw [readValue, if_pos rfl, if_pos h]
  · decide
  · decide

theorem readValue_noMembers {depth : Nat} (h : depth < bound) {s r : List Point}
    (hs : skipSpaces s = .char '\x7d' :: r) (fuel : Nat) :
    readValue bound (fuel + 1) depth (.char '\x7b' :: s) = .ok (.object [], r) := by
  rw [readValue, if_pos rfl, if_neg (Nat.not_le.2 h), hs]
  · exact if_pos rfl
  · decide
  · decide

theorem readFields_nil (fuel depth : Nat) (fields : List (LooseText × Json)) :
    readFields bound fuel depth fields [] = .error .malformed := by
  cases fuel <;> rfl

theorem readValue_members {depth : Nat} (h : depth < bound) {s : List Point}
    (hs : ∀ r, skipSpaces s ≠ .char '\x7d' :: r) (fuel : Nat) :
    readValue bound (fuel + 1) depth (.char '\x7b' :: s) =
      readFields bound fuel (depth + 1) [] (skipSpaces s) := by
  rw [readValue, if_pos rfl, if_neg (Nat.not_le.2 h)]
  · cases hskip : skipSpaces s with
    | nil => exact (readFields_nil _ _ _).symm
    | cons q r =>
      have hq : q ≠ .char '\x7d' := by
        rintro rfl
        exact hs r hskip
      exact if_neg hq
  · decide
  · decide

/-- What follows an item of a list: the next item, or the closing bracket. -/
def afterItem (bound fuel depth : Nat) (items : List Json) :
    List Point → Except ParseError (Json × List Point)
  | .char ',' :: r => readItems bound fuel depth items (skipSpaces r)
  | .char ']' :: r => .ok (.list items.reverse, r)
  | _ => .error .malformed

theorem readItems_succ (fuel depth : Nat) (items : List Json) (s : List Point) :
    readItems bound (fuel + 1) depth items s =
      (readValue bound fuel depth s).bind fun p =>
        afterItem bound fuel depth (p.1 :: items) (skipSpaces p.2) := by
  rw [readItems]
  cases readValue bound fuel depth s with
  | error e => rfl
  | ok p => rfl

/-- What follows a field of an object: the next field, or the closing brace. -/
def afterField (bound fuel depth : Nat) (fields : List (LooseText × Json)) :
    List Point → Except ParseError (Json × List Point)
  | .char ',' :: r => readFields bound fuel depth fields (skipSpaces r)
  | p :: r => if p = .char '\x7d' then .ok (.object fields, r) else .error .malformed
  | [] => .error .malformed

/-- The reader goes through a name and its colon to the value of a field. -/
theorem readFields_of_quoted {name after : List Point} {pieces : List Piece} {fuel : Nat}
    (hname : Quoted name pieces) (hafter : Spaces after) (hfuel : name.length < fuel) (depth : Nat)
    (fields : List (LooseText × Json)) (s : List Point) :
    readFields bound (fuel + 1) depth fields
        (.char '"' :: (name ++ .char '"' :: (after ++ .char ':' :: s))) =
      (readValue bound fuel depth (skipSpaces s)).bind fun p =>
        afterField bound fuel depth (putField fields (spelled pieces) p.1) (skipSpaces p.2) := by
  rw [readFields, readText_of_quoted hname hfuel]
  dsimp only
  rw [hafter.skipSpaces_append, skipSpaces_cons rfl]
  split
  · rename_i r heq
    rw [← (List.cons.inj heq).2]
    cases readValue bound fuel depth (skipSpaces s) with
    | error e => rfl
    | ok p => rfl
  · rename_i hcolon
    exact absurd rfl (hcolon s)

end Branches

/-! ### Texts of the grammar are read -/

/-- A text is read as a value or as its limit, whatever follows that ends a number. -/
def Readout (s : List Point) (raw : Json) : Prop :=
  ∀ ⦃bound depth fuel : Nat⦄ ⦃rest : List Point⦄, s.length ≤ fuel → Stops rest →
    readValue bound fuel depth (s ++ rest) = raw.taken bound depth rest

/-- An item whose text is read. -/
structure Item.Legible (i : Item) : Prop where
  /-- Spaces stand around it. -/
  padded : i.Padded
  /-- Its text does not begin with a space. -/
  opens : Opens i.text
  /-- Its text is read. -/
  read : Readout i.text i.value

/-- A field whose text is read. -/
structure Member.Legible (m : Member) : Prop where
  /-- Its name is spelled, and spaces stand around the parts. -/
  padded : m.Padded
  /-- Its value is read. -/
  item : m.item.Legible

/-- An item is read up to what follows it. -/
theorem Item.Legible.readItems {i : Item} (h : i.Legible) {fuel depth : Nat}
    (hfuel : i.text.length ≤ fuel) (items : List Json) {rest : List Point} (hrest : Stops rest) :
    Json.readItems bound (fuel + 1) depth items (skipSpaces (i.written ++ rest)) =
      (i.value.limit? bound depth).elim
        (afterItem bound fuel depth (i.value.merged :: items) (skipSpaces rest))
        fun e => .error e.parseError := by
  obtain ⟨hbefore, hafter⟩ := h.padded
  rw [Item.written, List.append_assoc, hbefore.skipSpaces_append, List.append_assoc,
    (h.opens.append _).skipSpaces_eq, readItems_succ, h.read hfuel (hafter.stops hrest), taken]
  cases i.value.limit? bound depth with
  | some e => rfl
  | none =>
    change afterItem bound fuel depth _ (skipSpaces (i.after ++ rest)) = _
    rw [hafter.skipSpaces_append]
    rfl

/-- The reader goes through items with a comma after each, or stops at the first that is too much.
-/
theorem readItems_listed {front : List Item} (h : ∀ i ∈ front, i.Legible) {fuel depth : Nat}
    (hfuel : (listed front).length ≤ fuel) (t : List Point) (items : List Json) :
    readItems bound fuel depth items (skipSpaces (listed front ++ t)) =
      (limitItems? bound depth (front.map Item.value)).elim
        (readItems bound (fuel - front.length) depth
          (((front.map Item.value).map merged).reverse ++ items) (skipSpaces t))
        fun e => .error e.parseError := by
  -- an item has a comma after it, which pays for the unit of fuel that the reader spends
  induction front generalizing fuel items with
  | nil => rfl
  | cons i front ih =>
    have hsplit : listed (i :: front) ++ t =
        i.written ++ .char ',' :: (listed front ++ t) := by
      simp [listed]
    simp only [listed, List.flatMap_cons, List.length_append, List.length_singleton] at hfuel
    have htext : i.text.length ≤ i.written.length := by
      simp only [Item.written, List.length_append]
      omega
    obtain ⟨k, rfl⟩ : ∃ k, fuel = k + 1 := ⟨fuel - 1, by omega⟩
    rw [hsplit, (h i List.mem_cons_self).readItems (by omega) items (stops_comma _),
      List.map_cons, limitItems?]
    cases i.value.limit? bound depth with
    | some e => rfl
    | none =>
      have hrest := ih (fun x hx => h x (List.mem_cons_of_mem i hx))
        (show (listed front).length ≤ k by rw [listed]; omega) (i.value.merged :: items)
      rw [Option.none_or, List.length_cons, Nat.add_sub_add_right, List.map_cons,
        List.reverse_cons, List.append_assoc, List.singleton_append, ← hrest, skipSpaces_cons rfl]
      rfl

/-- The first field at the front of a text is read up to what follows it. -/
theorem Member.Legible.readFields {m : Member} (h : m.Legible) {fuel depth : Nat}
    (hfuel : m.written.length ≤ fuel) (fields : List (LooseText × Json)) {rest : List Point}
    (hrest : Stops rest) :
    Json.readFields bound (fuel + 1) depth fields (skipSpaces (m.written ++ rest)) =
      (m.item.value.limit? bound depth).elim
        (afterField bound fuel depth (putField fields m.field.1 m.item.value.merged)
          (skipSpaces rest))
        fun e => .error e.parseError := by
  obtain ⟨hbefore, hafter⟩ := h.padded.item
  simp only [Member.written, Item.written, List.length_append, List.length_cons] at hfuel
  simp only [Member.written, Item.written, List.append_assoc, List.cons_append]
  rw [h.padded.before.skipSpaces_append, skipSpaces_cons rfl,
    readFields_of_quoted h.padded.name h.padded.after (by omega), hbefore.skipSpaces_append,
    (h.item.opens.append _).skipSpaces_eq, h.item.read (by omega) (hafter.stops hrest), taken]
  cases m.item.value.limit? bound depth with
  | some e => rfl
  | none =>
    change afterField bound fuel depth _ (skipSpaces (m.item.after ++ rest)) = _
    rw [hafter.skipSpaces_append]
    rfl

/-- The reader goes through fields with a comma after each, or stops at the first that is too
much. -/
theorem readFields_gathered {front : List Member} (h : ∀ m ∈ front, m.Legible) {fuel depth : Nat}
    (hfuel : (gathered front).length ≤ fuel) (t : List Point) (fields : List (LooseText × Json)) :
    readFields bound fuel depth fields (skipSpaces (gathered front ++ t)) =
      (limitFields? bound depth (front.map Member.field)).elim
        (readFields bound (fuel - front.length) depth
          (mergedFields fields (front.map Member.field)) (skipSpaces t))
        fun e => .error e.parseError := by
  induction front generalizing fuel fields with
  | nil => rfl
  | cons m front ih =>
    have hsplit : gathered (m :: front) ++ t = m.written ++ .char ',' :: (gathered front ++ t) := by
      simp [gathered]
    simp only [gathered, List.flatMap_cons, List.length_append, List.length_singleton] at hfuel
    obtain ⟨k, rfl⟩ : ∃ k, fuel = k + 1 := ⟨fuel - 1, by omega⟩
    rw [hsplit, (h m List.mem_cons_self).readFields (by omega) fields (stops_comma _),
      List.map_cons]
    change _ = Option.elim ((m.item.value.limit? bound depth).or _) _ _
    cases m.item.value.limit? bound depth with
    | some e => rfl
    | none =>
      have hrest := ih (fun x hx => h x (List.mem_cons_of_mem m hx))
        (show (gathered front).length ≤ k by rw [gathered]; omega)
        (putField fields m.field.1 m.item.value.merged)
      rw [Option.none_or, List.length_cons, Nat.add_sub_add_right, skipSpaces_cons rfl]
      exact hrest

theorem Item.Legible.opens_skipSpaces {i : Item} (h : i.Legible) (t : List Point) :
    Opens (skipSpaces (i.written ++ t)) := by
  rw [Item.written, List.append_assoc, h.padded.1.skipSpaces_append, List.append_assoc,
    (h.opens.append _).skipSpaces_eq]
  exact h.opens.append _

theorem opens_skipSpaces_listed {front : List Item} (h : ∀ i ∈ front, i.Legible) {t : List Point}
    (ht : Opens (skipSpaces t)) : Opens (skipSpaces (listed front ++ t)) := by
  cases front with
  | nil => exact ht
  | cons i front =>
    have hsplit : listed (i :: front) ++ t = i.written ++ .char ',' :: (listed front ++ t) := by
      simp [listed]
    rw [hsplit]
    exact (h i List.mem_cons_self).opens_skipSpaces _

theorem Readout.scalar {s : List Char} {j : Json} (h : Scalar s j) :
    Readout (s.map .char) j := by
  intro bound depth fuel rest hfuel hrest
  rw [← readBare_of_scalar h hrest bound depth]
  obtain ⟨c, t, rfl, hc⟩ := h.exists_startsScalar
  rw [List.map_cons, List.length_cons] at hfuel
  obtain ⟨k, rfl⟩ : ∃ k, fuel = k + 1 := ⟨fuel - 1, by omega⟩
  rw [List.map_cons, List.cons_append, readValue_of_startsScalar hc]

theorem Readout.text {s : List Point} {pieces : List Piece} (h : Quoted s pieces) :
    Readout (.char '"' :: (s ++ [.char '"'])) (.str (spelled pieces)) := by
  intro bound depth fuel rest hfuel hrest
  simp only [List.length_cons, List.length_append, List.length_nil] at hfuel
  obtain ⟨k, rfl⟩ : ∃ k, fuel = k + 1 := ⟨fuel - 1, by omega⟩
  rw [List.cons_append, List.append_assoc, List.singleton_append, readValue_quote,
    readText_of_quoted h (by omega)]
  rfl

theorem Readout.noItems {s : List Point} (h : Spaces s) :
    Readout (.char '[' :: (s ++ [.char ']'])) (.list []) := by
  intro bound depth fuel rest hfuel hrest
  obtain ⟨k, rfl⟩ : ∃ k, fuel = k + 1 := ⟨fuel - 1, by rw [List.length_cons] at hfuel; omega⟩
  rw [List.cons_append, List.append_assoc, List.singleton_append, taken, limit?]
  by_cases hdepth : bound ≤ depth
  · rw [readValue_bracket_of_le hdepth, if_pos hdepth]
    rfl
  · have hclose : skipSpaces (s ++ .char ']' :: rest) = .char ']' :: rest := by
      rw [h.skipSpaces_append, skipSpaces_cons rfl]
    rw [readValue_noItems (Nat.not_le.1 hdepth) hclose, if_neg hdepth]
    rfl

theorem Readout.items {front : List Item} {last : Item} (h : ∀ i ∈ front ++ [last], i.Legible) :
    Readout (.char '[' :: (listed front ++ (last.written ++ [.char ']'])))
      (.list ((front ++ [last]).map Item.value)) := by
  intro bound depth fuel rest hfuel hrest
  have hfront : ∀ i ∈ front, i.Legible := fun i hi => h i (List.mem_append_left _ hi)
  have hlast : last.Legible := h last (by simp)
  have hcount := length_le_length_listed front
  have htext : last.text.length ≤ last.written.length := by
    simp only [Item.written, List.length_append]
    omega
  simp only [List.length_cons, List.length_append, List.length_nil] at hfuel
  obtain ⟨k, rfl⟩ : ∃ k, fuel = k + 1 := ⟨fuel - 1, by omega⟩
  simp only [List.cons_append, List.append_assoc, List.nil_append]
  rw [taken, limit?]
  by_cases hdepth : bound ≤ depth
  · rw [readValue_bracket_of_le hdepth, if_pos hdepth]
    rfl
  have hopens := opens_skipSpaces_listed hfront (hlast.opens_skipSpaces (.char ']' :: rest))
  rw [readValue_items (Nat.not_le.1 hdepth) hopens.ne_bracket, if_neg hdepth,
    readItems_listed hfront (by omega), List.map_append, limitItems?_append]
  cases limitItems? bound (depth + 1) (front.map Item.value) with
  | some e => rfl
  | none =>
    obtain ⟨n, hn⟩ : ∃ n, k - front.length = n + 1 := ⟨k - front.length - 1, by omega⟩
    rw [Option.none_or, List.map_singleton, limitItems?_singleton, Option.elim_none, hn,
      hlast.readItems (by omega) _ (stops_bracket rest)]
    cases last.value.limit? bound (depth + 1) with
    | some e => rfl
    | none =>
      rw [skipSpaces_cons rfl, Option.elim_none, Option.elim_none, afterItem, merged,
        mergedItems_eq_map]
      simp

theorem Readout.noMembers {s : List Point} (h : Spaces s) :
    Readout (.char '\x7b' :: (s ++ [.char '\x7d'])) (.object []) := by
  intro bound depth fuel rest hfuel hrest
  obtain ⟨k, rfl⟩ : ∃ k, fuel = k + 1 := ⟨fuel - 1, by rw [List.length_cons] at hfuel; omega⟩
  rw [List.cons_append, List.append_assoc, List.singleton_append, taken, limit?]
  by_cases hdepth : bound ≤ depth
  · rw [readValue_brace_of_le hdepth, if_pos hdepth]
    rfl
  · have hclose : skipSpaces (s ++ .char '\x7d' :: rest) = .char '\x7d' :: rest := by
      rw [h.skipSpaces_append, skipSpaces_cons rfl]
    rw [readValue_noMembers (Nat.not_le.1 hdepth) hclose, if_neg hdepth]
    rfl

/-- Fields begin with a quote, and not like the end of an object. -/
theorem skipSpaces_gathered_ne {front : List Member} (h : ∀ m ∈ front, m.Padded)
    {before t : List Point} (hbefore : Spaces before) (r : List Point) :
    skipSpaces (gathered front ++ (before ++ .char '"' :: t)) ≠ .char '\x7d' :: r := by
  cases front with
  | nil =>
    rw [gathered, List.flatMap_nil, List.nil_append, hbefore.skipSpaces_append,
      skipSpaces_cons rfl]
    rintro ⟨⟩
  | cons m front =>
    simp only [gathered, List.flatMap_cons, Member.written, List.append_assoc, List.cons_append]
    rw [(h m List.mem_cons_self).before.skipSpaces_append, skipSpaces_cons rfl]
    rintro ⟨⟩

theorem Readout.members {front : List Member} {last : Member}
    (h : ∀ m ∈ front ++ [last], m.Legible) :
    Readout (.char '\x7b' :: (gathered front ++ (last.written ++ [.char '\x7d'])))
      (.object ((front ++ [last]).map Member.field)) := by
  intro bound depth fuel rest hfuel hrest
  have hfront : ∀ m ∈ front, m.Legible := fun m hm => h m (List.mem_append_left _ hm)
  have hlast : last.Legible := h last (by simp)
  have hcount := length_le_length_gathered front
  simp only [List.length_cons, List.length_append, List.length_nil] at hfuel
  obtain ⟨k, rfl⟩ : ∃ k, fuel = k + 1 := ⟨fuel - 1, by omega⟩
  simp only [List.cons_append, List.append_assoc, List.nil_append]
  rw [taken, limit?]
  by_cases hdepth : bound ≤ depth
  · rw [readValue_brace_of_le hdepth, if_pos hdepth]
    rfl
  have hne : ∀ r, skipSpaces (gathered front ++ (last.written ++ .char '\x7d' :: rest)) ≠
      .char '\x7d' :: r := by
    intro r
    rw [Member.written, List.append_assoc, List.cons_append]
    exact skipSpaces_gathered_ne (fun m hm => (hfront m hm).padded) hlast.padded.before r
  rw [readValue_members (Nat.not_le.1 hdepth) hne, if_neg hdepth,
    readFields_gathered hfront (by omega), List.map_append, limitFields?_append]
  cases limitFields? bound (depth + 1) (front.map Member.field) with
  | some e => rfl
  | none =>
    obtain ⟨n, hn⟩ : ∃ n, k - front.length = n + 1 := ⟨k - front.length - 1, by omega⟩
    rw [Option.none_or, List.map_singleton, limitFields?_singleton, Option.elim_none, hn,
      hlast.readFields (by omega) _ (stops_brace rest), Member.field]
    cases last.item.value.limit? bound (depth + 1) with
    | some e => rfl
    | none =>
      rw [skipSpaces_cons rfl, merged, mergedFields_append]
      rfl

/-- A text that writes a value is read as the value, or as its limit. -/
theorem Writes.read {s : List Point} {raw : Json} (h : Writes s raw) : Readout s raw := by
  induction h with
  | scalar h => exact .scalar h
  | text h => exact .text h
  | noItems h => exact .noItems h
  | items hpad hwrites ih =>
    exact .items fun i hi => ⟨hpad i hi, (hwrites i hi).opens, ih i hi⟩
  | noMembers h => exact .noMembers h
  | members hpad hwrites ih =>
    exact .members fun m hm => ⟨hpad m hm, (hpad m hm).item, (hwrites m hm).opens, ih m hm⟩

theorem Writes.item_legible {i : Item} (h : Writes i.text i.value) (hpad : i.Padded) :
    i.Legible :=
  ⟨hpad, h.opens, h.read⟩

theorem Writes.member_legible {m : Member} (h : Writes m.item.text m.item.value)
    (hpad : m.Padded) : m.Legible :=
  ⟨hpad, h.item_legible hpad.item⟩

/-- A text that runs into a limit is refused for it. The lists and objects that it is in are not
closed, so that the opening bracket alone pays for the two steps into each. -/
theorem Overruns.read {depth : Nat} {s : List Point} {e : Limit} (h : Overruns bound depth s e)
    {fuel : Nat} (hfuel : 2 * s.length ≤ fuel) :
    readValue bound fuel depth s = .error e.parseError := by
  induction h generalizing fuel with
  | @digits depth negative whole rest hwhole hlong hrest =>
    have hread := readBare_of_endsWhole hwhole hlong hrest negative
    obtain ⟨c, t, hs, hc⟩ := startsScalar_sign hwhole negative []
    rw [List.append_nil] at hs
    rw [hs, List.map_cons, List.cons_append] at hfuel hread ⊢
    obtain ⟨k, rfl⟩ : ∃ k, fuel = k + 1 := ⟨fuel - 1, by rw [List.length_cons] at hfuel; omega⟩
    rw [readValue_of_startsScalar hc, hread]
    rfl
  | list hdepth =>
    obtain ⟨k, rfl⟩ : ∃ k, fuel = k + 1 := ⟨fuel - 1, by rw [List.length_cons] at hfuel; omega⟩
    exact readValue_bracket_of_le hdepth k _
  | object hdepth =>
    obtain ⟨k, rfl⟩ : ∃ k, fuel = k + 1 := ⟨fuel - 1, by rw [List.length_cons] at hfuel; omega⟩
    exact readValue_brace_of_le hdepth k _
  | @item depth front before rest e hdepth hpad hwrites hlimit hbefore hrest ih =>
    have hfront : ∀ i ∈ front, i.Legible := fun i hi => (hwrites i hi).item_legible (hpad i hi)
    have hskip : skipSpaces (before ++ rest) = rest := by
      rw [hbefore.skipSpaces_append, hrest.opens.skipSpaces_eq]
    have hopens := opens_skipSpaces_listed hfront (t := before ++ rest)
      (by rw [hskip]; exact hrest.opens)
    have hcount := length_le_length_listed front
    have hone := hrest.opens.one_le_length
    simp only [List.length_cons, List.length_append] at hfuel
    obtain ⟨k, rfl⟩ : ∃ k, fuel = k + 1 := ⟨fuel - 1, by omega⟩
    obtain ⟨n, hn⟩ : ∃ n, k - front.length = n + 1 := ⟨k - front.length - 1, by omega⟩
    rw [readValue_items hdepth hopens.ne_bracket, readItems_listed hfront (by omega), hlimit,
      Option.elim_none, hn, hskip, readItems_succ, ih (by omega)]
    rfl
  | @member depth front before name after gap rest pieces e hdepth hpad hwrites hlimit hbefore
      hname hafter hgap hrest ih =>
    have hfront : ∀ m ∈ front, m.Legible := fun m hm => (hwrites m hm).member_legible (hpad m hm)
    have hcount := length_le_length_gathered front
    simp only [List.length_cons, List.length_append] at hfuel
    obtain ⟨k, rfl⟩ : ∃ k, fuel = k + 1 := ⟨fuel - 1, by omega⟩
    obtain ⟨n, hn⟩ : ∃ n, k - front.length = n + 1 := ⟨k - front.length - 1, by omega⟩
    rw [readValue_members hdepth (skipSpaces_gathered_ne hpad hbefore),
      readFields_gathered hfront (by omega), hlimit, Option.elim_none, hn,
      hbefore.skipSpaces_append, skipSpaces_cons rfl,
      readFields_of_quoted hname hafter (by omega), hgap.skipSpaces_append,
      hrest.opens.skipSpaces_eq, ih (by omega)]
    rfl

/-! ### What is read is in the grammar -/

/-- Items that the reader has passed inside of `depth` lists and objects. -/
structure PassedItems (bound depth : Nat) (front : List Item) : Prop where
  /-- Spaces stand around them. -/
  padded : ∀ i ∈ front, i.Padded
  /-- They are written. -/
  writes : ∀ i ∈ front, Writes i.text i.value
  /-- None is too much. -/
  limit : limitItems? bound depth (front.map Item.value) = none

/-- Fields that the reader has passed inside of `depth` lists and objects. -/
structure PassedMembers (bound depth : Nat) (front : List Member) : Prop where
  /-- Their names are spelled, and spaces stand around the parts. -/
  padded : ∀ m ∈ front, m.Padded
  /-- Their values are written. -/
  writes : ∀ m ∈ front, Writes m.item.text m.item.value
  /-- None is too much. -/
  limit : limitFields? bound depth (front.map Member.field) = none

theorem PassedItems.concat {depth : Nat} {front : List Item} (h : PassedItems bound depth front)
    {i : Item} (hpad : i.Padded) (hwrites : Writes i.text i.value)
    (hlimit : i.value.limit? bound depth = none) : PassedItems bound depth (front ++ [i]) := by
  refine ⟨?_, ?_, ?_⟩
  · simpa [or_imp, forall_and] using ⟨h.padded, hpad⟩
  · simpa [or_imp, forall_and] using ⟨h.writes, hwrites⟩
  · rw [List.map_append, limitItems?_append, h.limit, Option.none_or, List.map_singleton,
      limitItems?_singleton, hlimit]

theorem PassedMembers.concat {depth : Nat} {front : List Member}
    (h : PassedMembers bound depth front)
    {m : Member} (hpad : m.Padded) (hwrites : Writes m.item.text m.item.value)
    (hlimit : m.item.value.limit? bound depth = none) :
    PassedMembers bound depth (front ++ [m]) := by
  refine ⟨?_, ?_, ?_⟩
  · simpa [or_imp, forall_and] using ⟨h.padded, hpad⟩
  · simpa [or_imp, forall_and] using ⟨h.writes, hwrites⟩
  · rw [List.map_append, limitFields?_append, h.limit, Option.none_or, List.map_singleton,
      limitFields?_singleton]
    exact hlimit

/-- Items that were passed, and a closing bracket, are a list. -/
theorem PassedItems.readsAs {depth : Nat} (hdepth : depth < bound) {front : List Item}
    {last : Item} (h : PassedItems bound (depth + 1) (front ++ [last])) (r : List Point) :
    ReadsAs bound depth (.char '[' :: (listed front ++ (last.written ++ .char ']' :: r)))
      (.ok (.list (((front ++ [last]).map Item.value).map merged), r)) := by
  refine .inr (.inl ⟨_, _, r, ?_, .items h.padded h.writes, ?_, ?_⟩)
  · simp
  · rw [limit?, if_neg (Nat.not_le.2 hdepth), h.limit]
  · rw [merged, mergedItems_eq_map]

theorem PassedMembers.readsAs {depth : Nat} (hdepth : depth < bound) {front : List Member}
    {last : Member} (h : PassedMembers bound (depth + 1) (front ++ [last])) (r : List Point) :
    ReadsAs bound depth (.char '\x7b' :: (gathered front ++ (last.written ++ .char '\x7d' :: r)))
      (.ok (.object (mergedFields [] ((front ++ [last]).map Member.field)), r)) := by
  refine .inr (.inl ⟨_, _, r, ?_, .members h.padded h.writes, ?_, ?_⟩)
  · simp
  · rw [limit?, if_neg (Nat.not_le.2 hdepth), h.limit]
  · rw [merged]

/-- What the reader of values finds with some fuel is in the grammar. -/
def ValuesRead (bound fuel : Nat) : Prop :=
  ∀ depth s, ReadsAs bound depth s (readValue bound fuel depth s)

/-- What the reader of items finds with some fuel, behind an opening bracket and the items that it
passed, is in the grammar. -/
def ItemsRead (bound fuel : Nat) : Prop :=
  ∀ ⦃depth front before⦄ s, depth < bound → PassedItems bound (depth + 1) front → Spaces before →
    ReadsAs bound depth (.char '[' :: (listed front ++ (before ++ s)))
      (readItems bound fuel (depth + 1) ((front.map Item.value).map merged).reverse s)

/-- What the reader of fields finds with some fuel, behind an opening brace and the fields that it
passed, is in the grammar. -/
def MembersRead (bound fuel : Nat) : Prop :=
  ∀ ⦃depth front before⦄ s, depth < bound → PassedMembers bound (depth + 1) front →
    Spaces before →
    ReadsAs bound depth (.char '\x7b' :: (gathered front ++ (before ++ s)))
      (readFields bound fuel (depth + 1) (mergedFields [] (front.map Member.field)) s)

theorem readsAs_quote (fuel depth : Nat) (s : List Point) :
    ReadsAs bound depth (.char '"' :: s) (readValue bound (fuel + 1) depth (.char '"' :: s)) := by
  rw [readValue_quote]
  cases hread : readText fuel [] s with
  | none => exact .inl rfl
  | some p =>
    obtain ⟨t, rest⟩ := p
    obtain ⟨q, pieces, rfl, hq, rfl⟩ := quoted_of_readText hread
    exact .inr (.inl ⟨.char '"' :: (q ++ [.char '"']), _, rest, by simp, .text hq, rfl, rfl⟩)

theorem ItemsRead.bracket {fuel : Nat} (h : ItemsRead bound fuel) (depth : Nat) (s : List Point) :
    ReadsAs bound depth (.char '[' :: s) (readValue bound (fuel + 1) depth (.char '[' :: s)) := by
  by_cases hdepth : bound ≤ depth
  · rw [readValue_bracket_of_le hdepth]
    exact .inr (.inr ⟨.tooDeep, .list hdepth, rfl⟩)
  have hlt := Nat.not_le.1 hdepth
  obtain ⟨b, hb, hs⟩ := exists_spaces s
  by_cases hclose : ∃ r, skipSpaces s = .char ']' :: r
  · obtain ⟨r, hr⟩ := hclose
    rw [readValue_noItems hlt hr]
    refine .inr (.inl ⟨.char '[' :: (b ++ [.char ']']), _, r, ?_, .noItems hb, ?_, rfl⟩)
    · rw [hs, hr]
      simp
    · rw [limit?, if_neg hdepth]
      rfl
  · rw [readValue_items hlt fun r hr => hclose ⟨r, hr⟩]
    have hread := @h depth [] b (skipSpaces s) hlt ⟨by simp, by simp, rfl⟩ hb
    rw [← hs] at hread
    exact hread

theorem MembersRead.brace {fuel : Nat} (h : MembersRead bound fuel) (depth : Nat) (s : List Point) :
    ReadsAs bound depth (.char '\x7b' :: s)
      (readValue bound (fuel + 1) depth (.char '\x7b' :: s)) := by
  by_cases hdepth : bound ≤ depth
  · rw [readValue_brace_of_le hdepth]
    exact .inr (.inr ⟨.tooDeep, .object hdepth, rfl⟩)
  have hlt := Nat.not_le.1 hdepth
  obtain ⟨b, hb, hs⟩ := exists_spaces s
  by_cases hclose : ∃ r, skipSpaces s = .char '\x7d' :: r
  · obtain ⟨r, hr⟩ := hclose
    rw [readValue_noMembers hlt hr]
    refine .inr (.inl ⟨.char '\x7b' :: (b ++ [.char '\x7d']), _, r, ?_, .noMembers hb, ?_, rfl⟩)
    · rw [hs, hr]
      simp
    · rw [limit?, if_neg hdepth]
      rfl
  · rw [readValue_members hlt fun r hr => hclose ⟨r, hr⟩]
    have hread := @h depth [] b (skipSpaces s) hlt ⟨by simp, by simp, rfl⟩ hb
    rw [← hs] at hread
    exact hread

theorem valuesRead_succ {fuel : Nat} (hitems : ItemsRead bound fuel)
    (hmembers : MembersRead bound fuel) :
    ValuesRead bound (fuel + 1) := by
  intro depth s
  cases s with
  | nil => exact .inl rfl
  | cons p s =>
    by_cases hquote : p = .char '"'
    · rw [hquote]
      exact readsAs_quote fuel depth s
    by_cases hbracket : p = .char '['
    · rw [hbracket]
      exact hitems.bracket depth s
    by_cases hbrace : p = .char '\x7b'
    · rw [hbrace]
      exact hmembers.brace depth s
    rw [readValue, if_neg hbrace]
    · exact readsAs_readBare bound depth (p :: s)
    · exact hquote
    · exact hbracket

theorem afterItem_cases (fuel depth : Nat) (items : List Json) (s : List Point) :
    (∃ r, s = .char ',' :: r ∧
        afterItem bound fuel depth items s = readItems bound fuel depth items (skipSpaces r)) ∨
      (∃ r, s = .char ']' :: r ∧ afterItem bound fuel depth items s = .ok (.list items.reverse, r)) ∨
      afterItem bound fuel depth items s = .error .malformed := by
  unfold afterItem
  split
  · rename_i r
    exact .inl ⟨r, rfl, rfl⟩
  · rename_i r
    exact .inr (.inl ⟨r, rfl, rfl⟩)
  · exact .inr (.inr rfl)

theorem afterField_cases (fuel depth : Nat) (fields : List (LooseText × Json)) (s : List Point) :
    (∃ r, s = .char ',' :: r ∧
        afterField bound fuel depth fields s = readFields bound fuel depth fields (skipSpaces r)) ∨
      (∃ r, s = .char '\x7d' :: r ∧ afterField bound fuel depth fields s = .ok (.object fields, r)) ∨
      afterField bound fuel depth fields s = .error .malformed := by
  unfold afterField
  split
  · rename_i r
    exact .inl ⟨r, rfl, rfl⟩
  · rename_i p r _
    by_cases hp : p = .char '\x7d'
    · exact .inr (.inl ⟨r, by rw [hp], if_pos hp⟩)
    · exact .inr (.inr (if_neg hp))
  · exact .inr (.inr rfl)

/-- After an item that was read, the reader finds another one or the end of the list. -/
theorem ItemsRead.afterItem {fuel : Nat} (h : ItemsRead bound fuel) {depth : Nat}
    (hdepth : depth < bound) {front : List Item} {last : Item}
    (hpassed : PassedItems bound (depth + 1) (front ++ [last])) (s : List Point) :
    ReadsAs bound depth (.char '[' :: (listed front ++ (last.written ++ s)))
      (Json.afterItem bound fuel (depth + 1) (((front ++ [last]).map Item.value).map merged).reverse
        s) := by
  rcases afterItem_cases fuel (depth + 1) (((front ++ [last]).map Item.value).map merged).reverse s
    with ⟨r, rfl, hnext⟩ | ⟨r, rfl, hnext⟩ | hbad
  · obtain ⟨before, hbefore, hr⟩ := exists_spaces r
    have hread := h (skipSpaces r) hdepth hpassed hbefore
    rw [← hr, listed_append] at hread
    rw [hnext]
    simpa [listed] using hread
  · rw [hnext, List.reverse_reverse]
    exact hpassed.readsAs hdepth r
  · exact .inl hbad

theorem itemsRead_succ {fuel : Nat} (hvalues : ValuesRead bound fuel)
    (hitems : ItemsRead bound fuel) :
    ItemsRead bound (fuel + 1) := by
  intro depth front before s hdepth hfront hbefore
  rw [readItems_succ]
  rcases hvalues (depth + 1) s with hbad | ⟨p, raw, rest, rfl, hp, hlimit, hread⟩ | ⟨e, he, hread⟩
  · rw [hbad]
    exact .inl rfl
  · -- the value that was read is one more item behind the reader
    obtain ⟨after, hafter, hrest⟩ := exists_spaces rest
    have hpassed := hfront.concat (i := ⟨before, p, after, raw⟩) ⟨hbefore, hafter⟩ hp hlimit
    have hnext := hitems.afterItem hdepth hpassed (skipSpaces rest)
    rw [Item.written] at hnext
    simp only [List.append_assoc] at hnext
    rw [← hrest] at hnext
    rw [hread]
    simpa [Except.bind] using hnext
  · rw [hread]
    exact .inr (.inr ⟨e, .item hdepth hfront.padded hfront.writes hfront.limit hbefore he, rfl⟩)

/-- The reader of fields goes on to a value behind a name and a colon only. -/
theorem readFields_cases (fuel depth : Nat) (fields : List (LooseText × Json)) (s : List Point) :
    readFields bound (fuel + 1) depth fields s = .error .malformed ∨
      ∃ name pieces after gap r,
        s = .char '"' :: (name ++ .char '"' :: (after ++ .char ':' :: (gap ++ r))) ∧
        Quoted name pieces ∧ Spaces after ∧ Spaces gap ∧
        readFields bound (fuel + 1) depth fields s = (readValue bound fuel depth r).bind fun p =>
          afterField bound fuel depth (putField fields (spelled pieces) p.1) (skipSpaces p.2) := by
  rw [readFields.eq_def]
  dsimp only
  split
  · rename_i rest
    cases hname : readText fuel [] rest with
    | none => exact .inl rfl
    | some p =>
      obtain ⟨t, rest'⟩ := p
      dsimp only
      split
      · rename_i r hcolon
        obtain ⟨name, pieces, rfl, hquoted, rfl⟩ := quoted_of_readText hname
        obtain ⟨after, hafter, hrest'⟩ := exists_spaces rest'
        obtain ⟨gap, hgap, hr⟩ := exists_spaces r
        refine .inr ⟨name, pieces, after, gap, skipSpaces r, ?_, hquoted, hafter, hgap, ?_⟩
        · rw [← hr, ← hcolon, ← hrest']
        · cases readValue bound fuel depth (skipSpaces r) with
          | error e => rfl
          | ok p => rfl
      · exact .inl rfl
  · exact .inl rfl

/-- After a field that was read, the reader finds another one or the end of the object. -/
theorem MembersRead.afterField {fuel : Nat} (h : MembersRead bound fuel) {depth : Nat}
    (hdepth : depth < bound) {front : List Member} {last : Member}
    (hpassed : PassedMembers bound (depth + 1) (front ++ [last])) (s : List Point) :
    ReadsAs bound depth (.char '\x7b' :: (gathered front ++ (last.written ++ s)))
      (Json.afterField bound fuel (depth + 1) (mergedFields [] ((front ++ [last]).map Member.field))
        s) := by
  rcases afterField_cases fuel (depth + 1) (mergedFields [] ((front ++ [last]).map Member.field)) s
    with ⟨r, rfl, hnext⟩ | ⟨r, rfl, hnext⟩ | hbad
  · obtain ⟨before, hbefore, hr⟩ := exists_spaces r
    have hread := h (skipSpaces r) hdepth hpassed hbefore
    rw [← hr, gathered_append] at hread
    rw [hnext]
    simpa [gathered] using hread
  · rw [hnext]
    exact hpassed.readsAs hdepth r
  · exact .inl hbad

theorem membersRead_succ {fuel : Nat} (hvalues : ValuesRead bound fuel)
    (hmembers : MembersRead bound fuel) :
    MembersRead bound (fuel + 1) := by
  intro depth front before s hdepth hfront hbefore
  rcases readFields_cases fuel (depth + 1) (mergedFields [] (front.map Member.field)) s with
    hbad | ⟨name, pieces, after, gap, r, rfl, hname, hafter, hgap, hfields⟩
  · exact .inl hbad
  rw [hfields]
  rcases hvalues (depth + 1) r with hbad | ⟨p, raw, rest, rfl, hp, hlimit, hread⟩ | ⟨e, he, hread⟩
  · rw [hbad]
    exact .inl rfl
  · obtain ⟨after', hafter', hrest⟩ := exists_spaces rest
    have hpassed := hfront.concat (m := ⟨before, name, pieces, after, gap, p, after', raw⟩)
      ⟨hbefore, hname, hafter, hgap, hafter'⟩ hp hlimit
    have hnext := hmembers.afterField hdepth hpassed (skipSpaces rest)
    rw [List.map_append, mergedFields_append, Member.written, Item.written] at hnext
    simp only [List.append_assoc, List.cons_append] at hnext
    rw [← hrest] at hnext
    rw [hread]
    exact hnext
  · rw [hread]
    exact .inr (.inr ⟨e, .member hdepth hfront.padded hfront.writes hfront.limit hbefore hname
      hafter hgap he, rfl⟩)

/-- What the reader finds is in the grammar. -/
theorem readsAs_readValue (fuel : Nat) :
    ValuesRead bound fuel ∧ ItemsRead bound fuel ∧ MembersRead bound fuel := by
  induction fuel with
  | zero =>
    exact ⟨fun _ _ => .inl rfl, fun _ _ _ _ _ _ _ => .inl rfl, fun _ _ _ _ _ _ _ => .inl rfl⟩
  | succ fuel ih =>
    obtain ⟨hvalues, hitems, hmembers⟩ := ih
    exact ⟨valuesRead_succ hitems hmembers, itemsRead_succ hvalues hitems,
      membersRead_succ hvalues hmembers⟩

/-! ### Whole texts -/

theorem Limit.parseError_injective {e e' : Limit} (h : e.parseError = e'.parseError) : e = e' := by
  cases e <;> cases e' <;> first | rfl | (cases h; rfl) | cases h

theorem Limit.parseError_ne_malformed (e : Limit) : e.parseError ≠ .malformed := by
  cases e <;> rintro ⟨⟩

/-- The text of a value within the limits, with spaces around it, is read as the value. -/
theorem parse_of_writes {before s after : List Point} {raw : Json} (hbefore : Spaces before)
    (h : Writes s raw) (hafter : Spaces after) :
    parse bound ⟨before ++ (s ++ after)⟩ =
      (raw.limit? bound 0).elim (.ok raw.merged) fun e => .error e.parseError := by
  have hend : skipSpaces after = [] := List.dropWhile_eq_nil_iff.2 hafter
  have hstops : Stops after := by simpa using hafter.stops stops_nil
  rw [parse, hbefore.skipSpaces_append, (h.opens.append after).skipSpaces_eq,
    h.read (by simp only [List.length_append]; omega) hstops, taken]
  cases raw.limit? bound 0 with
  | some e => rfl
  | none =>
    dsimp only [Option.elim]
    rw [hend]
    rfl

theorem parse_of_overruns {text : LooseText} {e : Limit} (h : TextOverruns bound text e) :
    parse bound text = .error e.parseError := by
  obtain ⟨before, s, hbefore, htext, hs⟩ := h
  rw [parse, htext, hbefore.skipSpaces_append, hs.opens.skipSpaces_eq,
    hs.read (by simp only [List.length_append]; omega)]

/-- What becomes of a text. -/
theorem parse_cases (text : LooseText) :
    parse bound text = .error .malformed ∨ (∃ j, IsText text j ∧ parse bound text = .ok j) ∨
      ∃ e, TextOverruns bound text e ∧ parse bound text = .error e.parseError := by
  obtain ⟨before, hbefore, htext⟩ := exists_spaces text.points
  rw [parse]
  rcases (readsAs_readValue (2 * text.points.length + 2)).1 0 (skipSpaces text.points) with
    hbad | ⟨s, raw, rest, hs, hwrites, -, hread⟩ | ⟨e, he, hread⟩
  · rw [hbad]
    exact .inl rfl
  · rw [hread]
    dsimp only
    split
    · rename_i hend
      have hrest : Spaces rest := by
        rw [List.isEmpty_iff] at hend
        exact List.dropWhile_eq_nil_iff.1 hend
      refine .inr (.inl ⟨raw.merged, ⟨before, s, rest, raw, hbefore, hrest, hwrites, ?_, rfl⟩, rfl⟩)
      rw [← hs]
      exact htext
    · exact .inl rfl
  · rw [hread]
    exact .inr (.inr ⟨e, ⟨before, skipSpaces text.points, hbefore, htext, he⟩, rfl⟩)

/-- A text is refused for a limit exactly if it runs into the limit. -/
theorem parse_eq_limit_iff {text : LooseText} {e : Limit} :
    parse bound text = .error e.parseError ↔ TextOverruns bound text e := by
  refine ⟨fun h => ?_, parse_of_overruns⟩
  rcases parse_cases text with hbad | ⟨j, -, hok⟩ | ⟨e', he', hlimit⟩
  · rw [hbad] at h
    exact absurd (Except.error.inj h).symm e.parseError_ne_malformed
  · rw [hok] at h
    cases h
  · rw [hlimit] at h
    rw [← Limit.parseError_injective (Except.error.inj h)]
    exact he'

/-- A text is read as a value exactly if it is JSON for the value and runs into no limit. -/
theorem parse_eq_ok_iff {text : LooseText} {j : Json} :
    parse bound text = .ok j ↔ IsText text j ∧ ∀ e, ¬TextOverruns bound text e := by
  constructor
  · intro h
    refine ⟨?_, fun e he => ?_⟩
    · rcases parse_cases text with hbad | ⟨j', hj', hok⟩ | ⟨e, -, hlimit⟩
      · rw [hbad] at h
        cases h
      · rw [hok] at h
        rw [← Except.ok.inj h]
        exact hj'
      · rw [hlimit] at h
        cases h
    · rw [parse_of_overruns he] at h
      cases h
  · rintro ⟨⟨before, s, after, raw, hbefore, hafter, hwrites, htext, rfl⟩, hwithin⟩
    obtain rfl : text = ⟨before ++ (s ++ after)⟩ := LooseText.ext htext
    have hread : parse bound _ = _ := parse_of_writes hbefore hwrites hafter
    cases hlimit : raw.limit? bound 0 with
    | none =>
      rw [hlimit] at hread
      exact hread
    | some e =>
      rw [hlimit] at hread
      exact absurd (parse_eq_limit_iff.1 hread) (hwithin e)

/-- Every other text is refused as malformed. -/
theorem parse_eq_malformed_iff {text : LooseText} :
    parse bound text = .error .malformed ↔
      (∀ j, ¬IsText text j) ∧ ∀ e, ¬TextOverruns bound text e := by
  constructor
  · intro h
    have hwithin : ∀ e, ¬TextOverruns bound text e := by
      intro e he
      rw [parse_of_overruns he] at h
      exact e.parseError_ne_malformed (Except.error.inj h)
    refine ⟨fun j hj => ?_, hwithin⟩
    rw [parse_eq_ok_iff.2 ⟨hj, hwithin⟩] at h
    cases h
  · rintro ⟨hnone, hwithin⟩
    rcases parse_cases text with hbad | ⟨j, hj, -⟩ | ⟨e, he, -⟩
    · exact hbad
    · exact absurd hj (hnone j)
    · exact absurd he (hwithin e)

end LlmAudit.Json
