import LlmAudit.Directive.Basic
import LlmAudit.Proofs.Text.Stripping

/-!
# The lines that hold directives

The subject is the syntax of directives in Section 4.5 (Ignore-Annotation Resolver) of the
specification.

A line that holds a directive falls into parts (`Directive.Parts`): blanks, two slashes, blanks, the
keyword, at least one blank, the rule, blanks, a colon and the rest, which is not blank. Each run of
blanks and the rule end where a character of another kind comes (`Text.Run`), so a line is cut into
parts in one way only (`Parts.text_injective`). Reading a line cuts it at the same places
(`parseLine?_text`), and a line that can be read has parts (`exists_parts_of_parseLine?`).

## Main statements

* `Directive.parse_exact` — the directives of some lines are those of the lines that have parts.
-/

namespace LlmAudit.Directive

open Text

variable {line part s t id reason : List Char}

/-! ### Parts -/

/-- The parts of a line that holds a directive. -/
@[ext]
structure Parts where
  /-- The blanks before the comment. -/
  lead : List Char
  /-- The blanks before the keyword. -/
  gap : List Char
  /-- The blanks behind the keyword. -/
  space : List Char
  /-- The rule, as written. -/
  id : List Char
  /-- The blanks before the colon. -/
  tail : List Char
  /-- What comes behind the colon. -/
  rest : List Char
  lead_blank : AllBlank lead
  gap_blank : AllBlank gap
  space_blank : AllBlank space
  space_ne_nil : space ≠ []
  id_chars : ∀ c ∈ id, isIdChar c = true
  id_ne_nil : id ≠ []
  tail_blank : AllBlank tail
  rest_not_blank : ¬ AllBlank rest

namespace Parts

/-- The line from the rule on. -/
def named (parts : Parts) : List Char :=
  parts.id ++ (parts.tail ++ ([':'] ++ parts.rest))

/-- The line behind the slashes. -/
def comment (parts : Parts) : List Char :=
  parts.gap ++ (keyword ++ (parts.space ++ parts.named))

/-- The line of the parts. -/
def text (parts : Parts) : List Char :=
  parts.lead ++ (['/', '/'] ++ parts.comment)

/-- The directive that the parts make on a line with a number. -/
def directive (parts : Parts) (number : Nat) : Directive where
  ruleId := String.ofList (upper parts.id)
  reason := String.ofList (strip parts.rest)
  line := number
  consumed := false

/-! ### Where the parts end -/

variable (parts : Parts)

theorem run_lead : Run isBlank parts.text parts.lead (['/', '/'] ++ parts.comment) where
  eq_append := rfl
  all := parts.lead_blank
  stop := fun c hc => Option.some.inj hc ▸ (by decide)

theorem run_gap : Run isBlank parts.comment parts.gap
    (keyword ++ (parts.space ++ parts.named)) where
  eq_append := rfl
  all := parts.gap_blank
  stop := fun c hc => Option.some.inj hc ▸ (by decide)

theorem run_space : Run isBlank (parts.space ++ parts.named) parts.space parts.named where
  eq_append := rfl
  all := parts.space_blank
  stop := by
    intro c hc
    obtain ⟨d, rest, hid⟩ := List.exists_cons_of_ne_nil parts.id_ne_nil
    rw [named, hid] at hc
    obtain rfl : d = c := Option.some.inj hc
    have hname : isIdChar d = true := parts.id_chars d (hid ▸ List.mem_cons_self)
    refine Bool.eq_false_iff.2 fun hblank => ?_
    rw [isIdChar, not_isAsciiNameChar_of_isBlank hblank] at hname
    cases hname

theorem run_tail : Run isBlank (parts.tail ++ ([':'] ++ parts.rest)) parts.tail
    ([':'] ++ parts.rest) where
  eq_append := rfl
  all := parts.tail_blank
  stop := fun c hc => Option.some.inj hc ▸ (by decide)

theorem run_id : Run isIdChar parts.named parts.id (parts.tail ++ ([':'] ++ parts.rest)) where
  eq_append := rfl
  all := parts.id_chars
  stop := by
    intro c hc
    rw [List.head?_append] at hc
    cases htail : parts.tail.head? with
    | none =>
      rw [htail] at hc
      exact Option.some.inj hc ▸ (by decide)
    | some d =>
      rw [htail] at hc
      obtain rfl : d = c := Option.some.inj hc
      exact not_isAsciiNameChar_of_isBlank (parts.tail_blank d (List.mem_of_head? htail))

/-- A line is cut into parts in one way only. -/
theorem text_injective : Function.Injective text := by
  intro parts other h
  obtain ⟨hlead, hcomment⟩ := parts.run_lead.unique (h ▸ other.run_lead)
  have hcomment := List.append_cancel_left hcomment
  obtain ⟨hgap, hmarked⟩ := parts.run_gap.unique (hcomment ▸ other.run_gap)
  have hmarked := List.append_cancel_left hmarked
  obtain ⟨hspace, hnamed⟩ := parts.run_space.unique (hmarked ▸ other.run_space)
  obtain ⟨hid, hcolon⟩ := parts.run_id.unique (hnamed ▸ other.run_id)
  obtain ⟨htail, hrest⟩ := parts.run_tail.unique (hcolon ▸ other.run_tail)
  exact Parts.ext hlead hgap hspace hid htail (List.append_cancel_left hrest)

end Parts

/-! ### Reading a line -/

theorem after?_eq_some_iff : after? part s = some t ↔ s = part ++ t := by
  rw [after?]
  split
  · rename_i hpart
    obtain ⟨rest, rfl⟩ := List.isPrefixOf_iff_prefix.1 hpart
    rw [List.drop_left, Option.some.injEq, List.append_cancel_left_eq]
  · rename_i hpart
    refine iff_of_false (Option.some_ne_none t).symm ?_
    rintro rfl
    exact hpart (List.isPrefixOf_iff_prefix.2 (List.prefix_append part t))

theorem afterBlanks?_eq_some_iff : afterBlanks? s = some t ↔ ∃ a, a ≠ [] ∧ Run isBlank s a t := by
  simp only [run_iff]
  cases s with
  | nil => simp [afterBlanks?]
  | cons c s =>
    by_cases hc : isBlank c = true
    · simp [afterBlanks?, hc, stripLeft]
    · simp [afterBlanks?, hc]

/-- A line of parts is read as their rule and their reason. -/
theorem parseLine?_text {parts : Parts} (h : '\n' ∉ parts.text) :
    parseLine? parts.text = some (parts.id, strip parts.rest) := by
  have hcomment : after? ['/', '/'] (stripLeft parts.text) = some parts.comment :=
    after?_eq_some_iff.2 (stripLeft_eq_iff.2 ⟨_, parts.run_lead⟩)
  have hmarked : after? keyword (stripLeft parts.comment) = some (parts.space ++ parts.named) :=
    after?_eq_some_iff.2 (stripLeft_eq_iff.2 ⟨_, parts.run_gap⟩)
  have hnamed : afterBlanks? (parts.space ++ parts.named) = some parts.named :=
    afterBlanks?_eq_some_iff.2 ⟨_, parts.space_ne_nil, parts.run_space⟩
  obtain ⟨hid, hcolon⟩ := run_iff.1 parts.run_id
  have hrest : after? [':'] (stripLeft (parts.tail ++ ([':'] ++ parts.rest))) = some parts.rest :=
    after?_eq_some_iff.2 (stripLeft_eq_iff.2 ⟨_, parts.run_tail⟩)
  have hfeed : '\n' ∉ strip parts.rest := by
    intro hmem
    refine h ?_
    simp [Parts.text, Parts.comment, Parts.named, strip_subset parts.rest hmem]
  have hreason : strip parts.rest ≠ [] := mt strip_eq_nil_iff.1 parts.rest_not_blank
  simp only [parseLine?, hcomment, hmarked, hnamed, hid, hcolon, hrest, Option.bind_eq_bind,
    Option.bind_some, List.isEmpty_iff]
  rw [if_neg]
  simp [parts.id_ne_nil, hreason, hfeed]

/-- A line that can be read has parts. -/
theorem exists_parts_of_parseLine? (h : parseLine? line = some (id, reason)) :
    ∃ parts : Parts, parts.text = line ∧ parts.id = id ∧ strip parts.rest = reason := by
  simp only [parseLine?, Option.bind_eq_bind, Option.bind_eq_some_iff, after?_eq_some_iff,
    stripLeft_eq_iff, afterBlanks?_eq_some_iff] at h
  obtain ⟨comment, ⟨lead, hlead⟩, marked, ⟨gap, hgap⟩, named, ⟨space, hspace, hmarked⟩, rest,
    ⟨tail, htail⟩, h⟩ := h
  split at h
  · cases h
  · rename_i hok
    obtain ⟨rfl, rfl⟩ := Prod.mk.inj (Option.some.inj h)
    simp only [List.isEmpty_iff, not_or] at hok
    obtain ⟨hid, hreason, -⟩ := hok
    have hrun : Run isIdChar named (named.takeWhile isIdChar) (named.dropWhile isIdChar) :=
      run_iff.2 ⟨rfl, rfl⟩
    have hnamed : named = named.takeWhile isIdChar ++ (tail ++ ([':'] ++ rest)) := by
      rw [← htail.eq_append, ← hrun.eq_append]
    have hline : line = lead ++ (['/', '/'] ++ (gap ++ (keyword ++ (space ++
        (named.takeWhile isIdChar ++ (tail ++ ([':'] ++ rest))))))) := by
      rw [← hnamed, ← hmarked.eq_append, ← hgap.eq_append, ← hlead.eq_append]
    exact ⟨⟨lead, gap, space, named.takeWhile isIdChar, tail, rest, hlead.all, hgap.all,
      hmarked.all, hspace, hrun.all, hid, htail.all, mt strip_eq_nil_iff.2 hreason⟩, hline.symm,
      rfl, rfl⟩

/-- The lines that can be read are those with parts. -/
theorem ofLine?_eq_some_iff {number : Nat} {line : String} {d : Directive}
    (hline : '\n' ∉ line.toList) :
    ofLine? number line = some d ↔
      ∃ parts : Parts, line = String.ofList parts.text ∧ d = parts.directive number := by
  rw [ofLine?, Option.map_eq_some_iff]
  constructor
  · rintro ⟨⟨id, reason⟩, hparse, rfl⟩
    obtain ⟨parts, htext, rfl, rfl⟩ := exists_parts_of_parseLine? hparse
    exact ⟨parts, by rw [htext, String.ofList_toList], rfl⟩
  · rintro ⟨parts, rfl, rfl⟩
    rw [String.toList_ofList] at hline ⊢
    exact ⟨_, parseLine?_text hline, rfl⟩

/-! ### Reading all lines -/

theorem mem_parseFrom_iff {number : Nat} {lines : List String} {d : Directive} :
    d ∈ parseFrom number lines ↔
      ∃ i line, lines[i]? = some line ∧ ofLine? (number + i) line = some d := by
  induction lines generalizing number with
  | nil => simp [parseFrom]
  | cons first lines ih =>
    rw [parseFrom, List.mem_append, Option.mem_toList, ih]
    constructor
    · rintro (h | ⟨i, line, hline, h⟩)
      · exact ⟨0, first, rfl, h⟩
      · exact ⟨i + 1, line, hline, by rwa [← Nat.add_assoc, Nat.add_right_comm]⟩
    · rintro ⟨i, line, hline, h⟩
      cases i with
      | zero =>
        obtain rfl := Option.some.inj hline
        exact Or.inl h
      | succ i => exact Or.inr ⟨i, line, hline, by rwa [Nat.add_right_comm, Nat.add_assoc]⟩

theorem line_of_ofLine? {number : Nat} {line : String} {d : Directive}
    (h : ofLine? number line = some d) : d.line = number := by
  obtain ⟨_, -, rfl⟩ := Option.map_eq_some_iff.1 h
  rfl

/-- The directives come in the order of their lines, at most one for each line. -/
theorem pairwise_parseFrom (number : Nat) (lines : List String) :
    (parseFrom number lines).Pairwise fun d e => d.line < e.line := by
  induction lines generalizing number with
  | nil => exact List.Pairwise.nil
  | cons first lines ih =>
    rw [parseFrom, List.pairwise_append]
    refine ⟨?_, ih (number + 1), ?_⟩
    · cases ofLine? number first with
      | none => exact List.Pairwise.nil
      | some d => exact List.pairwise_singleton _ d
    · intro d hd e he
      obtain ⟨i, line, -, hline⟩ := mem_parseFrom_iff.1 he
      rw [line_of_ofLine? (Option.mem_toList.1 hd), line_of_ofLine? hline]
      omega

/-- **The directives of some lines are those of the lines that have parts.** They come in the order
of their lines, one for each line that has parts and none for another line. No line has parts in two
ways. A directive has the rule in upper case. Its reason is the rest behind the colon without the
blanks around it, and not empty. It has the number of its line, counted from one, and is not
consumed. -/
theorem parse_exact (lines : List String) (hlines : ∀ line ∈ lines, '\n' ∉ line.toList) :
    ((parse lines).Pairwise fun d e => d.line < e.line) ∧
    (∀ d, d ∈ parse lines ↔ ∃ (i : Nat) (parts : Parts),
      lines[i]? = some (String.ofList parts.text) ∧ d = parts.directive (i + 1)) ∧
    Function.Injective Parts.text ∧ ∀ d ∈ parse lines, d.reason ≠ "" := by
  have hmem : ∀ d, d ∈ parse lines ↔ ∃ (i : Nat) (parts : Parts),
      lines[i]? = some (String.ofList parts.text) ∧ d = parts.directive (i + 1) := by
    intro d
    rw [parse, mem_parseFrom_iff]
    constructor
    · rintro ⟨i, line, hline, h⟩
      obtain ⟨parts, rfl, rfl⟩ :=
        (ofLine?_eq_some_iff (hlines line (List.mem_of_getElem? hline))).1 h
      exact ⟨i, parts, hline, by rw [Nat.add_comm]⟩
    · rintro ⟨i, parts, hline, rfl⟩
      refine ⟨i, _, hline, ?_⟩
      rw [ofLine?_eq_some_iff (hlines _ (List.mem_of_getElem? hline))]
      exact ⟨parts, rfl, by rw [Nat.add_comm]⟩
  refine ⟨pairwise_parseFrom 1 lines, hmem, Parts.text_injective, fun d hd => ?_⟩
  obtain ⟨i, parts, -, rfl⟩ := (hmem d).1 hd
  intro hempty
  exact parts.rest_not_blank (strip_eq_nil_iff.1 (String.ofList_injective hempty))

/-- The parts of a line with no blank behind the slashes and a second colon in its reason. -/
def Parts.tight : Parts where
  lead := ['\t']
  gap := []
  space := [' ', ' ']
  id := ['a', 'i', '_', '3']
  tail := []
  rest := [' ', 'a', ':', ' ', 'b', ' ']
  lead_blank := by decide
  gap_blank := by decide
  space_blank := by decide
  space_ne_nil := List.cons_ne_nil _ _
  id_chars := List.all_eq_true.1 (by decide)
  id_ne_nil := List.cons_ne_nil _ _
  tail_blank := by decide
  rest_not_blank := by decide

theorem parse_exact_tight :
    (∀ line ∈ ["x", "\t//secureai-ignore  ai_3: a: b "], '\n' ∉ line.toList) ∧
    ⟨"AI_3", "a: b", 2, false⟩ ∈ parse ["x", "\t//secureai-ignore  ai_3: a: b "] := by
  have hlines : ∀ line ∈ ["x", "\t//secureai-ignore  ai_3: a: b "], '\n' ∉ line.toList :=
    List.forall_mem_cons.2 ⟨by decide +kernel, List.forall_mem_singleton.2 (by decide +kernel)⟩
  have hparts : "\t//secureai-ignore  ai_3: a: b " = String.ofList Parts.tight.text ∧
      ⟨"AI_3", "a: b", 2, false⟩ = Parts.tight.directive 2 := by
    decide +kernel
  obtain ⟨-, hmem, -, -⟩ := parse_exact _ hlines
  exact ⟨hlines, (hmem _).2 ⟨1, Parts.tight, congrArg some hparts.1, hparts.2⟩⟩

end LlmAudit.Directive
