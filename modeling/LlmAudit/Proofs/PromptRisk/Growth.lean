import LlmAudit.PromptRisk.Basic
import LlmAudit.Proofs.Text.Stripping
import Mathlib.Data.List.Nodup

/-!
# Prompt risk only grows

The subject is the prompt risk of Section 15 of the specification.

A place of a text is also a place of a longer text. If no word character is added next to the old
ends (`Spot.Within`), words start and end in the longer text where they did
(`Spot.Within.isBoundary_eq`), and a phrase that starts at a place and ends at another does so in
the longer text as well (`Phrase.exists_mem_ends_of_within`, by induction on the phrase). So the
longer text holds every phrase of the shorter one (`Phrase.occursIn_between`).

A prompt between line breaks keeps its stripped text whole when the whole is stripped, with blanks
or nothing next to it (`exists_strip_between`). It therefore still shows each of its signs
(`Sign.shows_between`), and more signs weigh more (`rank_levelOf_le`).

## Main statements

* `PromptRisk.evaluate_grows` — text before and after a prompt takes away neither risk nor reasons.
-/

namespace LlmAudit

open Text

/-! ### Places -/

namespace Spot

variable {p q e : Spot} {front back : List Char}

/-- A place is reached from another one by going over some characters. -/
structure Moves (p : Spot) (front : List Char) (e : Spot) : Prop where
  /-- The characters come next. -/
  after : p.after = front ++ e.after
  /-- The last of them is the one before. -/
  before : e.before = front.getLast?.or p.before

theorem moves_nil_iff : Moves p [] e ↔ e = p := by
  constructor
  · rintro ⟨hafter, hbefore⟩
    cases p
    cases e
    simp_all
  · rintro rfl
    exact ⟨rfl, rfl⟩

/-- From the end of a text no other place is reached. -/
theorem moves_end_iff {before : Option Char} :
    Moves ⟨before, []⟩ front e ↔ front = [] ∧ e = ⟨before, []⟩ := by
  constructor
  · intro h
    obtain ⟨rfl, -⟩ := List.append_eq_nil_iff.1 h.after.symm
    exact ⟨rfl, moves_nil_iff.1 h⟩
  · rintro ⟨rfl, rfl⟩
    exact moves_nil_iff.2 rfl

/-- From a place before a character this place is reached, and what is reached from behind the
character. -/
theorem moves_cons_iff {before : Option Char} {c : Char} {rest : List Char} :
    Moves ⟨before, c :: rest⟩ front e ↔
      front = [] ∧ e = ⟨before, c :: rest⟩ ∨
        ∃ later, front = c :: later ∧ Moves ⟨some c, rest⟩ later e := by
  have hlast : ∀ later : List Char,
      (c :: later).getLast?.or before = later.getLast?.or (some c) := by
    intro later
    rw [List.getLast?_cons, Option.some_or, Option.or_some]
  constructor
  · intro h
    cases front with
    | nil => exact Or.inl ⟨rfl, moves_nil_iff.1 h⟩
    | cons d later =>
      obtain ⟨rfl, hrest⟩ := List.cons.inj h.after
      exact Or.inr ⟨later, rfl, hrest, h.before.trans (hlast later)⟩
  · rintro (⟨rfl, rfl⟩ | ⟨later, rfl, hafter, hbefore⟩)
    · exact moves_nil_iff.2 rfl
    · exact ⟨congrArg (c :: ·) hafter, hbefore.trans (hlast later).symm⟩

theorem Moves.trans (h : Moves p front q) (h' : Moves q back e) : Moves p (front ++ back) e where
  after := by rw [h.after, h'.after, List.append_assoc]
  before := by rw [h'.before, h.before, List.getLast?_append, Option.or_assoc]

/-- A place of a text as a place of a longer text, in which no word character has been put before
the place or right behind the end of the text. -/
structure Within (p q : Spot) : Prop where
  /-- A word character comes before where one did. -/
  before : q.before.any isWordChar = p.before.any isWordChar
  /-- The same characters come after, and more behind them. -/
  after : ∃ rest, q.after = p.after ++ rest ∧ rest.head?.any isWordChar = false

/-- Words start and end where they did. -/
theorem Within.isBoundary_eq (h : Within p q) : q.isBoundary = p.isBoundary := by
  obtain ⟨rest, hafter, hrest⟩ := h.after
  have hnext : q.after.head?.any isWordChar = p.after.head?.any isWordChar := by
    rw [hafter]
    cases p.after with
    | nil => rw [List.nil_append, hrest, List.head?_nil, Option.any_none]
    | cons c after => rw [List.cons_append, List.head?_cons, List.head?_cons]
  rw [isBoundary, isBoundary, h.before, hnext]

/-- The way from a place is a way in the longer text. -/
theorem Within.exists_moves (h : Within p q) (hmove : Moves p front e) :
    ∃ e', Moves q front e' ∧ Within e e' := by
  obtain ⟨rest, hafter, hrest⟩ := h.after
  refine ⟨⟨front.getLast?.or q.before, e.after ++ rest⟩, ⟨?_, rfl⟩, ?_, rest, rfl, hrest⟩
  · rw [hafter, hmove.after, List.append_assoc]
  · rw [hmove.before]
    cases front.getLast? with
    | none => rw [Option.none_or, Option.none_or, h.before]
    | some c => rw [Option.some_or, Option.some_or]

end Spot

/-! ### Phrases -/

namespace Phrase

open Spot

variable {p q e : Spot} {phrase : Phrase} {text front back : List Char}

theorem mem_step_iff {f : Char → Bool} : e ∈ step f p ↔ ∃ c, f c = true ∧ Moves p [c] e := by
  obtain ⟨before, after⟩ := p
  cases after with
  | nil => simp [step, moves_end_iff]
  | cons d rest =>
    rw [step]
    dsimp only
    constructor
    · intro he
      split at he
      · rename_i hd
        refine ⟨d, hd, moves_cons_iff.2 (Or.inr ⟨[], rfl, moves_nil_iff.2 ?_⟩)⟩
        exact List.mem_singleton.1 he
      · exact absurd he List.not_mem_nil
    · rintro ⟨c, hc, hmove⟩
      obtain ⟨hnil, -⟩ | ⟨later, hlater, hlast⟩ := moves_cons_iff.1 hmove
      · exact absurd hnil (List.cons_ne_nil c [])
      · obtain ⟨rfl, rfl⟩ := List.cons.inj hlater
        rw [if_pos hc, List.mem_singleton]
        exact moves_nil_iff.1 hlast

/-- Blanks are gone over as far as one likes. -/
theorem mem_blankEnds_iff (before : Option Char) (after : List Char) :
    e ∈ blankEnds before after ↔ ∃ front, AllBlank front ∧ Moves ⟨before, after⟩ front e := by
  induction after generalizing before with
  | nil =>
    rw [blankEnds, List.mem_singleton]
    constructor
    · exact fun he => ⟨[], List.forall_mem_nil _, moves_nil_iff.2 he⟩
    · rintro ⟨front, -, hmove⟩
      exact (moves_end_iff.1 hmove).2
  | cons c rest ih =>
    rw [blankEnds, List.mem_cons]
    constructor
    · rintro (he | he)
      · exact ⟨[], List.forall_mem_nil _, moves_nil_iff.2 he⟩
      · split at he
        · rename_i hc
          obtain ⟨later, hlater, hmove⟩ := (ih (some c)).1 he
          exact ⟨c :: later, List.forall_mem_cons.2 ⟨hc, hlater⟩,
            moves_cons_iff.2 (Or.inr ⟨later, rfl, hmove⟩)⟩
        · exact absurd he List.not_mem_nil
    · rintro ⟨front, hfront, hmove⟩
      obtain ⟨-, he⟩ | ⟨later, rfl, hfurther⟩ := moves_cons_iff.1 hmove
      · exact Or.inl he
      · obtain ⟨hc, hlater⟩ := List.forall_mem_cons.1 hfront
        rw [if_pos hc]
        exact Or.inr ((ih (some c)).2 ⟨later, hlater, hfurther⟩)

/-- One step over a character of a class is a step in the longer text. -/
theorem exists_mem_step_of_within {f : Char → Bool} (h : Within p q) (he : e ∈ step f p) :
    ∃ e' ∈ step f q, Within e e' := by
  obtain ⟨c, hc, hmove⟩ := mem_step_iff.1 he
  obtain ⟨e', hmove', hwithin⟩ := h.exists_moves hmove
  exact ⟨e', mem_step_iff.2 ⟨c, hc, hmove'⟩, hwithin⟩

/-- Where a phrase that starts at a place may end, it may end in the longer text. -/
theorem exists_mem_ends_of_within (h : Within p q) (he : e ∈ phrase.ends p) :
    ∃ e' ∈ phrase.ends q, Within e e' := by
  induction phrase generalizing p q e with
  | letter c => exact exists_mem_step_of_within h he
  | blank => exact exists_mem_step_of_within h he
  | boundary =>
    rw [ends] at he ⊢
    split at he
    · rename_i hboundary
      obtain rfl := List.mem_singleton.1 he
      rw [if_pos (h.isBoundary_eq.trans hboundary)]
      exact ⟨q, List.mem_singleton_self q, h⟩
    · exact absurd he List.not_mem_nil
  | blanks =>
    obtain ⟨front, hfront, hmove⟩ := (mem_blankEnds_iff p.before p.after).1 he
    obtain ⟨e', hmove', hwithin⟩ := h.exists_moves hmove
    exact ⟨e', (mem_blankEnds_iff q.before q.after).2 ⟨front, hfront, hmove'⟩, hwithin⟩
  | nothing =>
    obtain rfl := List.mem_singleton.1 he
    exact ⟨q, List.mem_singleton_self q, h⟩
  | seq first second ihfirst ihsecond =>
    obtain ⟨m, hm, he⟩ := List.mem_flatMap.1 he
    obtain ⟨m', hm', hmiddle⟩ := ihfirst h hm
    obtain ⟨e', he', hwithin⟩ := ihsecond hmiddle he
    exact ⟨e', List.mem_flatMap.2 ⟨m', hm', he'⟩, hwithin⟩
  | either first second ihfirst ihsecond =>
    rcases List.mem_append.1 he with he | he
    · obtain ⟨e', he', hwithin⟩ := ihfirst h he
      exact ⟨e', List.mem_append_left _ he', hwithin⟩
    · obtain ⟨e', he', hwithin⟩ := ihsecond h he
      exact ⟨e', List.mem_append_right _ he', hwithin⟩

/-- A phrase starts here or further on if it does at a place that can be reached from here. -/
theorem startsFrom_iff (before : Option Char) (after : List Char) :
    phrase.startsFrom before after = true ↔
      ∃ front start, Moves ⟨before, after⟩ front start ∧ phrase.ends start ≠ [] := by
  have hends : ∀ p, (!(phrase.ends p).isEmpty) = true ↔ phrase.ends p ≠ [] := by
    intro p
    rw [Bool.not_eq_true', List.isEmpty_eq_false_iff]
  induction after generalizing before with
  | nil =>
    rw [startsFrom, hends]
    constructor
    · exact fun h => ⟨[], ⟨before, []⟩, moves_nil_iff.2 rfl, h⟩
    · rintro ⟨front, start, hmove, h⟩
      exact (moves_end_iff.1 hmove).2 ▸ h
  | cons c rest ih =>
    rw [startsFrom, Bool.or_eq_true, hends]
    constructor
    · rintro (h | h)
      · exact ⟨[], ⟨before, c :: rest⟩, moves_nil_iff.2 rfl, h⟩
      · obtain ⟨later, start, hmove, h⟩ := (ih (some c)).1 h
        exact ⟨c :: later, start, moves_cons_iff.2 (Or.inr ⟨later, rfl, hmove⟩), h⟩
    · rintro ⟨front, start, hmove, h⟩
      obtain ⟨-, rfl⟩ | ⟨later, rfl, hfurther⟩ := moves_cons_iff.1 hmove
      · exact Or.inl h
      · exact Or.inr ((ih (some c)).2 ⟨later, start, hfurther, h⟩)

/-- A phrase of a text is a phrase of a longer text, if no word character stands next to the shorter
one in it. -/
theorem occursIn_between (hfront : front.getLast?.any isWordChar = false)
    (hback : back.head?.any isWordChar = false) (h : phrase.occursIn text = true) :
    phrase.occursIn (front ++ (text ++ back)) = true := by
  obtain ⟨skipped, start, hmove, hends⟩ := (startsFrom_iff none text).1 h
  -- the text starts behind `front`, where no word character comes before, as at the start of a text
  have hstart : Moves ⟨none, front ++ (text ++ back)⟩ front ⟨front.getLast?, text ++ back⟩ :=
    ⟨rfl, Option.or_none.symm⟩
  have hwithin : Within ⟨none, text⟩ ⟨front.getLast?, text ++ back⟩ := ⟨hfront, back, rfl, hback⟩
  obtain ⟨start', hmove', hwithin⟩ := hwithin.exists_moves hmove
  obtain ⟨e, he⟩ := List.exists_mem_of_ne_nil _ hends
  obtain ⟨e', he', -⟩ := exists_mem_ends_of_within hwithin he
  exact (startsFrom_iff none _).2
    ⟨front ++ skipped, start', hstart.trans hmove', List.ne_nil_of_mem he'⟩

/-- Next to a word character a phrase may be lost. -/
example : (words [Phrase.text "no"]).occursIn ['n', 'o'] = true ∧
    (words [Phrase.text "no"]).occursIn (['n', 'o'] ++ ['w']) = false := by
  decide +kernel

end Phrase

/-! ### Signs -/

namespace PromptRisk

variable {text front back : List Char} {sign : Sign} {shown more : List Sign}

/-- A sign that a text shows is shown by a longer text, if no word character stands next to the
shorter one in it. -/
theorem Sign.shows_between (hfront : front.getLast?.any isWordChar = false)
    (hback : back.head?.any isWordChar = false) (h : sign.shows text = true) :
    sign.shows (front ++ (text ++ back)) = true := by
  have hphrases : (sign.phrases.any fun p => p.occursIn text) = true →
      (sign.phrases.any fun p => p.occursIn (front ++ (text ++ back))) = true := by
    intro hany
    obtain ⟨p, hp, hoccurs⟩ := List.any_eq_true.1 hany
    exact List.any_eq_true.2 ⟨p, hp, Phrase.occursIn_between hfront hback hoccurs⟩
  cases sign with
  | userInput => exact hphrases h
  | override => exact hphrases h
  | danger => exact hphrases h
  | length =>
    have hlong : longest < text.length := of_decide_eq_true h
    refine decide_eq_true ?_
    simp only [List.length_append]
    omega

theorem Level.rank_low_le (level : Level) : Level.low.rank ≤ level.rank := Nat.zero_le _

theorem score_cons (sign : Sign) (shown : List Sign) :
    score (sign :: shown) = sign.weight + score shown := rfl

theorem score_le_of_sublist (h : shown.Sublist more) : score shown ≤ score more := by
  induction h with
  | slnil => exact Nat.le_refl _
  | cons sign _ ih => rw [score_cons]; omega
  | cons_cons sign _ ih => rw [score_cons, score_cons]; omega

/-- More signs are no lesser risk. -/
theorem rank_levelOf_le (h : shown.Sublist more) : (levelOf shown).rank ≤ (levelOf more).rank := by
  have hscore := score_le_of_sublist h
  simp only [levelOf]
  split_ifs <;> simp only [Level.rank] <;> omega

/-- The signs of a text are among those of another if it shows no other ones. -/
theorem signs_sublist {longer : List Char}
    (h : ∀ sign : Sign, sign.shows text = true → sign.shows longer = true) :
    (signs text).Sublist (signs longer) :=
  List.monotone_filter_right Sign.all fun sign => h sign

/-! ### Prompts between line breaks -/

/-- Stripped with other lines around it, a text that is not blank stays whole, and no word character
comes next to it. -/
theorem exists_strip_between (hne : strip text ≠ []) (x y : List Char) :
    ∃ front back, strip (x ++ ['\n'] ++ text ++ ['\n'] ++ y) = front ++ (strip text ++ back) ∧
      front.getLast?.any isWordChar = false ∧ back.head?.any isWordChar = false := by
  obtain ⟨lead, trail, htext, hlead, htrail⟩ := exists_eq_strip text
  have hwhole : x ++ ['\n'] ++ text ++ ['\n'] ++ y =
      (x ++ ('\n' :: lead)) ++ (strip text ++ ((trail ++ ['\n']) ++ y)) := by
    conv_lhs => rw [htext]
    simp
  have hbefore : AllBlank ('\n' :: lead) := List.forall_mem_cons.2 ⟨by decide, hlead⟩
  have hbehind : AllBlank (trail ++ ['\n']) :=
    List.forall_mem_append.2 ⟨htrail, List.forall_mem_singleton.2 (by decide)⟩
  refine ⟨stripLeft (x ++ ('\n' :: lead)), stripRight ((trail ++ ['\n']) ++ y), ?_, ?_, ?_⟩
  · rw [hwhole, strip_append_append (trimmed_strip text) hne]
  · exact any_isWordChar_of_isBlank (isBlank_of_mem_getLast?_stripLeft hbefore (by simp))
  · exact any_isWordChar_of_isBlank (isBlank_of_mem_head?_stripRight hbehind (by simp))

/-! ### Verdicts -/

theorem Sign.mem_all (sign : Sign) : sign ∈ Sign.all := by
  cases sign <;> decide

/-- No two signs are reported alike. -/
theorem Sign.reason_injective : Function.Injective Sign.reason := by
  have hnodup : (Sign.all.map Sign.reason).Nodup := by decide
  intro sign other h
  exact List.inj_on_of_nodup_map hnodup sign.mem_all other.mem_all h

/-- A sign is reported exactly if it is shown. -/
theorem reason_mem_reasonsFor_iff : sign.reason ∈ reasonsFor shown ↔ sign ∈ shown := by
  cases shown with
  | nil => cases sign <;> simp [reasonsFor, Sign.reason]
  | cons first rest => exact List.mem_map_of_injective Sign.reason_injective

theorem evaluate_of_empty {prompt : String} (h : strip prompt.toList = []) :
    evaluate prompt = ⟨.low, ["Prompt text is empty."],
      ["Provide the exact prompt text to evaluate risk."]⟩ := by
  simp [evaluate, h]

theorem evaluate_of_nonempty {prompt : String} (h : strip prompt.toList ≠ []) :
    evaluate prompt = ⟨levelOf (signs (strip prompt.toList)),
      reasonsFor (signs (strip prompt.toList)), suggestionsFor (signs (strip prompt.toList))⟩ := by
  simp [evaluate, h]

/-- **Prompt risk only grows.** Lines before and after a prompt lower neither its level nor do they
take away one of the reasons that its signs give. -/
theorem evaluate_grows (x prompt y : String) :
    (evaluate prompt).level.rank ≤ (evaluate (x ++ "\n" ++ prompt ++ "\n" ++ y)).level.rank ∧
    ∀ sign : Sign, sign.reason ∈ (evaluate prompt).reasons →
      sign.reason ∈ (evaluate (x ++ "\n" ++ prompt ++ "\n" ++ y)).reasons := by
  by_cases hempty : strip prompt.toList = []
  · -- an empty prompt has the lowest level and none of the reasons
    rw [evaluate_of_empty hempty]
    refine ⟨Level.rank_low_le _, fun sign hsign => ?_⟩
    cases sign <;> exact absurd hsign (by decide)
  · obtain ⟨front, back, hstrip, hfront, hback⟩ :=
      exists_strip_between hempty x.toList y.toList
    have htext : (x ++ "\n" ++ prompt ++ "\n" ++ y).toList =
        x.toList ++ ['\n'] ++ prompt.toList ++ ['\n'] ++ y.toList := by
      simp only [String.toList_append]
      rfl
    have hlonger : strip (x ++ "\n" ++ prompt ++ "\n" ++ y).toList ≠ [] := by
      rw [htext, hstrip]
      simp [hempty]
    have hsigns : (signs (strip prompt.toList)).Sublist
        (signs (strip (x ++ "\n" ++ prompt ++ "\n" ++ y).toList)) := by
      rw [htext, hstrip]
      exact signs_sublist fun sign => Sign.shows_between hfront hback
    rw [evaluate_of_nonempty hempty, evaluate_of_nonempty hlonger]
    dsimp only
    refine ⟨rank_levelOf_le hsigns, fun sign hsign => ?_⟩
    rw [reason_mem_reasonsFor_iff] at hsign ⊢
    exact hsigns.subset hsign

/-- A prompt of one word is found again between lines that would make the word longer. -/
theorem evaluate_grows_jailbreak :
    (evaluate "JAILBREAK").level.rank ≤
      (evaluate ("un" ++ "\n" ++ "JAILBREAK" ++ "\n" ++ "ing")).level.rank ∧
    Sign.override.reason ∈ (evaluate "JAILBREAK").reasons ∧
    Sign.override.reason ∈ (evaluate ("un" ++ "\n" ++ "JAILBREAK" ++ "\n" ++ "ing")).reasons := by
  have hreported : Sign.override.reason ∈ (evaluate "JAILBREAK").reasons := by decide +kernel
  obtain ⟨hlevel, hreasons⟩ := evaluate_grows "un" "JAILBREAK" "ing"
  exact ⟨hlevel, hreported, hreasons .override hreported⟩

end PromptRisk

end LlmAudit
