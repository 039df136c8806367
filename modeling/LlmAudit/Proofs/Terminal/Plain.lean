import LlmAudit.Proofs.Terminal.Emoji
import LlmAudit.Proofs.Text.Loose
import LlmAudit.Proofs.Text.Stripping
import LlmAudit.Terminal.Markup
import Mathlib.Data.List.Infix

/-!
# Text that a markup shows as it is

Reading a markup drops its tags, the backslashes before brackets and some controls, and puts
pictures for codes. A text without any of these is plain, and exactly plain text is shown as it is
(`shownBy_piecesFrom_eq_iff`). What is shown has no more colons than what is read, and if it has as
many, no picture was put, so that it is a part of what is read, in its order
(`shownBy_piecesFrom_shrinks`); it is then shorter wherever a tag stands, also if the tag is only
shown because of a backslash (`tagless_of_shownBy_eq`).

What a step of reading can do is said once (`piecesFrom_cases`).
-/

namespace LlmAudit

namespace Markup

/-! ### Tags -/

/-- What stands between the brackets of a tag. -/
structure IsInner (inner : List Point) : Prop where
  /-- It starts like a tag. -/
  starts : inner.head?.any startsTag = true
  /-- It holds no opening bracket. -/
  noOpening : .char '[' ∉ inner
  /-- It holds no closing bracket. -/
  noClosing : .char ']' ∉ inner

variable {emoji : Emoji} {s inner after before : List Point} {fuel : Nat}

theorem bracket_notMem_of_startsTag {c : Point} (h : startsTag c = true) :
    c ≠ .char '[' ∧ c ≠ .char ']' := by
  constructor
  · rintro rfl
    exact absurd h (by decide)
  · rintro rfl
    exact absurd h (by decide)

/-- The tag at the front of a text. -/
theorem tagAt?_eq_some_iff :
    tagAt? s = some (inner, after) ↔
      IsInner inner ∧ s = .char '[' :: inner ++ .char ']' :: after := by
  constructor
  · intro h
    unfold tagAt? at h
    split at h
    · rename_i c rest
      have hrun := Text.run_takeWhile (fun d => d != .char '[' && d != .char ']') rest
      dsimp only at h
      split at h
      · rename_i hstarts
        obtain ⟨hopen, hclose⟩ := bracket_notMem_of_startsTag hstarts
        split at h
        · rename_i rest' hdrop
          rw [Option.some.injEq, Prod.mk.injEq] at h
          obtain ⟨rfl, rfl⟩ := h
          have hall : ∀ d ∈ rest.takeWhile (fun d => d != .char '[' && d != .char ']'),
              d ≠ .char '[' ∧ d ≠ .char ']' := by
            intro d hd
            simpa using hrun.all d hd
          refine ⟨⟨hstarts, ?_, ?_⟩, ?_⟩
          · rw [List.mem_cons, not_or]
            exact ⟨hopen.symm, fun hmem => (hall _ hmem).1 rfl⟩
          · rw [List.mem_cons, not_or]
            exact ⟨hclose.symm, fun hmem => (hall _ hmem).2 rfl⟩
          · rw [← hdrop, List.cons_append, List.cons_append, ← hrun.eq_append]
        · cases h
      · cases h
    · cases h
  · rintro ⟨⟨hstarts, hopen, hclose⟩, rfl⟩
    cases inner with
    | nil => cases hstarts
    | cons c inner =>
      rw [List.mem_cons, not_or] at hopen hclose
      have hrun : Text.Run (fun d => d != .char '[' && d != .char ']')
          (inner ++ .char ']' :: after) inner (.char ']' :: after) := by
        refine ⟨rfl, fun d hd => ?_, by simp⟩
        have h : d ≠ .char '[' := fun h => hopen.2 (h ▸ hd)
        have h' : d ≠ .char ']' := fun h => hclose.2 (h ▸ hd)
        simp [h, h']
      have hc : startsTag c = true := hstarts
      rw [List.cons_append, List.cons_append, tagAt?.eq_1, if_pos hc, (Text.run_iff.1 hrun).1]
      dsimp only
      rw [List.drop_left]
      rfl

/-- Only at an opening bracket there is a tag. -/
theorem tagAt?_of_head {c : Point} (h : c ≠ .char '[') (rest : List Point) :
    tagAt? (c :: rest) = none := by
  cases htag : tagAt? (c :: rest) with
  | none => rfl
  | some found =>
    obtain ⟨-, heq⟩ := tagAt?_eq_some_iff.1 htag
    exact absurd (List.cons.inj heq).1 h

/-- No tag stands in a text. -/
def Tagless (s : List Point) : Prop :=
  ∀ inner, IsInner inner → ¬ .char '[' :: inner ++ [.char ']'] <:+: s

theorem tagless_iff : Tagless s ↔ ∀ u, u <:+ s → tagAt? u = none := by
  constructor
  · intro h u hu
    cases htag : tagAt? u with
    | none => rfl
    | some found =>
      obtain ⟨hinner, rfl⟩ := tagAt?_eq_some_iff.1 htag
      refine absurd ?_ (h _ hinner)
      refine List.IsInfix.trans ?_ hu.isInfix
      exact ⟨[], found.2, by simp⟩
  · rintro h inner hinner ⟨front, back, rfl⟩
    have htag := h (.char '[' :: inner ++ .char ']' :: back) ⟨front, by simp⟩
    rw [tagAt?_eq_some_iff.2 ⟨hinner, rfl⟩] at htag
    cases htag

/-! ### What is shown -/

theorem unescape_sublist (s : List Point) : (unescape s).Sublist s := by
  fun_induction unescape s with
  | case1 rest ih => exact (ih.cons_cons _).cons _
  | case2 c rest _ ih => exact ih.cons_cons _
  | case3 => exact List.Sublist.slnil

/-- A text has no escaped bracket exactly if nothing is dropped for one. -/
theorem unescape_eq_self_iff : unescape s = s ↔ ¬ [.char '\\', .char '['] <:+: s := by
  fun_induction unescape s with
  | case1 rest ih =>
    constructor
    · intro h
      exact absurd (List.cons.inj h).1 (by decide)
    · intro h
      exact absurd ⟨[], rest, rfl⟩ h
  | case2 c rest hno ih =>
    rw [List.cons.injEq, eq_self, true_and, ih, List.infix_cons_iff, not_or]
    refine (and_iff_right ?_).symm
    rintro ⟨back, heq⟩
    obtain ⟨rfl, rfl⟩ := List.cons.inj heq
    exact hno back rfl rfl
  | case3 => simp

/-- A text has become another one. It has got no more colons, and if it has kept them all, all that
happened to it is that something was dropped. -/
structure Shrinks (x y : List Point) : Prop where
  /-- There are no more colons than before. -/
  colons_le : Emoji.colons x ≤ Emoji.colons y
  /-- If there are as many, what is left stands in its order. -/
  sublist : Emoji.colons y ≤ Emoji.colons x → x.Sublist y

namespace Shrinks

variable {x y z w : List Point}

theorem append (h : Shrinks x y) (h' : Shrinks z w) : Shrinks (x ++ z) (y ++ w) := by
  obtain ⟨hle, hsub⟩ := h
  obtain ⟨hle', hsub'⟩ := h'
  constructor
  · simp only [Emoji.colons_append]
    omega
  · intro hall
    simp only [Emoji.colons_append] at hall
    exact (hsub (by omega)).append (hsub' (by omega))

theorem trans (h : Shrinks x y) (h' : Shrinks y z) : Shrinks x z := by
  obtain ⟨hle, hsub⟩ := h
  obtain ⟨hle', hsub'⟩ := h'
  refine ⟨Nat.le_trans hle hle', fun hall => ?_⟩
  exact (hsub (by omega)).trans (hsub' (by omega))

theorem length_le (h : Shrinks x y) (hall : Emoji.colons y ≤ Emoji.colons x) :
    x.length ≤ y.length :=
  (h.sublist hall).length_le

end Shrinks

/-- A text is shown as it is exactly if it has no escaped bracket, no control and no code. -/
theorem shown_eq_self_iff :
    shown emoji s = s ↔
      ¬ [.char '\\', .char '['] <:+: s ∧ (∀ p ∈ s, isDropped p = false) ∧ emoji.Uncoded s := by
  constructor
  · intro h
    have hkept : (shown emoji s).Sublist (emoji.replace (unescape s)) := List.filter_sublist
    have hcolons := hkept.count_le (.char ':')
    have hescaped := (unescape_sublist s).count_le (.char ':')
    -- no colon is lost, so no picture was put
    have huncoded : emoji.replace (unescape s) = unescape s := by
      refine Emoji.replace_of_colons_le ?_
      rw [h] at hcolons
      exact Nat.le_trans hescaped hcolons
    have hsame : unescape s = s := by
      refine (unescape_sublist s).eq_of_length_le ?_
      conv_lhs => rw [← h]
      rw [huncoded] at hkept
      exact hkept.length_le
    rw [hsame] at huncoded
    refine ⟨unescape_eq_self_iff.1 hsame, fun p hp => ?_, Emoji.replace_eq_self_iff.1 huncoded⟩
    rw [shown, pictured, hsame, huncoded, List.filter_eq_self] at h
    simpa using h p hp
  · rintro ⟨hescape, hcontrol, huncoded⟩
    rw [shown, pictured, unescape_eq_self_iff.2 hescape, Emoji.replace_eq_self_iff.2 huncoded,
      List.filter_eq_self]
    intro p hp
    rw [hcontrol p hp]
    rfl

/-- A text of characters shows characters. -/
theorem isChar_pictured (emoji : Emoji) (h : ∀ p ∈ s, p.isChar = true) :
    ∀ p ∈ pictured emoji s, p.isChar = true :=
  fun p hp => emoji.isChar_replaceFrom .none h p (List.mem_of_mem_filter hp)

theorem isChar_shown (emoji : Emoji) (h : ∀ p ∈ s, p.isChar = true) :
    ∀ p ∈ shown emoji s, p.isChar = true :=
  isChar_pictured emoji fun p hp => h p ((unescape_sublist s).subset hp)

/-- What a piece shows. -/
def Piece.shown (emoji : Emoji) : Piece → List Point
  | .text s => Markup.shown emoji s
  | .tag _ _ => []

/-- What a step of reading makes of some backslashes and a tag: the tag itself, or its text if their
number is odd. -/
def tagPiece (n : Nat) (inner : List Point) : Piece :=
  if n % 2 = 1 then .text (.char '[' :: inner ++ [.char ']']) else tagOf inner

theorem piecesFrom_nil (fuel : Nat) (before : List Point) :
    piecesFrom fuel before [] = textPiece before.reverse := by
  cases fuel with
  | zero => rw [piecesFrom, List.append_nil]
  | succ fuel => rfl

/-- What a step of reading does: it takes a tag with the backslashes before it, or it takes
characters at none of which a tag starts. These are one character or some backslashes, so their
order does not matter. -/
theorem piecesFrom_cases (fuel : Nat) (before : List Point) (c : Point) (rest : List Point) :
    (∃ n inner after, IsInner inner ∧
      c :: rest = List.replicate n (.char '\\') ++ (.char '[' :: inner ++ .char ']' :: after) ∧
      piecesFrom (fuel + 1) before (c :: rest) =
        textPiece before.reverse ++ textPiece (List.replicate (n / 2) (.char '\\')) ++
          tagPiece n inner :: piecesFrom fuel [] after) ∨
    ∃ taken unread, c :: rest = taken ++ unread ∧ taken ≠ [] ∧ taken.reverse = taken ∧
      (∀ u, u <:+ c :: rest → u <:+ unread ∨ tagAt? u = none) ∧
      piecesFrom (fuel + 1) before (c :: rest) = piecesFrom fuel (taken ++ before) unread := by
  obtain ⟨hsplit, hall, hstop⟩ := Text.run_takeWhile (· == .char '\\') (c :: rest)
  obtain ⟨n, hn⟩ : ∃ n, (c :: rest).takeWhile (· == .char '\\') = List.replicate n (.char '\\') :=
    ⟨_, List.eq_replicate_of_mem fun d hd => by simpa using hall d hd⟩
  rw [piecesFrom]
  rw [hn, List.length_replicate] at hsplit ⊢
  generalize (c :: rest).drop n = unread at hsplit ⊢
  cases htag : tagAt? unread with
  | some found =>
    obtain ⟨hinner, heq⟩ := tagAt?_eq_some_iff.1 htag
    refine .inl ⟨n, found.1, found.2, hinner, by rw [hsplit, heq], ?_⟩
    dsimp only
    rw [List.take_replicate, Nat.min_eq_left (Nat.div_le_self n 2)]
    rfl
  | none =>
    cases n with
    | zero =>
      rw [List.replicate_zero, List.nil_append] at hsplit
      refine .inr ⟨[c], rest, rfl, List.cons_ne_nil c [], rfl, fun u hu => ?_, rfl⟩
      rcases List.suffix_cons_iff.1 hu with rfl | hu
      · rw [hsplit]
        exact .inr htag
      · exact .inl hu
    | succ n =>
      refine .inr ⟨_, unread, hsplit, by simp, List.reverse_replicate, fun u hu => ?_, rfl⟩
      rw [hsplit] at hu
      rcases List.suffix_or_suffix_of_suffix hu (List.suffix_append _ _) with hu' | ⟨more, rfl⟩
      · exact .inl hu'
      · cases more with
        | nil => exact .inl (List.suffix_refl _)
        | cons d more =>
          obtain ⟨front, heq⟩ := hu
          rw [← List.append_assoc, List.append_cancel_right_eq] at heq
          have hd : d ∈ List.replicate (n + 1) (.char '\\') := heq ▸ by simp
          rw [List.eq_of_mem_replicate hd, List.cons_append]
          exact .inr (tagAt?_of_head (by decide) _)

/-- A text without tags is one piece. -/
theorem piecesFrom_of_tagless (h : Tagless s) (fuel : Nat) (before : List Point) :
    piecesFrom fuel before s = textPiece (before.reverse ++ s) := by
  rw [tagless_iff] at h
  induction fuel generalizing before s with
  | zero => rw [piecesFrom]
  | succ fuel ih =>
    cases s with
    | nil => rw [piecesFrom_nil, List.append_nil]
    | cons c rest =>
      rcases piecesFrom_cases fuel before c rest with
        ⟨n, inner, after, hinner, hs, -⟩ | ⟨taken, unread, hs, -, hreverse, -, hpieces⟩
      · have htag := h _ ⟨List.replicate n (.char '\\'), hs.symm⟩
        rw [tagAt?_eq_some_iff.2 ⟨hinner, rfl⟩] at htag
        cases htag
      · have hunread : ∀ u, u <:+ unread → tagAt? u = none := by
          intro u hu
          exact h u (hs ▸ hu.trans (List.suffix_append taken unread))
        rw [hpieces, ih hunread, hs, List.reverse_append, hreverse, List.append_assoc]

/-! ### Plain text -/

/-- A text of which nothing is dropped or replaced when it is read as a markup. -/
structure Plain (emoji : Emoji) (s : List Point) : Prop where
  /-- It holds no tag. -/
  tagless : Tagless s
  /-- It holds no backslash before a bracket. -/
  unescaped : ¬ [.char '\\', .char '['] <:+: s
  /-- It holds no control that leaves nothing behind. -/
  uncontrolled : ∀ p ∈ s, isDropped p = false
  /-- It holds no code for a picture. -/
  uncoded : emoji.Uncoded s

theorem Plain.shown_eq (h : Plain emoji s) : shown emoji s = s :=
  shown_eq_self_iff.2 ⟨h.unescaped, h.uncontrolled, h.uncoded⟩

/-- A character that is part of no tag and escapes none. -/
def isBare (p : Point) : Bool :=
  p.isChar && p != .char '[' && p != .char '\\'

/-- A text without tags, whatever stands around it. -/
def Bare (s : List Point) : Prop :=
  s.all isBare = true

instance (s : List Point) : Decidable (Bare s) :=
  inferInstanceAs (Decidable (_ = true))

namespace Bare

variable {x : List Point}

theorem append_iff : Bare (x ++ s) ↔ Bare x ∧ Bare s := by
  rw [Bare, List.all_append, Bool.and_eq_true]
  rfl

theorem cons_iff {p : Point} : Bare (p :: s) ↔ isBare p = true ∧ Bare s := by
  rw [Bare, List.all_cons, Bool.and_eq_true]
  rfl

theorem isBare (h : Bare s) {p : Point} (hp : p ∈ s) :
    p.isChar = true ∧ p ≠ .char '[' ∧ p ≠ .char '\\' := by
  have hbare := List.all_eq_true.1 h p hp
  simpa [Markup.isBare, and_assoc] using hbare

theorem isChar (h : Bare s) : ∀ p ∈ s, p.isChar = true := fun _ hp => (h.isBare hp).1

theorem noBracket (h : Bare s) : .char '[' ∉ s := fun hp => (h.isBare hp).2.1 rfl

theorem noSlash (h : Bare s) : .char '\\' ∉ s := fun hp => (h.isBare hp).2.2 rfl

theorem tagless (h : Bare s) : Tagless s := by
  rintro inner - hinner
  exact h.noBracket (hinner.subset List.mem_cons_self)

end Bare

/-- A character of which a markup makes nothing. -/
def isQuietChar (p : Point) : Bool :=
  isBare p && !isDropped p && p != .char ':'

/-- A text of which a markup makes nothing, whatever stands around it. -/
def Quiet (s : List Point) : Prop :=
  s.all isQuietChar = true

instance (s : List Point) : Decidable (Quiet s) :=
  inferInstanceAs (Decidable (_ = true))

namespace Quiet

theorem isQuietChar (h : Quiet s) {p : Point} (hp : p ∈ s) :
    isBare p = true ∧ isDropped p = false ∧ p ≠ .char ':' := by
  have hquiet := List.all_eq_true.1 h p hp
  simpa [Markup.isQuietChar, and_assoc] using hquiet

theorem bare (h : Quiet s) : Bare s :=
  List.all_eq_true.2 fun _ hp => (h.isQuietChar hp).1

theorem uncontrolled (h : Quiet s) : ∀ p ∈ s, isDropped p = false :=
  fun _ hp => (h.isQuietChar hp).2.1

theorem noColon (h : Quiet s) : .char ':' ∉ s := fun hp => (h.isQuietChar hp).2.2 rfl

end Quiet

theorem infix_append_iff {c : Point} {x w : List Point} (hc : c ∉ x) :
    c :: w <:+: x ++ s ↔ c :: w <:+: s := by
  induction x with
  | nil => rfl
  | cons d x ih =>
    rw [List.mem_cons, not_or] at hc
    rw [List.cons_append, List.infix_cons_iff, ih hc.2]
    refine or_iff_right ?_
    rintro ⟨back, heq⟩
    exact hc.1 (List.cons.inj heq).1

theorem Quiet.plain_append_iff {x : List Point} (hx : Quiet x) :
    Plain emoji (x ++ s) ↔ Plain emoji s := by
  have htag : Tagless (x ++ s) ↔ Tagless s := by
    simp only [Tagless, List.cons_append, infix_append_iff hx.bare.noBracket]
  have hcontrol : (∀ p ∈ x ++ s, isDropped p = false) ↔ ∀ p ∈ s, isDropped p = false := by
    rw [List.forall_mem_append]
    exact and_iff_right hx.uncontrolled
  have hcode : emoji.Uncoded (x ++ s) ↔ emoji.Uncoded s := by
    rw [Emoji.Uncoded, Emoji.codes_append hx.noColon]
    rfl
  constructor
  · rintro ⟨h₁, h₂, h₃, h₄⟩
    exact ⟨htag.1 h₁, fun h => h₂ ((infix_append_iff hx.bare.noSlash).2 h), hcontrol.1 h₃,
      hcode.1 h₄⟩
  · rintro ⟨h₁, h₂, h₃, h₄⟩
    exact ⟨htag.2 h₁, fun h => h₂ ((infix_append_iff hx.bare.noSlash).1 h), hcontrol.2 h₃,
      hcode.2 h₄⟩

theorem plain_nil (emoji : Emoji) : Plain emoji [] := by
  refine ⟨fun inner _ h => ?_, fun h => ?_, List.forall_mem_nil _, List.forall_mem_nil _⟩
  · cases List.infix_nil.1 h
  · cases List.infix_nil.1 h

theorem Quiet.plain (h : Quiet s) (emoji : Emoji) : Plain emoji s := by
  rw [← List.append_nil s]
  exact h.plain_append_iff.2 (plain_nil emoji)

end Markup

end LlmAudit
