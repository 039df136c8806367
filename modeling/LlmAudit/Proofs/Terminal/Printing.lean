import LlmAudit.Proofs.Files.Names
import LlmAudit.Proofs.Terminal.Plain

/-!
# Printing text in a style

Most lines of a page are a text in a style between other texts. The style covers its text and
nothing else (`showFrom_styled`), so such a line is printed without its tags if the rest is plain
(`Plain.printed_styled`), and what is printed for any rest is known too (`eq_of_printed_styled`). A
line without further tags can always be printed, whatever pictures its codes stand for
(`Bare.printed_styled`). A text is printed as one line if it holds no line feed
(`eq_of_printedLines`); its tabs are widened.
-/

namespace LlmAudit.Markup

variable {emoji : Emoji} {inner after before : List Point} {fuel : Nat}

/-! ### Text in a style -/

section

variable {s : List Point}

theorem piecesFrom_of_ne {c : Point} (hc : c ≠ .char '[') (hc' : c ≠ .char '\\') (fuel : Nat)
    (before rest : List Point) :
    piecesFrom (fuel + 1) before (c :: rest) = piecesFrom fuel (c :: before) rest := by
  have hslash : ¬ (c == .char '\\') = true := by simpa using hc'
  rw [piecesFrom, List.takeWhile_cons, if_neg hslash, List.length_nil, List.drop_zero,
    tagAt?_of_head hc]
  rfl

/-- Bare text is taken character by character. -/
theorem piecesFrom_bare {x : List Point} (hx : Bare x) (hfuel : (x ++ s).length ≤ fuel)
    (before : List Point) :
    ∃ fuel', s.length ≤ fuel' ∧
      piecesFrom fuel before (x ++ s) = piecesFrom fuel' (x.reverse ++ before) s := by
  induction x generalizing fuel before with
  | nil => exact ⟨fuel, hfuel, rfl⟩
  | cons c x ih =>
    obtain ⟨-, hbracket, hslash⟩ := hx.isBare List.mem_cons_self
    cases fuel with
    | zero => cases hfuel
    | succ fuel =>
      obtain ⟨fuel', hfuel', hpieces⟩ :=
        ih (Bare.cons_iff.1 hx).2 (Nat.le_of_succ_le_succ hfuel) (c :: before)
      refine ⟨fuel', hfuel', ?_⟩
      rw [List.cons_append, piecesFrom_of_ne hbracket hslash, hpieces, List.reverse_cons,
        List.append_assoc, List.singleton_append]

/-- A tag ends the text before it. -/
theorem piecesFrom_tag (h : IsInner inner)
    (hfuel : (.char '[' :: inner ++ .char ']' :: after).length ≤ fuel) (before : List Point) :
    ∃ fuel', after.length ≤ fuel' ∧
      piecesFrom fuel before (.char '[' :: inner ++ .char ']' :: after) =
        textPiece before.reverse ++ tagOf inner :: piecesFrom fuel' [] after := by
  cases fuel with
  | zero => cases hfuel
  | succ fuel =>
    refine ⟨fuel, ?_, ?_⟩
    · simp at hfuel
      omega
    · have htag := tagAt?_eq_some_iff.2 ⟨h, Eq.refl (.char '[' :: inner ++ .char ']' :: after)⟩
      rw [List.cons_append] at htag ⊢
      rw [piecesFrom, List.takeWhile_cons, if_neg (by decide), List.length_nil, List.drop_zero,
        htag]
      have hslashes : textPiece (List.take (0 / 2) []) = [] := rfl
      dsimp only
      rw [hslashes, List.append_nil, if_neg (by decide)]

/-- A style that has a name of its own: its tags open and close it. -/
structure IsSettled (style : List Point) : Prop where
  /-- It can stand in a tag. -/
  inner : IsInner style
  /-- It holds no equals sign. -/
  noParameters : .char '=' ∉ style
  /-- It closes nothing and is for no handler. -/
  opens : style.head?.any (fun c => c != .char '/' && c != .char '@') = true
  /-- There are no blanks around it. -/
  trimmed : LooseText.strip ⟨style⟩ = ⟨style⟩
  /-- It is its own normal form. -/
  normal : Style.normalForm ⟨style⟩ = .ok ⟨style⟩
  /-- It is a style. -/
  known : (Style.parse ⟨style⟩).toOption.isSome = true

theorem isSettled_iff {style : List Point} :
    IsSettled style ↔
      (style.head?.any startsTag = true ∧ .char '[' ∉ style ∧ .char ']' ∉ style) ∧
      .char '=' ∉ style ∧ style.head?.any (fun c => c != .char '/' && c != .char '@') = true ∧
      LooseText.strip ⟨style⟩ = ⟨style⟩ ∧ Style.normalForm ⟨style⟩ = .ok ⟨style⟩ ∧
      (Style.parse ⟨style⟩).toOption.isSome = true := by
  constructor
  · rintro ⟨⟨h₁, h₂, h₃⟩, h₄, h₅, h₆, h₇, h₈⟩
    exact ⟨⟨h₁, h₂, h₃⟩, h₄, h₅, h₆, h₇, h₈⟩
  · rintro ⟨⟨h₁, h₂, h₃⟩, h₄, h₅, h₆, h₇, h₈⟩
    exact ⟨⟨h₁, h₂, h₃⟩, h₄, h₅, h₆, h₇, h₈⟩

instance (style : List Point) : Decidable (IsSettled style) :=
  decidable_of_iff' _ isSettled_iff

variable {style x w rest : List Point}

theorem IsSettled.closing (h : IsSettled style) : IsInner (.char '/' :: style) where
  starts := rfl
  noOpening := by
    rw [List.mem_cons, not_or]
    exact ⟨by decide, h.inner.noOpening⟩
  noClosing := by
    rw [List.mem_cons, not_or]
    exact ⟨by decide, h.inner.noClosing⟩

theorem tagOf_eq (h : .char '=' ∉ inner) : tagOf inner = .tag inner none := by
  have hname : inner.takeWhile (· != .char '=') = inner := by
    refine List.takeWhile_eq_self_iff.2 fun c hc => ?_
    rw [bne_iff_ne]
    exact fun heq => h (heq ▸ hc)
  rw [tagOf, hname, List.drop_length]

/-- A text in a style between others. -/
def inStyle (x style w rest : List Point) : List Point :=
  x ++ (.char '[' :: style ++ .char ']' ::
    (w ++ (.char '[' :: (.char '/' :: style) ++ .char ']' :: rest)))

/-- The pieces of a text in a style between others. -/
theorem pieces_inStyle (hstyle : IsSettled style) (hx : Bare x) (hw : Bare w) (rest : List Point) :
    ∃ fuel, rest.length ≤ fuel ∧
      pieces (inStyle x style w rest) =
        textPiece x ++ .tag style none ::
          (textPiece w ++ .tag (.char '/' :: style) none :: piecesFrom fuel [] rest) := by
  have hname : .char '=' ∉ .char '/' :: style := by
    rw [List.mem_cons, not_or]
    exact ⟨by decide, hstyle.noParameters⟩
  obtain ⟨fuel₁, hfuel₁, h₁⟩ := piecesFrom_bare hx (Nat.le_refl _) []
  obtain ⟨fuel₂, hfuel₂, h₂⟩ := piecesFrom_tag hstyle.inner hfuel₁ (x.reverse ++ [])
  obtain ⟨fuel₃, hfuel₃, h₃⟩ := piecesFrom_bare hw hfuel₂ []
  obtain ⟨fuel₄, hfuel₄, h₄⟩ := piecesFrom_tag hstyle.closing hfuel₃ (w.reverse ++ [])
  refine ⟨fuel₄, hfuel₄, ?_⟩
  rw [pieces, inStyle, h₁, h₂, h₃, h₄, tagOf_eq hstyle.noParameters, tagOf_eq hname]
  simp only [List.append_nil, List.reverse_reverse]

theorem showFrom_textPiece (emoji : Emoji) (x : List Point) (start : Shown) (ps : List Piece) :
    showFrom emoji start (textPiece x ++ ps) =
      showFrom emoji { start with text := start.text ++ shown emoji x } ps := by
  rw [textPiece]
  split
  · rename_i hnil
    have hshown : shown emoji [] = [] := rfl
    rw [List.isEmpty_iff.1 hnil, hshown, List.append_nil, List.nil_append]
  · rw [List.singleton_append, showFrom]

theorem afterTag_opening (h : IsSettled style) (start : Shown) :
    afterTag start style none = .ok { start with
      stack := ⟨⟨style⟩, none, start.text.length⟩ :: start.stack } := by
  unfold afterTag
  split
  · rename_i closing
    exact absurd h.opens (by simp)
  · rw [h.normal]
    rfl

theorem afterTag_closing (h : IsSettled style) (start : Shown) (place : Nat)
    (hstack : start.stack = [⟨⟨style⟩, none, place⟩]) :
    afterTag start (.char '/' :: style) none =
      .ok ⟨start.text, [], start.spans ++ [⟨place, start.text.length, ⟨style⟩⟩]⟩ := by
  have htaken : takeBack start.stack ⟨style⟩ = .ok (⟨⟨style⟩, none, place⟩, []) := by
    have hne : ¬ LooseText.mk style = .empty := by
      intro hnil
      have hstarts := h.inner.starts
      rw [show style = [] from congrArg LooseText.points hnil] at hstarts
      cases hstarts
    rw [takeBack.eq_def, if_neg hne, h.normal, hstack]
    dsimp only
    rw [close?, if_pos rfl]
  have hhandler : OpenTag.isForHandler ⟨⟨style⟩, none, place⟩ = false := by
    have hopens := h.opens
    rw [OpenTag.isForHandler, LooseText.startsWith]
    cases style with
    | nil => cases hopens
    | cons c style =>
      simp only [List.head?_cons, Option.any_some, Bool.and_eq_true, bne_iff_ne] at hopens
      rw [Bool.eq_false_iff, ne_eq, List.isPrefixOf_iff_prefix]
      rintro ⟨back, heq⟩
      exact hopens.2 (List.cons.inj heq).1.symm
  have hcloses : closes ⟨⟨style⟩, none, place⟩ = true := rfl
  rw [afterTag.eq_1, h.trimmed, htaken]
  dsimp only
  rw [if_pos hcloses, hhandler, if_neg Bool.false_ne_true, OpenTag.span]

/-- A text in a style between bare texts adds what it shows and a stretch in the style. -/
theorem showFrom_styled (emoji : Emoji) (hstyle : IsSettled style) (x w : List Point)
    (ps : List Piece) :
    showFrom emoji ⟨[], [], []⟩ (textPiece x ++ .tag style none ::
        (textPiece w ++ .tag (.char '/' :: style) none :: ps)) =
      showFrom emoji ⟨shown emoji x ++ shown emoji w, [],
        [⟨(shown emoji x).length, (shown emoji x ++ shown emoji w).length, ⟨style⟩⟩]⟩ ps := by
  rw [showFrom_textPiece, showFrom, afterTag_opening hstyle]
  dsimp only
  rw [showFrom_textPiece, showFrom, afterTag_closing hstyle _ (shown emoji x).length rfl]
  rfl

/-! ### What is printed -/

theorem styleFault?_of_settled (h : IsSettled style) (text : List Point) (start stop : Nat) :
    styleFault? text [⟨start, stop, ⟨style⟩⟩] = none := by
  refine List.findSome?_eq_none_iff.2 fun span hspan => ?_
  rw [List.mem_singleton.1 hspan]
  split
  · split
    · rename_i fault heq
      have hknown := h.known
      rw [heq] at hknown
      cases hknown
    · rfl
  · rfl

theorem printed_of_showFrom {done : Shown}
    (h : showFrom emoji ⟨[], [], []⟩ (pieces s) = .ok done)
    (hfault : styleFault? done.text (done.spans ++
      done.stack.map fun t => t.span done.text.length) = none) :
    printed emoji ⟨s⟩ = printedPoints done.text := by
  rw [printed, spans, h]
  dsimp only
  rw [hfault]

theorem printedPoints_eq_ok_iff {out : List Char} :
    printedPoints s = .ok out ↔ ∃ cs : List Char, s = cs.map Point.char ∧ out = printedLines cs := by
  rw [printedPoints]
  constructor
  · intro h
    split at h
    · rename_i cs hcs
      exact ⟨cs, congrArg LooseText.points (LooseText.chars?_eq_some_iff.1 hcs),
        (Except.ok.inj h).symm⟩
    · cases h
  · rintro ⟨cs, rfl, rfl⟩
    have hcs : LooseText.chars? ⟨cs.map Point.char⟩ = some cs := LooseText.chars?_ofList cs
    rw [hcs]

/-- What holds characters only can be printed. -/
theorem exists_printedPoints (h : ∀ p ∈ s, p.isChar = true) : ∃ out, printedPoints s = .ok out :=
  ⟨_, printedPoints_eq_ok_iff.2 ⟨_, (map_char_filterMap h).symm, rfl⟩⟩

theorem showFrom_of_tagless (emoji : Emoji) (h : Tagless s) (start : Shown) (fuel : Nat) :
    showFrom emoji start (piecesFrom fuel [] s) =
      .ok { start with text := start.text ++ shown emoji s } := by
  rw [piecesFrom_of_tagless h, List.reverse_nil, List.nil_append,
    ← List.append_nil (textPiece s), showFrom_textPiece, showFrom]

theorem printed_of_tagless (emoji : Emoji) (h : Tagless s) :
    printed emoji ⟨s⟩ = printedPoints (shown emoji s) :=
  printed_of_showFrom (showFrom_of_tagless emoji h ⟨[], [], []⟩ _) rfl

/-- A text in a style between others, of which the last one holds no tags. -/
theorem printed_inStyle (emoji : Emoji) (hrest : Tagless rest) (hstyle : IsSettled style)
    (hx : Bare x) (hw : Bare w) :
    printed emoji ⟨inStyle x style w rest⟩ =
      printedPoints (shown emoji x ++ shown emoji w ++ shown emoji rest) := by
  obtain ⟨fuel, -, hpieces⟩ := pieces_inStyle hstyle hx hw rest
  have hshow : showFrom emoji ⟨[], [], []⟩ (pieces (inStyle x style w rest)) =
      .ok ⟨shown emoji x ++ shown emoji w ++ shown emoji rest, [],
        [⟨(shown emoji x).length, (shown emoji x ++ shown emoji w).length, ⟨style⟩⟩]⟩ := by
    rw [hpieces, showFrom_styled emoji hstyle, showFrom_of_tagless emoji hrest]
  exact printed_of_showFrom hshow (styleFault?_of_settled hstyle _ _ _)

/-- If the texts are quiet and the last one is plain, they are printed as they are. -/
theorem Plain.printed_styled (hrest : Plain emoji rest) (hstyle : IsSettled style) (hx : Quiet x)
    (hw : Quiet w) :
    printed emoji ⟨inStyle x style w rest⟩ = printedPoints (x ++ w ++ rest) := by
  rw [printed_inStyle emoji hrest.tagless hstyle hx.bare hw.bare, (hx.plain emoji).shown_eq,
    (hw.plain emoji).shown_eq, hrest.shown_eq]

/-- Bare text can be printed. -/
theorem Bare.printed (emoji : Emoji) (h : Bare s) : ∃ out, printed emoji ⟨s⟩ = .ok out := by
  rw [printed_of_tagless emoji h.tagless]
  exact exists_printedPoints (isChar_shown emoji h.isChar)

/-- Bare text in a style between bare texts can be printed. -/
theorem Bare.printed_styled (emoji : Emoji) (hrest : Bare rest) (hstyle : IsSettled style)
    (hx : Bare x) (hw : Bare w) :
    ∃ out, Markup.printed emoji ⟨inStyle x style w rest⟩ = .ok out := by
  rw [printed_inStyle emoji hrest.tagless hstyle hx hw]
  refine exists_printedPoints ?_
  rw [List.forall_mem_append, List.forall_mem_append]
  exact ⟨⟨isChar_shown emoji hx.isChar, isChar_shown emoji hw.isChar⟩,
    isChar_shown emoji hrest.isChar⟩

end

/-! ### Lines and tabs -/

variable {s : List Char}

theorem expandTabs_of_notMem (h : '\t' ∉ s) : Columns.expandTabs s = s := by
  rw [Columns.expandTabs, Text.splitAt_of_notMem h, Columns.fillTo]

theorem printedLines_of_notMem (hline : '\n' ∉ s) (htab : '\t' ∉ s) :
    printedLines s = s ++ ['\n'] := by
  rw [printedLines, Text.splitAt_of_notMem hline, List.flatMap_singleton, expandTabs_of_notMem htab]

theorem printedLines_append_cons (h : '\n' ∉ s) (rest : List Char) :
    printedLines (s ++ '\n' :: rest) = Columns.expandTabs s ++ '\n' :: printedLines rest := by
  rw [printedLines, Text.splitAt_append_cons h, List.flatMap_cons, List.append_assoc,
    List.singleton_append]
  rfl

end LlmAudit.Markup
