import LlmAudit.Text.Lines
import Mathlib.Data.List.Basic

/-!
# Lines and offsets

A text is split at ten kinds of breaks, while whoever counts rows counts line feeds. In a text
without carriage returns each line is followed by one break, so the line that holds a character is
known by the number of breaks before it (`lineOfOffset?_lines`). That is the number of line feeds
exactly if no other break stands before the character (`countP_isLineBreak_le_iff`).

A piece of a text between two breaks is a line of its own (`lines_of_ownLine`), and no line holds a
break (`unbroken_of_mem_lines`).
-/

namespace LlmAudit.Text

/-- The number, counted from one, of the line that holds the character at an offset. A line holds
its characters and the one break that ends it. -/
def lineOfOffset? : List (List Char) → Nat → Option Nat
  | [], _ => none
  | line :: rest, k =>
    if k ≤ line.length then some 1 else (lineOfOffset? rest (k - (line.length + 1))).map (· + 1)

theorem le_length_of_lineOfOffset? {ls : List (List Char)} {k number : Nat}
    (h : lineOfOffset? ls k = some number) : 1 ≤ number ∧ number ≤ ls.length := by
  induction ls generalizing k number with
  | nil => cases h
  | cons line rest ih =>
    rw [lineOfOffset?] at h
    split at h
    · cases h
      simp
    · obtain ⟨m, hm, rfl⟩ := Option.map_eq_some_iff.1 h
      have := ih hm
      rw [List.length_cons]
      omega

/-! ### Splitting -/

variable {c : Char} {s line before rest after : List Char}

theorem linesFrom_cons (hc : c ≠ '\r') (line rest : List Char) :
    linesFrom line (c :: rest) =
      if isLineBreak c then line.reverse :: linesFrom [] rest else linesFrom (c :: line) rest := by
  rw [linesFrom]
  rintro r rfl _
  exact hc rfl

/-- A character that is already on the first line is held by it. -/
theorem lineOfOffset?_linesFrom_of_lt (hs : '\r' ∉ s) {k : Nat} (hk : k < line.length) :
    lineOfOffset? (linesFrom line s) k = some 1 := by
  induction s generalizing line with
  | nil =>
    have hne : line.isEmpty = false := by
      cases line with
      | nil => cases hk
      | cons => rfl
    simp [linesFrom, hne, lineOfOffset?, Nat.le_of_lt hk]
  | cons c s ih =>
    rw [List.mem_cons, not_or] at hs
    rw [linesFrom_cons (Ne.symm hs.1)]
    split
    · simp [lineOfOffset?, Nat.le_of_lt hk]
    · exact ih hs.2 (Nat.lt_succ_of_lt hk)

/-- The line of a character after the start of the first line. -/
theorem lineOfOffset?_linesFrom (hs : '\r' ∉ s) {k : Nat} (hk : k < s.length) :
    lineOfOffset? (linesFrom line s) (line.length + k) =
      some ((s.take k).countP isLineBreak + 1) := by
  induction s generalizing line k with
  | nil => cases hk
  | cons c s ih =>
    rw [List.mem_cons, not_or] at hs
    rw [linesFrom_cons (Ne.symm hs.1)]
    cases k with
    | zero =>
      split
      · simp [lineOfOffset?]
      · rw [lineOfOffset?_linesFrom_of_lt hs.2 (by simp)]
        simp
    | succ k =>
      have hrest : k < s.length := Nat.lt_of_succ_lt_succ hk
      split
      · rename_i hbreak
        have hoffset : line.length + (k + 1) - (line.length + 1) = ([] : List Char).length + k := by
          simp only [List.length_nil]
          omega
        rw [lineOfOffset?, List.length_reverse, if_neg (by omega), hoffset, ih hs.2 hrest]
        simp [hbreak]
      · rename_i hplain
        have hoffset : line.length + (k + 1) = (c :: line).length + k := by
          simp only [List.length_cons]
          omega
        rw [hoffset, ih hs.2 hrest]
        simp [hplain]

/-- The number of the line that holds a character is one more than the number of breaks before
it. -/
theorem lineOfOffset?_lines (hs : '\r' ∉ s) {k : Nat} (hk : k < s.length) :
    lineOfOffset? (lines s) k = some ((s.take k).countP isLineBreak + 1) := by
  have h : lineOfOffset? (linesFrom [] s) ([].length + k) = _ := lineOfOffset?_linesFrom hs hk
  rwa [List.length_nil, Nat.zero_add] at h

/-! ### Line feeds among the breaks -/

/-- Every break of a text is a line feed. -/
def OnlyFeeds (s : List Char) : Prop :=
  ∀ c ∈ s, isLineBreak c = true → c = '\n'

instance (s : List Char) : Decidable (OnlyFeeds s) :=
  List.decidableBAll (fun c => isLineBreak c = true → c = '\n') s

theorem count_feed_le (s : List Char) : s.count '\n' ≤ s.countP isLineBreak := by
  refine List.countP_mono_left fun c _ hc => ?_
  rw [eq_of_beq hc]
  decide

/-- There are as few breaks as line feeds exactly if there are no others. -/
theorem countP_isLineBreak_le_iff : s.countP isLineBreak ≤ s.count '\n' ↔ OnlyFeeds s := by
  induction s with
  | nil => simp [OnlyFeeds]
  | cons c s ih =>
    have hle := count_feed_le s
    rw [OnlyFeeds, List.forall_mem_cons, ← OnlyFeeds, ← ih]
    by_cases hfeed : c = '\n'
    · subst hfeed
      have hbreak : isLineBreak '\n' = true := by decide
      simp [hbreak]
    · by_cases hbreak : isLineBreak c = true
      · simp [hbreak, hfeed]
        omega
      · simp [hbreak, hfeed]

theorem countP_isLineBreak_eq_iff : s.countP isLineBreak = s.count '\n' ↔ OnlyFeeds s := by
  have hle := count_feed_le s
  rw [← countP_isLineBreak_le_iff]
  omega

/-! ### Lines of their own -/

/-- A piece of a text is one of its lines: it holds no break, and stands between breaks or at an end
of the text. -/
structure OwnLine (before line after : List Char) : Prop where
  /-- What comes before it ends with a break. -/
  starts : ∀ c ∈ before.getLast?, isLineBreak c = true
  /-- It holds no break. -/
  unbroken : ∀ c ∈ line, isLineBreak c = false
  /-- What comes after it starts with a break. -/
  ends : ∀ c ∈ after.head?, isLineBreak c = true

/-- What ends with a break does not share a line with what follows. -/
theorem linesFrom_append (hbefore : '\r' ∉ before) (hne : before ≠ [])
    (hends : ∀ c ∈ before.getLast?, isLineBreak c = true) (line rest : List Char) :
    linesFrom line (before ++ rest) = linesFrom line before ++ lines rest := by
  induction before generalizing line with
  | nil => exact absurd rfl hne
  | cons c before ih =>
    rw [List.mem_cons, not_or] at hbefore
    have hc := Ne.symm hbefore.1
    rw [List.cons_append, linesFrom_cons hc, linesFrom_cons hc]
    cases before with
    | nil =>
      rw [if_pos (hends c rfl), if_pos (hends c rfl)]
      rfl
    | cons d more =>
      have hmore : ∀ e ∈ (d :: more).getLast?, isLineBreak e = true := by
        simpa [List.getLast?_cons_cons] using hends
      split
      · rw [ih hbefore.2 (List.cons_ne_nil d more) hmore, List.cons_append]
      · exact ih hbefore.2 (List.cons_ne_nil d more) hmore _

/-- What ends with a break has as many lines as breaks. -/
theorem length_linesFrom (hbefore : '\r' ∉ before) (hne : before ≠ [])
    (hends : ∀ c ∈ before.getLast?, isLineBreak c = true) (line : List Char) :
    (linesFrom line before).length = before.countP isLineBreak := by
  induction before generalizing line with
  | nil => exact absurd rfl hne
  | cons c before ih =>
    rw [List.mem_cons, not_or] at hbefore
    rw [linesFrom_cons (Ne.symm hbefore.1)]
    cases before with
    | nil => simp [hends c rfl, linesFrom]
    | cons d more =>
      have hmore : ∀ e ∈ (d :: more).getLast?, isLineBreak e = true := by
        simpa [List.getLast?_cons_cons] using hends
      split
      · rename_i hbreak
        rw [List.length_cons, ih hbefore.2 (List.cons_ne_nil d more) hmore,
          List.countP_cons_of_pos hbreak]
      · rename_i hplain
        rw [ih hbefore.2 (List.cons_ne_nil d more) hmore, List.countP_cons_of_neg hplain]

/-- What holds no break goes to the first line as a whole. -/
theorem linesFrom_of_unbroken (hline : ∀ c ∈ line, isLineBreak c = false) (start rest : List Char) :
    linesFrom start (line ++ rest) = linesFrom (line.reverse ++ start) rest := by
  induction line generalizing start with
  | nil => rfl
  | cons c line ih =>
    rw [List.forall_mem_cons] at hline
    have hc : c ≠ '\r' := by
      rintro rfl
      exact absurd hline.1 (by decide)
    rw [List.cons_append, linesFrom_cons hc, if_neg (by simp [hline.1]), ih hline.2,
      List.reverse_cons, List.append_assoc, List.singleton_append]

/-- A piece that is a line of its own is found as such, after as many lines as there are breaks
before it. -/
theorem lines_of_ownLine (h : OwnLine before line after) (hs : '\r' ∉ before ++ line ++ after)
    (hne : line ≠ []) :
    ∃ above below, lines (before ++ line ++ after) = above ++ line :: below ∧
      above.length = before.countP isLineBreak := by
  simp only [List.mem_append, not_or] at hs
  -- the piece itself, with what follows
  have hpiece : ∃ below, lines (line ++ after) = line :: below := by
    rw [lines, linesFrom_of_unbroken h.unbroken, List.append_nil]
    cases hafter : after with
    | nil =>
      refine ⟨[], ?_⟩
      simp [linesFrom, hne]
    | cons c rest =>
      have hc : c ≠ '\r' := by
        rintro rfl
        exact hs.2 (by simp [hafter])
      have hbreak : isLineBreak c = true := h.ends c (by simp [hafter])
      refine ⟨linesFrom [] rest, ?_⟩
      rw [linesFrom_cons hc, if_pos hbreak, List.reverse_reverse]
  obtain ⟨below, hbelow⟩ := hpiece
  rw [List.append_assoc]
  by_cases hbefore : before = []
  · subst hbefore
    exact ⟨[], below, hbelow, rfl⟩
  · refine ⟨lines before, below, ?_, length_linesFrom hs.1.1 hbefore h.starts []⟩
    rw [lines, linesFrom_append hs.1.1 hbefore h.starts, hbelow]
    rfl

/-- A line holds no break. -/
theorem unbroken_of_mem_linesFrom {start l : List Char}
    (hstart : ∀ c ∈ start, isLineBreak c = false) (hl : l ∈ linesFrom start s) :
    ∀ c ∈ l, isLineBreak c = false := by
  have hfirst : ∀ line : List Char, (∀ c ∈ line, isLineBreak c = false) →
      ∀ c ∈ line.reverse, isLineBreak c = false :=
    fun _ hline c hc => hline c (List.mem_reverse.1 hc)
  fun_induction linesFrom start s with
  | case1 => cases hl
  | case2 line => exact List.mem_singleton.1 hl ▸ hfirst line hstart
  | case3 line rest ih =>
    rcases List.mem_cons.1 hl with rfl | hl
    · exact hfirst line hstart
    · exact ih (List.forall_mem_nil _) hl
  | case4 line c rest _ _ ih =>
    rcases List.mem_cons.1 hl with rfl | hl
    · exact hfirst line hstart
    · exact ih (List.forall_mem_nil _) hl
  | case5 line c rest _ hplain ih =>
    exact ih (List.forall_mem_cons.2 ⟨Bool.eq_false_iff.2 hplain, hstart⟩) hl

theorem unbroken_of_mem_lines {l : List Char} (hl : l ∈ lines s) :
    ∀ c ∈ l, isLineBreak c = false :=
  unbroken_of_mem_linesFrom (List.forall_mem_nil _) hl

/-- A text that is read with line feeds only holds no carriage return. -/
theorem carriage_notMem_unifyBreaks (s : List Char) : '\r' ∉ unifyBreaks s := by
  fun_induction unifyBreaks s with
  | case1 => simp
  | case2 rest ih => simpa using ih
  | case3 rest _ ih => simpa using ih
  | case4 c rest _ hc ih =>
    rw [List.mem_cons, not_or]
    exact ⟨fun h => hc h.symm, ih⟩

end LlmAudit.Text
