import LlmAudit.Proofs.Files.Names
import LlmAudit.Proofs.Json.Number
import LlmAudit.Proofs.Text.Lines
import LlmAudit.Proofs.Text.Stripping
import LlmAudit.Report.Markdown
import Mathlib.Data.List.Forall2

/-!
# Snippets and their blocks

The subject are the code snippets of Section 16 (Reporting) of the specification.

The snippet about a line is a window of the lines of a file, cut off at both ends of the file, with
the line itself highlighted (`isWindow_ofLines`). A reader keeps what it has read, and each of its
answers is what reading afresh gives (`fst_snippets`). In a report a snippet is a block of code. Its
lines are those of a text, so that none is broken, and each starts with a mark or a number, so that
none closes the block, whatever the file holds (`isBlock_snippetBlock`).

A file that cannot be read has an empty snippet, but a path with a null character is one that no
file can have, and asking for it is an error (`Reader.snippets_exact`).
-/

namespace LlmAudit

open Text

/-! ### Highlighted lines -/

/-- Lines with other numbers are not highlighted. -/
theorem filter_highlight_eq_nil {numbered : List (String × Nat)} {number : Nat}
    (h : ∀ p ∈ numbered, p.2 ≠ number) :
    (numbered.map fun p => (⟨p.2, p.1, p.2 == number⟩ : SnippetLine)).filter
      SnippetLine.highlight = [] := by
  refine List.filter_eq_nil_iff.2 fun shown hshown => ?_
  obtain ⟨p, hp, rfl⟩ := List.mem_map.1 hshown
  simpa using h p hp

/-- A window of lines highlights one line if it holds it. -/
theorem filter_highlight_between {above below : List String} {line : String} {first last : Nat}
    (hfirst : 1 ≤ first) (hle : first ≤ above.length + 1) (hlast : above.length + 1 ≤ last) :
    (Snippet.between (above ++ line :: below) first last (above.length + 1)).filter
        SnippetLine.highlight = [⟨above.length + 1, line, true⟩] := by
  have hwindow : (((above ++ line :: below).zipIdx 1).drop (first - 1)).take (last + 1 - first) =
      (above.zipIdx 1).drop (first - 1) ++ (line, above.length + 1) ::
        (below.zipIdx (above.length + 2)).take (last - (above.length + 1)) := by
    have hdrop : first - 1 ≤ (above.zipIdx 1).length := by
      rw [List.length_zipIdx]
      omega
    have htake : last + 1 - first =
        ((above.zipIdx 1).drop (first - 1)).length + (last - (above.length + 1) + 1) := by
      rw [List.length_drop, List.length_zipIdx]
      omega
    rw [List.zipIdx_append, List.zipIdx_cons, List.drop_append_of_le_length hdrop, htake,
      List.take_length_add_append, List.take_succ_cons, Nat.add_comm 1]
  rw [Snippet.between, hwindow, List.map_append, List.map_cons, List.filter_append,
    List.filter_cons_of_pos (by simp)]
  have habove : ∀ p ∈ (above.zipIdx 1).drop (first - 1), p.2 ≠ above.length + 1 := by
    intro p hp
    have := List.mem_zipIdx (List.mem_of_mem_drop hp)
    omega
  have hbelow : ∀ p ∈ (below.zipIdx (above.length + 2)).take (last - (above.length + 1)),
      p.2 ≠ above.length + 1 := by
    intro p hp
    have := List.mem_zipIdx (List.mem_of_mem_take hp)
    omega
  rw [filter_highlight_eq_nil habove, filter_highlight_eq_nil hbelow]
  simp

/-- The snippet about a line that is there highlights this line and no other. -/
theorem filter_highlight_ofLines {ls : List String} {number : Nat} (hpos : 1 ≤ number)
    (hle : number ≤ ls.length) :
    ∃ line, ls[number - 1]? = some line ∧
      (Snippet.ofLines ls (number : Int)).filter SnippetLine.highlight =
        [⟨number, line, true⟩] := by
  obtain ⟨above, line, below, rfl, hlength⟩ :
      ∃ above line below, ls = above ++ line :: below ∧ above.length = number - 1 := by
    refine ⟨ls.take (number - 1), ls[number - 1], ls.drop number, ?_, ?_⟩
    · have hsplit := List.take_append_drop (number - 1) ls
      rw [List.drop_eq_getElem_cons (by omega), Nat.sub_add_cancel hpos] at hsplit
      exact hsplit.symm
    · rw [List.length_take]
      omega
  obtain rfl : number = above.length + 1 := by omega
  refine ⟨line, by simp, ?_⟩
  rw [Snippet.ofLines, if_pos ⟨by omega, by omega⟩]
  exact filter_highlight_between (by omega) (by omega) (by omega)

namespace Snippet

/-! ### Windows -/

/-- A snippet is the window of some lines around a line. -/
structure IsWindow (lines : List String) (line : Int) (snippet : List SnippetLine) : Prop where
  /-- The numbers grow. -/
  ordered : (snippet.map SnippetLine.number).Pairwise (· < ·)
  /-- They are all numbers of lines at most two away. -/
  numbers : ∀ k : Nat, k ∈ snippet.map SnippetLine.number ↔
    max 1 (line - 2) ≤ k ∧ k ≤ min (lines.length : Int) (line + 2)
  /-- Each stands with the text of its line. -/
  texts : ∀ l ∈ snippet, lines[l.number - 1]? = some l.text
  /-- Exactly the line itself is highlighted. -/
  highlighted : ∃ l, snippet.filter SnippetLine.highlight = [l] ∧ l.number = line

theorem map_number_between (lines : List String) {first last : Nat} (hfirst : 1 ≤ first)
    (hlast : last ≤ lines.length) (highlighted : Nat) :
    (between lines first last highlighted).map SnippetLine.number =
      List.range' first (last + 1 - first) := by
  have hrest : List.range' first (lines.length - (first - 1)) =
      List.range' first (last + 1 - first) ++
        List.range' (first + (last + 1 - first))
          (lines.length - (first - 1) - (last + 1 - first)) := by
    rw [List.range'_append_1, Nat.add_sub_cancel' (by omega)]
  have hstart : 1 + (first - 1) * 1 = first := by omega
  rw [between, List.map_map]
  change List.map Prod.snd _ = _
  rw [List.map_take, List.map_drop, List.zipIdx_map_snd, List.drop_range', hstart, hrest,
    List.take_left' (List.length_range' ..)]

theorem getElem?_of_mem_between {lines : List String} {first last highlighted : Nat}
    {l : SnippetLine} (h : l ∈ between lines first last highlighted) :
    lines[l.number - 1]? = some l.text := by
  rw [between] at h
  obtain ⟨⟨text, k⟩, hmem, rfl⟩ := List.mem_map.1 h
  have hnumbered : (text, k) ∈ lines.zipIdx 1 := List.mem_of_mem_drop (List.mem_of_mem_take hmem)
  exact (List.mk_mem_zipIdx_iff_le_and_getElem?_sub.1 hnumbered).2

theorem isWindow_ofLines {lines : List String} {line : Int} (hlow : 1 ≤ line)
    (hhigh : line ≤ lines.length) : IsWindow lines line (ofLines lines line) := by
  obtain ⟨n, rfl⟩ := Int.eq_ofNat_of_zero_le (Int.le_trans (by decide) hlow)
  have hn : 1 ≤ n ∧ n ≤ lines.length := by omega
  have heq : ofLines lines (n : Int) =
      between lines (max 1 (n - margin)) (min lines.length (n + margin)) n :=
    if_pos ⟨hlow, hhigh⟩
  have hnumbers := map_number_between lines (Nat.le_max_left 1 (n - margin))
    (Nat.min_le_left lines.length (n + margin)) n
  rw [← heq] at hnumbers
  constructor
  · rw [hnumbers]
    exact List.pairwise_lt_range'
  · intro k
    rw [hnumbers, List.mem_range'_1, margin]
    omega
  · intro l hl
    rw [heq] at hl
    exact getElem?_of_mem_between hl
  · obtain ⟨text, -, hfilter⟩ := filter_highlight_ofLines hn.1 hn.2
    exact ⟨_, hfilter, rfl⟩

theorem IsWindow.ne_nil {lines : List String} {line : Int} {snippet : List SnippetLine}
    (h : IsWindow lines line snippet) : snippet ≠ [] := by
  rintro rfl
  obtain ⟨l, hfilter, -⟩ := h.highlighted
  cases hfilter

/-! ### What the files hold -/

/-- The bytes of a file. -/
def Source.bytesOf (s : Source) (file : String) : Except AccessError (List UInt8) :=
  s.files.read (s.folder.join (.parse file))

/-- The lines of a file with some bytes. -/
def linesOfBytes (bytes : List UInt8) : List String :=
  (lines (unifyBreaks (Utf8.decodeLossy bytes))).map String.ofList

theorem feed_notMem_of_mem_linesOfBytes {bytes : List UInt8} {line : String}
    (h : line ∈ linesOfBytes bytes) : '\n' ∉ line.toList := by
  rw [linesOfBytes] at h
  obtain ⟨l, hl, rfl⟩ := List.mem_map.1 h
  rw [String.toList_ofList]
  intro hfeed
  exact absurd (unbroken_of_mem_lines hl _ hfeed) (by decide)

theorem linesOf?_eq (s : Source) (file : String) :
    linesOf? s.files s.folder file = (s.bytesOf file).toOption.map linesOfBytes := by
  unfold linesOf? FileTree.readLossy Source.bytesOf
  cases s.files.read (s.folder.join (.parse file)) with
  | error e => rfl
  | ok bytes => rfl

theorem read_some (s : Source) (file : String) (line : Int) :
    read (some s) file line =
      (linesOf? s.files s.folder file).elim [] fun lines => ofLines lines line := by
  delta read
  dsimp only
  cases linesOf? s.files s.folder file with
  | none => rfl
  | some lines => rfl

theorem read_of_bytesOf {s : Source} {file : String} {bytes : List UInt8}
    (h : s.bytesOf file = .ok bytes) (line : Int) :
    read (some s) file line = ofLines (linesOfBytes bytes) line := by
  rw [read_some, linesOf?_eq, h]
  rfl

theorem read_of_unreadable {s : Source} {file : String}
    (h : ∀ bytes, s.bytesOf file ≠ .ok bytes) (line : Int) : read (some s) file line = [] := by
  rw [read_some, linesOf?_eq]
  cases hbytes : s.bytesOf file with
  | ok bytes => exact absurd hbytes (h bytes)
  | error e => rfl

theorem ofLines_eq_nil {lines : List String} {line : Int} (h : ¬(1 ≤ line ∧ line ≤ lines.length)) :
    ofLines lines line = [] :=
  if_neg h

/-! ### Readers -/

namespace Reader

variable (r : Reader) (file : String) (line : Int)

/-- Asking for lines gives what the source gives, whatever the reader knows already. -/
theorem fst_linesOf :
    (r.linesOf file).1 = r.source.elim (.ok none) fun s => s.linesOf file := by
  unfold linesOf
  split
  · rename_i hsource
    rw [hsource, Option.elim_none]
  · rename_i s hsource
    conv_rhs => rw [hsource, Option.elim_some]
    split
    · -- the file was asked for before: what is kept is what its source gives
      rename_i e hfind
      obtain ⟨s', hs', hlines⟩ := r.faithful e (List.mem_of_find?_eq_some hfind)
      have hfile : e.1 = file := by simpa using List.find?_some hfind
      obtain rfl : s = s' := Option.some.inj (hsource.symm.trans hs')
      rw [← hfile, hlines]
    · split
      · rename_i hlines
        exact hlines.symm
      · rename_i hlines
        exact hlines.symm

/-- A reader goes on reading from the same source. -/
theorem source_linesOf : (r.linesOf file).2.source = r.source := by
  unfold linesOf
  split
  · rfl
  · split
    · rfl
    · split
      · rfl
      · rfl

theorem snippet_eq :
    r.snippet file line =
      ((r.linesOf file).1.map fun lines => lines.elim [] fun ls => ofLines ls line,
        (r.linesOf file).2) := by
  unfold snippet
  rcases r.linesOf file with ⟨e | (_ | lines), r'⟩
  · rfl
  · rfl
  · rfl

theorem source_snippet : (r.snippet file line).2.source = r.source := by
  rw [snippet_eq]
  exact source_linesOf r file

theorem fst_snippet :
    (r.snippet file line).1 =
      if refuses r.source file then .error .unnameable else .ok (read r.source file line) := by
  rw [snippet_eq, fst_linesOf]
  cases r.source with
  | none => rfl
  | some s =>
    rw [refuses, Option.any_some, Option.elim_some, Source.linesOf]
    cases s.admits file with
    | false => rfl
    | true =>
      rw [read_some]
      rfl

/-- The answers of a reader are those of a reader that has read nothing before. -/
theorem fst_snippets (queries : List (String × Int)) :
    (r.snippets queries).1 = queries.map fun q =>
      if refuses r.source q.1 then .error .unnameable else .ok (read r.source q.1 q.2) := by
  induction queries generalizing r with
  | nil => rfl
  | cons q queries ih =>
    rw [List.map_cons, ← fst_snippet, ← source_snippet r q.1 q.2, ← ih]
    rfl

end Reader

end Snippet

/-! ### Blocks of code -/

namespace Report

/-- A line of a block shows a line of a snippet: a mark if it is highlighted, then blanks and the
number, then a bar and the text. -/
def Shows (entry : SnippetLine) (line : String) : Prop :=
  ∃ blanks, line.toList = (if entry.highlight then ['>', '>'] else [' ', ' ']) ++
    (List.replicate (blanks + 1) ' ' ++
      (decimalDigits entry.number ++ ([' ', '|', ' '] ++ entry.text.toList)))

/-- The lines of code in a block at the start of a document: those behind its first line, up to the
next one that starts, after blanks, with a fence. -/
def codeLines (document : List Char) : List (List Char) :=
  (splitAt '\n' document).tail.takeWhile fun line => !fence.toList.isPrefixOf (stripLeft line)

/-- A block of code with some lines inside shows a snippet, and none of its lines closes it. -/
structure IsBlock (snippet : List SnippetLine) (block inside : List String) : Prop where
  /-- It opens and closes with a fence. -/
  fenced : block = fence :: (inside ++ [fence])
  /-- Each line of the snippet is shown on one line. -/
  shows : List.Forall₂ Shows snippet inside
  /-- No line inside holds a line feed. -/
  unbroken : ∀ line ∈ inside, '\n' ∉ line.toList
  /-- No line inside starts, after blanks, with a backtick. -/
  harmless : ∀ line ∈ inside, (stripLeft line.toList).head? ≠ some '\x60'
  /-- In every document that goes on after the block, the lines of code are those inside. -/
  closed : ∀ after, codeLines (("\n".intercalate block).toList ++ '\n' :: after) =
    inside.map String.toList

variable {entry : SnippetLine} {line : String} {snippet : List SnippetLine} {inside : List String}

theorem shows_snippetLine (width : Nat) (entry : SnippetLine) :
    Shows entry (snippetLine width entry) := by
  refine ⟨width - (decimalDigits entry.number).length, ?_⟩
  have hmark : (if entry.highlight then ">>" else "  ").toList =
      if entry.highlight then ['>', '>'] else [' ', ' '] := by
    cases entry.highlight with
    | false => rfl
    | true => rfl
  rw [snippetLine, padNumber]
  simp only [String.toList_append, String.toList_ofList, hmark, List.replicate_succ,
    List.append_assoc]
  rfl

theorem isBlank_of_isDigit {c : Char} (h : c.isDigit = true) : isBlank c = false := by
  have halphanum : c.isAlphanum = true := by
    rw [show c.isAlphanum = (c.isAlpha || c.isDigit) from rfl, h, Bool.or_true]
  have hpoint := toNat_of_isAlphanum halphanum
  rw [isBlank, decide_eq_false_iff_not]
  omega

theorem Shows.feed_notMem (h : Shows entry line) (htext : '\n' ∉ entry.text.toList) :
    '\n' ∉ line.toList := by
  obtain ⟨blanks, hline⟩ := h
  have hmark : '\n' ∉ if entry.highlight then ['>', '>'] else [' ', ' '] := by
    cases entry.highlight with
    | false => decide
    | true => decide
  have hblanks : '\n' ∉ List.replicate (blanks + 1) ' ' := by
    intro hfeed
    exact absurd (List.eq_of_mem_replicate hfeed) (by decide)
  have hdigits : '\n' ∉ decimalDigits entry.number := by
    intro hfeed
    exact absurd (Json.allDigits_decimalDigits _ _ hfeed) (by decide)
  have hbar : '\n' ∉ [' ', '|', ' '] := by decide
  simp only [hline, List.mem_append, not_or]
  exact ⟨hmark, hblanks, hdigits, hbar, htext⟩

/-- A line of a block starts, after blanks, with a mark or a digit. -/
theorem Shows.exists_eq_append (h : Shows entry line) :
    ∃ blanks c rest, line.toList = blanks ++ c :: rest ∧ AllBlank blanks ∧
      (c = '>' ∨ c.isDigit = true) := by
  obtain ⟨k, hline⟩ := h
  cases hmark : entry.highlight with
  | true =>
    rw [hmark, if_pos rfl] at hline
    exact ⟨[], '>', _, hline, List.forall_mem_nil _, .inl rfl⟩
  | false =>
    rw [hmark, if_neg Bool.false_ne_true] at hline
    have hwhole := Json.wholeDigits_decimalDigits entry.number
    obtain ⟨d, ds, hdigits⟩ := List.exists_cons_of_ne_nil hwhole.ne_nil
    have hd : d.isDigit = true := hwhole.all d (hdigits ▸ List.mem_cons_self)
    refine ⟨List.replicate (k + 3) ' ', d, ds ++ ([' ', '|', ' '] ++ entry.text.toList), ?_, ?_,
      .inr hd⟩
    · rw [hline, hdigits, List.replicate_succ, List.replicate_succ]
      rfl
    · intro c hc
      rw [List.eq_of_mem_replicate hc]
      decide

theorem Shows.head?_stripLeft_ne (h : Shows entry line) :
    (stripLeft line.toList).head? ≠ some '\x60' := by
  obtain ⟨blanks, c, rest, hline, hblanks, hc⟩ := h.exists_eq_append
  have hplain : isBlank c = false := by
    rcases hc with rfl | hdigit
    · decide
    · exact isBlank_of_isDigit hdigit
  rw [hline, stripLeft_append_cons hplain, stripLeft, List.dropWhile_eq_nil_iff.2 hblanks,
    List.nil_append, List.head?_cons]
  intro heq
  obtain rfl := Option.some.inj heq
  exact absurd hc (by decide)

/-- A line that starts, after blanks, with no backtick starts with no fence. -/
theorem isPrefixOf_fence_eq (h : (stripLeft line.toList).head? ≠ some '\x60') :
    fence.toList.isPrefixOf (stripLeft line.toList) = false := by
  refine Bool.eq_false_iff.2 fun hprefix => h ?_
  obtain ⟨rest, hrest⟩ := List.isPrefixOf_iff_prefix.1 hprefix
  rw [← hrest]
  rfl

/-- The lines of code are read back if each line inside is one and starts with no backtick. -/
theorem codeLines_append (hunbroken : ∀ line ∈ inside, '\n' ∉ line.toList)
    (hharmless : ∀ line ∈ inside, (stripLeft line.toList).head? ≠ some '\x60')
    (after : List Char) :
    codeLines (("\n".intercalate (fence :: (inside ++ [fence]))).toList ++ '\n' :: after) =
      inside.map String.toList := by
  have hfence : '\n' ∉ fence.toList := by decide
  have hpieces : ∀ piece ∈ (fence :: (inside ++ [fence])).map String.toList, '\n' ∉ piece := by
    intro piece hpiece
    obtain ⟨line, hline, rfl⟩ := List.mem_map.1 hpiece
    rcases List.mem_cons.1 hline with rfl | hline
    · exact hfence
    · rcases List.mem_append.1 hline with hline | hline
      · exact hunbroken line hline
      · rw [List.mem_singleton.1 hline]
        exact hfence
  have hinside : ∀ piece ∈ inside.map String.toList,
      (!fence.toList.isPrefixOf (stripLeft piece)) = true := by
    intro piece hpiece
    obtain ⟨line, hline, rfl⟩ := List.mem_map.1 hpiece
    rw [isPrefixOf_fence_eq (hharmless line hline)]
    rfl
  -- the first line that starts with a fence is the closing one
  have hclose : ¬(!fence.toList.isPrefixOf (stripLeft fence.toList)) = true := by decide
  have hsplit : splitAt '\n' ("\n".intercalate (fence :: (inside ++ [fence]))).toList =
      (fence :: (inside ++ [fence])).map String.toList := by
    rw [String.toList_intercalate]
    exact splitAt_intercalate (List.cons_ne_nil _ _) hpieces
  rw [codeLines, splitAt_append, hsplit, List.map_cons, List.cons_append, List.tail_cons,
    List.map_append, List.append_assoc, List.takeWhile_append_of_pos hinside, List.map_singleton,
    List.singleton_append, List.takeWhile_cons, if_neg hclose, List.append_nil]

/-- The block of a snippet shows its lines, whatever they hold besides line feeds. -/
theorem isBlock_snippetBlock (hne : snippet ≠ [])
    (htexts : ∀ l ∈ snippet, '\n' ∉ l.text.toList) :
    ∃ inside, IsBlock snippet (snippetBlock snippet) inside := by
  obtain ⟨last, hlast⟩ : ∃ last, snippet.getLast? = some last :=
    ⟨_, List.getLast?_eq_some_getLast hne⟩
  have hblock : snippetBlock snippet =
      fence :: (snippet.map (snippetLine (decimalDigits last.number).length) ++ [fence]) := by
    rw [snippetBlock, hlast]
  have hunbroken : ∀ line ∈ snippet.map (snippetLine (decimalDigits last.number).length),
      '\n' ∉ line.toList := by
    intro line hline
    obtain ⟨entry, hentry, rfl⟩ := List.mem_map.1 hline
    exact (shows_snippetLine _ entry).feed_notMem (htexts entry hentry)
  have hharmless : ∀ line ∈ snippet.map (snippetLine (decimalDigits last.number).length),
      (stripLeft line.toList).head? ≠ some '\x60' := by
    intro line hline
    obtain ⟨entry, -, rfl⟩ := List.mem_map.1 hline
    exact (shows_snippetLine _ entry).head?_stripLeft_ne
  refine ⟨_, hblock, ?_, hunbroken, hharmless, fun after => ?_⟩
  · rw [List.forall₂_map_right_iff]
    exact List.forall₂_same.2 fun entry _ => shows_snippetLine _ entry
  · rw [hblock]
    exact codeLines_append hunbroken hharmless after

example : snippetBlock [⟨1, fence, true⟩] = [fence, ">> 1 | " ++ fence, fence] := by decide

end Report

/-! ### Exact snippets -/

namespace Snippet

/-- There is nothing to show: nowhere to read from, a file that cannot be read, or no such line in
it. -/
def Absent (source : Option Source) (file : String) (line : Int) : Prop :=
  source = none ∨ ∃ s, source = some s ∧
    ((∀ bytes, s.bytesOf file ≠ .ok bytes) ∨
      ∃ bytes, s.bytesOf file = .ok bytes ∧ ¬(1 ≤ line ∧ line ≤ (linesOfBytes bytes).length))

/-- What the snippet about a line of a file is to be. -/
structure Exact (source : Option Source) (file : String) (line : Int)
    (snippet : List SnippetLine) : Prop where
  /-- It is empty if there is nothing to show. -/
  empty_iff : snippet = [] ↔ Absent source file line
  /-- Otherwise it is the window of the lines of the file around the line. -/
  window : ∀ s bytes, source = some s → s.bytesOf file = .ok bytes → 1 ≤ line →
    line ≤ (linesOfBytes bytes).length → IsWindow (linesOfBytes bytes) line snippet
  /-- Unless it is empty, it is shown as a block that none of its lines closes. -/
  block : snippet ≠ [] → ∃ inside, Report.IsBlock snippet (Report.snippetBlock snippet) inside

/-- No part of the path of a file holds a null character. -/
def Openable (source : Option Source) (file : String) : Prop :=
  ∀ s, source = some s → ∀ part ∈ (s.folder.join (.parse file)).parts, '\x00' ∉ part.toList

variable {source : Option Source} {s : Source} {file : String} {line : Int}

theorem refuses_eq_false_iff : refuses source file = false ↔ Openable source file := by
  cases source with
  | none => simp [refuses, Openable]
  | some s => simp [refuses, Openable, Source.admits, Path.isNameable]

/-- If a file can be read, there is nothing to show exactly outside its lines. -/
theorem absent_iff {bytes : List UInt8} (hbytes : s.bytesOf file = .ok bytes) :
    Absent (some s) file line ↔ ¬(1 ≤ line ∧ line ≤ (linesOfBytes bytes).length) := by
  constructor
  · rintro (hnone | ⟨s', hs', hunreadable | ⟨bytes', hbytes', houtside⟩⟩)
    · cases hnone
    · obtain rfl := Option.some.inj hs'
      exact absurd hbytes (hunreadable bytes)
    · obtain rfl := Option.some.inj hs'
      obtain rfl := Except.ok.inj (hbytes.symm.trans hbytes')
      exact houtside
  · intro houtside
    exact .inr ⟨s, rfl, .inr ⟨bytes, hbytes, houtside⟩⟩

theorem exact_of_window {bytes : List UInt8} {snippet : List SnippetLine}
    (hbytes : s.bytesOf file = .ok bytes) (hlow : 1 ≤ line)
    (hhigh : line ≤ (linesOfBytes bytes).length)
    (hwindow : IsWindow (linesOfBytes bytes) line snippet) : Exact (some s) file line snippet where
  empty_iff := by
    rw [absent_iff hbytes, not_and]
    exact iff_of_false hwindow.ne_nil fun houtside => houtside hlow hhigh
  window := by
    intro s' bytes' hs' hbytes' _ _
    obtain rfl := Option.some.inj hs'
    obtain rfl := Except.ok.inj (hbytes.symm.trans hbytes')
    exact hwindow
  block := by
    intro hne
    -- the texts are lines of the file, and these are not broken
    refine Report.isBlock_snippetBlock hne fun l hl => ?_
    exact feed_notMem_of_mem_linesOfBytes (List.mem_of_getElem? (hwindow.texts l hl))

theorem exact_nil (h : Absent source file line) : Exact source file line [] where
  empty_iff := iff_of_true rfl h
  window := by
    rintro s bytes rfl hbytes hlow hhigh
    exact absurd ⟨hlow, hhigh⟩ ((absent_iff hbytes).1 h)
  block := fun hne => absurd rfl hne

/-- Reading gives exact snippets. -/
theorem exact_read (source : Option Source) (file : String) (line : Int) :
    Exact source file line (read source file line) := by
  cases source with
  | none => exact exact_nil (.inl rfl)
  | some s =>
    by_cases hreadable : ∃ bytes, s.bytesOf file = .ok bytes
    · obtain ⟨bytes, hbytes⟩ := hreadable
      rw [read_of_bytesOf hbytes]
      by_cases hinside : 1 ≤ line ∧ line ≤ (linesOfBytes bytes).length
      · exact exact_of_window hbytes hinside.1 hinside.2 (isWindow_ofLines hinside.1 hinside.2)
      · rw [ofLines_eq_nil hinside]
        exact exact_nil ((absent_iff hbytes).2 hinside)
    · have hunreadable : ∀ bytes, s.bytesOf file ≠ .ok bytes := not_exists.1 hreadable
      rw [read_of_unreadable hunreadable]
      exact exact_nil (.inr ⟨s, rfl, .inl hunreadable⟩)

/-- An answer is an exact snippet if the path can be opened, and an error if not. -/
theorem exact_iff_openable {answer : Except AccessError (List SnippetLine)}
    (h : answer = if refuses source file then .error .unnameable else .ok (read source file line)) :
    ((∃ snippet, answer = .ok snippet ∧ Exact source file line snippet) ↔ Openable source file) ∧
      (answer = .error .unnameable ↔ ¬Openable source file) := by
  rw [← refuses_eq_false_iff]
  cases hrefuses : refuses source file with
  | false =>
    rw [hrefuses, if_neg Bool.false_ne_true] at h
    subst h
    refine ⟨iff_of_true ⟨_, rfl, exact_read source file line⟩ rfl, iff_of_false ?_ ?_⟩
    · intro herror
      cases herror
    · exact not_not_intro rfl
  | true =>
    rw [hrefuses, if_pos rfl] at h
    subst h
    refine ⟨iff_of_false ?_ (by decide), iff_of_true rfl (by decide)⟩
    rintro ⟨snippet, hanswer, -⟩
    cases hanswer

/-- A reader that is asked for snippets one after another gives an exact one each time, whatever it
was asked before, exactly if the path of the file holds no null character; such a path is an
error. -/
theorem Reader.snippets_exact (source : Option Source) (queries : List (String × Int)) :
    List.Forall₂ (fun q answer =>
        ((∃ snippet, answer = .ok snippet ∧ Exact source q.1 q.2 snippet) ↔
            Openable source q.1) ∧
          (answer = .error .unnameable ↔ ¬Openable source q.1))
      queries ((Reader.new source).snippets queries).1 := by
  rw [fst_snippets, List.forall₂_map_right_iff]
  exact List.forall₂_same.2 fun q _ => exact_iff_openable rfl

/-- A file whose name holds a null character cannot be read, and asking for a snippet of it is an
error. -/
theorem null_name_is_error :
    (∀ bytes, Source.bytesOf ⟨.empty, ⟨.root, []⟩⟩ "a\x00.ts" ≠ .ok bytes) ∧
      ((Reader.new (some ⟨.empty, ⟨.root, []⟩⟩)).snippets [("a\x00.ts", 1)]).1 =
        [.error .unnameable] := by
  have hbytes : Source.bytesOf ⟨.empty, ⟨.root, []⟩⟩ "a\x00.ts" = .error .unnameable := by
    decide
  refine ⟨fun bytes hok => ?_, by decide⟩
  rw [hbytes] at hok
  cases hok

end Snippet

end LlmAudit
