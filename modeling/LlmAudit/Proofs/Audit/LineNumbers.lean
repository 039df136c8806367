import LlmAudit.Proofs.Audit.Independence
import LlmAudit.Proofs.Check.Places
import LlmAudit.Proofs.Files.Names
import LlmAudit.Proofs.Report.Snippets
import LlmAudit.Proofs.Text.Lines

/-!
# Line numbers of directives, findings and snippets

The subject are the lines of Section 3 (Data Model) of the specification: those of directives, of
findings and of the snippets in Section 16 (Reporting).

A finding has the row of a node, and a parser counts rows by line feeds. Directives and snippets
count the lines of the text, which end at other breaks too. The two numbers of a character are the
same exactly if all breaks before it are line feeds (`lineOfOffset?_eq_iff`). Under the same
condition a directive on the row above a finding has a smaller number than the finding
(`exists_directive_of_above`), and the snippet highlights the line that the finding is about
(`exists_highlight`).
-/

namespace LlmAudit

open Text

/-- The number of the line of a source file that holds the character at an offset. -/
def SourceUnit.lineOfOffset? (unit : SourceUnit) (k : Nat) : Option Nat :=
  Text.lineOfOffset? (unit.lines.map String.toList) k

/-- A node stands at an offset of a text: it starts there, and its line is one more than the number
of line feeds before it. -/
structure Node.StandsAt (n : Node) (s : List Char) (k : Nat) : Prop where
  /-- The offset is one of the text. -/
  le : k ≤ s.length
  /-- The node starts with the byte there. -/
  start : n.start = (Utf8.encode (s.take k)).length
  /-- Rows are counted by line feeds. -/
  line : n.line = (s.take k).count '\n' + 1

/-- A parser counts rows by line feeds: every node of a tree stands somewhere in the text. -/
def RowsAreFeeds (parser : SourceParser) : Prop :=
  ∀ place grammar source n, (parser place grammar source).Within n →
    ∃ k, n.StandsAt source.toList k

/-- A comment is a line of its own on the row directly above an offset. -/
structure CommentAbove (s : List Char) (k : Nat) (before comment after : List Char) : Prop where
  /-- Where it stands in the text. -/
  text : s = before ++ comment ++ after
  /-- It is a line of its own. -/
  own : OwnLine before comment after
  /-- There is one line feed less before it. -/
  above : before.count '\n' + 1 = (s.take k).count '\n'

/-! ### Offsets -/

section

variable {path : String} {s before comment after : List Char} {root : Node} {k : Nat}

theorem lines_ofText (path : String) (s : List Char) (root : Node) :
    (SourceUnit.ofText path (String.ofList s) root).lines = (lines s).map String.ofList := by
  rw [SourceUnit.ofText, splitLines, String.toList_ofList]

theorem lineOfOffset?_ofText (path : String) (s : List Char) (root : Node) (k : Nat) :
    (SourceUnit.ofText path (String.ofList s) root).lineOfOffset? k =
      Text.lineOfOffset? (lines s) k := by
  have hback : String.toList ∘ String.ofList = id := by
    funext cs
    exact String.toList_ofList
  rw [SourceUnit.lineOfOffset?, lines_ofText, List.map_map, hback, List.map_id]

/-- The line of a character is its row exactly if all breaks before it are line feeds. -/
theorem lineOfOffset?_eq_iff (hs : '\r' ∉ s) (hk : k < s.length) :
    Text.lineOfOffset? (lines s) k = some ((s.take k).count '\n' + 1) ↔ OnlyFeeds (s.take k) := by
  rw [lineOfOffset?_lines hs hk, Option.some.injEq, Nat.add_right_cancel_iff,
    countP_isLineBreak_eq_iff]

/-! ### Directives -/

theorem Directive.mem_parseFrom {id reason : List Char}
    (h : parseLine? comment = some (id, reason)) (number : Nat) (above below : List String) :
    ⟨String.ofList (upper id), String.ofList reason, (number + above.length : Nat), false⟩ ∈
      parseFrom number (above ++ String.ofList comment :: below) := by
  induction above generalizing number with
  | nil =>
    have hline : ofLine? number (String.ofList comment) =
        some ⟨String.ofList (upper id), String.ofList reason, number, false⟩ := by
      rw [ofLine?, String.toList_ofList, h]
      rfl
    rw [List.nil_append, parseFrom, hline]
    exact List.mem_append_left _ List.mem_cons_self
  | cons line above ih =>
    rw [List.cons_append, parseFrom, List.length_cons, Nat.add_comm above.length, ← Nat.add_assoc]
    exact List.mem_append_right _ (ih (number + 1))

/-- A directive on the row above an offset is on an earlier line than the row says exactly if all
breaks before it are line feeds. -/
theorem exists_directive_of_above (hs : '\r' ∉ s) (habove : CommentAbove s k before comment after)
    {id reason : List Char} (hparse : Directive.parseLine? comment = some (id, reason)) :
    ∃ d ∈ Directive.parse ((lines s).map String.ofList),
      d.ruleId = String.ofList (upper id) ∧ d.reason = String.ofList reason ∧
      (Text.lineOfOffset? (lines s) before.length).map Int.ofNat = some d.line ∧
      (d.line < ((s.take k).count '\n' + 1 : Nat) ↔ OnlyFeeds before) := by
  have hne : comment ≠ [] := by
    rintro rfl
    cases hparse
  obtain ⟨rfl, hown, hrow⟩ := habove
  obtain ⟨above, below, hlines, hlength⟩ := lines_of_ownLine hown hs hne
  have hmem := Directive.mem_parseFrom hparse 1 (above.map String.ofList)
    (below.map String.ofList)
  rw [List.length_map, hlength, ← List.map_cons, ← List.map_append, ← hlines] at hmem
  refine ⟨_, hmem, rfl, rfl, ?_, ?_⟩
  · have hoffset : before.length < (before ++ comment ++ after).length := by
      have := List.length_pos_iff.2 hne
      simp only [List.length_append]
      omega
    rw [lineOfOffset?_lines hs hoffset, List.append_assoc, List.take_left, Nat.add_comm]
    rfl
  · rw [← countP_isLineBreak_le_iff]
    dsimp only
    omega

/-! ### Snippets -/

/-- The snippet about the row of a character highlights the line that holds it exactly if all breaks
before it are line feeds. -/
theorem exists_highlight (hs : '\r' ∉ s) (hk : k < s.length) :
    ∃ shown,
      (Snippet.ofLines ((lines s).map String.ofList) ((s.take k).count '\n' + 1 : Nat)).filter
        SnippetLine.highlight = [shown] ∧
      ((lines s).map String.ofList)[shown.number - 1]? = some shown.text ∧
      (Text.lineOfOffset? (lines s) k = some shown.number ↔ OnlyFeeds (s.take k)) := by
  have hfeeds := count_feed_le (s.take k)
  have hlength := (le_length_of_lineOfOffset? (lineOfOffset?_lines hs hk)).2
  have hthere : (s.take k).count '\n' + 1 ≤ ((lines s).map String.ofList).length := by
    rw [List.length_map]
    omega
  obtain ⟨line, hline, hshown⟩ := filter_highlight_ofLines (Nat.le_add_left 1 _) hthere
  exact ⟨_, hshown, hline, lineOfOffset?_eq_iff hs hk⟩

end

/-! ### The source files of a project -/

/-- In the source files of a project, lines and rows are the same up to the first break that is no
line feed, and not after it:

* the line that holds a character is its row exactly if all breaks before it are line feeds;
* a directive that stands alone on the row above a finding is on an earlier line than the finding
  exactly if all breaks before it are line feeds;
* the snippet of a finding highlights one line, which holds the node on the finding's row exactly if
  all breaks before the node are line feeds. -/
theorem lines_match_rows_iff {parser : SourceParser} {t : FileTree} {folder : Path}
    {given : List String} {units : List SourceUnit} {unit : SourceUnit}
    (hparser : RowsAreFeeds parser) (hnames : t.WellNamed)
    (hunits : Discovery.units parser t folder given = .ok units) (hunit : unit ∈ units) :
    ∃ s, t.readLossy (folder.join (.parse unit.path)) = .ok s ∧
      unit.lines = splitLines (String.ofList s) ∧
      (∀ k < s.length,
        unit.lineOfOffset? k = some ((s.take k).count '\n' + 1) ↔ OnlyFeeds (s.take k)) ∧
      ∀ c : Check, ∀ f ∈ c.runUnit unit,
        (∃ n, unit.root.Within n ∧ f.line = n.line) ∧
        ∀ n, unit.root.Within n → f.line = n.line → ∃ k, n.StandsAt s k ∧
          (∀ before comment after id reason, CommentAbove s k before comment after →
            Directive.parseLine? comment = some (id, reason) →
            ∃ d ∈ Directive.parse unit.lines,
              d.ruleId = String.ofList (upper id) ∧ d.reason = String.ofList reason ∧
              (unit.lineOfOffset? before.length).map Int.ofNat = some d.line ∧
              (d.line < f.line ↔ OnlyFeeds before)) ∧
          (k < s.length → ∃ shown,
            (Snippet.read (some ⟨t, folder⟩) f.file f.line).filter SnippetLine.highlight = [shown] ∧
            unit.lines[shown.number - 1]? = some shown.text ∧
            (unit.lineOfOffset? k = some shown.number ↔ OnlyFeeds (s.take k))) := by
  obtain ⟨place, grammar, s, hread, hunit⟩ :=
    Discovery.exists_readLossy_of_mem_units hnames hunits hunit
  have hs : '\r' ∉ s := by
    rw [FileTree.readLossy] at hread
    split at hread
    · cases hread
    · cases hread
      exact carriage_notMem_unifyBreaks _
  have hlines : unit.lines = (lines s).map String.ofList := by rw [hunit, lines_ofText]
  have hoffset : ∀ k, unit.lineOfOffset? k = Text.lineOfOffset? (lines s) k := by
    intro k
    rw [hunit, lineOfOffset?_ofText]
  refine ⟨s, hread, by rw [hunit]; rfl, fun k hk => ?_, fun c f hf =>
    ⟨exists_within_of_mem_runUnit hf, fun n hwithin hline => ?_⟩⟩
  · rw [hoffset]
    exact lineOfOffset?_eq_iff hs hk
  obtain ⟨k, hstands⟩ : ∃ k, n.StandsAt s k := by
    have hroot : unit.root = parser place grammar (String.ofList s) := by rw [hunit]; rfl
    have := hparser place grammar (String.ofList s) n (hroot ▸ hwithin)
    rwa [String.toList_ofList] at this
  have hrow : f.line = ((s.take k).count '\n' + 1 : Nat) := by rw [hline, hstands.line]
  refine ⟨k, hstands, fun before comment after id reason habove hparse => ?_, fun hk => ?_⟩
  · rw [hlines, hoffset, hrow]
    exact exists_directive_of_above hs habove hparse
  · have hfile : Snippet.linesOf? t folder f.file = some ((lines s).map String.ofList) := by
      rw [Snippet.linesOf?, (reports_of_mem_runUnit hf).file, hread]
    rw [Snippet.read, hfile, hlines, hoffset, hrow]
    exact exists_highlight hs hk

/-! ### A file with one call -/

/-- A named node at an offset of a text. -/
def Node.placedAt (s : List Char) (k : Nat) (type : String) (field : Option String) (text : String)
    (children : List Node) : Node where
  type := type
  field := field
  named := true
  start := (Utf8.encode (s.take k)).length
  stop := (Utf8.encode s).length
  line := (s.take k).count '\n' + 1
  text := text
  children := children

/-- The tree of a text with a call at its end. -/
def Node.lastCall (s : List Char) : Node :=
  let k := s.length - "console.log(token)".length
  .placedAt s k "program" none "" [
    .placedAt s k "call_expression" none "console.log(token)" [
      .placedAt s k "identifier" (some "function") "console.log" [],
      .placedAt s k "arguments" (some "arguments") "(token)" [
        .placedAt s k "identifier" none "token" []]]]

/-- A text with a directive on the row above the call at its end. -/
def markedCall (first : List Char) : List Char :=
  first ++ "\n// secureai-ignore AI002: ok\nconsole.log(token)".toList

/-- The source file of such a text. -/
def SourceUnit.markedCall (first : List Char) : SourceUnit :=
  .ofText "app.ts" (String.ofList (LlmAudit.markedCall first))
    (.lastCall (LlmAudit.markedCall first))

/-- Every node of a tree stands at one offset. -/
inductive Node.AllAt (s : List Char) (k : Nat) : Node → Prop where
  /-- The root does, and so does every node below it. -/
  | intro {n : Node} : n.StandsAt s k → (∀ c ∈ n.children, AllAt s k c) → AllAt s k n

namespace Node

variable {s : List Char} {k : Nat}

theorem AllAt.standsAt {root n : Node} (h : AllAt s k root) (hn : root.Within n) :
    n.StandsAt s k := by
  have hall : AllAt s k n := by
    induction hn with
    | self => exact h
    | child _ hmem ih =>
      cases ih with
      | intro _ hchildren => exact hchildren _ hmem
  cases hall with
  | intro hroot _ => exact hroot

theorem AllAt.placedAt (hk : k ≤ s.length) {type text : String} {field : Option String}
    {children : List Node} (h : ∀ c ∈ children, AllAt s k c) :
    AllAt s k (.placedAt s k type field text children) :=
  .intro ⟨hk, rfl, rfl⟩ h

theorem allAt_lastCall (s : List Char) :
    AllAt s (s.length - "console.log(token)".length) (lastCall s) := by
  have hk : s.length - "console.log(token)".length ≤ s.length := Nat.sub_le _ _
  refine .placedAt hk (List.forall_mem_singleton.2 (.placedAt hk (List.forall_mem_cons.2 ⟨?_, ?_⟩)))
  · exact .placedAt hk (List.forall_mem_nil _)
  · refine List.forall_mem_singleton.2 (.placedAt hk (List.forall_mem_singleton.2 ?_))
    exact .placedAt hk (List.forall_mem_nil _)

end Node

/-- A file with one such text. -/
def FileTree.markedCall (first : List Char) : FileTree :=
  ⟨[(["app.ts"], .file (Utf8.encode (LlmAudit.markedCall first)))], by simp [Entry.at?]⟩

theorem Discovery.units_markedCall :
    units (fun _ _ source => .lastCall source.toList) (.markedCall []) ⟨.root, []⟩ [] =
      .ok [SourceUnit.markedCall []] := by
  have hfind : (FileTree.markedCall []).find? ⟨.root, []⟩ = some .folder := by decide
  have hpatterns : patterns (.markedCall []) ⟨.root, []⟩ [] = .ok defaultPatterns := by
    decide +kernel
  have hbelow : (FileTree.markedCall []).filesBelow [] = [["app.ts"]] :=
    List.mergeSort_singleton _
  have hread : (FileTree.markedCall []).readLossy
      (Path.join ⟨.root, []⟩ ⟨.workingDir, ["app.ts"]⟩) = .ok (LlmAudit.markedCall []) := by
    decide +kernel
  have hfiles : sourceFiles (.markedCall []) ⟨.root, []⟩ [] = .ok [⟨.workingDir, ["app.ts"]⟩] := by
    rw [sourceFiles, hfind, hpatterns, hbelow]
    decide +kernel
  rw [units, hfiles]
  dsimp only
  rw [List.filterMap_cons, unit?]
  dsimp only
  rw [hread]
  rfl

/-- A directive right above a call is on an earlier line than what is found there if the text has
line feeds only. -/
theorem lines_match_rows_marked_call :
    (∀ k < (markedCall []).length, (SourceUnit.markedCall []).lineOfOffset? k =
      some (((markedCall []).take k).count '\n' + 1)) ∧
    ∃ f ∈ Check.promptLogging.runUnit (.markedCall []),
      ∃ d ∈ Directive.parse (SourceUnit.markedCall []).lines,
        d.ruleId = f.ruleId ∧ d.line < f.line := by
  have hparser : RowsAreFeeds fun _ _ source => .lastCall source.toList :=
    fun _ _ source n hn => ⟨_, (Node.allAt_lastCall source.toList).standsAt hn⟩
  have hnames : (FileTree.markedCall []).WellNamed := by decide +kernel
  obtain ⟨s, hread, -, hoffsets, hfindings⟩ :=
    lines_match_rows_iff hparser hnames Discovery.units_markedCall List.mem_cons_self
  obtain rfl : markedCall [] = s := by
    have htext : (FileTree.markedCall []).readLossy
        (Path.join ⟨.root, []⟩ (.parse (SourceUnit.markedCall []).path)) = .ok (markedCall []) := by
      decide +kernel
    exact Except.ok.inj (htext.symm.trans hread)
  have hfeeds : OnlyFeeds (markedCall []) := by decide +kernel
  refine ⟨fun k hk => (hoffsets k hk).2 fun c hc => hfeeds c (List.mem_of_mem_take hc), ?_⟩
  obtain ⟨f, hf, hrule, hline⟩ : ∃ f ∈ Check.promptLogging.runUnit (.markedCall []),
      f.ruleId = "AI002" ∧ f.line = 3 := by
    decide +kernel
  obtain ⟨⟨n, hn, hnode⟩, hall⟩ := hfindings .promptLogging f hf
  obtain ⟨k, hstands, hdirective, -⟩ := hall n hn hnode
  have habove : CommentAbove (markedCall []) k ['\n']
      "// secureai-ignore AI002: ok".toList
      "\nconsole.log(token)".toList := by
    have hbreaks : ("// secureai-ignore AI002: ok".toList.all fun c => !isLineBreak c) = true ∧
        "\nconsole.log(token)".toList.head? = some '\n' := by
      decide +kernel
    refine ⟨by decide +kernel, ⟨fun c hc => ?_, fun c hc => ?_, fun c hc => ?_⟩, ?_⟩
    · obtain rfl := Option.some.inj hc
      decide
    · simpa using List.all_eq_true.1 hbreaks.1 c hc
    · obtain rfl := Option.some.inj (hbreaks.2.symm.trans hc)
      decide
    have hrow := hstands.line
    simp only [List.count_singleton_self]
    omega
  obtain ⟨d, hd, hid, -, -, hlt⟩ := hdirective _ _ _ "AI002".toList
    "ok".toList habove (by decide +kernel)
  refine ⟨f, hf, d, hd, ?_, hlt.2 (by decide)⟩
  rw [hid, hrule]
  decide +kernel

/-- After a line separator, lines and rows are no longer the same: a directive right above a call
has the number of the call's row, so it does not suppress what is found there. -/
theorem line_separator_shifts_lines :
    let s := markedCall ['\u2028']
    let k := s.length - "console.log(token)".length
    (SourceUnit.markedCall ['\u2028']).lineOfOffset? k = some 4 ∧ (s.take k).count '\n' + 1 = 3 ∧
      (Directive.parse (SourceUnit.markedCall ['\u2028']).lines).map (fun d => (d.ruleId, d.line)) =
        [("AI002", 3)] ∧
      (Audit.ofUnits [.markedCall ['\u2028']] []).findings.map (fun f => (f.ruleId, f.line)) =
        [("AI002", 3)] := by
  refine ⟨by decide +kernel, by decide +kernel, by decide +kernel, ?_⟩
  rw [Audit.ofUnits_nil, (Audit.withChecks_of_sorted (by decide +kernel)).1]
  decide +kernel

end LlmAudit
