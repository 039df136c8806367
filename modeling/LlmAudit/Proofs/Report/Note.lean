import LlmAudit.Proofs.Report.Summary

/-!
# The note on what is not shown

The subject is the terminal summary of Section 16 (Reporting) of the specification.

A summary shows the most confident issues, and a note tells how many there are if some are left out.
It compares two numbers that are found apart from each other, the length of the choice and the total
in the report; both count issues (`length_topFindings`). But the note comes behind the findings, and
printing stops at a line that cannot be printed. So the note is printed exactly if issues are left
out and no line before it stops the page.

## Main statements

* `topFindings_leads` — which issues are shown, and when the note is printed.
* `stopped_page_has_no_note` — an issue is left out, and there is no note.
-/

namespace LlmAudit

variable {emoji : Emoji}

namespace Report

open Markup (Quiet Plain)

/-! ### The text of the note -/

/-- What is printed for the note. -/
def noteOutput (shown total : Nat) : List Char :=
  '\n' :: ((noteText shown total).toList ++ ['\n'])

theorem points_note (k n : Nat) :
    (note k n).points =
      Markup.inStyle (pointsOf "\n") (pointsOf "dim") (pointsOf (noteText k n)) [] := by
  have hpoints := points_styled_append "\n" "dim" (noteText k n) .empty
  rw [LooseText.points_append, LooseText.empty, List.append_nil] at hpoints
  exact hpoints

theorem notMem_renderInt {c : Char} (hdigit : c.isDigit = false) (hdash : c ≠ '-') (n : Int) :
    c ∉ (renderInt n).toList := by
  have hdigits : c ∉ decimalDigits n.natAbs := fun hc =>
    Bool.false_ne_true (hdigit.symm.trans (Json.allDigits_decimalDigits _ c hc))
  rw [renderInt, String.toList_ofList]
  split
  · rw [List.mem_cons, not_or]
    exact ⟨hdash, hdigits⟩
  · exact hdigits

/-- The note is one line without tabs. -/
theorem notMem_noteText {c : Char} (h : c = '\n' ∨ c = '\t') (k n : Nat) :
    c ∉ (noteText k n).toList := by
  have hnumber : ∀ n : Int, c ∉ (renderInt n).toList := by
    intro n
    rcases h with rfl | rfl <;> exact notMem_renderInt (by decide) (by decide) n
  simp only [noteText, String.toList_append, List.mem_append, hnumber, or_false, not_or]
  rcases h with rfl | rfl <;> decide

/-- The note is printed without its style, whatever pictures the terminal knows. -/
theorem printed_note (emoji : Emoji) (k n : Nat) :
    (Line.markup (note k n)).printed emoji = .ok (noteOutput k n) := by
  have hbreak : Quiet (pointsOf "\n") := by decide
  have hprinted := (Markup.plain_nil emoji).printed_styled isSettled_dim hbreak (quiet_noteText k n)
  rw [← points_note] at hprinted
  rw [Line.printed, hprinted, List.append_nil]
  have hchars : pointsOf "\n" ++ pointsOf (noteText k n) =
      ('\n' :: (noteText k n).toList).map .char := by
    have hfirst : pointsOf "\n" = [.char '\n'] := rfl
    rw [hfirst, List.singleton_append, List.map_cons]
    exact congrArg _ (LooseText.points_ofString _)
  refine Markup.printedPoints_eq_ok_iff.2 ⟨'\n' :: (noteText k n).toList, hchars, ?_⟩
  rw [← List.nil_append ('\n' :: _), Markup.printedLines_append_cons List.not_mem_nil,
    Markup.printedLines_of_notMem (notMem_noteText (.inl rfl) k n) (notMem_noteText (.inr rfl) k n)]
  rfl

/-! ### The place of the note -/

theorem take_note (k n : Nat) : (note k n).points.take 3 = pointsOf "\n[d" := by
  simp [note, styled]

/-- A text that begins in another way is not the note. -/
theorem ne_note {t : LooseText} (h : t.points.take 3 ≠ pointsOf "\n[d") (k n : Nat) :
    t ≠ note k n := by
  rintro rfl
  exact h (take_note k n)

variable {r : Report} {limit : Int} {k n : Nat}

theorem note_notMem_opening : Line.markup (note k n) ∉ opening r := by
  rw [opening]
  simp only [List.mem_append, List.mem_singleton, markup_notMem_tablePage, or_false, List.mem_map,
    not_or]
  refine ⟨⟨fun h => ?_, fun h => ?_⟩, ?_⟩
  · exact ne_note (by simp [styled]) k n (Line.markup.inj h).symm
  · exact ne_note (by simp) k n (numbered_eq_markup_iff.1 h.symm).2
  · rintro ⟨c, -, hc⟩
    rw [comparisonLine] at hc
    split at hc
    · exact ne_note (by simp [styled]) k n (Line.markup.inj hc)
    · exact ne_note (by simp [styled]) k n (numbered_eq_markup_iff.1 hc).2

theorem note_notMem_listing : Line.markup (note k n) ∉ listing r limit := by
  rw [listing, List.mem_cons, not_or]
  constructor
  · intro h
    exact ne_note (by simp [styled]) k n (Line.markup.inj h).symm
  · split
    · rw [List.mem_singleton, Line.markup.injEq]
      exact (ne_note (by decide) k n).symm
    · rw [List.mem_map]
      rintro ⟨f, -, hf⟩
      rw [findingLine_eq] at hf
      refine ne_note ?_ k n (numbered_eq_markup_iff.1 hf).2
      rw [points_styled_append]
      simp [Markup.inStyle]

theorem note_notMem_suppressedLines : Line.markup (note k n) ∉ suppressedLines r := by
  rw [suppressedLines]
  split
  · exact List.not_mem_nil
  · rw [List.mem_singleton]
    intro h
    exact ne_note (by simp [styled]) k n (numbered_eq_markup_iff.1 h.symm).2

theorem noteLines_of_lt (hless : (topFindings r.findings limit).length < r.summary.total)
    (htotal : isWritable r.summary.total = true) :
    noteLines r limit =
      [.markup (note (topFindings r.findings limit).length r.summary.total)] := by
  rw [noteLines, if_pos hless, numbered_of_writable]
  simp only [List.forall_mem_cons, List.not_mem_nil, false_implies, implies_true, and_true]
  exact ⟨isWritable_of_natAbs_le (by omega) htotal, htotal⟩

theorem lt_of_mem_noteLines {line : Line} (h : line ∈ noteLines r limit) :
    (topFindings r.findings limit).length < r.summary.total := by
  rw [noteLines] at h
  split at h
  · assumption
  · exact absurd h List.not_mem_nil

/-- The note is printed exactly if fewer issues are shown than the report counts, and no line before
it stops the page. -/
theorem prints_note_iff (emoji : Emoji) (r : Report) (limit : Int) :
    Prints emoji (r.summaryPage limit)
        (.markup (note (topFindings r.findings limit).length r.summary.total))
        (noteOutput (topFindings r.findings limit).length r.summary.total) ↔
      (topFindings r.findings limit).length < r.summary.total ∧
        ¬ Malformed emoji (opening r ++ listing r limit) := by
  constructor
  · intro h
    by_cases hzero : r.summary.total = 0
    · rw [summaryPage, if_pos hzero] at h
      obtain ⟨-, hmem⟩ := h.wellFormed note_notMem_opening
      rw [List.mem_singleton, nothingLine, Line.markup.injEq] at hmem
      exact absurd hmem.symm (ne_note (by simp [styled]) _ _)
    · rw [summaryPage, if_neg hzero, topLines, ← List.append_assoc] at h
      have hnot : Line.markup (note (topFindings r.findings limit).length r.summary.total) ∉
          opening r ++ listing r limit := by
        rw [List.mem_append, not_or]
        exact ⟨note_notMem_opening, note_notMem_listing⟩
      obtain ⟨hwell, hmem⟩ := h.wellFormed hnot
      refine ⟨lt_of_mem_noteLines ((List.mem_append.1 hmem).resolve_right ?_), hwell⟩
      exact note_notMem_suppressedLines
  · rintro ⟨hless, hwell⟩
    have htotal : isWritable r.summary.total = true := by
      rw [malformed_append, not_or, wellFormed_opening_iff] at hwell
      exact hwell.1.1.2.1
    have hprinted :=
      printed_note emoji (topFindings r.findings limit).length r.summary.total
    rw [summaryPage, if_neg (by omega), topLines, noteLines_of_lt hless htotal,
      ← List.append_assoc, List.singleton_append]
    exact prints_of_printed hwell hprinted _

theorem count_summarize_le (issues : List Finding) (v : Severity) :
    (summarize issues).count v ≤ issues.length := by
  rw [count_summarize]
  exact List.length_filter_le _ _

theorem highOrCritical_summarize_le (issues : List Finding) :
    (summarize issues).highOrCritical ≤ issues.length := by
  have hsum := sum_count_summarize issues
  have htotal : (summarize issues).total = issues.length := rfl
  simp only [Severity.all, List.map_cons, List.map_nil, List.sum_cons, List.sum_nil, htotal] at hsum
  rw [ReportSummary.highOrCritical]
  omega

/-- No line before the note stops the page if the number of issues can be written and the lines with
texts from elsewhere can be printed; the other numbers are at most that of the issues. -/
theorem wellFormed_before_note_iff {issues : List Finding}
    (hsummary : r.summary = summarize issues) :
    ¬ Malformed emoji (opening r ++ listing r limit) ↔
      isWritable issues.length = true ∧ (∀ c ∈ r.baseline, ¬ Malformed emoji [comparisonLine c]) ∧
        ∀ f ∈ topFindings r.findings limit, ¬ Malformed emoji [findingLine f] := by
  have hnumbers : ((∀ v ∈ worstFirst, isWritable (r.summary.count v) = true) ∧
      isWritable r.summary.total = true ∧ isWritable r.summary.highOrCritical = true) ↔
      isWritable issues.length = true := by
    rw [hsummary]
    refine ⟨fun h => h.2.1, fun htotal => ⟨fun v _ => ?_, htotal, ?_⟩⟩
    · refine isWritable_of_natAbs_le ?_ htotal
      simpa using count_summarize_le issues v
    · refine isWritable_of_natAbs_le ?_ htotal
      simpa using highOrCritical_summarize_le issues
  rw [malformed_append, not_or, wellFormed_opening_iff, wellFormed_listing_iff, hnumbers, and_assoc]

end Report

/-! ### Two findings -/

/-- The report of two findings in files. -/
def pairReport (file file' : String) : Except AccessError Report :=
  Report.build (.ofTarget "now" "/app") none [routed file, routed file'] [] none [file, file']

theorem filter_pair (file file' : String) :
    [routed file, routed file'].filter (fun f => ¬ f.InInventory) =
      [routed file, routed file'] := by
  have hrule : ¬ "LLM_".toList <+: "AI003".toList := by decide
  rw [List.filter_eq_self]
  intro f hf
  rcases List.mem_pair.1 hf with rfl | rfl
  · exact decide_eq_true hrule
  · exact decide_eq_true hrule

/-- Of two equally confident findings the first one is shown. -/
theorem topFindings_pair (file file' : String) :
    topFindings [routed file, routed file'] 1 = [routed file] := by
  have hsorted : [routed file, routed file'].Pairwise fun f g => surerFirst f g = true := by
    rw [List.pairwise_pair]
    exact surerFirst_iff.2 le_rfl
  rw [topFindings_eq, filter_pair, List.mergeSort_of_pairwise hsorted]
  rfl

/-! ### What is shown and noted -/

/-- **The most confident issues are shown.** As many issues are shown as the limit allows and as
there are; nothing of the inventory is shown; what is shown comes in the order of falling
confidence, is at least as confident as everything left out, and of equally confident issues the
first ones are shown, in their order. The summary of a report notes that issues are left out exactly
if some are and no line before the note stops the page: the number of issues can be written, and the
lines of the comparison with a baseline and of the findings shown can be printed. -/
theorem topFindings_leads (emoji : Emoji) (about : ReportMeta) (source : Option Snippet.Source)
    (findings : List Finding) (ignored : List IgnoredFinding)
    (baseline : Option Baseline.Comparison) (scannedFiles : List String) (limit : Int) :
    let issues := findings.filter fun f => ¬ f.InInventory
    let shown := topFindings findings limit
    (shown.length : Int) = min (max limit 0) issues.length ∧
    (∀ f ∈ shown, ¬ f.InInventory) ∧
    (∃ left, Leads issues shown left) ∧
    ∀ report, Report.build about source findings ignored baseline scannedFiles = .ok report →
      (Prints emoji (report.summaryPage limit) (.markup (Report.note shown.length issues.length))
          (Report.noteOutput shown.length issues.length) ↔
        (∃ f, shown.count f < issues.count f) ∧ isWritable issues.length = true ∧
          (∀ c ∈ baseline, ¬ Malformed emoji [Report.comparisonLine c]) ∧
          ∀ f ∈ shown, ¬ Malformed emoji [Report.findingLine f]) := by
  intro issues shown
  have hleads := leads_take_mergeSort issues limit.toNat
  rw [← topFindings_eq] at hleads
  refine ⟨length_topFindings findings limit, fun f hf => ?_, ⟨_, hleads⟩, fun report hreport => ?_⟩
  · have hissue := hleads.perm.mem_iff.1 (List.mem_append_left _ hf)
    exact of_decide_eq_true (List.mem_filter.1 hissue).2
  · -- the total of the report counts the same issues
    obtain ⟨rfl, rfl, -, hsummary⟩ := Report.of_build_eq_ok hreport
    have htotal : report.summary.total = issues.length := by
      rw [hsummary]
      rfl
    rw [← hleads.length_lt_iff, ← Report.wellFormed_before_note_iff hsummary, ← htotal]
    exact Report.prints_note_iff emoji report limit

/-- Two findings of which one is shown, with the note behind it. -/
theorem topFindings_leads_pair :
    ∃ report, pairReport "a.ts" "b.ts" = .ok report ∧
      [routed "a.ts"].count (routed "b.ts") < [routed "a.ts", routed "b.ts"].count (routed "b.ts") ∧
      Prints .none (report.summaryPage 1) (.markup (Report.note 1 2)) (Report.noteOutput 1 2) := by
  obtain ⟨report, hreport⟩ := Report.exists_build_eq_ok (.ofTarget "now" "/app")
    [routed "a.ts", routed "b.ts"] [] none ["a.ts", "b.ts"]
  obtain ⟨-, -, -, hnote⟩ := topFindings_leads .none (.ofTarget "now" "/app") none
    [routed "a.ts", routed "b.ts"] [] none ["a.ts", "b.ts"] 1
  have hleft : [routed "a.ts"].count (routed "b.ts") <
      [routed "a.ts", routed "b.ts"].count (routed "b.ts") := by decide
  have hline : ∃ out, (Report.findingLine (routed "a.ts")).printed .none = .ok out :=
    ⟨"- HIGH AI003 a.ts:3 (0.00) No sign-in.\n".toList, by decide +kernel⟩
  have hiff := hnote report hreport
  rw [topFindings_pair, filter_pair] at hiff
  refine ⟨report, hreport, hleft, hiff.2 ⟨⟨_, hleft⟩, by decide, ?_, ?_⟩⟩
  · exact fun c hc => absurd hc (Option.not_mem_none c)
  · exact List.forall_mem_singleton.2 (not_malformed_iff.2 hline)

/-- The line of the finding that is shown stops the page. The other finding is left out, and nothing
tells so. -/
theorem stopped_page_has_no_note :
    ∃ report, pairReport "pages/[/id].ts" "b.ts" = .ok report ∧
      topFindings report.findings 1 = [routed "pages/[/id].ts"] ∧
      routed "b.ts" ∈ report.findings ∧
      (printPage .none (report.summaryPage 1)).2 ≠ none ∧
      ¬ Prints .none (report.summaryPage 1) (.markup (Report.note 1 2)) (Report.noteOutput 1 2) := by
  obtain ⟨report, hreport⟩ := Report.exists_build_eq_ok (.ofTarget "now" "/app")
    [routed "pages/[/id].ts", routed "b.ts"] [] none ["pages/[/id].ts", "b.ts"]
  obtain ⟨hfindings, -, -, hsummary⟩ := Report.of_build_eq_ok hreport
  rw [filter_pair] at hsummary
  have htop : topFindings report.findings 1 = [routed "pages/[/id].ts"] := by
    rw [hfindings, topFindings_pair]
  have htotal : report.summary.total = 2 := by
    rw [hsummary]
    rfl
  have hstops : Malformed .none (Report.opening report ++ Report.listing report 1) := by
    have hfails : (Report.findingLine (routed "pages/[/id].ts")).printed .none =
        .error (.notOpen "id") := by decide +kernel
    rw [← not_not (a := Malformed _ _), Report.wellFormed_before_note_iff hsummary, htop,
      List.forall_mem_singleton]
    exact fun h => h.2.2 (malformed_singleton.2 ⟨_, hfails⟩)
  refine ⟨report, hreport, htop, ?_, ?_, ?_⟩
  · rw [hfindings]
    exact List.mem_cons_of_mem _ List.mem_cons_self
  · rw [ne_eq, printPage_snd_eq_none_iff, not_not, Report.summaryPage, if_neg (by omega),
      Report.topLines, ← List.append_assoc]
    exact malformed_append.2 (.inl hstops)
  · have hiff := Report.prints_note_iff .none report 1
    rw [htop, htotal] at hiff
    exact fun hprints => (hiff.1 hprints).2 hstops

end LlmAudit
