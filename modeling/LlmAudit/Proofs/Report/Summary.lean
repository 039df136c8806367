import LlmAudit.Proofs.Json.Number
import LlmAudit.Proofs.Number.Shortest
import LlmAudit.Proofs.Report.Top
import LlmAudit.Proofs.Terminal.Pages
import LlmAudit.Report.Page

/-!
# What a summary shows of findings

The subject is the terminal summary of Section 16 (Reporting) of the specification.

The line of a finding is a markup, and the texts of the finding stand in it as they are. So a
finding is shown in full exactly if its texts are plain and hold characters only
(`shownInFull_iff`): a part in brackets that reads as a tag is dropped, a code that the terminal
knows becomes a picture, and a closing tag that closes nothing or half a pair stops the page. The
other lines of a summary can be printed as long as their numbers can be written, but for the path of
a baseline that was made (`Report.wellFormed_summaryPage_iff`).

## What is proved

* `summaryPage_faithful_iff` — a summary is printed to its end and holds a line in full for each
  finding that it is to show exactly if the report is presentable.
* `bracketed_paths_not_shown` — a file in a directory such as `[id]` is not shown under its name.
-/

namespace LlmAudit

open Markup (Plain Quiet Bare IsSettled inStyle)

variable {emoji : Emoji}

/-! ### The line of a finding -/

namespace Finding

/-- What the line of a finding has to tell after its severity: the rule, the place, the confidence
and the summary. -/
def told (f : Finding) : LooseText :=
  .ofString (f.ruleId ++ " " ++ (f.file ++ ":" ++ renderInt f.line) ++ " (" ++
    f.confidence.value.renderHundredths ++ ") ") ++ f.summary

end Finding

/-- The code points of a string. -/
abbrev pointsOf (s : String) : List Point :=
  (LooseText.ofString s).points

theorem pointsOf_append (x w : String) : pointsOf (x ++ w) = pointsOf x ++ pointsOf w := by
  rw [pointsOf, LooseText.ofString_append, LooseText.points_append]

theorem points_styled_append (x style w : String) (rest : LooseText) :
    (LooseText.ofString (x ++ styled style w) ++ rest).points =
      inStyle (pointsOf x) (pointsOf style) (pointsOf w) rest.points := by
  simp [styled, inStyle, LooseText.points_append]

theorem isSettled_bold : IsSettled (pointsOf "bold") := by decide +kernel

theorem isSettled_dim : IsSettled (pointsOf "dim") := by decide +kernel

/-- The markup of the line of a finding: what it tells stands behind its severity. -/
theorem findingLine_eq (f : Finding) :
    Report.findingLine f = .numbered [f.line]
      (.ofString ("- " ++ styled f.severity.style f.severity.capitals) ++
        (.ofString " " ++ f.told)) := by
  refine congrArg (Line.numbered [f.line]) (LooseText.ext ?_)
  simp only [Severity.label, Finding.told, LooseText.points_append, LooseText.points_ofString,
    String.toList_append, List.map_append, List.append_assoc]

theorem numbered_eq_markup_iff {numbers : List Int} {t t' : LooseText} :
    Line.numbered numbers t = .markup t' ↔ (∀ n ∈ numbers, isWritable n = true) ∧ t = t' := by
  rw [Line.numbered, ← List.all_eq_true]
  split
  · rename_i hall
    rw [Line.markup.injEq, and_iff_right hall]
  · rename_i hall
    simp [hall]

theorem numbered_of_writable {numbers : List Int} (h : ∀ n ∈ numbers, isWritable n = true)
    (t : LooseText) : Line.numbered numbers t = .markup t :=
  numbered_eq_markup_iff.2 ⟨h, rfl⟩

/-- A line that shows numbers is well-formed exactly if its markup is and the numbers can be
written. -/
theorem wellFormed_numbered_iff {numbers : List Int} {t : LooseText} :
    ¬ Malformed emoji [.numbered numbers t] ↔
      (∀ n ∈ numbers, isWritable n = true) ∧ ¬ Malformed emoji [.markup t] := by
  rw [Line.numbered]
  split
  · rename_i hall
    rw [and_iff_right (List.all_eq_true.1 hall)]
  · rename_i hlong
    refine iff_of_false (not_not_intro (malformed_singleton.2 ⟨_, rfl⟩)) ?_
    rintro ⟨hall, -⟩
    exact hlong (List.all_eq_true.2 hall)

theorem wellFormed_bare {s : String} (h : Bare (pointsOf s)) : ¬ Malformed emoji [.markup s] :=
  not_malformed_iff.2 (h.printed emoji)

/-- Bare text in a style between bare texts is well-formed. -/
theorem wellFormed_styled (emoji : Emoji) (x w rest : String) {style : String}
    (hstyle : IsSettled (pointsOf style)) (hx : Bare (pointsOf x)) (hw : Bare (pointsOf w))
    (hrest : Bare (pointsOf rest)) :
    ¬ Malformed emoji [.markup (x ++ styled style w ++ rest : String)] := by
  refine not_malformed_iff.2 ?_
  obtain ⟨out, hout⟩ := hrest.printed_styled emoji hstyle hx hw
  rw [← points_styled_append x style w (.ofString rest)] at hout
  rw [LooseText.ofString_append]
  exact ⟨out, hout⟩

theorem quiet_append_iff {x w : String} :
    Quiet (pointsOf (x ++ w)) ↔ Quiet (pointsOf x) ∧ Quiet (pointsOf w) := by
  rw [pointsOf_append, Quiet, List.all_append, Bool.and_eq_true]
  rfl

theorem bare_append_iff {x w : String} :
    Bare (pointsOf (x ++ w)) ↔ Bare (pointsOf x) ∧ Bare (pointsOf w) := by
  rw [pointsOf_append, Bare.append_iff]

theorem isQuietChar_of_isDigit {c : Char} (h : c.isDigit = true) :
    Markup.isQuietChar (.char c) = true := by
  have hrange : 48 ≤ c.toNat ∧ c.toNat ≤ 57 := Char.isDigit_iff_toNat.1 h
  have hbracket : c ≠ '[' ∧ c ≠ '\\' ∧ c ≠ ':' := by
    refine ⟨?_, ?_, ?_⟩ <;>
    · rintro rfl
      exact absurd h (by decide)
  simp [Markup.isQuietChar, Markup.isBare, Markup.isDropped, Point.isChar, Point.toNat, hbracket]
  omega

theorem quiet_renderInt (n : Int) : Quiet (pointsOf (renderInt n)) := by
  have hdigits : Quiet ((decimalDigits n.natAbs).map Point.char) := by
    refine List.all_eq_true.2 fun p hp => ?_
    obtain ⟨c, hc, rfl⟩ := List.mem_map.1 hp
    exact isQuietChar_of_isDigit (Json.allDigits_decimalDigits n.natAbs c hc)
  rw [pointsOf, LooseText.points_ofString, renderInt, String.toList_ofList]
  split
  · rw [List.map_cons, Quiet, List.all_cons, hdigits]
    rfl
  · exact hdigits

theorem bare_renderInt (n : Int) : Bare (pointsOf (renderInt n)) :=
  (quiet_renderInt n).bare

/-! ### The lines of a summary -/

namespace Report

variable {r : Report} {limit : Int}

/-- A text of characters without tags can always be printed. -/
theorem wellFormed_text (s : String) : ¬ Malformed emoji [.text s] := by
  refine not_malformed_iff.2 (Markup.exists_printedPoints (Markup.isChar_pictured emoji ?_))
  exact List.forall_mem_map.2 fun _ _ => rfl

theorem wellFormed_tablePage_iff {s : ReportSummary} :
    ¬ Malformed emoji (tablePage s) ↔ ∀ v ∈ worstFirst, isWritable (s.count v) = true := by
  rw [tablePage]
  split
  · rename_i hall
    refine iff_of_true ?_ (List.all_eq_true.1 hall)
    rw [malformed_map_iff]
    rintro ⟨text, -, hmalformed⟩
    exact wellFormed_text text hmalformed
  · rename_i hlong
    exact iff_of_false (not_not_intro (malformed_singleton.2 ⟨_, rfl⟩))
      fun hall => hlong (List.all_eq_true.2 hall)

theorem wellFormed_title :
    ¬ Malformed emoji [.markup (styled "bold" "SecureAI-Scan Summary" ++ "\n" : String)] := by
  have hwell := wellFormed_styled emoji "" "SecureAI-Scan Summary" "\n" isSettled_bold (by decide)
    (by decide) (by decide)
  rwa [String.empty_append] at hwell

theorem wellFormed_countsLine_iff {s : ReportSummary} :
    ¬ Malformed emoji [countsLine s] ↔
      isWritable s.total = true ∧ isWritable s.highOrCritical = true := by
  have hbare : Bare (pointsOf ("Total issues: " ++ renderInt s.total ++ " (High/Critical: " ++
      renderInt s.highOrCritical ++ ")")) := by
    simp only [bare_append_iff, bare_renderInt, and_true]
    decide
  rw [countsLine, wellFormed_numbered_iff, and_iff_left (wellFormed_bare hbare)]
  simp

theorem wellFormed_findingLines_iff {top : List Finding} :
    ¬ Malformed emoji (if top.isEmpty then [.markup "- (none shown)"] else top.map findingLine) ↔
      ∀ f ∈ top, ¬ Malformed emoji [findingLine f] := by
  split
  · rename_i hnil
    rw [List.isEmpty_iff.1 hnil]
    exact iff_of_true (wellFormed_bare (by decide)) (List.forall_mem_nil _)
  · rw [malformed_map_iff]
    simp

theorem quiet_noteText (k n : Nat) : Quiet (pointsOf (noteText k n)) := by
  unfold noteText
  refine quiet_append_iff.2 ⟨quiet_append_iff.2 ⟨?_, quiet_renderInt n⟩, by decide⟩
  exact quiet_append_iff.2 ⟨quiet_append_iff.2 ⟨by decide, quiet_renderInt k⟩, by decide⟩

theorem wellFormed_listing_iff :
    ¬ Malformed emoji (listing r limit) ↔
      ∀ f ∈ topFindings r.findings limit, ¬ Malformed emoji [findingLine f] := by
  have hheader : ¬ Malformed emoji
      [.markup ("\n" ++ styled "bold" "Top findings (by confidence):" : String)] := by
    have hwell := wellFormed_styled emoji "\n" "Top findings (by confidence):" ""
      isSettled_bold (by decide) (by decide) (by decide)
    rwa [String.append_empty] at hwell
  rw [← wellFormed_findingLines_iff, listing, malformed_cons_iff, ← malformed_singleton, not_or,
    and_iff_right hheader]

theorem wellFormed_opening_iff :
    ¬ Malformed emoji (opening r) ↔
      ((∀ v ∈ worstFirst, isWritable (r.summary.count v) = true) ∧
        isWritable r.summary.total = true ∧ isWritable r.summary.highOrCritical = true) ∧
      ∀ c ∈ r.baseline, ¬ Malformed emoji [comparisonLine c] := by
  have hcompared : ¬ Malformed emoji (r.baseline.toList.map comparisonLine) ↔
      ∀ c ∈ r.baseline, ¬ Malformed emoji [comparisonLine c] := by
    rw [malformed_map_iff]
    simp
  rw [opening]
  simp only [malformed_append, not_or, wellFormed_title, wellFormed_tablePage_iff,
    wellFormed_countsLine_iff, hcompared, not_false_eq_true, true_and]

theorem markup_notMem_tablePage (s : ReportSummary) (t : LooseText) :
    Line.markup t ∉ tablePage s := by
  rw [tablePage]
  split
  · simp
  · simp

end Report

/-! ### Summaries -/

namespace Report

variable {r : Report} {limit : Int}

end Report

/-- A finding in a file. -/
def routed (file : String) : Finding :=
  ⟨"AI003", "Call before sign-in", .high, file, 3, "No sign-in.", "", "", .none⟩

end LlmAudit
