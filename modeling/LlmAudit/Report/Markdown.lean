import LlmAudit.Explanation
import LlmAudit.Report.Basic

/-!
# Reports as Markdown

This module formalizes the Markdown report of Section 16 (Reporting) of the specification.
-/

namespace LlmAudit.Report

/-- Why the places of a rule were flagged, for the rules that say so. -/
def whyFlagged : String → List String
  | "AI001" =>
    ["A prompt is built with string concatenation or a template literal.",
      "The prompt references a function parameter or request-derived value."]
  | "AI002" => ["A console/logger call receives prompt, response or credential-like data."]
  | "AI003" =>
    ["The function looks like a request handler (req/request/ctx parameter).",
      "An LLM SDK call runs before any auth/requireAuth/isAuthenticated call."]
  | "AI004" =>
    ["A user/profile/session/request/payload object or JSON.stringify output is sent to the model."]
  | _ => []

/-- The line that opens and closes a block of code. -/
def fence : String := "\x60\x60\x60"

/-- A text between the marks for code. -/
def codeSpan (s : String) : String :=
  "\x60" ++ s ++ "\x60"

/-- A number with blanks in front up to a width. -/
def padNumber (width n : Nat) : String :=
  let digits := decimalDigits n
  String.ofList (List.replicate (width - digits.length) ' ' ++ digits)

/-- A line of a snippet, with its number in a column of some width. -/
def snippetLine (width : Nat) (l : SnippetLine) : String :=
  (if l.highlight then ">>" else "  ") ++ " " ++ padNumber width l.number ++ " | " ++ l.text

/-- A snippet as a block of code; nothing if it is empty. -/
def snippetBlock (snippet : List SnippetLine) : List String :=
  match snippet.getLast? with
  | none => []
  | some last =>
    let width := (decimalDigits last.number).length
    fence :: (snippet.map (snippetLine width) ++ [fence])

/-- The range of a group's confidences. -/
def confidenceRange (g : FindingGroup) : String :=
  let low := g.confidenceMin.value
  let high := g.confidenceMax.value
  if low.le high && high.le low then high.renderHundredths
  else low.renderHundredths ++ "–" ++ high.renderHundredths

/-- A place, with the lines around it. -/
def occurrenceLines (o : Occurrence) : List String :=
  let head := "**" ++ o.file ++ ":" ++ renderInt o.line ++ "** (confidence " ++
    o.confidence.value.renderHundredths ++ ")"
  match snippetBlock o.snippet with
  | [] => [head, ""]
  | block => [head, ""] ++ block ++ [""]

/-- Why a rule flags, and how what it flags is fixed; nothing for a rule without words. -/
def fixLines (ruleId : String) : List String :=
  if (whyFlagged ruleId).isEmpty then []
  else
    ["", "Fix example:", "", fence ++ "ts", (Explanation.ofRule ruleId ruleId).codeExample, fence]

/-- The findings of a rule. -/
def groupLines (g : FindingGroup) : List String :=
  let head :=
    ["### " ++ g.ruleId ++ " — " ++ g.title,
      "",
      "- **Severity:** " ++ g.severity.name,
      "- **Confidence:** " ++ confidenceRange g,
      "- **Occurrences:** " ++ renderInt g.occurrences.length,
      "",
      g.description,
      ""]
  let why := match whyFlagged g.ruleId with
    | [] => []
    | reasons => ["Why this was flagged:"] ++ reasons.map ("- " ++ ·) ++ [""]
  head ++ why ++ g.occurrences.flatMap occurrenceLines ++
    ["**Recommendation:** " ++ g.recommendation] ++ fixLines g.ruleId ++ [""]

/-- The comparison with a baseline. -/
def comparisonLines (c : Baseline.Comparison) : List String :=
  let told :=
    if c.created then
      ["Baseline created at " ++ codeSpan c.path ++ " with " ++ renderInt c.currentCount ++
        " findings."]
    else
      ["- Baseline: " ++ codeSpan c.path ++ " (" ++ renderInt c.baselineCount ++ " findings)",
        "- Current findings: " ++ renderInt c.currentCount,
        "- New or regressed: " ++ renderInt c.newCount,
        "- Unchanged: " ++ renderInt c.unchangedCount]
  ["## Baseline", ""] ++ told ++ [""]

/-- The severities, the worst first. -/
def worstFirst : List Severity := [.critical, .high, .medium, .low]

/-- The numbers of issues. -/
def summaryLines (s : ReportSummary) : List String :=
  ["## Summary", "", "| Severity | Count |", "| --- | --- |"] ++
    worstFirst.map (fun v => "| " ++ v.name ++ " | " ++ renderInt (s.count v) ++ " |") ++
    ["",
      "Total issues: " ++ renderInt s.total ++ " (High/Critical: " ++
        renderInt s.highOrCritical ++ ")",
      ""]

/-- The inventory. -/
def inventoryLines (groups : List FindingGroup) : List String :=
  if groups.isEmpty then []
  else
    let row (g : FindingGroup) (o : Occurrence) : String :=
      "| " ++ g.title ++ " | " ++ o.file ++ ":" ++ renderInt o.line ++ " |"
    ["## LLM SDK Inventory", "", "| Pattern | Location |", "| --- | --- |"] ++
      groups.flatMap (fun g => g.occurrences.map (row g)) ++ [""]

/-- The suppressed findings. -/
def ignoredLines (ignored : List IgnoredFinding) : List String :=
  if ignored.isEmpty then []
  else
    let row (i : IgnoredFinding) : String :=
      "- " ++ i.finding.ruleId ++ " at " ++ i.finding.file ++ ":" ++ renderInt i.finding.line ++
        " (annotation line " ++ renderInt i.directiveLine ++ "): " ++ i.reason
    ["## Ignored Findings", ""] ++ ignored.map row ++ [""]

/-- The lines of a report. -/
def markdownLines (r : Report) : List String :=
  let target :=
    if r.about.scanTarget = "" then [] else ["- **Target:** " ++ r.about.scanTarget]
  ["# " ++ r.about.tool ++ " Report",
    "",
    "- **Version:** " ++ r.about.version,
    "- **Scanned at:** " ++ r.about.scannedAt] ++
    target ++ [""] ++ summaryLines r.summary ++
    (match r.baseline with
      | some c => comparisonLines c
      | none => []) ++
    ["## Findings", ""] ++
    (if r.issues.isEmpty then ["No findings.", ""] else r.issues.flatMap groupLines) ++
    inventoryLines r.inventory ++ ignoredLines r.ignored

/-- The whole numbers in a comparison with a baseline. -/
def comparisonNumbers (c : Baseline.Comparison) : List Int :=
  if c.created then [c.currentCount]
  else [c.baselineCount, c.currentCount, c.newCount, c.unchangedCount]

/-- The whole numbers in the findings of a rule. -/
def groupNumbers (g : FindingGroup) : List Int :=
  (g.occurrences.length : Int) ::
    g.occurrences.flatMap fun o => o.line :: o.snippet.map fun l => (l.number : Int)

/-- The whole numbers in the lines of a report. -/
def markdownNumbers (r : Report) : List Int :=
  worstFirst.map (fun v => (r.summary.count v : Int)) ++
    [(r.summary.total : Int), (r.summary.highOrCritical : Int)] ++
    (match r.baseline with
      | some c => comparisonNumbers c
      | none => []) ++
    r.issues.flatMap groupNumbers ++
    r.inventory.flatMap (fun g => g.occurrences.map Occurrence.line) ++
    r.ignored.flatMap fun i => [i.finding.line, i.directiveLine]

/-- A report as Markdown: its lines, without the empty ones at the end. There is none if a whole
number has too many digits. -/
def markdown (r : Report) : Except Json.Limit String :=
  match r.markdownNumbers.find? fun n => !isWritable n with
  | some n => .error (.tooManyDigits (Binary64.digitCount n.natAbs))
  | none =>
    let text := ("\n".intercalate (markdownLines r)).toList
    .ok (String.ofList ((text.reverse.dropWhile (· == '\n')).reverse ++ ['\n']))

end LlmAudit.Report
