import LlmAudit.Explanation
import LlmAudit.PromptRisk.Basic
import LlmAudit.Report.Markdown
import LlmAudit.Terminal.Page

/-!
# Reports on a terminal

This module formalizes the terminal summary of Section 16 (Reporting) of the specification, and the
other pages that the commands of Section 17 (CLI) print.

The pages that a user sees: the numbers of issues and the most confident findings, the explanation
of a rule, the risk of a prompt, the dependencies that are in doubt.
-/

namespace LlmAudit

/-- The style of a severity. -/
def Severity.style : Severity → String
  | .critical => "bold red"
  | .high => "yellow"
  | .medium => "bright_yellow"
  | .low => "green"

/-- A text in a style. -/
def styled (style s : String) : String :=
  "[" ++ style ++ "]" ++ s ++ "[/" ++ style ++ "]"

/-- The name of a severity in upper case. -/
def Severity.capitals (v : Severity) : String :=
  Text.uppered v.name

/-- A severity in its style. -/
def Severity.label (v : Severity) : String :=
  styled v.style v.capitals

namespace Report

/-! ### The table of severities -/

/-- A character so many times. -/
def rule (c : Char) (n : Nat) : String :=
  String.ofList (List.replicate n c)

/-- A text with blanks after it up to a width. -/
def padRight (width : Nat) (s : String) : String :=
  s ++ rule ' ' (width - s.length)

/-- A text with blanks before it up to a width. -/
def padLeft (width : Nat) (s : String) : String :=
  rule ' ' (width - s.length) ++ s

/-- The lines of the table of severities. -/
def tableLines (s : ReportSummary) : List String :=
  let counts := worstFirst.map fun v => (v.capitals, renderInt (s.count v))
  let first := counts.foldl (fun w c => max w c.1.length) "Severity".length
  let second := counts.foldl (fun w c => max w c.2.length) "Count".length
  ["┏" ++ rule '━' (first + 2) ++ "┳" ++ rule '━' (second + 2) ++ "┓",
    "┃ " ++ padRight first "Severity" ++ " ┃ " ++ padLeft second "Count" ++ " ┃",
    "┡" ++ rule '━' (first + 2) ++ "╇" ++ rule '━' (second + 2) ++ "┩"] ++
    counts.map (fun c => "│ " ++ padRight first c.1 ++ " │ " ++ padLeft second c.2 ++ " │") ++
    ["└" ++ rule '─' (first + 2) ++ "┴" ++ rule '─' (second + 2) ++ "┘"]

/-- The table of severities. -/
def tablePage (s : ReportSummary) : List Line :=
  if worstFirst.all fun v => isWritable (s.count v) then
    (tableLines s).map fun l => .text (.ofString l)
  else [.overlong]

/-! ### The summary -/

/-- The line of a finding. -/
def findingLine (f : Finding) : Line :=
  .numbered [f.line] (.ofString ("- " ++ f.severity.label ++ " " ++ f.ruleId ++ " " ++ f.file ++
    ":" ++ renderInt f.line ++ " (" ++ f.confidence.value.renderHundredths ++ ") ") ++ f.summary)

/-- The line of a comparison with a baseline. -/
def comparisonLine (c : Baseline.Comparison) : Line :=
  if c.created then .markup (styled "dim" ("Baseline created: " ++ c.path))
  else
    .numbered [c.newCount, c.unchangedCount]
      (styled "dim" ("Baseline: " ++ renderInt c.newCount ++ " new or regressed, " ++
        renderInt c.unchangedCount ++ " unchanged"))

/-- The line of the numbers of issues. -/
def countsLine (s : ReportSummary) : Line :=
  .numbered [(s.total : Int), (s.highOrCritical : Int)]
    (.ofString ("Total issues: " ++ renderInt s.total ++ " (High/Critical: " ++
      renderInt s.highOrCritical ++ ")"))

/-- The lines before those about findings. -/
def opening (r : Report) : List Line :=
  [.markup (.ofString (styled "bold" "SecureAI-Scan Summary" ++ "\n"))] ++
    tablePage r.summary ++ [countsLine r.summary] ++ r.baseline.toList.map comparisonLine

/-- The list of the findings shown first, under its header. -/
def listing (r : Report) (limit : Int) : List Line :=
  let top := topFindings r.findings limit
  .markup (.ofString ("\n" ++ styled "bold" "Top findings (by confidence):")) ::
    (if top.isEmpty then [.markup "- (none shown)"] else top.map findingLine)

/-- What the note tells if only some issues are shown. -/
def noteText (shown total : Nat) : String :=
  "Showing top " ++ renderInt shown ++ " of " ++ renderInt total ++
    " findings. Use --output to export the full report."

/-- The note that only some issues are shown. -/
def note (shown total : Nat) : LooseText :=
  .ofString ("\n" ++ styled "dim" (noteText shown total))

/-- The note, if only some issues are shown. -/
def noteLines (r : Report) (limit : Int) : List Line :=
  let top := topFindings r.findings limit
  if top.length < r.summary.total then
    [.numbered [(top.length : Int), (r.summary.total : Int)] (note top.length r.summary.total)]
  else []

/-- The line on suppressed findings, if there are some. -/
def suppressedLines (r : Report) : List Line :=
  if r.ignored.isEmpty then []
  else
    [.numbered [(r.ignored.length : Int)] (styled "dim" (renderInt r.ignored.length ++
      " finding(s) suppressed by secureai-ignore."))]

/-- The lines about findings, if there are issues. -/
def topLines (r : Report) (limit : Int) : List Line :=
  listing r limit ++ (noteLines r limit ++ suppressedLines r)

/-- What is said if there are no issues. -/
def nothingLine : Line :=
  .markup (.ofString ("\n" ++ styled "green" "No findings."))

/-- The summary of a report, with at most so many findings. -/
def summaryPage (r : Report) (limit : Int) : List Line :=
  opening r ++ if r.summary.total = 0 then [nothingLine] else topLines r limit

end Report

/-! ### Other pages -/

/-- The first items of a list, so many; a negative number leaves out so many at the end. -/
def firstItems {α : Type} (n : Int) (items : List α) : List α :=
  if 0 ≤ n then items.take n.toNat else items.take (items.length - n.natAbs)

/-- The files that were looked at and the checks that ran, with the names of the first files. -/
def debugPage (files : List String) (rules : Option (List String)) (preview : Int) : List Line :=
  let told := match rules with
    | none => "all"
    | some [] => "all"
    | some ids => ", ".intercalate ids
  [.markup (styled "dim" ("[debug] Scanned files: " ++ renderInt files.length)),
    .markup (styled "dim" ("[debug] Rules selected: " ++ told))] ++
    (firstItems preview files).map (fun f => .markup (styled "dim" ("- " ++ f))) ++
    (if preview < files.length then
      [.markup (styled "dim" ("[debug] ...and " ++ renderInt (files.length - preview) ++ " more"))]
    else [])

/-- The explanation of a rule. -/
def explanationPage (ruleId : String) (e : Explanation) : List Line :=
  [.markup (styled "bold" ("# " ++ ruleId) ++ "\n"),
    .markup (styled "bold" "Why this is dangerous:" ++ "\n" ++ e.whyRisky ++ "\n"),
    .markup (styled "bold" "How attackers exploit it:" ++ "\n" ++ e.howExploited ++ "\n"),
    .markup (styled "bold" "How to fix:" ++ "\n" ++ e.howToFix ++ "\n"),
    .markup (styled "bold" "Fix example:" ++ "\n"),
    .text e.codeExample]

/-- The style of a level of risk. -/
def PromptRisk.Level.style : PromptRisk.Level → String
  | .high => "bold red"
  | .medium => "yellow"
  | .low => "green"

/-- The verdict on a prompt. -/
def verdictPage (v : PromptRisk.Verdict) : List Line :=
  [.markup ("Prompt risk: " ++ styled v.level.style v.level.name),
    .markup ("\n" ++ styled "bold" "Reasons:")] ++
    v.reasons.map (fun r => .markup ("- " ++ r)) ++
    [.markup ("\n" ++ styled "bold" "Suggestions:")] ++
    v.suggestions.map (fun s => .markup ("- " ++ s))

/-- The findings about dependencies. -/
def dependencyPage (findings : List Finding) : List Line :=
  if findings.isEmpty then [.markup (styled "green" "No dependency issues found.")]
  else
    findings.map fun f =>
      .numbered [f.line]
        (.ofString ("- " ++ f.ruleId ++ " " ++ f.file ++ ":" ++ renderInt f.line ++ " ") ++
          f.summary)

/-- The name and the version of this tool. -/
def versionPage : List Line :=
  [.markup (toolName ++ " v" ++ toolVersion)]

/-- The message of a failure. -/
def failurePage (message : String) : List Line :=
  [.markup (styled "red" ("Error: " ++ message))]

end LlmAudit
