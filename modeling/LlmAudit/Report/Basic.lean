import LlmAudit.Baseline.Diff
import LlmAudit.Report.Snippet

/-!
# Reports

This module formalizes the data that Section 16 (Reporting) of the specification renders.

What an audit tells: how many issues there are of each severity, the findings rule by rule with the
places at which they occur, what was suppressed and what was looked at. Findings of the inventory
are kept apart and count as no issue. One pass over the findings makes the groups of the rules; a
snippet reader goes along and may find that no file can have the path of a finding.

## Main definitions

* `Report` and its parts.
* `Report.groups` — the findings rule by rule.
* `Report.build` — the report of findings.
* `topFindings` — the findings to show first.
-/

namespace LlmAudit

/-- What a report is about. -/
structure ReportMeta where
  /-- The tool that made it. -/
  tool : String
  /-- The version of the tool. -/
  version : String
  /-- The time at which it was made. -/
  scannedAt : String
  /-- What was looked at. -/
  scanTarget : String
  deriving DecidableEq

/-- The name of this tool. -/
def toolName : String := "SecureAI-Scan"

/-- The version of this tool. -/
def toolVersion : String := "0.1.0"

/-- What a report of this tool is about. -/
def ReportMeta.ofTarget (now target : String) : ReportMeta :=
  ⟨toolName, toolVersion, now, target⟩

/-- The place at which a finding occurs. -/
structure Occurrence where
  /-- The file. -/
  file : String
  /-- The line. -/
  line : Int
  /-- How sure the check is. -/
  confidence : Confidence
  /-- The lines around. -/
  snippet : List SnippetLine
  deriving DecidableEq

/-- The findings of one rule. -/
structure FindingGroup where
  /-- The rule. -/
  ruleId : String
  /-- The title of the first finding. -/
  title : String
  /-- The severity of the first finding. -/
  severity : Severity
  /-- The least confidence. -/
  confidenceMin : Confidence
  /-- The greatest confidence. -/
  confidenceMax : Confidence
  /-- The summary of the first finding. -/
  summary : LooseText
  /-- The description of the first finding. -/
  description : String
  /-- The recommendation of the first finding. -/
  recommendation : String
  /-- The places, in the order of the findings. -/
  occurrences : List Occurrence
  deriving DecidableEq

/-- The numbers of issues. -/
structure ReportSummary where
  /-- All issues. -/
  total : Nat
  /-- The issues of a severity. -/
  count : Severity → Nat

/-- The number of issues to be fixed soon or now. -/
def ReportSummary.highOrCritical (s : ReportSummary) : Nat :=
  s.count .high + s.count .critical

/-- A report. -/
structure Report where
  /-- What it is about. -/
  about : ReportMeta
  /-- The numbers of issues. -/
  summary : ReportSummary
  /-- The comparison with a baseline, if there was one. -/
  baseline : Option Baseline.Comparison
  /-- All findings. -/
  findings : List Finding
  /-- The issues, rule by rule. -/
  issues : List FindingGroup
  /-- The inventory, rule by rule. -/
  inventory : List FindingGroup
  /-- The suppressed findings. -/
  ignored : List IgnoredFinding
  /-- The files that were looked at. -/
  scannedFiles : List String

namespace Confidence

/-- The lesser of two; the first one unless the second is strictly less. -/
def least (a b : Confidence) : Confidence :=
  if b.value.lt a.value then b else a

/-- The greater of two; the first one unless the second is strictly greater. -/
def greatest (a b : Confidence) : Confidence :=
  if a.value.lt b.value then b else a

end Confidence

namespace FindingGroup

/-- The group that a finding opens, in which no place is noted yet. -/
def opened (f : Finding) : FindingGroup where
  ruleId := f.ruleId
  title := f.title
  severity := f.severity
  confidenceMin := f.confidence
  confidenceMax := f.confidence
  summary := f.summary
  description := f.description
  recommendation := f.recommendation
  occurrences := []

/-- A group in which one more place is noted. -/
def note (g : FindingGroup) (o : Occurrence) : FindingGroup :=
  { g with
    confidenceMin := g.confidenceMin.least o.confidence
    confidenceMax := g.confidenceMax.greatest o.confidence
    occurrences := g.occurrences ++ [o] }

/-- The groups after one more finding: its place is noted in the group of its rule, which it opens
if there is none. -/
def noteIn (groups : List FindingGroup) (f : Finding) (o : Occurrence) : List FindingGroup :=
  match groups with
  | [] => [(opened f).note o]
  | g :: rest => if g.ruleId = f.ruleId then g.note o :: rest else g :: noteIn rest f o

/-- The order of groups: the most severe first, then the most confident, then by rule. -/
def le (a b : FindingGroup) : Bool :=
  if a.severity.rank ≠ b.severity.rank then decide (b.severity.rank < a.severity.rank)
  else if b.confidenceMax.value.lt a.confidenceMax.value then true
  else if a.confidenceMax.value.lt b.confidenceMax.value then false
  else decide (a.ruleId ≤ b.ruleId)

end FindingGroup

namespace Report

/-- A part of the making of a report: it reads snippets, and fails where no file can have a path. -/
abbrev Making := StateT Snippet.Reader (Except AccessError)

/-- The place of a finding. -/
def occurrence (f : Finding) : Making Occurrence := fun reader =>
  match reader.snippet f.file f.line with
  | (.error e, _) => .error e
  | (.ok snippet, reader') => .ok (⟨f.file, f.line, f.confidence, snippet⟩, reader')

/-- The groups after one more finding. -/
def groupStep (groups : List FindingGroup) (f : Finding) : Making (List FindingGroup) := do
  return FindingGroup.noteIn groups f (← occurrence f)

/-- The findings rule by rule. -/
def groups (findings : List Finding) : Making (List FindingGroup) := do
  return (← findings.foldlM groupStep []).mergeSort FindingGroup.le

/-- The numbers of issues after one more. -/
def countStep (count : Severity → Nat) (f : Finding) : Severity → Nat := fun s =>
  if s = f.severity then count s + 1 else count s

/-- The numbers of issues. -/
def summarize (issues : List Finding) : ReportSummary where
  total := issues.length
  count := issues.foldl countStep fun _ => 0

/-- The report of findings, or why it cannot be made. -/
def build (about : ReportMeta) (source : Option Snippet.Source) (findings : List Finding)
    (ignored : List IgnoredFinding) (baseline : Option Baseline.Comparison)
    (scannedFiles : List String) : Except AccessError Report := do
  let issues := findings.filter fun f => !f.isInformational
  let (issueGroups, reader) ← (groups issues).run (.new source)
  let (inventory, _) ← (groups (findings.filter Finding.isInformational)).run reader
  return {
    about := about
    summary := summarize issues
    baseline := baseline
    findings := findings
    issues := issueGroups
    inventory := inventory
    ignored := ignored
    scannedFiles := scannedFiles }

end Report

/-- At most so many issues, the most confident first; equally confident ones keep their order. A
limit below zero means none. -/
def topFindings (findings : List Finding) (limit : Int) : List Finding :=
  let issues := findings.filter fun f => !f.isInformational
  (issues.mergeSort fun a b => !a.confidence.value.lt b.confidence.value).take limit.toNat

end LlmAudit
