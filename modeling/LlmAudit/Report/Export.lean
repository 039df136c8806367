import LlmAudit.Json.Writer
import LlmAudit.Report.Basic

/-!
# Reports as JSON

This module formalizes the JSON report of Section 16 (Reporting) of the specification.
-/

namespace LlmAudit.Report

/-- A line of a snippet as JSON. -/
def snippetJson (l : SnippetLine) : Json :=
  .object [("line_number", .int l.number), ("text", .str l.text), ("highlight", .bool l.highlight)]

/-- A place as JSON. -/
def occurrenceJson (o : Occurrence) : Json :=
  .object [("file", .str o.file), ("line", .int o.line), ("confidence", .float o.confidence.value),
    ("snippet", .list (o.snippet.map snippetJson))]

/-- The findings of a rule as JSON. -/
def groupJson (g : FindingGroup) : Json :=
  .object [("rule_id", .str g.ruleId), ("title", .str g.title), ("severity", .str g.severity.name),
    ("confidence_min", .float g.confidenceMin.value),
    ("confidence_max", .float g.confidenceMax.value), ("summary", .str g.summary),
    ("description", .str g.description), ("recommendation", .str g.recommendation),
    ("occurrences", .list (g.occurrences.map occurrenceJson))]

/-- A finding as JSON. -/
def findingJson (f : Finding) : Json :=
  .object [("rule_id", .str f.ruleId), ("title", .str f.title), ("severity", .str f.severity.name),
    ("file", .str f.file), ("line", .int f.line), ("summary", .str f.summary),
    ("description", .str f.description), ("recommendation", .str f.recommendation),
    ("confidence", .float f.confidence.value)]

/-- A suppressed finding as JSON. -/
def ignoredJson (i : IgnoredFinding) : Json :=
  .object [("rule_id", .str i.finding.ruleId), ("title", .str i.finding.title),
    ("severity", .str i.finding.severity.name), ("file", .str i.finding.file),
    ("line", .int i.finding.line), ("reason", .str i.reason),
    ("annotation_line", .int i.directiveLine)]

/-- A comparison with a baseline as JSON. -/
def comparisonJson (c : Baseline.Comparison) : Json :=
  .object [("created", .bool c.created), ("baseline_path", .str c.path),
    ("baseline_count", .int c.baselineCount), ("current_count", .int c.currentCount),
    ("new_or_regressed_count", .int c.newCount), ("unchanged_count", .int c.unchangedCount)]

/-- What a report is about, as JSON. -/
def metaJson (m : ReportMeta) : Json :=
  .object [("tool", .str m.tool), ("version", .str m.version), ("scanned_at", .str m.scannedAt),
    ("scan_target", .str m.scanTarget)]

/-- The numbers of issues as JSON. -/
def summaryJson (s : ReportSummary) : Json :=
  .object [("total", .int s.total),
    ("by_severity", .object (Severity.all.map fun v => (v.name, .int (s.count v))))]

/-- A report as JSON. -/
def toJson (r : Report) : Json :=
  .object [("meta", metaJson r.about), ("summary", summaryJson r.summary),
    ("baseline_diff", match r.baseline with
      | some c => comparisonJson c
      | none => .null),
    ("findings", .list (r.findings.map findingJson)),
    ("grouped_findings", .list (r.issues.map groupJson)),
    ("informational", .list (r.inventory.map groupJson)),
    ("ignored_findings", .list (r.ignored.map ignoredJson)),
    ("scanned_files", .list (r.scannedFiles.map fun f => .str (.ofString f)))]

end LlmAudit.Report
