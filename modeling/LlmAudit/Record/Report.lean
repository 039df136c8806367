import LlmAudit.Record.Finding
import LlmAudit.Report.Basic

/-!
# Reports from records

The parts of a report that may come in from outside: what it is about, the suppressed findings, the
comparison with a baseline and the files that were looked at.
-/

namespace LlmAudit.Record

/-- A list whose items are read one by one. -/
def itemsOf {α : Type} (read : Json → Decoded α) : Json → Decoded (List α)
  | .list items => decodeItems read 0 items
  | _ => .error [⟨[], .notList⟩]

/-- The part of a record under a name, read on its own. -/
def part {α : Type} (read : Json → Decoded α) (missing : Decoded α)
    (fields : List (LooseText × Json))
    (name : String) : Decoded α :=
  ((Json.getField? fields name).elim missing read).under (.field name)

/-- The suppressed finding that the fields of a record describe. -/
def ignoredOfFields (fields : List (LooseText × Json)) : Decoded IgnoredFinding :=
  let make : Decoded (Finding → String → Int → IgnoredFinding) := .ok IgnoredFinding.mk
  make
    |>.apply (part findingOf (here (.error .missing)) fields "finding")
    |>.apply (required readString fields "reason")
    |>.apply (required readWhole fields "annotation_line")

/-- The comparison with a baseline that the fields of a record describe. -/
def comparisonOfFields (fields : List (LooseText × Json)) : Decoded Baseline.Comparison :=
  let make : Decoded (Bool → String → List Finding → Int → Int → Baseline.Comparison) :=
    .ok Baseline.Comparison.mk
  make
    |>.apply (required readFlag fields "created")
    |>.apply (required readString fields "baseline_path")
    |>.apply (part (itemsOf findingOf) (.ok []) fields "findings")
    |>.apply (optional readWhole 0 fields "baseline_count")
    |>.apply (optional readWhole 0 fields "current_count")

/-- What a report is about, as the fields of a record describe it; what is left out is as for a
report that this tool makes now. -/
def metaOfFields (now : String) (fields : List (LooseText × Json)) : Decoded ReportMeta :=
  let make : Decoded (String → String → String → String → ReportMeta) := .ok ReportMeta.mk
  make
    |>.apply (optional readString toolName fields "tool")
    |>.apply (optional readString toolVersion fields "version")
    |>.apply (optional readString now fields "scanned_at")
    |>.apply (optional readString "" fields "scan_target")

/-- The files that were looked at. -/
def scannedFilesOf (j : Json) : Decoded (List String) :=
  (itemsOf (fun f => here (readString f)) j).under (.field "scanned_files")

end LlmAudit.Record
