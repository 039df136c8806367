import LlmAudit.Finding.Key
import LlmAudit.Json.Writer
import LlmAudit.Record.Field

/-!
# Baseline documents

This module formalizes the baseline file of Section 6 (External Interfaces) of the specification,
with the entries of Section 3 (Data Model).

A baseline is the list of the findings that are known: for each its place, severity and confidence.
It is kept as a JSON document with the tag of its format and the time at which it was made.

## Main definitions

* `Baseline.Entry`, `Baseline.Document` — what is kept.
* `Baseline.Document.ofFindings` — the document of findings, sorted by key.
* `Baseline.Document.text`, `Baseline.Document.ofJson` — writing and reading it.
-/

namespace LlmAudit.Baseline

/-- A finding that is known. -/
structure Entry where
  /-- The rule. -/
  ruleId : LooseText
  /-- The file. -/
  file : LooseText
  /-- The line. -/
  line : Int
  /-- The severity. -/
  severity : Severity
  /-- The confidence; a hand-made baseline may hold any number. -/
  confidence : Binary64
  deriving DecidableEq

/-- What tells known findings apart. -/
structure Key where
  /-- The rule. -/
  ruleId : LooseText
  /-- The key of the file. -/
  file : LooseText
  /-- The line. -/
  line : Int
  deriving DecidableEq

/-- The order of keys: by rule, then file key, then line. -/
def Key.le (a b : Key) : Bool :=
  decide (a.ruleId < b.ruleId ∨ (a.ruleId = b.ruleId ∧
    (a.file < b.file ∨ (a.file = b.file ∧ a.line ≤ b.line))))

/-- The key of a known finding. -/
def Entry.key (e : Entry) : Key :=
  ⟨e.ruleId, e.file.fileKey, e.line⟩

/-- The key under which a finding is looked up. -/
def keyOf (f : Finding) : Key :=
  ⟨f.ruleId, (f.file : LooseText).fileKey, f.line⟩

/-- What is kept of a finding. -/
def Entry.ofFinding (f : Finding) : Entry :=
  ⟨f.ruleId, f.file, f.line, f.severity, f.confidence.value⟩

/-- A baseline document. -/
structure Document where
  /-- The tag of the format. -/
  schema : String
  /-- The time at which it was made. -/
  createdAt : LooseText
  /-- The known findings. -/
  entries : List Entry
  deriving DecidableEq

/-- The tag of the one format in use. -/
def schemaTag : String := "secureai-baseline/v1"

namespace Document

/-- The document of findings, sorted by key; equal keys keep their order. -/
def ofFindings (now : String) (findings : List Finding) : Document :=
  ⟨schemaTag, now, (findings.map Entry.ofFinding).mergeSort fun a b => a.key.le b.key⟩

/-- A known finding as JSON. -/
def entryJson (e : Entry) : Json :=
  .object [("rule_id", .str e.ruleId), ("file", .str e.file), ("line", .int e.line),
    ("severity", .str e.severity.name), ("confidence", .float e.confidence)]

/-- The document as JSON. -/
def toJson (d : Document) : Json :=
  .object [("schema", .str d.schema), ("createdAt", .str d.createdAt),
    ("findings", .list (d.entries.map entryJson))]

/-- The text of the document: printable ASCII on lines of its own, and a line feed at the end. -/
def text (d : Document) : List Char :=
  d.toJson.asciiText ++ ['\n']

open Record

/-- The known finding of the fields of a record. -/
def entryOfFields (fields : List (LooseText × Json)) : Decoded Entry :=
  let make : Decoded (LooseText → LooseText → Int → Severity → Binary64 → Entry) := .ok Entry.mk
  make
    |>.apply (required readText fields "rule_id")
    |>.apply (required readText fields "file")
    |>.apply (required readWhole fields "line")
    |>.apply (required readSeverity fields "severity")
    |>.apply (required readNumber fields "confidence")

/-- The known finding of a value. -/
def entryOf : Json → Decoded Entry
  | .object fields => entryOfFields fields
  | _ => .error [⟨[], .notRecord⟩]

/-- What is wrong with a document. -/
inductive Fault where
  /-- It has another format. -/
  | wrongSchema
  /-- Some of its fields have faults. -/
  | malformed (errors : List FieldError)
  deriving DecidableEq

/-- The document of a value. -/
def ofJson (j : Json) : Except Fault Document :=
  match j.field? "schema", j.field? "findings" with
  | some (.str schema), some (.list findings) =>
    if schema = (schemaTag : LooseText) then
      let createdAt := match j.field? "createdAt" with
        | some time => atField "createdAt" (readText time)
        | none => .ok .empty
      let make : Decoded (LooseText → List Entry → Document) := .ok (Document.mk schemaTag)
      match (make.apply createdAt).apply
          ((decodeItems entryOf 0 findings).under (.field "findings")) with
      | .ok d => .ok d
      | .error errors => .error (.malformed errors)
    else .error .wrongSchema
  | _, _ => .error .wrongSchema

end Document

end LlmAudit.Baseline
