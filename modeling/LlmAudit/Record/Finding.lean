import LlmAudit.Finding.Basic
import LlmAudit.Record.Field

/-!
# Findings from records

The summary of a finding may hold halves of pairs; its other texts hold characters only.
-/

namespace LlmAudit.Record

/-- A confidence: a number between zero and one. -/
def readConfidence (j : Json) : Except Fault Confidence :=
  match readNumber j with
  | .error fault => .error fault
  | .ok x =>
    match Confidence.ofNumber? x with
    | some c => .ok c
    | none => .error (if x.le .one then .tooSmall else .tooLarge)

/-- The finding that the fields of a record describe. -/
def findingOfFields (fields : List (LooseText × Json)) : Decoded Finding :=
  let make : Decoded (String → String → Severity → String → Int → LooseText → String →
      String → Confidence → Finding) := .ok Finding.mk
  make
    |>.apply (required readString fields "rule_id")
    |>.apply (required readString fields "title")
    |>.apply (required readSeverity fields "severity")
    |>.apply (required readString fields "file")
    |>.apply (required readWhole fields "line")
    |>.apply (required readText fields "summary")
    |>.apply (optional readString "" fields "description")
    |>.apply (optional readString "" fields "recommendation")
    |>.apply (optional readConfidence .none fields "confidence")

/-- The finding that a value describes. -/
def findingOf : Json → Decoded Finding
  | .object fields => findingOfFields fields
  | _ => .error [⟨[], .notRecord⟩]

end LlmAudit.Record
