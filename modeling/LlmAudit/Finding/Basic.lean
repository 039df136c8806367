import LlmAudit.Finding.Confidence
import LlmAudit.Finding.Severity
import LlmAudit.Text.Loose
import LlmAudit.Text.Search

/-!
# Findings

This module formalizes the findings of Section 3 (Data Model) of the specification; the inventory is
from Section 13 (Rule Registry & Selection).

One place of a program where a check has found something. Findings of the inventory, whose rule
starts with `LLM_`, tell where language models are used and count as no issue. The sentence that
says what was found may quote a name that holds half a pair; the other texts hold characters only.
-/

namespace LlmAudit

/-- Something that a check has found at a place. -/
structure Finding where
  /-- The rule that the place breaks. -/
  ruleId : String
  /-- The title of the rule. -/
  title : String
  /-- How bad it is. -/
  severity : Severity
  /-- The file, seen from the root of the project. -/
  file : String
  /-- The line, counted from one. -/
  line : Int
  /-- What was found, in a sentence. -/
  summary : LooseText
  /-- What was found, at length. -/
  description : String
  /-- What to do about it. -/
  recommendation : String
  /-- How sure the check is. -/
  confidence : Confidence
  deriving DecidableEq

/-- A finding that a directive in the source suppresses. -/
structure IgnoredFinding where
  /-- The suppressed finding. -/
  finding : Finding
  /-- The reason that the directive gives. -/
  reason : String
  /-- The line of the directive. -/
  directiveLine : Int
  deriving DecidableEq

/-- Whether a rule belongs to the inventory. -/
def isInventoryRule (ruleId : String) : Bool :=
  Text.startsWith ruleId "LLM_"

namespace Finding

/-- Whether the finding belongs to the inventory. -/
def isInformational (f : Finding) : Bool :=
  isInventoryRule f.ruleId

/-- The findings that are at least as severe as asked for. -/
def filterSeverity (least : Option Severity) (findings : List Finding) : List Finding :=
  match least with
  | none => findings
  | some s => findings.filter fun f => decide (s.rank ≤ f.severity.rank)

end Finding

end LlmAudit
