import LlmAudit.Text.Blank
import LlmAudit.Text.Case

/-!
# Severity

This module formalizes the severities of Section 3 (Data Model) of the specification, and their
parsing and the filter by severity in Section 13 (Rule Registry & Selection).

How bad a finding is, in four steps.
-/

namespace LlmAudit

/-- The four severities. -/
inductive Severity where
  /-- Worth knowing. -/
  | low
  /-- Worth fixing. -/
  | medium
  /-- To be fixed soon. -/
  | high
  /-- To be fixed now. -/
  | critical
  deriving DecidableEq

namespace Severity

/-- All severities, mildest first. -/
def all : List Severity := [.low, .medium, .high, .critical]

/-- The name of a severity. -/
def name : Severity → String
  | .low => "low"
  | .medium => "medium"
  | .high => "high"
  | .critical => "critical"

/-- The place of a severity, from one for the mildest. -/
def rank : Severity → Nat
  | .low => 1
  | .medium => 2
  | .high => 3
  | .critical => 4

/-- The severity of exactly this name. -/
def ofName? (s : String) : Option Severity :=
  all.find? fun v => v.name == s

/-- The severity that a user names, in any case and with blanks around it. -/
def parse? (s : String) : Option Severity :=
  ofName? (Text.lowered (Text.trim s))

/-- The message for a text that names no severity. -/
def invalidMessage (s : String) : String :=
  "Invalid severity \"" ++ s ++ "\". Expected one of: " ++
    ", ".intercalate (all.map name) ++ "."

@[simp] theorem ofName?_name (v : Severity) : ofName? v.name = some v := by
  cases v <;> rfl

end Severity

end LlmAudit
