import LlmAudit.Check.Catalog
import LlmAudit.Directive.Suppression

/-!
# The audit of source files

This module formalizes the control flow of Section 2 (System Overview) of the specification and the
scan of Section 14 (Scan Pipeline).

The chosen checks run one after the other; equal findings are joined; directives suppress some.
-/

namespace LlmAudit

/-- What an audit of source files gives. -/
structure Audit where
  /-- The active findings by file key and line. -/
  findings : List Finding
  /-- The suppressed findings. -/
  ignored : List IgnoredFinding
  /-- The files that were looked at. -/
  scannedFiles : List String

namespace Audit

/-- The audit of source files by some checks in the order given. -/
def withChecks (checks : List Check) (units : List SourceUnit) : Audit :=
  let raw := checks.flatMap fun c => c.run units
  let s := suppress (Directive.Table.ofUnits units) (Finding.dedupe raw)
  ⟨s.active, s.ignored, units.map SourceUnit.path⟩

/-- The audit of source files by the checks with the chosen identifiers. -/
def ofUnits (units : List SourceUnit) (chosen : List String) : Audit :=
  withChecks (Check.select chosen) units

end Audit

end LlmAudit
