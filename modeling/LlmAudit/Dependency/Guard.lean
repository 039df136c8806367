import LlmAudit.Dependency.Lookalike
import LlmAudit.Dependency.Manifest
import LlmAudit.Finding.Basic

/-!
# Guarding dependencies

This module formalizes the dependency guard of Section 15 of the specification.

A package that no registry knows may be invented; a package whose name looks like a popular one may
be a trap.
-/

namespace LlmAudit.Dependency

/-- How sure it is that an unknown package is a mistake. -/
def unknownConfidence : Confidence :=
  ⟨Confidence.tenths 9, by decide +kernel⟩

/-- How sure it is that a name that looks like a popular one is a trap. -/
def lookalikeConfidence : Confidence :=
  ⟨Confidence.tenths 6, by decide +kernel⟩

/-- The finding for a package that is not known. -/
def unknownFinding (m : Manifest.Mention) : Finding where
  ruleId := "LLM_DEP001"
  title := "Dependency package not found in registry"
  severity := .low
  file := m.file
  line := m.line
  summary := m.name ++ .ofString (" was not found in " ++ m.ecosystem.name ++ ".")
  description :=
    "The dependency name could be a typo, hallucinated package, or stale reference."
  recommendation :=
    "Verify package spelling and replace with a known, maintained package before installation."
  confidence := unknownConfidence

/-- The finding for a package whose name looks like a popular one. -/
def lookalikeFinding (m : Manifest.Mention) (popular : String) : Finding where
  ruleId := "LLM_DEP002"
  title := "Dependency name looks similar to a popular package"
  severity := .low
  file := m.file
  line := m.line
  summary := m.name ++ .ofString (" may be confused with " ++ popular ++ ".")
  description :=
    "Similar package names can indicate typosquatting or accidental confusion in dependency " ++
      "selection."
  recommendation :=
    "Confirm package ownership and intended source before installing in production."
  confidence := lookalikeConfidence

/-- Which packages pass for known ones, by their world and their name as it is written. -/
abbrev Checker := Ecosystem → LooseText → Bool

/-- What is found about a package. -/
def inspect (admits : Checker) (m : Manifest.Mention) : Option Finding :=
  if admits m.ecosystem m.name then (lookalike? m.name).map (lookalikeFinding m)
  else some (unknownFinding m)

/-- What is found about the packages that the project in a folder asks for. -/
def findings (admits : Checker) (bound : Nat) (t : FileTree) (folder : Path) :
    Except Manifest.Error (List Finding) := do
  return (← Manifest.mentions bound t folder).filterMap (inspect admits)

/-- The addresses that are asked for the packages of the project in a folder. -/
def requests (bound : Nat) (t : FileTree) (folder : Path) :
    Except Manifest.Error (List String) := do
  return (← Manifest.mentions bound t folder).flatMap fun m =>
    m.package?.elim [] Package.requests

end LlmAudit.Dependency
