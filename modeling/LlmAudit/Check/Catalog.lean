import LlmAudit.Check.Call
import LlmAudit.Check.Prompt

/-!
# The catalog of checks

This module formalizes Section 13 (Rule Registry & Selection) of the specification.

The five checks in the order in which they run, and the choice among them by identifier.

## Main definitions

* `Check.all`, `Check.run` — the checks.
* `Check.select` — the chosen checks.
* `Check.parseIds`, `Check.resolve` — the choice as users write it.
-/

namespace LlmAudit

/-- The checks. -/
inductive Check where
  /-- User input in a prompt. -/
  | promptInjection
  /-- Where models are used. -/
  | sdkUsage
  /-- Logged prompts and answers. -/
  | promptLogging
  /-- Model calls before authentication. -/
  | callBeforeAuth
  /-- Records about users sent to a model. -/
  | dataExposure
  deriving DecidableEq

namespace Check

/-- All checks, in the order in which they run. -/
def all : List Check :=
  [.promptInjection, .sdkUsage, .promptLogging, .callBeforeAuth, .dataExposure]

/-- The identifier of a check. -/
def id : Check → String
  | .promptInjection => "AI001"
  | .sdkUsage => "AI100"
  | .promptLogging => "AI002"
  | .callBeforeAuth => "AI003"
  | .dataExposure => "AI004"

/-- The title of a check. -/
def title : Check → String
  | .promptInjection => "Prompt injection via user input"
  | .sdkUsage => "LLM SDK usage detection"
  | .promptLogging => "Sensitive prompt logging"
  | .callBeforeAuth => "LLM call before authentication"
  | .dataExposure => "Sensitive data sent to LLM"

/-- The severity of a check's findings. -/
def severity : Check → Severity
  | .promptInjection => .high
  | .sdkUsage => .low
  | .promptLogging => .high
  | .callBeforeAuth => .critical
  | .dataExposure => .high

/-- The name under which a check describes itself. -/
def label : Check → String
  | .promptInjection => "PromptInjectionRule"
  | .sdkUsage => "LlmUsageRule"
  | .promptLogging => "SensitivePromptLoggingRule"
  | .callBeforeAuth => "LlmBeforeAuthRule"
  | .dataExposure => "SensitiveDataToLlmRule"

/-- A check in one line. -/
def describe (c : Check) : String :=
  c.label ++ "(id='" ++ c.id ++ "', severity=" ++ c.severity.name ++ ")"

/-- The findings of a check in one source file. -/
def runUnit : Check → SourceUnit → List Finding
  | .promptInjection => SourceUnit.injections
  | .sdkUsage => SourceUnit.modelUses
  | .promptLogging => SourceUnit.promptLogs
  | .callBeforeAuth => SourceUnit.earlyCalls
  | .dataExposure => SourceUnit.exposures

/-- The findings of a check, file by file. -/
def run (c : Check) (units : List SourceUnit) : List Finding :=
  units.flatMap c.runUnit

/-- The identifiers of all checks. -/
def ids : List String :=
  all.map id

/-- The checks with the chosen identifiers, in the order in which they run; an empty choice means
all of them. -/
def select (chosen : List String) : List Check :=
  if chosen.isEmpty then all else all.filter fun c => chosen.contains c.id

/-! ### The choice as users write it -/

/-- What can be wrong with a choice of checks. -/
inductive ChoiceError where
  /-- It names no check. -/
  | empty
  /-- It names unknown checks. -/
  | unknown (ids : List String)
  /-- It names others beside the checks for language models. -/
  | foreign (ids : List String)
  deriving DecidableEq

/-- The message of an error. -/
def ChoiceError.message : ChoiceError → String
  | .empty => "Invalid --rules value. Provide a comma-separated list of rule IDs."
  | .unknown names =>
    "Unknown rule ID(s): " ++ ", ".intercalate names ++ ". Available rules: " ++
      ", ".intercalate ids ++ "."
  | .foreign names =>
    "--only-ai cannot be combined with non-AI rules: " ++ ", ".intercalate names ++ "."

/-- Nothing if every identifier is known, else the unknown ones. -/
def validate (chosen : List String) : Except ChoiceError Unit :=
  let unknown := chosen.filter fun i => !ids.contains i
  if unknown.isEmpty then .ok () else .error (.unknown unknown)

/-- Identifiers as users write them: without blanks around them, in upper case, and without empty
ones. -/
def tidyIds (parts : List String) : List String :=
  (parts.map fun part => Text.uppered (Text.trim part)).filter (· ≠ "")

/-- The identifiers of a text that divides them by commas. -/
def splitIds (text : String) : List String :=
  tidyIds (Text.splitOn ',' text)

/-- The identifiers that a text divided by commas names. -/
def parseIds (text : String) : Except ChoiceError (List String) :=
  let chosen := splitIds text
  if chosen.isEmpty then .error .empty
  else
    match validate chosen with
    | .ok () => .ok chosen
    | .error e => .error e

/-- Whether an identifier belongs to the checks for language models. -/
def isModelCheck (i : String) : Bool :=
  Text.startsWith i "AI"

/-- The choice with the restriction to the checks for language models, if it is asked for. -/
def resolve (chosen : Option (List String)) (onlyModelChecks : Bool) :
    Except ChoiceError (Option (List String)) :=
  if onlyModelChecks then
    match chosen with
    | none => .ok (some (ids.filter isModelCheck))
    | some [] => .ok (some (ids.filter isModelCheck))
    | some chosen =>
      let foreign := chosen.filter fun i => !isModelCheck i
      if foreign.isEmpty then .ok (some chosen) else .error (.foreign foreign)
  else .ok chosen

end Check

end LlmAudit
