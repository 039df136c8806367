import LlmAudit.Command.Options
import LlmAudit.Number.Reader

/-!
# Invocations

This module formalizes the command lines of Section 17 (CLI) of the specification.

What a command line asks for.

## Main definitions

* `ScanOptions`, `Invocation` — what can be asked for.
* `Invocation.parse` — what the words of a command line ask for.
-/

namespace LlmAudit

/-- What an audit of a project is asked to do. -/
structure ScanOptions where
  /-- The folder of the project. -/
  path : String
  /-- The least severity that is reported. -/
  severity : Option String
  /-- The checks that run. -/
  rules : Option String
  /-- Whether only the checks for language models run. -/
  onlyModelChecks : Bool
  /-- The greatest number of findings in the summary. -/
  limit : Nat
  /-- The file for the report. -/
  output : Option String
  /-- The format in which the report is printed. -/
  format : Option String
  /-- The file with the baseline. -/
  baseline : Option String
  /-- Whether dependencies are looked at too. -/
  dependencies : Bool
  /-- The file with the settings. -/
  config : Option String
  /-- Whether the files that are looked at are told. -/
  debug : Bool
  /-- Whether nothing but errors is printed. -/
  quiet : Bool
  deriving DecidableEq

/-- What a command line asks for. -/
inductive Invocation where
  /-- The audit of a project. -/
  | scan (options : ScanOptions)
  /-- A look at the dependencies of a project. -/
  | dependencies (path : String) (quiet : Bool)
  /-- The explanation of a rule. -/
  | explain (ruleId : String)
  /-- The risk of a prompt. -/
  | promptRisk (text : String)
  /-- The version. -/
  | version
  /-- How to use the tool. -/
  | help
  deriving DecidableEq

namespace Invocation

/-- The option that every command has. -/
def helpOption : OptionSpec := ⟨"help", none, false⟩

/-- The options of an audit. -/
def scanOptions : List OptionSpec :=
  [⟨"severity", some 's', true⟩, ⟨"rules", some 'r', true⟩, ⟨"only-ai", none, false⟩,
    ⟨"limit", some 'n', true⟩, ⟨"output", some 'o', true⟩, ⟨"format", some 'f', true⟩,
    ⟨"baseline", none, true⟩, ⟨"deps", none, false⟩, ⟨"config", none, true⟩,
    ⟨"debug", none, false⟩, ⟨"quiet", some 'q', false⟩, helpOption]

/-- The number of findings in a summary if none is asked for. -/
def defaultLimit : Nat := 5

/-- The whole number, not below zero, that a word writes; it is read as in a text field. -/
def readCount? (word : String) : Option Nat :=
  match wholeOfText word with
  | .ok n => if n < 0 then none else some n.toNat
  | .error _ => none

/-- The one operand of a command, or none; a second one is too many. -/
def operand? (w : Words) : Except UsageError (Option String) :=
  match w.operands with
  | [] => .ok none
  | [o] => .ok (some o)
  | _ :: extra :: _ => .error (.extraOperand extra)

/-- The operand of a command that needs one. -/
def operand (w : Words) : Except UsageError String :=
  match operand? w with
  | .error e => .error e
  | .ok (some o) => .ok o
  | .ok none => .error .missingOperand

/-- The greatest number of findings that options ask for. -/
def limitOf (w : Words) : Except UsageError Nat :=
  match w.value? "limit" with
  | none => .ok defaultLimit
  | some word =>
    match readCount? word with
    | some n => .ok n
    | none => .error (.badNumber word)

/-- The audit that options ask for. -/
def ofScanWords (w : Words) : Except UsageError Invocation := do
  let limit ← limitOf w
  let path ← operand? w
  return .scan
    { path := path.getD "."
      severity := w.value? "severity"
      rules := w.value? "rules"
      onlyModelChecks := w.has "only-ai"
      limit := limit
      output := w.value? "output"
      format := w.value? "format"
      baseline := w.value? "baseline"
      dependencies := w.has "deps"
      config := w.value? "config"
      debug := w.has "debug"
      quiet := w.has "quiet" }

/-- A command: its name, its options and what its words ask for. -/
structure CommandSpec where
  /-- The name. -/
  name : String
  /-- The options. -/
  options : List OptionSpec
  /-- What the words after the name ask for. -/
  read : Words → Except UsageError Invocation

/-- All commands. -/
def commands : List CommandSpec :=
  [⟨"scan", scanOptions, ofScanWords⟩,
    ⟨"deps", [⟨"quiet", some 'q', false⟩, helpOption], fun w => do
      return .dependencies ((← operand? w).getD ".") (w.has "quiet")⟩,
    ⟨"explain", [helpOption], fun w => do return .explain (← operand w)⟩,
    ⟨"prompt-risk", [helpOption], fun w => do return .promptRisk (← operand w)⟩,
    ⟨"version", [helpOption], fun w =>
      match w.operands with
      | [] => .ok .version
      | extra :: _ => .error (.extraOperand extra)⟩]

/-- What the words of a command ask for. -/
def ofCommand (c : CommandSpec) (words : List String) : Except UsageError Invocation :=
  match readOptions c.options words with
  | .error e => .error e
  | .ok w => if w.has "help" then .ok .help else c.read w

/-- What a command and the words after it ask for. -/
def ofCommandLine : List String → Except UsageError Invocation
  | [] => .error .missingCommand
  | name :: words =>
    match commands.find? fun c => c.name == name with
    | some c => ofCommand c words
    | none => .error (.unknownCommand name)

/-- What the words of a command line ask for. -/
def parse (words : List String) : Except UsageError Invocation :=
  match words with
  | [] => .error .missingCommand
  | "--" :: rest => ofCommandLine rest
  | "--help" :: _ => .ok .help
  | word :: rest =>
    if Text.startsWith word "-" ∧ word ≠ "-" then .error (.unknownOption word)
    else ofCommandLine (word :: rest)

end Invocation

end LlmAudit
