import LlmAudit.Check.Call
import LlmAudit.Taint

/-!
# Checks on prompts

This module formalizes detectors 1 and 5 of Section 4.2 (Rule Set) of the specification, and the
"prompt-bearing" arguments that both of them look at.

The arguments of a model call that carry the prompt, and the two checks that look at them: whether
user input is put into the prompt's text, and whether whole user records are sent.

## Main definitions

* `Node.promptArguments` — what a model call sends.
* `SourceUnit.injections`, `SourceUnit.exposures` — the checks.
-/

namespace LlmAudit

namespace Node

/-- The contents of the messages of an array literal; other values have none. -/
def messageContents (messages : Node) : List Node :=
  if messages.kind = .arrayLiteral then
    (messages.namedChildren.filter fun e => e.kind == .objectLiteral).flatMap fun e =>
      e.propertyValues "content"
  else []

/-- The prompts of a model call: its first argument, or if that is an object literal its prompts and
then the contents of its messages. -/
def promptArguments (call : Node) : List Node :=
  match call.callArguments with
  | [] => []
  | first :: _ =>
    if first.kind = .objectLiteral then
      first.propertyValues "prompt" ++ (first.propertyValues "messages").flatMap messageContents
    else [first]

/-- Whether a text is put together from parts. -/
def isAssembledText (n : Node) : Bool :=
  n.isConcatenation || n.kind == .templateLiteral

/-- Whether a call turns a value into its text. -/
def isStringify (n : Node) : Bool :=
  n.kind == .call &&
    (n.calleeText == "json.stringify" || Text.endsWith n.calleeText ".json.stringify")

/-- The names of records about users. -/
def recordNames : List String :=
  ["user", "profile", "metadata", "session", "request", "payload"]

/-- Whether a record about users occurs in a node. -/
def holdsUserRecord (n : Node) : Bool :=
  n.identifiersIn.any fun i => recordNames.contains (Text.lowered i.text)

/-- Whether a value is turned into its text in a node. -/
def holdsStringify (n : Node) : Bool :=
  n.isStringify || n.calls.any isStringify

end Node

namespace SourceUnit

/-- The finding for a prompt that holds tainted names; none if it holds none. -/
def injectionAt? (unit : SourceUnit) (taint : Taint) (argument : Node) : Option Finding :=
  let names := argument.identifiersIn.map Node.text
  let direct := names.any fun n => taint.fromParams.contains n
  let request := names.any fun n => taint.fromRequest.contains n
  if argument.isAssembledText && (direct || request) then
    some
      { ruleId := "AI001"
        title := "Prompt injection via user input"
        severity := .high
        file := unit.path
        line := argument.line
        summary := "User input is concatenated into a prompt."
        description := "User input flows directly into LLM prompt"
        recommendation := "Use role separation and input encoding"
        confidence := Confidence.score
          { directInput := direct
            assembledText := true
            requestData := request
            modelCall := true } }
  else none

/-- Finds each prompt of a model call inside a function into whose text a tainted name of that
function is put. -/
def injections (unit : SourceUnit) : List Finding :=
  unit.root.functions.flatMap fun fn =>
    let taint := Taint.collect fn
    if taint.isEmpty then []
    else
      (fn.calls.filter Node.isModelCall).flatMap fun call =>
        call.promptArguments.filterMap (injectionAt? unit taint)

/-- The finding for a prompt that sends a record; none if it sends none. -/
def exposureAt? (unit : SourceUnit) (argument : Node) : Option Finding :=
  let record := argument.holdsUserRecord
  if record || argument.holdsStringify then
    some
      { ruleId := "AI004"
        title := "Sensitive data sent to LLM"
        severity := .high
        file := unit.path
        line := argument.line
        summary := "Large user context sent directly to LLM."
        description :=
          "Potential PII exposure risk: user/profile/session data is sent to an LLM without " ++
            "minimization."
        recommendation :=
          "Minimize or redact sensitive fields before sending to LLMs; send only necessary " ++
            "attributes."
        confidence := Confidence.score
          { directInput := true, requestData := record, modelCall := true } }
  else none

/-- Finds each prompt of a model call that sends a record about users or a value turned into its
text. -/
def exposures (unit : SourceUnit) : List Finding :=
  (unit.root.calls.filter Node.isModelCall).flatMap fun call =>
    call.promptArguments.filterMap (exposureAt? unit)

end SourceUnit

end LlmAudit
