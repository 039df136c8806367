import LlmAudit.Finding.Basic
import LlmAudit.Syntax.Access
import LlmAudit.Syntax.Source

/-!
# Checks on calls

This module formalizes detectors 2, 3 and 4 of Section 4.2 (Rule Set) of the specification.

What the checks recognise by the name of the called function: calls of a language model, of a
logger and of an authentication routine. Three checks look at calls alone: where a model is called,
where a prompt or an answer is logged, and where a model is called before the caller is known.

## Main definitions

* `Node.isModelCall`, `Node.isLoggerCall`, `Node.isAuthCall` — calls by their callee.
* `SourceUnit.modelUses`, `SourceUnit.promptLogs`, `SourceUnit.earlyCalls` — the checks.
-/

namespace LlmAudit

namespace Node

/-- The calls below a node, in document order. -/
def calls (n : Node) : List Node :=
  n.descendantsOfKind .call

/-- The functions below a node, in document order. -/
def functions (n : Node) : List Node :=
  n.descendantsOfKind .functionLike

/-- The words that mark the callee of a model call. -/
def modelWords : List String :=
  ["openai", "anthropic", "google", "gemini", "genai"]

/-- A call whose callee holds a word of a model vendor. -/
def isModelCall (n : Node) : Bool :=
  n.kind == .call && Text.containsAny n.calleeText modelWords

/-- The words that mark the callee of a logger. -/
def loggerWords : List String :=
  ["console.log", "console.info", "console.warn", "console.error", "console.debug",
    "logger.log", "logger.info", "logger.warn", "logger.error", "logger.debug"]

/-- Whether the callee is a logger. -/
def isLoggerCall (call : Node) : Bool :=
  Text.containsAny call.calleeText loggerWords

/-- The words that mark the callee of an authentication routine. -/
def authWords : List String :=
  ["auth", "isauthenticated", "requireauth"]

/-- Whether the callee authenticates. -/
def isAuthCall (call : Node) : Bool :=
  Text.containsAny call.calleeText authWords

/-- Whether a function handles requests: one of its parameters is named for a request. -/
def isRequestHandler (fn : Node) : Bool :=
  fn.functionParameters.any fun name => ["req", "request", "ctx"].contains (Text.lowered name)

/-- The words of secrets, and of what goes to and comes from a model. -/
def sensitiveWords : List String :=
  ["email", "token", "password", "apikey", "api_key",
    "prompt", "messages", "completion", "response", "output"]

/-- Whether a name holds a sensitive word, in any case. -/
def isSensitiveName (name : String) : Bool :=
  Text.containsAny (Text.lowered name) sensitiveWords

/-- Whether an argument holds sensitive data: by a name in it, by a property that it reads, or by
its text. -/
def holdsSensitiveData (argument : Node) : Bool :=
  argument.identifiersIn.any (fun n => isSensitiveName n.text) ||
    (argument.descendantsOfKind .memberAccess).any (fun n => isSensitiveName n.memberProperty) ||
    isSensitiveName argument.text

end Node

namespace SourceUnit

/-- A way of calling a model that the inventory lists. -/
structure UsagePattern where
  /-- The rule of its findings. -/
  ruleId : String
  /-- The title of its findings. -/
  title : String
  /-- Words one of which the callee holds. -/
  words : List String

/-- The inventory's patterns. -/
def usagePatterns : List UsagePattern := [
  ⟨"LLM_OPENAI_CHAT_COMPLETIONS_CREATE", "OpenAI chat.completions.create usage",
    ["openai.chat.completions.create"]⟩,
  ⟨"LLM_OPENAI_CHATCOMPLETION_CREATE", "OpenAI ChatCompletion.create usage",
    ["openai.chatcompletion.create"]⟩,
  ⟨"LLM_ANTHROPIC_MESSAGES", "Anthropic messages client usage",
    ["anthropic.messages.create", ".messages.create"]⟩,
  ⟨"LLM_GEMINI_GENERATECONTENT", "Gemini generateContent usage", ["generatecontent"]⟩]

/-- Lists each call of a known model interface. -/
def modelUses (unit : SourceUnit) : List Finding :=
  unit.root.calls.flatMap fun call =>
    let callee := call.calleeText
    (usagePatterns.filter fun p => Text.containsAny callee p.words).map fun p =>
      { ruleId := p.ruleId
        title := p.title
        severity := .low
        file := unit.path
        line := call.line
        summary := "LLM SDK usage detected."
        description := "LLM SDK usage detected."
        recommendation :=
          "Review the call to ensure prompts, inputs, and outputs are securely handled."
        confidence := Confidence.score { modelCall := true } }

/-- Finds each logger call with an argument that holds sensitive data. -/
def promptLogs (unit : SourceUnit) : List Finding :=
  (unit.root.calls.filter fun call =>
      call.isLoggerCall && call.callArguments.any Node.holdsSensitiveData).map fun call =>
    { ruleId := "AI002"
      title := "Sensitive prompt logging"
      severity := .high
      file := unit.path
      line := call.line
      summary := "Prompt or response data is logged."
      description :=
        "Prompt content or LLM responses are logged alongside potentially sensitive fields."
      recommendation :=
        "Avoid logging prompt/response data or redact sensitive fields like email, token, " ++
          "password, or apiKey."
      confidence := Confidence.score { directInput := true } }

/-- The model calls before the first authentication; a call that authenticates is none of them. -/
def callsBeforeAuth : List Node → List Node
  | [] => []
  | call :: rest =>
    if call.isAuthCall then []
    else if call.isModelCall then call :: callsBeforeAuth rest
    else callsBeforeAuth rest

/-- Finds each model call of a request handler that comes before any authentication. -/
def earlyCalls (unit : SourceUnit) : List Finding :=
  (unit.root.functions.filter Node.isRequestHandler).flatMap fun fn =>
    (callsBeforeAuth fn.calls).map fun call =>
      { ruleId := "AI003"
        title := "LLM call before authentication"
        severity := .critical
        file := unit.path
        line := call.line
        summary := "LLM call occurs before auth checks."
        description := "LLM call occurs in a request handler before authentication checks."
        recommendation :=
          "Ensure authentication/authorization runs before invoking LLMs in request handlers."
        confidence := Confidence.score { requestData := true, modelCall := true } }

end SourceUnit

end LlmAudit
