import LlmAudit.Finding.Basic

/-!
# Explanations

This module formalizes the explainer of Section 15 of the specification.

What a rule is about, for a reader: why what it finds is a risk, how it is exploited and how it is
fixed. A rule without words of its own gets general ones.
-/

namespace LlmAudit

/-- The explanation of a rule. -/
structure Explanation where
  /-- What the rule finds. -/
  summary : String
  /-- Why it is a risk. -/
  whyRisky : String
  /-- How it is exploited. -/
  howExploited : String
  /-- How it is fixed. -/
  howToFix : String
  /-- An example of the fix. -/
  codeExample : String
  deriving DecidableEq

namespace Explanation

/-- Lines as one text. -/
def ofLines (lines : List String) : String :=
  "\n".intercalate lines

/-- Injected instructions. -/
def injection : Explanation where
  summary := "User input flows directly into the LLM prompt."
  whyRisky :=
    "Untrusted input can alter system instructions or inject adversarial content into the prompt."
  howExploited :=
    "An attacker supplies crafted input that causes the model to ignore safety constraints or " ++
      "leak data."
  howToFix :=
    "Use role separation, encode user input, and apply strict validation or allowlists for inputs."
  codeExample := ofLines
    ["// Bad",
      "const prompt = \"Summarize: \" + req.body.text;",
      "",
      "// Good",
      "const prompt = [",
      "  \x7b role: \"system\", content: \"Summarize the user input safely.\" \x7d,",
      "  \x7b role: \"user\", content: String(req.body.text) \x7d,",
      "];"]

/-- Logged prompts. -/
def logging : Explanation where
  summary := "Sensitive prompt or response data is logged."
  whyRisky :=
    "Logs often end up in shared systems, exposing credentials or user data to unintended parties."
  howExploited :=
    "An attacker with log access can retrieve tokens, passwords, or proprietary data embedded in " ++
      "prompts."
  howToFix :=
    "Avoid logging prompts or responses, or redact sensitive fields before logging."
  codeExample := ofLines
    ["// Bad",
      "logger.info(\x7b prompt, email: user.email \x7d, \"LLM request\");",
      "",
      "// Good",
      "logger.info(\x7b requestId \x7d, \"LLM request\");"]

/-- Calls before authentication. -/
def earlyCall : Explanation where
  summary := "LLM calls are made before authentication checks."
  whyRisky :=
    "Unauthenticated callers can invoke LLM actions, leading to data exposure or abuse."
  howExploited :=
    "An attacker hits the endpoint directly and triggers LLM usage without valid credentials."
  howToFix := "Enforce authentication and authorization before any LLM invocation."
  codeExample := ofLines
    ["// Bad",
      "app.post(\"/ask\", async (req, res) => \x7b",
      "  const result = await openai.chat.completions.create(\x7b messages \x7d);",
      "\x7d);",
      "",
      "// Good",
      "app.post(\"/ask\", requireAuth, async (req, res) => \x7b",
      "  const result = await openai.chat.completions.create(\x7b messages \x7d);",
      "\x7d);"]

/-- Records about users that leave the system. -/
def exposure : Explanation where
  summary := "Large user context is sent directly to an LLM."
  whyRisky :=
    "User, session, or profile objects may contain PII or secrets that should not leave your system."
  howExploited :=
    "Attackers can prompt the model to surface sensitive attributes or exfiltrate data included " ++
      "in context."
  howToFix :=
    "Send only necessary fields and redact or tokenize sensitive values before LLM calls."
  codeExample := ofLines
    ["// Bad",
      "await openai.chat.completions.create(\x7b messages: [\x7b role: \"user\", " ++
        "content: JSON.stringify(user) \x7d] \x7d);",
      "",
      "// Good",
      "const minimal = \x7b name: user.name, plan: user.plan \x7d;",
      "await openai.chat.completions.create(\x7b messages: [\x7b role: \"user\", " ++
        "content: JSON.stringify(minimal) \x7d] \x7d);"]

/-- The words for a rule without words of its own. -/
def general (title : String) : Explanation where
  summary := title
  whyRisky := "This pattern can introduce security risk when untrusted data is involved."
  howExploited :=
    "An attacker may manipulate inputs or control execution flow to gain unintended access."
  howToFix :=
    "Review data flow, validate inputs, and apply least-privilege checks before LLM usage."
  codeExample := "// Add authentication, validation, and data minimization as applicable."

/-- The explanation of a rule of some title. -/
def ofRule (ruleId title : String) : Explanation :=
  match ruleId with
  | "AI001" => injection
  | "AI002" => logging
  | "AI003" => earlyCall
  | "AI004" => exposure
  | _ => general title

/-- The explanation of a finding. -/
def ofFinding (f : Finding) : Explanation :=
  ofRule f.ruleId f.title

end Explanation

end LlmAudit
