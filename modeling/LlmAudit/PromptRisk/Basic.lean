import LlmAudit.PromptRisk.Phrase

/-!
# The risk of a prompt

This module formalizes the prompt risk of Section 15 of the specification.

A prompt is judged by what it says: whether it takes in what users write, whether it asks to
override instructions, whether it names dangerous acts, and whether it is very long. The first two
weigh twice as much as the others.

## Main definitions

* `PromptRisk.Sign`, `PromptRisk.Sign.shows` — what is looked for.
* `PromptRisk.Level` — how risky a prompt is.
* `PromptRisk.evaluate` — the verdict on a prompt.
-/

namespace LlmAudit.PromptRisk

/-- How risky a prompt is. -/
inductive Level where
  /-- Little. -/
  | low
  /-- Some. -/
  | medium
  /-- Much. -/
  | high
  deriving DecidableEq

/-- The name of a level. -/
def Level.name : Level → String
  | .low => "Low"
  | .medium => "Medium"
  | .high => "High"

/-- The place of a level, from zero for the lowest. -/
def Level.rank : Level → Nat
  | .low => 0
  | .medium => 1
  | .high => 2

/-- The signs of risk. -/
inductive Sign where
  /-- It takes in what users write. -/
  | userInput
  /-- It asks to override instructions. -/
  | override
  /-- It names dangerous acts. -/
  | danger
  /-- It is very long. -/
  | length
  deriving DecidableEq

namespace Sign

/-- All signs, in the order in which they are reported. -/
def all : List Sign := [.userInput, .override, .danger, .length]

/-- How much a sign weighs. -/
def weight : Sign → Nat
  | .userInput => 2
  | .override => 2
  | .danger => 1
  | .length => 1

/-- What a sign is reported as. -/
def reason : Sign → String
  | .userInput => "Prompt appears to include unescaped user-controlled input."
  | .override => "Prompt includes instruction-override language (ignore/bypass style)."
  | .danger => "Prompt contains potentially dangerous system-level keywords."
  | .length => "Very long prompts increase review complexity and hidden risk."

/-- What to do about a sign. -/
def suggestion? : Sign → Option String
  | .userInput => some "Encode or delimit user input before including it in prompts."
  | .override =>
    some "Remove ignore/bypass instructions and enforce strict role boundaries."
  | .danger => some "Avoid prompts that request secrets, policy bypass, or shell execution."
  | .length => none

open Phrase in
/-- The names of what users write, with blanks around them. -/
def inputName : Phrase :=
  .all [.blanks,
    oneOf (.seq (text "user") (maybe (text "input")))
      [text "input", text "message", text "prompt", text "query"],
    .blanks]

open Phrase in
/-- A request to pass over earlier instructions. -/
def passOver (verb : String) : Phrase :=
  words [text verb, text " ", maybe (oneOf (text "all ") [text "any "]),
    oneOf (text "previous") [text "prior", text "above"], text " ", plural "instruction"]

open Phrase in
/-- The phrases that show a sign. -/
def phrases : Sign → List Phrase
  | .userInput =>
    [.all [text "$\x7b", inputName, text "\x7d"],
      .all [text "\x7b\x7b", inputName, text "\x7d\x7d"],
      words [oneOf (text "raw") [text "untrusted"], .blank, .blanks, text "user", .blank, .blanks,
        text "input"],
      words [text "append user input"]]
  | .override =>
    [passOver "ignore",
      passOver "disregard",
      words [text "developer mode"],
      words [text "jailbreak"],
      words [text "bypass ", oneOf (text "safety") [plural "guardrail", plural "restriction"]]]
  | .danger =>
    [words [text "reveal ", oneOf (plural "secret") [plural "key", plural "password"]],
      words [text "exfiltrat", oneOf (text "e") [text "ion"]],
      words [text "disable ", oneOf (text "safety") [text "policy", plural "guardrail"]],
      words [text "no ", plural "restriction"],
      words [text "execute ", oneOf (text "shell") [text "command", text "script"]]]
  | .length => []

/-- The number of characters up to which a prompt is not long. -/
def longest : Nat := 600

/-- Whether a text shows a sign. -/
def shows (sign : Sign) (text : List Char) : Bool :=
  match sign with
  | .length => decide (longest < text.length)
  | _ => sign.phrases.any fun p => p.occursIn text

end Sign

/-- The verdict on a prompt. -/
structure Verdict where
  /-- How risky it is. -/
  level : Level
  /-- Why. -/
  reasons : List String
  /-- What to do. -/
  suggestions : List String
  deriving DecidableEq

/-- The signs that a text shows. -/
def signs (text : List Char) : List Sign :=
  Sign.all.filter fun s => s.shows text

/-- How much some signs weigh together. -/
def score (signs : List Sign) : Nat :=
  signs.foldr (fun s n => s.weight + n) 0

/-- The level of some signs. -/
def levelOf (signs : List Sign) : Level :=
  let score := score signs
  if 4 ≤ score then .high else if 2 ≤ score then .medium else .low

/-- What to do about some signs. -/
def suggestionsFor (signs : List Sign) : List String :=
  match signs.filterMap Sign.suggestion? with
  | [] =>
    if levelOf signs = .low then ["Keep prompts explicit, minimal, and separated by role."]
    else ["Review prompt templates with security-focused code review."]
  | suggestions => suggestions

/-- The reasons that some signs give. -/
def reasonsFor (signs : List Sign) : List String :=
  match signs.map Sign.reason with
  | [] => ["No high-risk heuristic patterns were detected."]
  | reasons => reasons

/-- The verdict on a prompt, without the blanks around it. -/
def evaluate (prompt : String) : Verdict :=
  let text := Text.strip prompt.toList
  if text.isEmpty then
    ⟨.low, ["Prompt text is empty."], ["Provide the exact prompt text to evaluate risk."]⟩
  else
    let shown := signs text
    ⟨levelOf shown, reasonsFor shown, suggestionsFor shown⟩

end LlmAudit.PromptRisk
