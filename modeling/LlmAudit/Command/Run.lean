import LlmAudit.Command.Scan

/-!
# Running a command line

## Main definitions

* `Invocation.run` — what a command does.
* `runCommandLine` — what a command line does.
-/

namespace LlmAudit

/-- How to use the tool. -/
def usageText : String :=
  "\n".intercalate
    ["Usage: secureai COMMAND [ARGS]...",
      "",
      "Commands:",
      "  scan [PATH]        Scan a TypeScript/JavaScript repository for LLM integration risks.",
      "  deps [PATH]        Check declared dependencies for missing or look-alike packages.",
      "  explain RULE_ID    Explain why a rule matters and how to fix it.",
      "  prompt-risk TEXT   Score a free-text prompt for injection-prone patterns.",
      "  version            Show the SecureAI-Scan version.",
      ""]

namespace Invocation

/-- Looks at the dependencies of a project. -/
def runDependencies (m : Machine) (path : String) (quiet : Bool) : Run Unit := do
  let folder ← Scan.target m path
  let found ← Scan.dependencies m folder
  if !quiet then
    Run.print m (dependencyPage found)

/-- Explains a rule. -/
def runExplain (m : Machine) (ruleId : String) : Run Unit :=
  let id := Text.uppered (Text.trim ruleId)
  if Check.ids.contains id then Run.print m (explanationPage id (Explanation.ofRule id id))
  else
    Run.fail m ("Unknown rule ID: " ++ ruleId ++ ". Available rules: " ++
      ", ".intercalate Check.ids ++ ".")

/-- What a command does. -/
def run (m : Machine) : Invocation → Run Unit
  | .scan options => Scan.run m options
  | .dependencies path quiet => runDependencies m path quiet
  | .explain ruleId => runExplain m ruleId
  | .promptRisk text => Run.print m (verdictPage (PromptRisk.evaluate text))
  | .version => Run.print m versionPage
  | .help => Run.write usageText.toList

end Invocation

/-- What a command leaves behind. -/
structure Outcome where
  /-- How it ended. -/
  ending : Ending
  /-- What it did. -/
  session : Session

/-- What a command line does, from some files on. -/
def runCommandLine (m : Machine) (files : FileTree) (words : List String) : Outcome :=
  let start : Session := ⟨files, [], [], []⟩
  match Invocation.parse words with
  | .error e => ⟨.usage e, start⟩
  | .ok invocation =>
    match (invocation.run m).run.run start with
    | (.ok (), session) => ⟨.success, session⟩
    | (.error ending, session) => ⟨ending, session⟩

end LlmAudit
