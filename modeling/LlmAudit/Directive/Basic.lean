import LlmAudit.Finding.Basic
import LlmAudit.Text.Blank
import LlmAudit.Text.Case
import LlmAudit.Text.Word

/-!
# Directives

This module formalizes the parsing in Section 4.5 (Ignore-Annotation Resolver) of the specification:
"reason trimmed and required non-empty; directives with empty reason are discarded, not parsed".

A directive is a comment on a line of its own that suppresses one later finding of one rule:

    // secureai-ignore RULE: reason

Blanks may stand around each part; the rule is a run of ASCII letters, digits and underscores, and
the reason, less the blanks around it, is not empty.

## Main definitions

* `Directive.parseLine?` — the rule and the reason of a line.
* `Directive.parse` — the directives of the lines of a file.
-/

namespace LlmAudit

/-- A directive with its state. -/
structure Directive where
  /-- The rule whose finding it suppresses. -/
  ruleId : String
  /-- The reason that it gives. -/
  reason : String
  /-- Its line, counted from one. -/
  line : Int
  /-- Whether it has suppressed a finding. -/
  consumed : Bool
  deriving DecidableEq

namespace Directive

/-- The word that marks a directive. -/
def keyword : List Char :=
  "secureai-ignore".toList

/-- A character of a rule identifier. -/
def isIdChar (c : Char) : Bool :=
  Text.isAsciiNameChar ['_'] c

/-- The rest of a text after a part at its front. -/
def after? (part s : List Char) : Option (List Char) :=
  if part.isPrefixOf s then some (s.drop part.length) else none

/-- The rest of a text after one or more blanks at its front. -/
def afterBlanks? (s : List Char) : Option (List Char) :=
  match s with
  | c :: rest => if Text.isBlank c then some (Text.stripLeft rest) else none
  | [] => none

/-- The rule and the reason of a line that holds a directive, as written. -/
def parseLine? (line : List Char) : Option (List Char × List Char) := do
  let comment ← after? ['/', '/'] (Text.stripLeft line)
  let marked ← after? keyword (Text.stripLeft comment)
  let named ← afterBlanks? marked
  let id := named.takeWhile isIdChar
  let rest ← after? [':'] (Text.stripLeft (named.dropWhile isIdChar))
  let reason := Text.strip rest
  if id.isEmpty ∨ reason.isEmpty ∨ '\n' ∈ reason then none else some (id, reason)

/-- The directive of a line. -/
def ofLine? (number : Nat) (line : String) : Option Directive :=
  (parseLine? line.toList).map fun (id, reason) =>
    { ruleId := String.ofList (Text.upper id)
      reason := String.ofList reason
      line := number
      consumed := false }

/-- The directives of lines, the first of which has the given number. -/
def parseFrom (number : Nat) : List String → List Directive
  | [] => []
  | line :: rest => (ofLine? number line).toList ++ parseFrom (number + 1) rest

/-- The directives of the lines of a file. -/
def parse (lines : List String) : List Directive :=
  parseFrom 1 lines

/-- Whether a directive can suppress a finding: it is not consumed, names the finding's rule and
stands on an earlier line. -/
def suits (d : Directive) (f : Finding) : Bool :=
  !d.consumed && d.ruleId == f.ruleId && decide (d.line < f.line)

/-- A directive cannot be consumed twice. -/
structure ConsumedTwice where
  /-- The line of the directive. -/
  line : Int
  deriving DecidableEq

/-- The message of the error. -/
def ConsumedTwice.message (e : ConsumedTwice) : String :=
  "Directive at line " ++ toString e.line ++ " already consumed"

/-- The directive, consumed. -/
def consume (d : Directive) : Except ConsumedTwice Directive :=
  if d.consumed then .error ⟨d.line⟩ else .ok { d with consumed := true }

end Directive

end LlmAudit
