import LlmAudit.Baseline.Document
import LlmAudit.Files.Tree
import LlmAudit.Json.Reader

/-!
# Comparing with a baseline

This module formalizes Section 4.6 (Baseline Differ) of the specification. A finding is reported "if
no baseline entry shares its key, or its severity rank (low<medium<high<critical) is strictly
greater than the baseline entry's, or its confidence exceeds the baseline entry's by more than a
1e-6 epsilon".

The first run makes the baseline and reports all findings. A later run reports those that the
baseline does not know, and those that have become worse: more severe, or more confident by more
than a millionth.

## Main definitions

* `Baseline.isNewOrWorse` — what a later run reports.
* `Baseline.load`, `Baseline.save` — baselines in files.
* `Baseline.compare` — a run with a baseline.
-/

namespace LlmAudit.Baseline

/-- How much more confident a finding has to be to count as worse. -/
def margin : Binary64 :=
  .ofDecimal false 1 (-6)

/-- Whether a finding is new, or worse than what is known of it. -/
def isNewOrWorse (f : Finding) : Option Entry → Bool
  | none => true
  | some e =>
    decide (e.severity.rank < f.severity.rank) ||
      (e.confidence.add margin).lt f.confidence.value

/-- The last known finding of a key. -/
def lookup? (entries : List Entry) (key : Key) : Option Entry :=
  entries.reverse.find? fun e => e.key == key

/-- The findings that are new or worse. -/
def newOrWorse (entries : List Entry) (findings : List Finding) : List Finding :=
  findings.filter fun f => isNewOrWorse f (lookup? entries (keyOf f))

/-- Why a baseline cannot be used; most cases hold the path of the file. -/
inductive Error where
  /-- No file can have the path. -/
  | unnameable
  /-- The file cannot be read as text. -/
  | unreadable (path : Path) (cause : ReadError)
  /-- The text is no JSON. -/
  | notJson (path : Path)
  /-- A whole number in the text has so many digits, which are too many. -/
  | tooManyDigits (count : Nat)
  /-- Lists and objects in the text stand in each other too deeply. -/
  | tooDeep
  /-- The document has another format. -/
  | wrongSchema (path : Path)
  /-- Some fields of the document have faults. -/
  | malformed (path : Path) (errors : List Record.FieldError)
  deriving DecidableEq

/-- The message of an error, less the words of its cause. -/
def Error.message : Error → String
  | .unnameable => AccessError.unnameable.describe
  | .unreadable path _ => "Cannot read baseline file \"" ++ path.render ++ "\""
  | .notJson path => "Invalid baseline file \"" ++ path.render ++ "\""
  | .tooManyDigits count => digitLimitMessage (some count)
  | .tooDeep => "The baseline file is too deep"
  | .wrongSchema path =>
    "Invalid baseline file \"" ++ path.render ++ "\". Expected schema \"" ++ schemaTag ++ "\"."
  | .malformed path _ => "Malformed findings in baseline file \"" ++ path.render ++ "\""

/-- The words of the cause of an error, if it has one. -/
def Error.cause? : Error → Option String
  | .unnameable => none
  | .unreadable _ cause => some cause.describe
  | .notJson _ => some "the text is no JSON"
  | .tooManyDigits _ => none
  | .tooDeep => none
  | .wrongSchema _ => none
  | .malformed _ errors => some ("\n".intercalate (errors.map Record.FieldError.describe))

/-- The baseline of a file. -/
def load (limit : Json.DepthLimit) (t : FileTree) (path : Path) : Except Error Document :=
  match t.readText path with
  | .error (.access .unnameable) => .error .unnameable
  | .error e => .error (.unreadable path e)
  | .ok text =>
    match Json.parse limit.count text with
    | .error .malformed => .error (.notJson path)
    | .error (.tooManyDigits count) => .error (.tooManyDigits count)
    | .error .tooDeep => .error .tooDeep
    | .ok j =>
      match Document.ofJson j with
      | .ok d => .ok d
      | .error .wrongSchema => .error (.wrongSchema path)
      | .error (.malformed errors) => .error (.malformed path errors)

/-- Why a baseline cannot be saved. -/
inductive SaveError where
  /-- The path cannot be used. -/
  | access (e : AccessError)
  /-- The line of a finding has too many digits. -/
  | tooManyDigits
  deriving DecidableEq

/-- Saves a baseline of findings at a path. The folders are made first, so they stay if the baseline
cannot be written. -/
def save (t : FileTree) (path : Path) (now : String) (findings : List Finding) :
    Except SaveError Document × FileTree :=
  let document := Document.ofFindings now findings
  match t.makeFolders path.parent with
  | (.error e, t') => (.error (.access e), t')
  | (.ok (), t') =>
    if document.entries.all fun e => isWritable e.line then
      match t'.write path (Utf8.encode document.text) with
      | .error e => (.error (.access e), t')
      | .ok t'' => (.ok document, t'')
    else (.error .tooManyDigits, t')

/-- What a run with a baseline gives. -/
structure Comparison where
  /-- Whether the run made the baseline. -/
  created : Bool
  /-- The path of the baseline. -/
  path : String
  /-- The findings that are new or worse. -/
  findings : List Finding
  /-- The number of known findings. -/
  baselineCount : Int
  /-- The number of findings of the run. -/
  currentCount : Int

/-- The number of findings that are new or worse. -/
def Comparison.newCount (c : Comparison) : Int :=
  c.findings.length

/-- The number of findings that are known and no worse. -/
def Comparison.unchangedCount (c : Comparison) : Int :=
  c.currentCount - c.newCount

/-- Why a run with a baseline stops. -/
inductive RunError where
  /-- The baseline cannot be used. -/
  | unusable (e : Error)
  /-- The baseline cannot be written. -/
  | unwritable (e : SaveError)
  deriving DecidableEq

/-- A run with the baseline at an absolute path: the comparison and the files afterwards. -/
def compare (limit : Json.DepthLimit) (t : FileTree) (path : Path) (now : String)
    (findings : List Finding) : Except RunError Comparison × FileTree :=
  if t.has path then
    match load limit t path with
    | .error e => (.error (.unusable e), t)
    | .ok d =>
      (.ok ⟨false, path.render, newOrWorse d.entries findings, d.entries.length,
        findings.length⟩, t)
  else
    match save t path now findings with
    | (.error e, t') => (.error (.unwritable e), t')
    | (.ok _, t') => (.ok ⟨true, path.render, findings, findings.length, findings.length⟩, t')

end LlmAudit.Baseline
