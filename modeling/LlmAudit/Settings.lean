import LlmAudit.Check.Catalog
import LlmAudit.Files.Tree
import LlmAudit.Record.Field
import LlmAudit.Text.Utf8
import LlmAudit.Yaml.Value

/-!
# Project settings

This module formalizes Section 18 (Configuration) of the specification.

What a project sets for its audits, in a file at its root: the least severity that is reported, the
checks that run, what is excluded and where the baseline is kept. All of it may be left out.

## Main definitions

* `Settings` — the settings.
* `Settings.ofFields` — the settings that named data give.
* `Settings.load` — the settings of a project.
-/

namespace LlmAudit

/-- The settings of a project. -/
structure Settings where
  /-- The least severity that is reported. -/
  severity : Option Severity
  /-- The identifiers of the checks that run; none means all. -/
  rules : List String
  /-- Whether only the checks for language models run. -/
  onlyModelChecks : Bool
  /-- Patterns for what is left out. -/
  exclude : List LooseText
  /-- The path of the baseline. -/
  baseline : Option LooseText
  deriving DecidableEq

namespace Settings

open Record
open Yaml (Value Scalar Item Document)

/-- The settings of a project that sets nothing. -/
def default : Settings :=
  ⟨none, [], false, [], none⟩

/-- Why data give no settings. -/
inductive DataError where
  /-- Some data are of a kind that has no reading at all: a name that is no text, or something in
  place of the checks that is no collection. -/
  | unfit
  /-- Some fields have faults. -/
  | faulty (errors : List FieldError)
  deriving DecidableEq

/-- The text of bytes. -/
def textOfBytes? (bs : List UInt8) : Option String :=
  match Utf8.decode bs with
  | .ok chars => some (String.ofList chars)
  | .error _ => none

/-- The least severity that is reported. -/
def readLeast : Value → Except Fault (Option Severity)
  | .scalar .null => .ok none
  | .scalar (.text t) =>
    match Severity.parse? t.lossy with
    | some v => .ok (some v)
    | none => .error (.rejected (Severity.invalidMessage t.lossy))
  | .scalar (.bytes bs) =>
    match (textOfBytes? bs).bind Severity.ofName? with
    | some v => .ok (some v)
    | none => .error .unknownChoice
  | _ => .error .unknownChoice

/-- What stands in place of the checks: a text divided by commas, the items of a list, the members
of a set, the keys of a mapping, or numbers of bytes; something else must be empty. -/
def ruleValues? : Value → Option (List Value)
  | .scalar (.text t) => some ((t.splitOn ',').map fun part => .scalar (.text part))
  | .scalar (.bytes bs) => some (bs.map fun b => .scalar (.int b.toNat))
  | .list items => some items
  | .set keys => some (keys.map .scalar)
  | .mapping pairs => some (pairs.map fun p => .scalar p.1)
  | v => if v.isSomething then none else some []

/-- The checks that some values name. -/
def readRules (values : List Value) : Except Fault (List String) :=
  match values.mapM Value.render? with
  | none => .error (.rejected (digitLimitMessage none))
  | some texts =>
    let rules := Check.tidyIds texts
    match Check.validate rules with
    | .ok () => .ok rules
    | .error e => .error (.rejected e.message)

/-- A truth value: also one and zero, and the usual words in any case. -/
def readSwitch : Value → Except Fault Bool
  | .scalar (.bool b) => .ok b
  | .scalar (.int n) => flagOfInt n
  | .scalar (.float x) => flagOfNumber x
  | .scalar (.text t) => do flagOfText (← wholeText t)
  | .scalar (.bytes bs) =>
    match textOfBytes? bs with
    | some s => flagOfText s
    | none => .error .unreadableFlag
  | _ => .error .notFlag

/-- A text, which may be given by its bytes. -/
def readWords : Value → Except Fault LooseText
  | .scalar (.text t) => .ok t
  | .scalar (.bytes bs) =>
    match textOfBytes? bs with
    | some s => .ok s
    | none => .error .brokenText
  | _ => .error .notText

/-- The texts of values, or the faults of all of them. -/
def readAllWords (i : Nat) : List Value → Decoded (List LooseText)
  | [] => .ok []
  | v :: rest =>
    let cons : Decoded (LooseText → List LooseText → List LooseText) := .ok List.cons
    (cons.apply ((here (readWords v)).under (.index i))).apply (readAllWords (i + 1) rest)

/-- A list of texts, or a set of them. -/
def readTexts : Value → Decoded (List LooseText)
  | .list items => readAllWords 0 items
  | .set keys => readAllWords 0 (keys.map .scalar)
  | _ => .error [⟨[], .notList⟩]

/-- A text that may be nothing. -/
def readWordsOrNull : Value → Except Fault (Option LooseText)
  | .scalar .null => .ok none
  | v => (readWords v).map some

/-- A field that may be left out. -/
def fieldOr {α : Type} (default : α) (read : Value → Decoded α) (field? : String → Option Value)
    (name : String) : Decoded α :=
  match field? name with
  | some v => (read v).under (.field name)
  | none => .ok default

/-- The settings that named data give; unknown names are passed over. -/
def ofFields (field? : String → Option Value) : Except DataError Settings :=
  match ruleValues? ((field? "rules").getD (.list [])) with
  | none => .error .unfit
  | some values =>
    let make : Decoded (Option Severity → List String → Bool → List LooseText →
      Option LooseText → Settings) := .ok Settings.mk
    let settings := make
      |>.apply (fieldOr none (fun v => here (readLeast v)) field? "severity")
      |>.apply (fieldOr [] (fun _ => here (readRules values)) field? "rules")
      |>.apply (fieldOr false (fun v => here (readSwitch v)) field? "only_ai")
      |>.apply (fieldOr [] readTexts field? "exclude")
      |>.apply (fieldOr none (fun v => here (readWordsOrNull v)) field? "baseline")
    match settings with
    | .ok s => .ok s
    | .error errors => .error (.faulty errors)

/-- The settings that JSON data give. -/
def ofJsonFields (fields : List (LooseText × Json)) : Except DataError Settings :=
  ofFields fun name => (Json.getField? fields name).map Value.ofJson

/-- Whether a name is a text. -/
def isName : Scalar → Bool
  | .text _ => true
  | _ => false

/-- The settings that the pairs of a document give, whose names must be texts. -/
def ofPairs (d : Document) (pairs : List (Scalar × Item)) : Except DataError Settings :=
  if pairs.all fun p => isName p.1 then
    ofFields fun name =>
      (pairs.find? fun p => p.1 == .text (.ofString name)).map fun p => d.field p.2
  else .error .unfit

/-! ### Settings in files -/

/-- The name of the file with the settings. -/
def fileName : String := "secureai.yaml"

/-- Why the settings of a project cannot be used; most cases hold the path of the file. -/
inductive Error where
  /-- The file that was asked for is not there. -/
  | missing (path : Path)
  /-- The file cannot be read as text. -/
  | unreadable (cause : ReadError)
  /-- The text is malformed. -/
  | malformed (path : Path)
  /-- The text asks for a value that does not exist. -/
  | valueless (fault : Yaml.Fault)
  /-- The text holds no named data. -/
  | notMapping (path : Path)
  /-- The data give no settings. -/
  | invalid (path : Path) (cause : DataError)
  deriving DecidableEq

/-- The message of an error, less the words of its cause. -/
def Error.message : Error → String
  | .missing path => "Config file not found: " ++ path.render
  | .unreadable _ => "Cannot read the config file"
  | .malformed path => "Invalid YAML in " ++ path.render
  | .valueless fault => fault.describe
  | .notMapping path => "Config root in " ++ path.render ++ " must be a mapping"
  | .invalid path _ => "Invalid config in " ++ path.render

/-- The words of the cause of an error, if it has one. -/
def Error.cause? : Error → Option String
  | .missing _ => none
  | .unreadable cause => some cause.describe
  | .malformed _ => some "the text is malformed"
  | .valueless _ => none
  | .notMapping _ => none
  | .invalid _ .unfit => some "the data are unfit"
  | .invalid _ (.faulty errors) => some ("\n".intercalate (errors.map FieldError.describe))

/-- The settings of a document at a path. A document that is nothing sets nothing. -/
def ofDocument (path : Path) (d : Document) : Except Error Settings :=
  if d.isSomething then
    match d.pairs? with
    | none => .error (.notMapping path)
    | some pairs =>
      match ofPairs d pairs with
      | .ok s => .ok s
      | .error e => .error (.invalid path e)
  else .ok default

/-- The settings in a file, whose path is seen from a working directory. In the file, `bound`
collections may stand in each other. -/
def ofFile (bound : Nat) (t : FileTree) (workingDir path : Path) : Except Error Settings :=
  match t.read (workingDir.join path) with
  | .error e => .error (.unreadable (.access e))
  | .ok bytes =>
    match Document.ofText bound (.ofBytes bytes) with
    | .error .malformed => .error (.malformed path)
    | .error (.undecodable e) => .error (.unreadable (.undecodable e))
    | .error fault => .error (.valueless fault)
    | .ok d => ofDocument path d

/-- The settings of the project in a folder: from the file that is asked for, which must be there,
or else from the file at the root, if there is one. -/
def load (bound : Nat) (t : FileTree) (workingDir folder : Path) (asked : Option Path) :
    Except Error Settings :=
  match asked with
  | some path =>
    if t.has (workingDir.join path) then ofFile bound t workingDir path else .error (.missing path)
  | none =>
    let path := folder.join (.parse fileName)
    if t.has (workingDir.join path) then ofFile bound t workingDir path else .ok default

end Settings

end LlmAudit
