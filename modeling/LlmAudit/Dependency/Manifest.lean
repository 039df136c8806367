import LlmAudit.Dependency.Package
import LlmAudit.Files.Tree
import LlmAudit.Json.Reader
import LlmAudit.Text.Blank

/-!
# Manifests

This module formalizes what the dependency guard of Section 15 of the specification reads.

The packages that a project asks for, as its manifests list them: the dependencies in `package.json`
and the lines of `requirements.txt`. A manifest that is not there, or makes no sense, asks for
nothing.

## Main definitions

* `Manifest.Mention` — a package and where it is asked for.
* `Manifest.mentions` — the packages that a project asks for.
-/

namespace LlmAudit.Manifest

/-- A package and where it is asked for. -/
structure Mention where
  /-- The world that the package belongs to. -/
  ecosystem : Ecosystem
  /-- Its name as it is written, which may hold halves of pairs. -/
  name : LooseText
  /-- The manifest. -/
  file : String
  /-- The line, counted from one. -/
  line : Nat
  deriving DecidableEq

/-- The sections of `package.json` that list dependencies. -/
def sections : List String :=
  ["dependencies", "devDependencies", "peerDependencies", "optionalDependencies"]

/-- The package, if its name holds characters only. -/
def Mention.package? (m : Mention) : Option Package :=
  m.name.text?.map (Package.mk m.ecosystem)

/-- The number of the first line that holds a text, or one. -/
def lineOf (lines : List String) (part : LooseText) : Nat :=
  match part.text?.bind fun p => lines.findIdx? fun l => Text.contains l p with
  | some i => i + 1
  | none => 1

/-- The names in a section. -/
def sectionNames (j : Json) (name : String) : List LooseText :=
  match j.field? name with
  | some (.object fields) => fields.map Prod.fst
  | _ => []

/-- Why a manifest cannot be read. -/
inductive Error where
  /-- Its bytes are no text. -/
  | undecodable (e : Utf8.DecodeError)
  /-- A whole number in it has so many digits, which are too many. -/
  | tooManyDigits (count : Nat)
  /-- Lists and objects in it stand in each other too deeply. -/
  | tooDeep
  deriving DecidableEq

/-- The packages that the text of `package.json` lists. -/
def ofPackageJson (bound : Nat) (file : String) (text : List Char) :
    Except Error (List Mention) :=
  match Json.parse bound text with
  | .error .malformed => .ok []
  | .error (.tooManyDigits count) => .error (.tooManyDigits count)
  | .error .tooDeep => .error .tooDeep
  | .ok j =>
    let lines := Text.splitLines (String.ofList text)
    .ok ((sections.flatMap (sectionNames j)).map fun name =>
      ⟨.npm, name, file, lineOf lines (.ofString "\"" ++ name ++ .ofString "\"")⟩)

/-- The package that a line of `requirements.txt` names. Comments, options and addresses name
none. -/
def requirementName? (line : List Char) : Option String :=
  let s := Text.strip line
  let skips : Bool := s.head? == some '#' || s.head? == some '-' ||
    Text.occursIn "://".toList s
  let name := s.takeWhile Package.isNameChar
  if skips ∨ name.isEmpty then none else some (String.ofList name)

/-- The packages that the lines from a number on name. -/
def ofRequirementLines (file : String) (number : Nat) : List (List Char) → List Mention
  | [] => []
  | line :: rest =>
    let others := ofRequirementLines file (number + 1) rest
    match requirementName? line with
    | some name => ⟨.pypi, name, file, number⟩ :: others
    | none => others

/-- The packages that the text of `requirements.txt` lists. -/
def ofRequirements (file : String) (text : List Char) : Except Error (List Mention) :=
  .ok (ofRequirementLines file 1 (Text.lines text))

/-- What makes two mentions one: the world, the name in lower case and the manifest. -/
def Mention.key (m : Mention) : Ecosystem × LooseText × String :=
  (m.ecosystem, m.name.lowered, m.file)

/-- The first mention of each key, apart from those of the keys seen. -/
def firstOfEach (seen : List (Ecosystem × LooseText × String)) : List Mention → List Mention
  | [] => []
  | m :: rest =>
    if m.key ∈ seen then firstOfEach seen rest else m :: firstOfEach (m.key :: seen) rest

/-- The packages that a manifest of a project lists: none if it cannot be opened, and the fault if
its bytes are no text. -/
def ofFile (t : FileTree) (folder : Path) (file : String)
    (read : String → List Char → Except Error (List Mention)) : Except Error (List Mention) :=
  match t.readText (folder.join (.parse file)) with
  | .ok text => read file text
  | .error (.access _) => .ok []
  | .error (.undecodable e) => .error (.undecodable e)

/-- The packages that the project in a folder asks for, each one once for each manifest. In
`package.json`, `bound` lists and objects may stand in each other. -/
def mentions (bound : Nat) (t : FileTree) (folder : Path) : Except Error (List Mention) := do
  let scripts ← ofFile t folder "package.json" (ofPackageJson bound)
  let others ← ofFile t folder "requirements.txt" ofRequirements
  return firstOfEach [] (scripts ++ others)

end LlmAudit.Manifest
