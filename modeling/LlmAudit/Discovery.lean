import LlmAudit.Files.Tree
import LlmAudit.Syntax.Source
import LlmAudit.Text.Blank

/-!
# Finding the source files of a project

This module formalizes Section 12 (Source Discovery) of the specification.

Source files are known by their suffix. Files of dependencies and build output are left out, and so
is what the patterns of the project exclude: those in the ignore file at its root and those that the
caller gives.

A pattern that starts with a star excludes the names that end in what follows the stars. Any other
pattern excludes what has it as one of its parts, and, if it holds a slash, what lies below it.

## Main definitions

* `Discovery.excludes` — whether patterns exclude a path.
* `Discovery.patterns` — the patterns of a project.
* `Discovery.sourceFiles` — the source files of a project.
* `Discovery.units` — the parsed source files of a project.
-/

namespace LlmAudit.Discovery

/-- The patterns of every project. -/
def defaultPatterns : List String :=
  ["node_modules", "dist", "build", "out", ".next", ".git", ".hg", ".svn", "coverage", "*.min.js",
    "*.d.ts"]

/-- The suffixes of source files. -/
def sourceSuffixes : List String :=
  [".ts", ".tsx", ".js", ".jsx", ".mjs", ".cjs"]

/-- The name of the ignore file. -/
def ignoreFileName : String := ".secureaiignore"

/-- Whether a path names a source file. -/
def isSourceFile (p : Path) : Bool :=
  sourceSuffixes.contains (Text.lowered p.suffix)

/-- Whether a pattern excludes a path. -/
def excludedBy (p : Path) (pattern : String) : Bool :=
  if Text.startsWith pattern "*" then
    Text.endsWith p.name (String.ofList (pattern.toList.dropWhile (· == '*')))
  else
    p.name == pattern || p.components.contains pattern ||
      (Text.contains pattern "/" && Text.startsWith p.render (pattern ++ "/"))

/-- Whether one of some patterns excludes a path. -/
def excludes (patterns : List String) (p : Path) : Bool :=
  patterns.any (excludedBy p)

/-- A pattern without the slashes at its end. -/
def cutSlashes (pattern : List Char) : List Char :=
  (pattern.reverse.dropWhile (· == '/')).reverse

/-- The pattern of a line of an ignore file; blank lines and comments hold none. -/
def linePattern? (line : List Char) : Option String :=
  let s := Text.strip line
  if s.isEmpty ∨ s.head? = some '#' then none else some (String.ofList (cutSlashes s))

/-- The patterns that the caller gives, without blanks around them and without blank ones. -/
def givenPatterns (given : List String) : List String :=
  (given.map Text.trim).filter (· ≠ "")

/-- The patterns of an ignore file. -/
def filePatterns (text : List Char) : List String :=
  (Text.lines text).filterMap linePattern?

/-- The patterns of the project in a folder, each one once. -/
def patterns (t : FileTree) (folder : Path) (given : List String) :
    Except ReadError (List String) :=
  let ignoreFile := folder.join (.parse ignoreFileName)
  let always := defaultPatterns ++ givenPatterns given
  if t.has ignoreFile then
    match t.readText ignoreFile with
    | .ok text => .ok (always ++ filePatterns text).eraseDups
    | .error e => .error e
  else .ok always.eraseDups

/-- Why the source files of a project cannot be listed. -/
inductive Error where
  /-- The folder is not there. -/
  | missing (folder : Path)
  /-- The path leads to a file. -/
  | notFolder (path : Path)
  /-- The ignore file cannot be read. -/
  | unreadable (cause : ReadError)
  deriving DecidableEq

/-- The message of an error, less the words of its cause. -/
def Error.message : Error → String
  | .missing folder => "Target directory does not exist: " ++ folder.render
  | .notFolder path => "Target path is not a directory: " ++ path.render
  | .unreadable _ => "Cannot read the ignore file"

/-- The source files below an absolute path, seen from there, in the order of paths. -/
def sourceFiles (t : FileTree) (folder : Path) (given : List String) :
    Except Error (List Path) :=
  match t.find? folder with
  | none => .error (.missing folder)
  | some (.file _) => .error (.notFolder folder)
  | some .folder =>
    match patterns t folder given with
    | .error e => .error (.unreadable e)
    | .ok patterns =>
      let below := (t.filesBelow folder.parts).map fun parts => (⟨.workingDir, parts⟩ : Path)
      .ok (below.filter fun p => isSourceFile p && !excludes patterns p)

/-- The source file at a path seen from a folder; none if it cannot be read. -/
def unit? (parser : SourceParser) (t : FileTree) (folder p : Path) : Option SourceUnit :=
  let place := folder.join p
  match t.readLossy place with
  | .ok text =>
    let source := String.ofList text
    some (SourceUnit.ofText p.render source (parser place (Grammar.ofPath p) source))
  | .error _ => none

/-- The parsed source files of the project in a folder. -/
def units (parser : SourceParser) (t : FileTree) (folder : Path) (given : List String) :
    Except Error (List SourceUnit) :=
  match sourceFiles t folder given with
  | .ok files => .ok (files.filterMap (unit? parser t folder))
  | .error e => .error e

end LlmAudit.Discovery
