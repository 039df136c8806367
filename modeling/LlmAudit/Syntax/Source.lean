import LlmAudit.Files.Path
import LlmAudit.Syntax.Outline
import LlmAudit.Text.Lines

/-!
# Source files

A parsed source file, as the checks get it. Which grammar a file is parsed with follows from the
suffix of its name; the parser itself is a parameter of everything that needs one.
-/

namespace LlmAudit

/-- The grammars of source files. -/
inductive Grammar where
  /-- TypeScript. -/
  | typescript
  /-- TypeScript with markup. -/
  | tsx
  /-- JavaScript, with or without markup. -/
  | javascript
  deriving DecidableEq

/-- The name of a grammar. -/
def Grammar.name : Grammar → String
  | .typescript => "typescript"
  | .tsx => "tsx"
  | .javascript => "javascript"

/-- The grammar for a suffix in any case; an unknown suffix is taken for TypeScript. -/
def Grammar.ofSuffix (suffix : String) : Grammar :=
  let s := Text.lowered suffix
  if s = ".tsx" then .tsx
  else if [".js", ".jsx", ".mjs", ".cjs"].contains s then .javascript
  else .typescript

/-- The grammar for a path. -/
def Grammar.ofPath (path : Path) : Grammar :=
  ofSuffix path.suffix

/-- A parser: the tree of the file at an absolute path, given its grammar and its text. -/
abbrev SourceParser := Path → Grammar → String → Node

/-- A parsed source file. -/
structure SourceUnit where
  /-- The path, seen from the root of the project. -/
  path : String
  /-- The tree. -/
  root : Node
  /-- The lines of the text. -/
  lines : List String

/-- The source unit of a text and its tree. -/
def SourceUnit.ofText (path text : String) (root : Node) : SourceUnit :=
  ⟨path, root, Text.splitLines text⟩

end LlmAudit
