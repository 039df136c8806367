import LlmAudit.Files.Tree
import LlmAudit.Json.Reader
import LlmAudit.Syntax.Source

/-!
# Outlines in files

A parser that runs beside this library leaves the outline of a source file in a file next to it,
as JSON: for each grammar an object whose `nodes` are the rows of the outline. A row is a list of
its depth, type, field, whether it is named, first byte, byte after the last one, and line count.

## Main definitions

* `Node.ofOutlines` — the tree that outlines give for a grammar.
* `outlineParser` — the parser that reads the outlines next to source files.
-/

namespace LlmAudit

namespace Node

/-- The natural number that a value is; zero for anything else. -/
def countOf : Json → Nat
  | .int n => n.toNat
  | _ => 0

/-- The text that a value is; none for anything else. -/
def textOf? : Json → Option String
  | .str t => t.text?
  | _ => none

/-- The row of an outline. -/
def rowOf? : Json → Option OutlineRow
  | .list [depth, type, field, named, start, stop, row] =>
    some
      { depth := countOf depth
        type := (textOf? type).getD ""
        field := textOf? field
        named := countOf named != 0
        start := countOf start
        stop := countOf stop
        row := countOf row }
  | _ => none

/-- The rows of an outline. -/
def rowsOf (outline : Json) : List OutlineRow :=
  match outline.field? "nodes" with
  | some (.list rows) => rows.filterMap rowOf?
  | _ => []

/-- The tree that outlines give for a grammar; an empty program if they hold none for it. -/
def ofOutlines (outlines : Json) (grammar : Grammar) (source : String) : Node :=
  let bytes := Utf8.bytesOf source
  match outlines.field? grammar.name with
  | some outline => ofOutline bytes (rowsOf outline)
  | none => emptyProgram bytes

end Node

/-- The path of the outlines of a source file. -/
def outlinePath (source : Path) : Path :=
  { source with parts := source.parts.dropLast ++ [source.name ++ ".outline.json"] }

/-- How deeply lists and objects stand in each other in outlines. -/
def outlineDepth : Nat := 4

/-- The parser that reads the outlines next to source files; a file without one is an empty
program. -/
def outlineParser (t : FileTree) : SourceParser := fun path grammar source =>
  let outlines := match t.readText (outlinePath path) with
    | .ok text => (Json.parse outlineDepth text).toOption.getD .null
    | .error _ => .null
  Node.ofOutlines outlines grammar source

end LlmAudit
