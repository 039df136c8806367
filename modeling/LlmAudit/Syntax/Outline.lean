import LlmAudit.Syntax.Node
import LlmAudit.Text.Utf8

/-!
# Outlines of trees

A parser hands over a tree as its outline: the nodes in document order, each with its depth. A node
is the parent of the deeper nodes that follow it, up to the next node that is no deeper than itself.
-/

namespace LlmAudit.Node

/-- One node of an outline. -/
structure OutlineRow where
  /-- The number of nodes above it. -/
  depth : Nat
  /-- The grammar's name for it. -/
  type : String
  /-- The name under which it hangs in its parent. -/
  field : Option String
  /-- Whether the grammar names it. -/
  named : Bool
  /-- Its first byte. -/
  start : Nat
  /-- The byte after its last one. -/
  stop : Nat
  /-- The number of lines before the one on which it starts. -/
  row : Nat

/-- The text of the bytes from `start` to before `stop`. -/
def sliceText (source : List UInt8) (start stop : Nat) : String :=
  String.ofList (Utf8.decodeLossy ((source.drop start).take (stop - start)))

/-- The node of a row with its children. -/
def ofRow (source : List UInt8) (row : OutlineRow) (children : List Node) : Node where
  type := row.type
  field := row.field
  named := row.named
  start := row.start
  stop := row.stop
  line := row.row + 1
  text := sliceText source row.start row.stop
  children := children

/-- The trees of an outline, each with the depth of its root. The rows are joined from the last one
back, so that the trees deeper than a row, directly after it, are its children. -/
def forest (source : List UInt8) (rows : List OutlineRow) : List (Nat × Node) :=
  rows.foldr
    (fun row trees =>
      let isBelow (t : Nat × Node) : Bool := decide (row.depth < t.1)
      (row.depth, ofRow source row ((trees.takeWhile isBelow).map Prod.snd)) ::
        trees.dropWhile isBelow)
    []

/-- The tree of a source without any construct. -/
def emptyProgram (source : List UInt8) : Node :=
  ofRow source ⟨0, "program", none, true, 0, source.length, 0⟩ []

/-- The tree of an outline. -/
def ofOutline (source : List UInt8) (rows : List OutlineRow) : Node :=
  match forest source rows with
  | (_, root) :: _ => root
  | [] => emptyProgram source

end LlmAudit.Node
