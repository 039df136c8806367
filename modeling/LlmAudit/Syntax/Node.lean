/-!
# Syntax nodes

This module formalizes the trees that Section 6 (External Interfaces) of the specification asks of a
parser.

The nodes of a syntax tree as a parser delivers it, and the closed set of kinds that the checks tell
apart. A node carries its text and the line on which it starts. Comments hang in the tree like any
other node; every walk skips them, and with them the unnamed nodes such as operators.

The nodes below a node are listed twice. `Node.descendants` keeps a list of the nodes still to be
visited and always takes the first, which is the walk that runs. `Node.listing` follows the shape of
the tree: each child, then what is below it.

## Main definitions

* `Node`, `Node.namedChildren`, `Node.childByField?` — the tree.
* `Node.descendants`, `Node.listing` — the nodes below a node in document order.
* `Node.kind` — what the checks see of a node.
-/

namespace LlmAudit

/-- A node of a syntax tree. -/
structure Node where
  /-- The grammar's name for the node. -/
  type : String
  /-- The name under which the node hangs in its parent. -/
  field : Option String
  /-- Whether the grammar names the node; punctuation and operators are unnamed. -/
  named : Bool
  /-- The first byte of the node in the source. -/
  start : Nat
  /-- The byte after the last one of the node. -/
  stop : Nat
  /-- The line on which the node starts, counted from one. -/
  line : Nat
  /-- The source text of the node. -/
  text : String
  /-- The children in document order. -/
  children : List Node

namespace Node

/-- Whether walks visit the node: it is named and no comment. -/
def isVisible (n : Node) : Bool :=
  n.named && n.type != "comment" && n.type != "html_comment"

/-- The named children that are no comments. -/
def namedChildren (n : Node) : List Node :=
  n.children.filter isVisible

/-- The first child, of any sort, that hangs under a field name. -/
def childByField? (n : Node) (name : String) : Option Node :=
  n.children.find? fun c => c.field == some name

theorem sizeOf_filter_le (p : Node → Bool) (ns : List Node) : sizeOf (ns.filter p) ≤ sizeOf ns := by
  induction ns with
  | nil => simp
  | cons n rest ih =>
    rw [List.filter_cons]
    split
    · simp only [List.cons.sizeOf_spec]; omega
    · simp only [List.cons.sizeOf_spec]; omega

theorem sizeOf_append (ms ns : List Node) : sizeOf (ms ++ ns) + 1 = sizeOf ms + sizeOf ns := by
  induction ms with
  | nil => simp; omega
  | cons n rest ih => simp only [List.cons_append, List.cons.sizeOf_spec]; omega

theorem sizeOf_namedChildren_lt (n : Node) : sizeOf n.namedChildren < sizeOf n := by
  have h := sizeOf_filter_le isVisible n.children
  have : sizeOf n.children < sizeOf n := by
    cases n; simp only [Node.mk.sizeOf_spec]; omega
  unfold namedChildren
  omega

/-- Visits the pending nodes and what is below them, first one first: a visited node is replaced by
its named children. -/
def walk : List Node → List Node
  | [] => []
  | n :: pending => n :: walk (n.namedChildren ++ pending)
termination_by pending => sizeOf pending
decreasing_by
  have h := sizeOf_namedChildren_lt n
  have h' := sizeOf_append n.namedChildren pending
  simp only [List.cons.sizeOf_spec]
  omega

/-- The named nodes below a node, comments and what is below them left out, in document order. -/
def descendants (n : Node) : List Node :=
  walk n.namedChildren

mutual

/-- The named nodes below a node, following the shape of the tree. -/
def listing : Node → List Node
  | ⟨_, _, _, _, _, _, _, children⟩ => listingOf children

/-- Each visible node of a list followed by its own listing. -/
def listingOf : List Node → List Node
  | [] => []
  | n :: rest => (if n.isVisible then n :: listing n else []) ++ listingOf rest

end

mutual

/-- The named nodes below a node in document order, each with its parent. -/
def listingWithParent : Node → List (Node × Node)
  | ⟨type, field, named, start, stop, line, text, children⟩ =>
    pairsOf ⟨type, field, named, start, stop, line, text, children⟩ children

/-- Each visible node of a list with its parent, followed by the pairs below it. -/
def pairsOf (parent : Node) : List Node → List (Node × Node)
  | [] => []
  | n :: rest =>
    (if n.isVisible then (n, parent) :: listingWithParent n else []) ++ pairsOf parent rest

end

/-- Whether two nodes of one tree are the same: they cover the same bytes and have the same type. -/
def same (m n : Node) : Bool :=
  m.start == n.start && m.stop == n.stop && m.type == n.type

/-- What the checks see of a node. -/
inductive Kind where
  /-- A call with an argument list. -/
  | call
  /-- A function, method or generator. -/
  | functionLike
  /-- One declared variable. -/
  | variableDecl
  /-- An operation on two operands. -/
  | binaryOp
  /-- A text with interpolations. -/
  | templateLiteral
  /-- `object.property`. -/
  | memberAccess
  /-- `{ key: value }`. -/
  | objectLiteral
  /-- `[a, b]`. -/
  | arrayLiteral
  /-- A name. -/
  | identifier
  /-- Anything else. -/
  | other
  deriving DecidableEq

/-- The name of a kind. -/
def Kind.name : Kind → String
  | .call => "call"
  | .functionLike => "function_like"
  | .variableDecl => "variable_decl"
  | .binaryOp => "binary_op"
  | .templateLiteral => "template_literal"
  | .memberAccess => "member_access"
  | .objectLiteral => "object_literal"
  | .arrayLiteral => "array_literal"
  | .identifier => "identifier"
  | .other => "other"

/-- The node types of functions. -/
def functionTypes : List String :=
  ["function_declaration", "function_expression", "function", "generator_function_declaration",
    "generator_function", "arrow_function", "method_definition"]

/-- The argument list of a call; none where a template takes its place. -/
def argumentList? (n : Node) : Option Node :=
  (n.childByField? "arguments").filter fun a => a.type == "arguments"

/-- The kind of a node. A call without an argument list is no call. -/
def kind (n : Node) : Kind :=
  if n.type = "call_expression" then
    if n.argumentList?.isSome then .call else .other
  else if functionTypes.contains n.type then .functionLike
  else if n.type = "variable_declarator" then .variableDecl
  else if n.type = "binary_expression" then .binaryOp
  else if n.type = "template_string" then .templateLiteral
  else if n.type = "member_expression" then .memberAccess
  else if n.type = "object" then .objectLiteral
  else if n.type = "array" then .arrayLiteral
  else if n.type = "identifier" ∨ n.type = "shorthand_property_identifier" then .identifier
  else .other

/-- The nodes of one kind below a node. -/
def descendantsOfKind (n : Node) (k : Kind) : List Node :=
  n.descendants.filter fun d => d.kind == k

end Node

end LlmAudit
