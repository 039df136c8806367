import LlmAudit.Syntax.Node
import LlmAudit.Text.Case
import LlmAudit.Text.Search

/-!
# Parts of nodes

What the checks read off calls, functions, declarations, operations, member chains and object
literals.
-/

namespace LlmAudit.Node

/-! ### Calls -/

/-- What a call calls. -/
def callee? (call : Node) : Option Node :=
  call.childByField? "function"

/-- The text of the callee in lower case; empty if there is none. -/
def calleeText (call : Node) : String :=
  match call.callee? with
  | some callee => Text.lowered callee.text
  | none => ""

/-- The arguments of a call. -/
def callArguments (call : Node) : List Node :=
  match call.argumentList? with
  | some list => list.namedChildren
  | none => []

/-! ### Functions -/

/-- A parameter without the node that carries its type and marks. -/
def unwrapTyped? (n : Node) : Option Node :=
  if n.type = "required_parameter" ∨ n.type = "optional_parameter" then n.childByField? "pattern"
  else some n

/-- A parameter without its default value. -/
def unwrapDefault? (n : Node) : Option Node :=
  if n.type = "assignment_pattern" then n.childByField? "left" else some n

/-- A rest parameter's name. -/
def unwrapRest? (n : Node) : Option Node :=
  if n.type = "rest_pattern" then n.namedChildren.find? fun c => c.type == "identifier" else some n

/-- The name that a parameter binds, if it binds a single plain name. -/
def parameterName? (parameter : Node) : Option String := do
  let typed ← parameter.unwrapTyped?
  let defaulted ← typed.unwrapDefault?
  let plain ← defaulted.unwrapRest?
  if plain.type = "identifier" ∧ plain.text ≠ "" then some plain.text else none

/-- The names of the plain parameters of a function. -/
def functionParameters (fn : Node) : List String :=
  match fn.childByField? "parameter" with
  | some single => single.parameterName?.toList
  | none =>
    match fn.childByField? "parameters" with
    | some list => list.namedChildren.filterMap parameterName?
    | none => []

/-! ### Declarations and operations -/

/-- The plain name that a declaration binds. -/
def declarationName? (decl : Node) : Option String :=
  ((decl.childByField? "name").filter fun n => n.type == "identifier").map Node.text

/-- The value that a declaration starts with. -/
def declarationInitializer? (decl : Node) : Option Node :=
  decl.childByField? "value"

/-- A `+` of two operands. -/
def isConcatenation (n : Node) : Bool :=
  n.kind == .binaryOp &&
    match n.childByField? "operator" with
    | some operator => operator.type == "+"
    | none => false

/-! ### Member chains -/

theorem sizeOf_lt_of_childByField? {n c : Node} {name : String}
    (h : n.childByField? name = some c) : sizeOf c < sizeOf n := by
  have hm : c ∈ n.children := List.mem_of_find?_eq_some h
  have h1 := List.sizeOf_lt_of_mem hm
  cases n
  simp only [Node.mk.sizeOf_spec]
  simp only at h1
  omega

/-- The object at the root of a chain of member accesses. -/
def memberRoot (n : Node) : Node :=
  if n.kind = .memberAccess then
    match h : n.childByField? "object" with
    | some object =>
      have := sizeOf_lt_of_childByField? h
      memberRoot object
    | none => n
  else n
termination_by sizeOf n

/-- The name of the accessed property; empty if there is none. -/
def memberProperty (n : Node) : String :=
  match n.childByField? "property" with
  | some property => property.text
  | none => ""

/-! ### Object literals and names -/

/-- A property name without the quotes around it. -/
def unquoted (s : String) : String :=
  let isQuote (c : Char) : Bool := c == '\'' || c == '"'
  String.ofList ((s.toList.dropWhile isQuote).reverse.dropWhile isQuote).reverse

/-- The values of the properties of one name, written `name: value` or with a quoted name. -/
def propertyValues (object : Node) (name : String) : List Node :=
  object.namedChildren.filterMap fun child =>
    if child.type = "pair" then
      match child.childByField? "key", child.childByField? "value" with
      | some key, some value => if unquoted key.text = name then some value else none
      | _, _ => none
    else none

/-- The names in a node, itself included. -/
def identifiersIn (n : Node) : List Node :=
  (n :: n.descendants).filter fun d => d.kind == .identifier

end LlmAudit.Node
