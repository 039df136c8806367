import LlmAudit.Syntax.Access

/-!
# Tainted names

This module formalizes Section 4.1 (Taint Tracker) of the specification: "single pass, no
fixed-point iteration".

Which names of a function hold user input. The parameters of a function do; so does a variable that
is declared as a read of a request object; and a variable that is declared as a plain copy of such a
name holds what the name holds. Declarations count in document order, so a copy that stands before
the declaration it copies from gets nothing.

## Main definitions

* `Node.isRequestAccess` — reads of a request object.
* `Taint.collect` — the tainted names of a node.
-/

namespace LlmAudit

/-- A text in which each `?.` is a plain `.`. -/
def plainAccess : List Char → List Char
  | [] => []
  | '?' :: '.' :: rest => '.' :: plainAccess rest
  | c :: rest => c :: plainAccess rest

/-- Whether a node reads from a request object: `req.…`, `request.…` or `ctx.request…`. -/
def Node.isRequestAccess (n : Node) : Bool :=
  n.kind == .memberAccess &&
    (n.memberRoot.kind == .identifier &&
      (let root := Text.lowered n.memberRoot.text
       root == "req" || root == "request" ||
        (root == "ctx" &&
          "ctx.request".toList.isPrefixOf (plainAccess (Text.lower n.text.toList)))))

/-- The names of a scope that hold user input. -/
structure Taint where
  /-- Names that hold a parameter. -/
  fromParams : List String
  /-- Names that hold data of a request object. -/
  fromRequest : List String

namespace Taint

/-- How a name is tainted. -/
inductive Class where
  /-- It holds a parameter. -/
  | parameter
  /-- It holds data of a request object. -/
  | requestDerived
  /-- It holds no user input that is known. -/
  | untainted
  deriving DecidableEq

/-- All tainted names. -/
def names (t : Taint) : List String :=
  t.fromParams ++ t.fromRequest.filter fun x => !t.fromParams.contains x

/-- Whether no name is tainted. -/
def isEmpty (t : Taint) : Bool :=
  t.fromParams.isEmpty && t.fromRequest.isEmpty

/-- How a name is tainted; a parameter first. -/
def classify (t : Taint) (name : String) : Class :=
  if name ∈ t.fromParams then .parameter
  else if name ∈ t.fromRequest then .requestDerived
  else .untainted

/-- A name more, unless it is there. -/
def insertName (names : List String) (name : String) : List String :=
  if name ∈ names then names else names ++ [name]

/-- The taint after the declaration of `name` with a value. -/
def declare (t : Taint) (name : String) (value : Node) : Taint :=
  if value.kind = .identifier then
    { fromParams :=
        if value.text ∈ t.fromParams then insertName t.fromParams name else t.fromParams
      fromRequest :=
        if value.text ∈ t.fromRequest then insertName t.fromRequest name else t.fromRequest }
  else if value.isRequestAccess then
    { t with fromRequest := insertName t.fromRequest name }
  else t

/-- The taint after a declaration; one without a plain name or without a value changes nothing. -/
def step (t : Taint) (decl : Node) : Taint :=
  match decl.declarationName?, decl.declarationInitializer? with
  | some name, some value => t.declare name value
  | _, _ => t

/-- The taint before any declaration: the parameters of a function. -/
def initial (n : Node) : Taint where
  fromParams := if n.kind = .functionLike then n.functionParameters.foldl insertName [] else []
  fromRequest := []

/-- The tainted names of a node: its declarations in document order, from its parameters on. -/
def collect (n : Node) : Taint :=
  (n.descendantsOfKind .variableDecl).foldl step (initial n)

end Taint

end LlmAudit
