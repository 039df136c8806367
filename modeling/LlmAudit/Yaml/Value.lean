import LlmAudit.Json.Basic
import LlmAudit.Yaml.Document

/-!
# Values as trees

A document may hold one collection in many places, and a collection may hold itself. Here its values
are unfolded into trees: where a collection would stand inside itself, only its shape is left.

## Main definitions

* `Value` — the trees.
* `Document.field` — the tree of a value of a document.
* `Value.ofJson` — the tree of JSON data.
* `Value.render?` — a tree as it is shown in messages.
-/

namespace LlmAudit.Yaml

/-- The shapes of collections. -/
inductive Shape where
  /-- A list. -/
  | list
  /-- A pair. -/
  | pair
  /-- A mapping. -/
  | mapping
  deriving DecidableEq

/-- A value and all that it holds. -/
inductive Value where
  /-- A scalar. -/
  | scalar (s : Scalar)
  /-- A list. -/
  | list (items : List Value)
  /-- A pair. -/
  | pair (first second : Value)
  /-- A set. -/
  | set (keys : List Scalar)
  /-- A mapping. -/
  | mapping (pairs : List (Scalar × Value))
  /-- A collection inside itself. -/
  | again (shape : Shape)

/-- Whether a scalar is something: not nothing, false, zero or empty. -/
def Scalar.isSomething : Scalar → Bool
  | .null => false
  | .bool b => b
  | .int n => n != 0
  | .float x => x.place != some 0
  | .nan _ => true
  | .text t => t != .empty
  | .bytes bs => !bs.isEmpty
  | .moment _ => true

/-! ### Unfolding -/

namespace Document

/-- A place inside of which a value stands: the collection of a node, or one pair of a list of
pairs. -/
abbrev Place := Nat × Option Nat

/-- The collection of a node. -/
def at? (d : Document) (number : Nat) : Option Contents :=
  (d.contents[number]?).join

/-- The tree of a value that stands inside of places. A node is entered once at most on the way to a
value, so their number is enough fuel. -/
def unfoldIn (d : Document) (fuel : Nat) (inside : List Place) (item : Item) : Value :=
  match fuel, item with
  | _, .scalar s => .scalar s
  | 0, .node _ => .again .list
  | fuel + 1, .node number =>
    let here : List Place := (number, none) :: inside
    let repeated := inside.contains (number, none)
    match d.at? number with
    | none => .scalar .null
    | some (.set keys) => .set keys
    | some (.list items) =>
      if repeated then .again .list else .list (items.map (d.unfoldIn fuel here))
    | some (.mapping pairs) =>
      if repeated then .again .mapping
      else .mapping (pairs.map fun p => (p.1, d.unfoldIn fuel here p.2))
    | some (.pairs pairs) =>
      if repeated then .again .list
      else .list (pairs.zipIdx.map fun (p, i) =>
        if inside.contains (number, some i) then .again .pair
        else
          let there := (number, some i) :: here
          .pair (d.unfoldIn fuel there p.1) (d.unfoldIn fuel there p.2))

/-- The fuel that is enough for every value of a document. -/
def depthBound (d : Document) : Nat :=
  d.contents.size + 1

/-- The tree of a value that stands inside of one pair at most. -/
def unfold (d : Document) (inside : List Place) (item : Item) : Value :=
  d.unfoldIn d.depthBound inside item

/-- The tree of a value whose parts are looked at one by one: it may stand inside of them once
more. -/
def field (d : Document) : Item → Value
  | .scalar s => .scalar s
  | .node number =>
    match d.at? number with
    | none => .scalar .null
    | some (.set keys) => .set keys
    | some (.list items) => .list (items.map (d.unfold []))
    | some (.mapping pairs) => .mapping (pairs.map fun p => (p.1, d.unfold [] p.2))
    | some (.pairs pairs) =>
      .list (pairs.zipIdx.map fun (p, i) =>
        .pair (d.unfold [(number, some i)] p.1) (d.unfold [(number, some i)] p.2))

/-- Whether a document is something: not nothing, false, zero or empty. -/
def isSomething (d : Document) : Bool :=
  match d.root with
  | .scalar s => s.isSomething
  | .node number =>
    match d.at? number with
    | none => false
    | some (.list items) => !items.isEmpty
    | some (.pairs pairs) => !pairs.isEmpty
    | some (.set keys) => !keys.isEmpty
    | some (.mapping pairs) => !pairs.isEmpty

/-- The pairs of a document that is a mapping. -/
def pairs? (d : Document) : Option (List (Scalar × Item)) :=
  match d.root with
  | .scalar _ => none
  | .node number =>
    match d.at? number with
    | some (.mapping pairs) => some pairs
    | _ => none

end Document

namespace Value

/-! ### Other data -/

mutual

/-- JSON data as a value. -/
def ofJson : Json → Value
  | .null => .scalar .null
  | .bool b => .scalar (.bool b)
  | .int n => .scalar (.int n)
  | .float .nan => .scalar (.nan none)
  | .float x => .scalar (.float x)
  | .str t => .scalar (.text t)
  | .list items => .list (ofJsonItems items)
  | .object fields => .mapping (ofJsonFields fields)

/-- The items of JSON data as values. -/
def ofJsonItems : List Json → List Value
  | [] => []
  | j :: rest => ofJson j :: ofJsonItems rest

/-- The fields of JSON data as pairs. -/
def ofJsonFields : List (LooseText × Json) → List (Scalar × Value)
  | [] => []
  | (name, j) :: rest => (.text name, ofJson j) :: ofJsonFields rest

end

/-! ### Text -/

/-- A scalar inside of others, its texts quoted; none if it is a whole number with too many
digits. -/
def shownScalar? : Scalar → Option String
  | .null => some "None"
  | .bool true => some "True"
  | .bool false => some "False"
  | .int n => if isWritable n then some (renderInt n) else none
  | .float x => some x.render
  | .nan _ => some "nan"
  | .text t => some t.quoted
  | .bytes bs => some (Text.quotedBytes bs)
  | .moment m => some m.shown

/-- The text of a collection inside itself. -/
def shownShape : Shape → String
  | .list => "[...]"
  | .pair => "(...)"
  | .mapping => "\x7b...\x7d"

mutual

/-- A value inside of others; none if a whole number in it has too many digits. -/
def shown? : Value → Option String
  | .scalar s => shownScalar? s
  | .list items => do
    let parts ← shownItems? items
    return "[" ++ ", ".intercalate parts ++ "]"
  | .pair first second => do
    let a ← shown? first
    let b ← shown? second
    return "(" ++ a ++ ", " ++ b ++ ")"
  | .set [] => some "set()"
  | .set keys => do
    let parts ← keys.mapM shownScalar?
    return "\x7b" ++ ", ".intercalate parts ++ "\x7d"
  | .mapping pairs => do
    let parts ← shownPairs? pairs
    return "\x7b" ++ ", ".intercalate parts ++ "\x7d"
  | .again shape => some (shownShape shape)

/-- Values inside of others. -/
def shownItems? : List Value → Option (List String)
  | [] => some []
  | v :: rest => do
    let text ← shown? v
    let more ← shownItems? rest
    return text :: more

/-- Pairs inside of others. -/
def shownPairs? : List (Scalar × Value) → Option (List String)
  | [] => some []
  | (k, v) :: rest => do
    let key ← shownScalar? k
    let text ← shown? v
    let more ← shownPairs? rest
    return (key ++ ": " ++ text) :: more

end

/-- A scalar by itself, its texts not quoted; none if it is a whole number with too many digits. -/
def renderScalar? : Scalar → Option String
  | .text t => some t.lossy
  | .moment m => some m.render
  | s => shownScalar? s

/-- A value as it is shown in messages; none if a whole number in it has too many digits. -/
def render? : Value → Option String
  | .scalar s => renderScalar? s
  | v => shown? v

/-- Whether a value is something: not nothing, false, zero or empty. -/
def isSomething : Value → Bool
  | .scalar s => s.isSomething
  | .list items => !items.isEmpty
  | .pair _ _ => true
  | .set keys => !keys.isEmpty
  | .mapping pairs => !pairs.isEmpty
  | .again _ => true

end Value

end LlmAudit.Yaml
