import LlmAudit.Yaml.Graph

/-!
# Documents of a YAML text

What the graph of a text means. A scalar is what its kind makes of it; a collection is what it
holds, and holds it also where it holds itself. The keys of a mapping are scalars; a key that comes
again keeps its first place and takes the last value, and the pairs of merged mappings come first.

A collection is known before what it holds, and collections are filled in the order in which they
become known. A text without a value has the fault that comes first in this order.

## Main definitions

* `Scalar`, `Item`, `Contents` — what a document is made of.
* `Document` — the meaning of a text.
* `Document.ofText` — the document of a text.
-/

namespace LlmAudit.Yaml

/-- A value that holds no others. -/
inductive Scalar where
  /-- Nothing. -/
  | null
  /-- A truth value. -/
  | bool (b : Bool)
  /-- A whole number. -/
  | int (n : Int)
  /-- A number with a fraction. -/
  | float (x : Binary64)
  /-- No number, from a node or from the word for it. -/
  | nan (origin : Option Nat)
  /-- A text. -/
  | text (t : LooseText)
  /-- Bytes. -/
  | bytes (bs : List UInt8)
  /-- A date, or a date and a time. -/
  | moment (m : Moment)
  deriving DecidableEq

/-- Whether two scalars are the same key: numbers and truth values by what they count. -/
def Scalar.same : Scalar → Scalar → Bool
  | .null, .null => true
  | .text a, .text b => a == b
  | .bytes a, .bytes b => a == b
  | .moment a, .moment b => a.same b
  | .nan a, .nan b => a == b
  | .float x, .float y => x.le y && y.le x
  | .float x, .int n => x.toInt? == some n
  | .int n, .float x => x.toInt? == some n
  | .float x, .bool b => x.toInt? == some (if b then 1 else 0)
  | .bool b, .float x => x.toInt? == some (if b then 1 else 0)
  | .int a, .int b => a == b
  | .int a, .bool b => a == if b then 1 else 0
  | .bool a, .int b => b == if a then 1 else 0
  | .bool a, .bool b => a == b
  | _, _ => false

/-- A value: a scalar, or the collection of a node. -/
inductive Item where
  /-- A scalar. -/
  | scalar (s : Scalar)
  /-- The collection of a node. -/
  | node (number : Nat)
  deriving DecidableEq

/-- What a collection holds. -/
inductive Contents where
  /-- The items of a list. -/
  | list (items : List Item)
  /-- The pairs of a list of pairs. -/
  | pairs (pairs : List (Item × Item))
  /-- The members of a set. -/
  | set (keys : List Scalar)
  /-- The pairs of a mapping. -/
  | mapping (pairs : List (Scalar × Item))
  deriving DecidableEq

/-- Pairs with one more: a key that is there already keeps its place and takes the new value. -/
def putPair (pairs : List (Scalar × Item)) (key : Scalar) (value : Item) : List (Scalar × Item) :=
  match pairs with
  | [] => [(key, value)]
  | (k, v) :: rest => if k.same key then (k, value) :: rest else (k, v) :: putPair rest key value

/-- The meaning of a text. -/
structure Document where
  /-- The value of the whole text. -/
  root : Item
  /-- What the collections hold, by the numbers of their nodes. -/
  contents : Array (Option Contents)

namespace Document

/-- What is known so far. -/
structure Progress where
  /-- The nodes. -/
  graph : Graph
  /-- The values of nodes. -/
  items : Array (Option Item)
  /-- What collections hold. -/
  contents : Array (Option Contents)
  /-- The collections that are known and not filled, in the order in which they became known. -/
  waiting : List Nat

/-- A step that may fail. -/
abbrev Making := StateT Progress (Except Fault)

/-- Gives up on a malformed text. -/
def malformed {α : Type} : Making α :=
  throw .malformed

/-- A node. -/
def nodeAt (number : Nat) : Making Node := do
  match (← get).graph[number]? with
  | some n => return n
  | none => malformed

/-- Says what kind a node is of. -/
def setKind (number : Nat) (kind : Kind) : Making Unit :=
  modify fun p => { p with graph := p.graph.modify number fun n => { n with kind := kind } }

/-- Says what a node holds. -/
def setContent (number : Nat) (content : Content) : Making Unit :=
  modify fun p => { p with graph := p.graph.modify number fun n => { n with content := content } }

/-! ### Scalars -/

/-- The text of a node; a mapping has the text of the first value under the key for it. -/
def textOf (fuel number : Nat) : Making LooseText :=
  match fuel with
  | 0 => throw .endless
  | fuel + 1 => do
    match (← nodeAt number).content with
    | .scalar text => return text
    | .list _ => malformed
    | .mapping pairs =>
      let found ← pairs.filterM fun p => return (← nodeAt p.1).kind = .value
      match found with
      | p :: _ => textOf fuel p.2
      | [] => malformed

/-- The text of a node. -/
def scalarText (number : Nat) : Making LooseText := do
  textOf ((← get).graph.size + 1) number

/-- The number that a node writes; no number is that of the node unless it is the word for it. -/
def numberAt (number : Nat) : Making Scalar := do
  let text ← scalarText number
  match ← numberOf text with
  | .nan => return .nan (if isNanWord text then none else some number)
  | x => return .float x

/-- The date and the time that a node writes, which must not be a mapping. -/
def momentAt (number : Nat) : Making Scalar := do
  let text ← scalarText number
  match (← nodeAt number).content with
  | .scalar _ => return .moment (← momentOf text)
  | _ => throw .mappedMoment

/-- The value of a node of a kind; none if it is a collection. -/
def scalarOf? (kind : Kind) (number : Nat) : Making (Option Scalar) := do
  match kind with
  | .nothing =>
    let _ ← scalarText number
    return some .null
  | .flag => return some (.bool (← flagOf (← scalarText number)))
  | .whole => return some (.int (← wholeOf (← scalarText number)))
  | .number => return some (← numberAt number)
  | .bytes => return some (.bytes (← bytesOf (← scalarText number)))
  | .moment => return some (← momentAt number)
  | .text => return some (.text (← scalarText number))
  | .list => return none
  | .pairs => return none
  | .set => return none
  | .mapping => return none
  | .merge => malformed
  | .value => malformed
  | .unknown => malformed

/-- The value of a node, which stays the same; a collection that was not known waits to be
filled. -/
def itemOf (number : Nat) : Making Item := do
  match ((← get).items[number]?).join with
  | some item => return item
  | none =>
    let item ← match ← scalarOf? (← nodeAt number).kind number with
      | some s => pure (Item.scalar s)
      | none =>
        modify fun p => { p with waiting := p.waiting ++ [number] }
        pure (.node number)
    modify fun p => { p with items := p.items.set! number (some item) }
    return item

/-! ### Collections -/

/-- The pairs of a mapping. -/
def pairsOf (number : Nat) : Making (List (Nat × Nat)) := do
  match (← nodeAt number).content with
  | .mapping pairs => return pairs
  | _ => malformed

/-- Puts the pairs of merged mappings in front of the pairs of a mapping; of a list of mappings the
first one comes last. The key of the value of a mapping becomes a text. -/
def mergeInto (fuel number : Nat) : Making Unit :=
  match fuel with
  | 0 => throw .endless
  | fuel + 1 => do
    let pairs ← pairsOf number
    let merges ← pairs.filterM fun p => return (← nodeAt p.1).kind = .merge
    let own ← pairs.filterM fun p => return (← nodeAt p.1).kind ≠ .merge
    setContent number (.mapping own)
    own.forM fun p => do
      if (← nodeAt p.1).kind = .value then setKind p.1 .text
    let merged ← merges.mapM fun p => do
      match (← nodeAt p.2).content with
      | .mapping _ =>
        mergeInto fuel p.2
        pairsOf p.2
      | .list items =>
        let parts ← items.mapM fun item => do
          let _ ← pairsOf item
          mergeInto fuel item
          pairsOf item
        return parts.reverse.flatten
      | .scalar _ => malformed
    setContent number (.mapping (merged.flatten ++ (← pairsOf number)))

/-- The values of pairs, whose keys must be scalars, after those of earlier ones. -/
def mappingOf (before : List (Scalar × Item)) : List (Nat × Nat) → Making (List (Scalar × Item))
  | [] => return before
  | (k, v) :: rest => do
    match ← itemOf k with
    | .node _ => malformed
    | .scalar key =>
      let value ← itemOf v
      mappingOf (putPair before key value) rest

/-- The pairs of a node that is a mapping, with those merged into it. -/
def mappingAt (number : Nat) : Making (List (Scalar × Item)) := do
  let _ ← pairsOf number
  mergeInto ((← get).graph.size + 2) number
  mappingOf [] (← pairsOf number)

/-- The one pair of a node in a list of pairs. -/
def pairAt (number : Nat) : Making (Item × Item) := do
  match ← pairsOf number with
  | [(k, v)] =>
    let key ← itemOf k
    return (key, ← itemOf v)
  | _ => malformed

/-- What the collection of a node holds. -/
def contentsOf (number : Nat) : Making Contents := do
  let n ← nodeAt number
  match n.kind, n.content with
  | .list, .list items => return .list (← items.mapM itemOf)
  | .pairs, .list items => return .pairs (← items.mapM pairAt)
  | .set, _ => return .set ((← mappingAt number).map Prod.fst)
  | .mapping, _ => return .mapping (← mappingAt number)
  | _, _ => malformed

/-- Fills the collections that wait, and those that come to wait. -/
def fillAll (fuel : Nat) : Making Unit :=
  match fuel with
  | 0 => return ()
  | fuel + 1 => do
    match (← get).waiting with
    | [] => return ()
    | number :: rest =>
      modify fun p => { p with waiting := rest }
      let contents ← contentsOf number
      modify fun p => { p with contents := p.contents.set! number (some contents) }
      fillAll fuel

/-- The document of a graph with a root. -/
def ofGraph (graph : Graph) (root : Nat) : Except Fault Document := do
  let start : Progress :=
    ⟨graph, Array.replicate graph.size none, Array.replicate graph.size none, []⟩
  let make : Making Item := do
    let item ← itemOf root
    fillAll (graph.size + 1)
    return item
  let (item, p) ← make.run start
  return ⟨item, p.contents⟩

/-- The document of a text, in which `bound` collections may stand in each other. An empty text is
nothing. -/
def ofText (bound : Nat) (d : Delivery) : Except Fault Document := do
  match ← Graph.ofTokens bound (tokens d) with
  | (none, _) => return ⟨.scalar .null, #[]⟩
  | (some root, graph) => ofGraph graph root

end Document

end LlmAudit.Yaml
