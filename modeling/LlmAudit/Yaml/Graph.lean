import LlmAudit.Yaml.Resolve
import LlmAudit.Yaml.Token

/-!
# Node graphs of a YAML text

What the tokens of a text write: scalars, lists and mappings, each of some kind. A reference to an
anchor stands for the node with that anchor, which starts before it in the text and may be one that
the reference is in. So the nodes are kept in the order in which they start, and a collection names
the nodes in it by their numbers.

The functions that read collections pass a bound on the number of steps down. Each step takes a
token or goes into a node that does, so a few times the number of tokens is enough.

## Main definitions

* `Node`, `Graph` — the nodes of a text.
* `Graph.ofTokens` — the graph of tokens, and its root.
-/

namespace LlmAudit.Yaml

/-- What a node holds; other nodes are given by their numbers. -/
inductive Content where
  /-- A text. -/
  | scalar (text : LooseText)
  /-- The items of a list. -/
  | list (items : List Nat)
  /-- The pairs of a mapping. -/
  | mapping (pairs : List (Nat × Nat))
  deriving DecidableEq

/-- A node. -/
structure Node where
  /-- What it stands for. -/
  kind : Kind
  /-- What it holds. -/
  content : Content
  deriving DecidableEq

/-- The nodes of a text by their numbers. -/
abbrev Graph := Array Node

namespace Graph

/-- What is still to be read, and what is known from before. -/
structure Progress where
  /-- The tokens from here on. -/
  tokens : List Token
  /-- The nodes so far. -/
  nodes : Graph
  /-- The nodes with anchors so far. -/
  anchors : List (String × Nat)
  /-- What the handles of tags stand for. -/
  handles : List (String × String)
  /-- The number of collections that are open. -/
  depth : Nat
  /-- The greatest number of collections that may be open, which depends on the machine. -/
  bound : Nat

/-- Reading that may fail. -/
abbrev Reading := StateT Progress (Except Fault)

/-- Gives up on a malformed text. -/
def malformed {α : Type} : Reading α :=
  throw .malformed

/-- The next token; none at the end. -/
def peek : Reading (Option Token) := do
  match (← get).tokens with
  | [] => return none
  | .unreadable fault :: _ => throw fault
  | t :: _ => return some t

/-- Takes the next token. -/
def skip : Reading Unit :=
  modify fun p => { p with tokens := p.tokens.tail }

/-- Whether the next token is one of some tokens, or the end, which counts as one. -/
def atAny (stops : List Token) : Reading Bool := do
  match ← peek with
  | none => return true
  | some t => return stops.contains t

/-- Takes the next token if it is this one. -/
def accept (t : Token) : Reading Bool := do
  if (← peek) == some t then
    skip
    return true
  else return false

/-- Takes the next token, which must be this one. -/
def expect (t : Token) : Reading Unit := do
  if ← accept t then return () else malformed

/-! ### Nodes -/

/-- A new node, which an anchor may name; the anchor must be a new one. -/
def addNode (anchor : Option String) (n : Node) : Reading Nat := do
  let p ← get
  let number := p.nodes.size
  match anchor with
  | none => set { p with nodes := p.nodes.push n }
  | some name =>
    if p.anchors.any fun a => a.1 == name then malformed
    else set { p with nodes := p.nodes.push n, anchors := (name, number) :: p.anchors }
  return number

/-- The node where a text has nothing. -/
def addEmpty : Reading Nat :=
  addNode none ⟨.nothing, .scalar .empty⟩

/-- Says what a node holds. -/
def fill (number : Nat) (content : Content) : Reading Unit :=
  modify fun p => { p with nodes := p.nodes.modify number fun n => { n with content := content } }

/-- The node of an anchor. -/
def nodeNamed (name : String) : Reading Nat := do
  match (← get).anchors.find? fun a => a.1 == name with
  | some a => return a.2
  | none => malformed

/-! ### Tags and anchors -/

/-- What the handles stand for in every text. -/
def defaultHandles : List (String × String) :=
  [("!", "!"), ("!!", coreTag)]

/-- The full tag of a written one. -/
def tagOf (handle : Option String) (rest : String) : Reading String := do
  match handle with
  | none => return rest
  | some h =>
    match (← get).handles.find? fun known => known.1 == h with
    | some known => return known.2 ++ rest
    | none => malformed

/-- What is written before a node. -/
structure Properties where
  /-- The anchor. -/
  anchor : Option String
  /-- The tag. -/
  tag : Option String

/-- The anchor before a node, if there is one. -/
def anchor? : Reading (Option String) := do
  match ← peek with
  | some (.anchor name) =>
    skip
    return some name
  | _ => return none

/-- The tag before a node, if there is one, as it is written. -/
def tag? : Reading (Option (Option String × String)) := do
  match ← peek with
  | some (.tag handle rest) =>
    skip
    return some (handle, rest)
  | _ => return none

/-- The anchor and the tag before a node, in either order. -/
def properties : Reading Properties := do
  let before ← anchor?
  let written ← tag?
  let after ← if before.isNone && written.isSome then anchor? else pure none
  let tag ← match written with
    | some (handle, rest) => some <$> tagOf handle rest
    | none => pure none
  return ⟨before.or after, tag⟩

/-- The kind of a scalar; a lone mark as a tag means that it is read as if without quotes. -/
def scalarKind (tag : Option String) (text : LooseText) (style : Style) : Kind :=
  match tag, style with
  | some t, _ => if t = "!" then .ofPlain text else .ofTag t
  | none, .plain => .ofPlain text
  | none, .quoted => .text

/-- The kind of a collection, which is the usual one unless a tag says something else. -/
def collectionKind (tag : Option String) (usual : Kind) : Kind :=
  match tag with
  | some t => if t = "!" then usual else .ofTag t
  | none => usual

/-! ### Collections -/

/-- Where a node stands: among columns, among columns where the dashes of a list may stand at the
column of the key before it, or inside brackets. -/
inductive Place where
  /-- Among columns. -/
  | block
  /-- As the key or the value of a mapping by columns. -/
  | blockPair
  /-- Inside brackets. -/
  | flow
  deriving DecidableEq

/-- Reads the inside of a collection. -/
def nested {α : Type} (inside : Reading α) : Reading α := do
  let p ← get
  if p.bound ≤ p.depth then throw .tooDeep
  else
    modify fun p => { p with depth := p.depth + 1 }
    let result ← inside
    modify fun p => { p with depth := p.depth - 1 }
    return result

/-- A list whose items are read after it is known. -/
def listNode (p : Properties) (items : Reading (List Nat)) : Reading Nat := do
  let number ← addNode p.anchor ⟨collectionKind p.tag .list, .list []⟩
  fill number (.list (← nested items))
  return number

/-- A mapping whose pairs are read after it is known. -/
def mappingNode (p : Properties) (pairs : Reading (List (Nat × Nat))) : Reading Nat := do
  let number ← addNode p.anchor ⟨collectionKind p.tag .mapping, .mapping []⟩
  fill number (.mapping (← nested pairs))
  return number

mutual

/-- The next node. -/
def node (fuel : Nat) (place : Place) : Reading Nat :=
  match fuel with
  | 0 => malformed
  | fuel + 1 => do
    match ← peek with
    | some (.alias name) =>
      skip
      nodeNamed name
    | _ =>
      let p ← properties
      match ← peek, place with
      | some .blockItem, .blockPair => listNode p (looseItems fuel)
      | some (.scalar text style), _ =>
        skip
        addNode p.anchor ⟨scalarKind p.tag text style, .scalar text⟩
      | some .flowListStart, _ =>
        skip
        listNode p (flowItems fuel true)
      | some .flowMapStart, _ =>
        skip
        mappingNode p (flowPairs fuel true)
      | some .blockListStart, .flow => malformed
      | some .blockMapStart, .flow => malformed
      | some .blockListStart, _ =>
        skip
        listNode p (blockItems fuel)
      | some .blockMapStart, _ =>
        skip
        mappingNode p (blockPairs fuel)
      | _, _ =>
        if p.anchor.isSome || p.tag.isSome then
          addNode p.anchor ⟨scalarKind p.tag .empty .plain, .scalar .empty⟩
        else malformed

/-- The next node, or the empty one if one of some tokens follows. -/
def nodeUnless (fuel : Nat) (place : Place) (stops : List Token) : Reading Nat :=
  match fuel with
  | 0 => malformed
  | fuel + 1 => do
    if ← atAny stops then addEmpty else node fuel place

/-- The items of a list by columns, and its end. -/
def blockItems (fuel : Nat) : Reading (List Nat) :=
  match fuel with
  | 0 => malformed
  | fuel + 1 => do
    if ← accept .blockItem then
      let item ← nodeUnless fuel .block [.blockItem, .blockEnd]
      return item :: (← blockItems fuel)
    else
      expect .blockEnd
      return []

/-- The items of a list whose dashes stand at the column of the key before it. -/
def looseItems (fuel : Nat) : Reading (List Nat) :=
  match fuel with
  | 0 => malformed
  | fuel + 1 => do
    if ← accept .blockItem then
      let item ← nodeUnless fuel .block [.blockItem, .key, .value, .blockEnd]
      return item :: (← looseItems fuel)
    else return []

/-- The pairs of a mapping by columns, and its end. -/
def blockPairs (fuel : Nat) : Reading (List (Nat × Nat)) :=
  match fuel with
  | 0 => malformed
  | fuel + 1 => do
    if ← accept .key then
      let key ← nodeUnless fuel .blockPair [.key, .value, .blockEnd]
      let value ←
        if ← accept .value then nodeUnless fuel .blockPair [.key, .value, .blockEnd]
        else addEmpty
      return (key, value) :: (← blockPairs fuel)
    else
      expect .blockEnd
      return []

/-- The items of a list in brackets, and its end; a comma stands before each item but the first. A
pair among them is a mapping of its own. -/
def flowItems (fuel : Nat) (first : Bool) : Reading (List Nat) :=
  match fuel with
  | 0 => malformed
  | fuel + 1 => do
    if ← accept .flowListEnd then return []
    else
      if !first then expect .flowItem
      if ← accept .flowListEnd then return []
      else if ← accept .key then
        let pair ← mappingNode ⟨none, none⟩ do
          let key ← nodeUnless fuel .flow [.value, .flowItem, .flowListEnd]
          let value ←
            if ← accept .value then nodeUnless fuel .flow [.flowItem, .flowListEnd]
            else addEmpty
          return [(key, value)]
        return pair :: (← flowItems fuel false)
      else
        let item ← node fuel .flow
        return item :: (← flowItems fuel false)

/-- The pairs of a mapping in braces, and its end; a comma stands before each pair but the first. A
node alone is a key. -/
def flowPairs (fuel : Nat) (first : Bool) : Reading (List (Nat × Nat)) :=
  match fuel with
  | 0 => malformed
  | fuel + 1 => do
    if ← accept .flowMapEnd then return []
    else
      if !first then expect .flowItem
      if ← accept .flowMapEnd then return []
      else if ← accept .key then
        let key ← nodeUnless fuel .flow [.value, .flowItem, .flowMapEnd]
        let value ←
          if ← accept .value then nodeUnless fuel .flow [.flowItem, .flowMapEnd]
          else addEmpty
        return (key, value) :: (← flowPairs fuel false)
      else
        let key ← node fuel .flow
        let value ← addEmpty
        return (key, value) :: (← flowPairs fuel false)

end

/-! ### Documents -/

/-- The lines for the reader before a document: at most one version, which must be a known one, and
handles for tags, each given once. -/
def directives (fuel : Nat) (versioned : Bool) (handles : List (String × String)) :
    Reading (List (String × String)) :=
  match fuel with
  | 0 => malformed
  | fuel + 1 => do
    match ← peek with
    | some (.version major) =>
      skip
      if versioned || major != 1 then malformed else directives fuel true handles
    | some (.handle name start) =>
      skip
      if handles.any fun h => h.1 == name then malformed
      else directives fuel versioned ((name, start) :: handles)
    | some .remark =>
      skip
      directives fuel versioned handles
    | _ => return handles

/-- Takes the marks for the end of a document. -/
def skipEnds (fuel : Nat) : Reading Unit :=
  match fuel with
  | 0 => return ()
  | fuel + 1 => do
    if ← accept .documentEnd then skipEnds fuel

/-- Whether a token stands before a document. -/
def isPreamble : Token → Bool
  | .version _ => true
  | .handle _ _ => true
  | .remark => true
  | .documentStart => true
  | _ => false

/-- The root of a document after its mark: empty if another mark or the end follows. -/
def markedRoot (fuel : Nat) : Reading Nat := do
  match ← peek with
  | none => addEmpty
  | some .documentEnd => addEmpty
  | some t => if isPreamble t then addEmpty else node fuel .block

/-- The one document of a text; none if the text holds nothing. -/
def document (fuel : Nat) : Reading (Option Nat) := do
  match ← peek with
  | none => return none
  | some t =>
    let root ←
      if isPreamble t then
        let handles ← directives fuel false []
        let isGiven (h : String × String) : Bool := handles.any fun g => g.1 == h.1
        modify fun p =>
          { p with handles := handles ++ defaultHandles.filter fun h => !isGiven h }
        expect .documentStart
        markedRoot fuel
      else node fuel .block
    skipEnds fuel
    match ← peek with
    | none => return some root
    | some _ => malformed

/-- The graph that tokens write, and its root; none for the root if there are no tokens. Several
documents are malformed, and `bound` collections may stand in each other. -/
def ofTokens (bound : Nat) (tokens : List Token) : Except Fault (Option Nat × Graph) := do
  let (root, p) ←
    (document (4 * tokens.length + 8)).run ⟨tokens, #[], [], defaultHandles, 0, bound⟩
  return (root, p.nodes)

end Graph

end LlmAudit.Yaml
