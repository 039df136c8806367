import LlmAudit.Text.Utf8
import LlmAudit.Yaml.Scalar

/-!
# Tokens of a YAML text

A text is cut into tokens. Columns become tokens too: where a collection starts further in than what
is around it, a token opens it, and where a line stands further out, tokens close what is open. A
key is known for one only when its colon comes; the token that marks it is then put in front of it,
which is why a place in the tokens is remembered for each key that may come. The tokens of a text
that cannot be cut further end with a token that says why.

## Main definitions

* `Token` — the tokens.
* `tokens` — the tokens of a text.
-/

namespace LlmAudit.Yaml

/-- How a scalar is written, as far as it matters for its value. -/
inductive Style where
  /-- Without quotes. -/
  | plain
  /-- With quotes, or as a block. -/
  | quoted
  deriving DecidableEq

/-- The tokens. -/
inductive Token where
  /-- A line with the version of the format. -/
  | version (major : Int)
  /-- A line that says what a handle of tags stands for. -/
  | handle (name start : String)
  /-- Another line for the reader. -/
  | remark
  /-- Three dashes. -/
  | documentStart
  /-- Three dots. -/
  | documentEnd
  /-- The start of a list by columns. -/
  | blockListStart
  /-- The start of a mapping by columns. -/
  | blockMapStart
  /-- The end of a collection by columns. -/
  | blockEnd
  /-- An opening bracket. -/
  | flowListStart
  /-- A closing bracket. -/
  | flowListEnd
  /-- An opening brace. -/
  | flowMapStart
  /-- A closing brace. -/
  | flowMapEnd
  /-- The dash of an item. -/
  | blockItem
  /-- A comma. -/
  | flowItem
  /-- A key follows. -/
  | key
  /-- A value follows. -/
  | value
  /-- A reference to an anchor. -/
  | alias (name : String)
  /-- A name for the node that follows. -/
  | anchor (name : String)
  /-- A tag for the node that follows: its handle, if it has one, and the rest of it. -/
  | tag (handle : Option String) (rest : String)
  /-- A scalar. -/
  | scalar (text : LooseText) (style : Style)
  /-- The text cannot be cut further. -/
  | unreadable (fault : Fault)
  deriving DecidableEq

/-! ### Names and tags -/

/-- A character of the name of an anchor, a directive or a handle. -/
def isNameChar (ch : Char) : Bool :=
  ch.isAlphanum || ch == '-' || ch == '_'

/-- A character of a tag. -/
def isTagChar (ch : Char) : Bool :=
  ch.isAlphanum || "-;/?:@&=+$,_.!~*'()[]%".toList.contains ch

/-- The bytes that escapes at the front of a text write, and the cursor after them. -/
def tagBytes (fuel : Nat) (c : Cursor) (bytes : List UInt8) : Except Fault (List UInt8 × Cursor) :=
  match fuel with
  | 0 => .error .malformed
  | fuel + 1 => do
    if ← c.isAt '%' then
      let c' ← c.next
      let n ← hexAhead c' 0 0 2
      tagBytes fuel (← c'.forward 2) (bytes ++ [UInt8.ofNat n])
    else return (bytes, c)

/-- The rest of a tag, in which escapes write the bytes of characters. -/
def tagText (fuel : Nat) (text : List Char) (c : Cursor) : Except Fault (List Char × Cursor) :=
  match fuel with
  | 0 => .error .malformed
  | fuel + 1 => do
    match ← c.peek 0 with
    | none => return (text, c)
    | some '%' =>
      let (bytes, c') ← tagBytes (c.rest.length + 1) c []
      let part ← orMalformed (Utf8.decode bytes).toOption
      tagText fuel (text ++ part) c'
    | some ch =>
      if isTagChar ch then tagText fuel (text ++ [ch]) (← c.next) else return (text, c)

/-- A tag without its handle; it is not empty. -/
def tagRest (c : Cursor) : Except Fault (String × Cursor) := do
  let (text, c') ← tagText (c.rest.length + 1) [] c
  if c'.index = c.index then .error .malformed else return (String.ofList text, c')

/-- The handle of a tag: a mark, or a name between two of them. -/
def tagHandle (c : Cursor) : Except Fault (String × Cursor) := do
  need (← c.isAt '!')
  if (← c.peek 1) == some ' ' then return ("!", ← c.next)
  else
    let name := (c.rest.drop 1).takeWhile isNameChar
    need ((← c.peek (name.length + 1)) == some '!')
    return (String.ofList ('!' :: (name ++ ['!'])), ← c.forward (name.length + 2))

/-- Whether a blank or a break, but no tab, or the end stands at a cursor. -/
def atSpaceOrBreak (c : Cursor) : Except Fault Bool :=
  c.endsOr 0 fun ch => ch == ' ' || isBreak ch

/-- The tag at a cursor, and the cursor after it. -/
def tagAt (c : Cursor) : Except Fault (Token × Cursor) := do
  let (token, c') ←
    match ← c.peek 1 with
    | some '<' => do
      let (rest, c1) ← tagRest (← c.forward 2)
      need (← c1.isAt '>')
      pure (Token.tag none rest, ← c1.next)
    | other =>
      if Cursor.endOr isSpaceOrBreak other then do
        pure (Token.tag none "!", ← c.next)
      else do
        -- a second mark in the word tells that the first one starts a handle
        let word := (c.rest.drop 1).takeWhile fun ch => !(ch == '!' || ch == ' ' || isBreak ch)
        let handled := (← c.peek (word.length + 1)) == some '!'
        let (handle, c1) ← if handled then tagHandle c else do pure ("!", ← c.next)
        let (rest, c2) ← tagRest c1
        pure (Token.tag (some handle) rest, c2)
  need (← atSpaceOrBreak c')
  return (token, c')

/-! ### Lines for the reader -/

/-- A number of a version, and the cursor after it. -/
def versionNumber (c : Cursor) : Except Fault (Int × Cursor) := do
  let (digits, c') ← c.takeWhile Char.isDigit
  need !digits.isEmpty
  match Based.read 10 digits with
  | .ok n => return (n, c')
  | .error fault => .error (.whole 10 "" fault)

/-- The version of the format. -/
def versionLine (c : Cursor) : Except Fault (Token × Cursor) := do
  let (major, c1) ← versionNumber (← c.skipWhile (· == ' '))
  need (← c1.isAt '.')
  let (_, c2) ← versionNumber (← c1.next)
  need (← atSpaceOrBreak c2)
  return (.version major, c2)

/-- What a handle stands for. -/
def handleLine (c : Cursor) : Except Fault (Token × Cursor) := do
  let (name, c1) ← tagHandle (← c.skipWhile (· == ' '))
  need (← c1.isAt ' ')
  let (start, c2) ← tagRest (← c1.skipWhile (· == ' '))
  need (← atSpaceOrBreak c2)
  return (.handle name start, c2)

/-- A line for the reader, from its mark on, and the cursor after its end. -/
def directiveAt (c : Cursor) : Except Fault (Token × Cursor) := do
  let (name, c1) ← (← c.next).takeWhile isNameChar
  need !name.isEmpty
  need (← atSpaceOrBreak c1)
  let (token, c2) ←
    match String.ofList name with
    | "YAML" => versionLine c1
    | "TAG" => handleLine c1
    | _ => do pure (.remark, ← c1.skipWhile (fun ch => !isBreak ch))
  return (token, ← afterComment c2)

/-- A place where a key may start. -/
structure KeyPlace where
  /-- The depth of brackets at the place. -/
  depth : Nat
  /-- The number of tokens before the place. -/
  tokenCount : Nat
  /-- Whether nothing but a key can stand there. -/
  required : Bool
  /-- The number of characters before the place. -/
  index : Nat
  /-- The line of the place. -/
  line : Nat
  /-- The column of the place. -/
  column : Nat

/-- The state between two tokens. -/
structure TokenState where
  /-- What is still to be read. -/
  cursor : Cursor
  /-- The tokens so far. -/
  tokens : Array Token
  /-- The depth of brackets. -/
  depth : Nat
  /-- The column of the innermost collection by columns; below zero outside of all. -/
  indent : Int
  /-- The columns around it, innermost first. -/
  outer : List Int
  /-- Whether a key may start here. -/
  keyAllowed : Bool
  /-- The places where a key may have started, at most one for each depth. -/
  keys : List KeyPlace

namespace TokenState

/-- The state before the first token. -/
def initial (d : Delivery) : TokenState :=
  { cursor := .start d, tokens := #[], depth := 0, indent := -1, outer := [], keyAllowed := true,
    keys := [] }

/-- Whether the state is inside brackets. -/
def inFlow (s : TokenState) : Bool :=
  s.depth != 0

/-- One more token. -/
def emit (s : TokenState) (t : Token) : TokenState :=
  { s with tokens := s.tokens.push t }

/-- Moves some characters further. -/
def forward (s : TokenState) (n : Nat) : Except Fault TokenState :=
  (s.cursor.forward n).map fun c => { s with cursor := c }

/-- The column as a place among the columns of collections. -/
def column (s : TokenState) : Int :=
  s.cursor.column

/-- Skips spaces, comments and breaks; after a break outside of brackets a key may start. -/
def skipGaps (fuel : Nat) (s : TokenState) : Except Fault TokenState :=
  match fuel with
  | 0 => .ok s
  | fuel + 1 => do
    let c1 ← s.cursor.skipWhile (· == ' ')
    let c2 ← if ← c1.isAt '#' then c1.skipWhile (fun ch => !isBreak ch) else pure c1
    match ← c2.takeBreak with
    | ([], _) => return { s with cursor := c2 }
    | (_, c3) => skipGaps fuel { s with cursor := c3, keyAllowed := s.keyAllowed || !s.inFlow }

/-- Forgets the places on earlier lines, or too far back; no key must be due there. -/
def dropStale (s : TokenState) : Except Fault TokenState :=
  let isStale (k : KeyPlace) : Bool :=
    k.line != s.cursor.line || decide (1024 < s.cursor.index - k.index)
  if s.keys.any fun k => isStale k && k.required then .error .malformed
  else .ok { s with keys := s.keys.filter fun k => !isStale k }

/-- Forgets the place of this depth; no key must be due there. -/
def dropKey (s : TokenState) : Except Fault TokenState :=
  if s.keys.any fun k => k.depth == s.depth && k.required then .error .malformed
  else .ok { s with keys := s.keys.filter fun k => k.depth != s.depth }

/-- Remembers that a key may start here. -/
def saveKey (s : TokenState) : Except Fault TokenState :=
  if s.keyAllowed then
    s.dropKey.map fun s =>
      { s with keys :=
          { depth := s.depth
            tokenCount := s.tokens.size
            required := !s.inFlow && s.indent == s.column
            index := s.cursor.index
            line := s.cursor.line
            column := s.cursor.column } :: s.keys }
  else .ok s

/-- Closes the collections that stand further in than a column. -/
def unwind (s : TokenState) (column : Int) : TokenState :=
  if s.inFlow then s else close s.indent s.outer s
where
  /-- Closes collections from the innermost one on. -/
  close (indent : Int) (outer : List Int) (s : TokenState) : TokenState :=
    if indent ≤ column then { s with indent := indent, outer := outer }
    else
      match outer with
      | [] => { s with indent := -1, outer := [] }
      | i :: rest => close i rest (s.emit .blockEnd)

/-- Opens a collection at a column if it stands further in than what is around it. -/
def openAt? (s : TokenState) (column : Int) : Option TokenState :=
  if s.indent < column then some { s with indent := column, outer := s.indent :: s.outer } else none

/-- Opens a collection here with a token if it stands further in than what is around it. Outside of
brackets it must be where a key may start. -/
def openHere (s : TokenState) (t : Token) : Except Fault TokenState :=
  if s.inFlow then .ok s
  else if !s.keyAllowed then .error .malformed
  else
    match s.openAt? s.column with
    | some s' => .ok (s'.emit t)
    | none => .ok s

/-- The state after a line for the reader. -/
def readDirective (s : TokenState) : Except Fault TokenState := do
  let s ← (s.unwind (-1)).dropKey
  let (token, c) ← directiveAt s.cursor
  return { s with cursor := c, keyAllowed := false }.emit token

/-- The state after a token of some characters. -/
def take (s : TokenState) (t : Token) (length : Nat) : Except Fault TokenState := do
  return (← s.forward length).emit t

/-- The state after a document mark. -/
def readMark (s : TokenState) (t : Token) : Except Fault TokenState := do
  let s ← (s.unwind (-1)).dropKey
  { s with keyAllowed := false }.take t 3

/-- The state after an opening bracket. -/
def readOpening (s : TokenState) (t : Token) : Except Fault TokenState := do
  let s ← s.saveKey
  { s with depth := s.depth + 1, keyAllowed := true }.take t 1

/-- The state after a closing bracket. -/
def readClosing (s : TokenState) (t : Token) : Except Fault TokenState := do
  let s ← (← s.dropKey).take t 1
  need (s.depth != 0)
  return { s with depth := s.depth - 1, keyAllowed := false }

/-- The state after a comma. -/
def readComma (s : TokenState) : Except Fault TokenState := do
  (← { s with keyAllowed := true }.dropKey).take .flowItem 1

/-- The state after the dash of an item. -/
def readDash (s : TokenState) : Except Fault TokenState := do
  let opened ← s.openHere .blockListStart
  (← { opened with keyAllowed := true }.dropKey).take .blockItem 1

/-- The state after a question mark before a key. -/
def readQuestion (s : TokenState) : Except Fault TokenState := do
  let opened ← s.openHere .blockMapStart
  (← { opened with keyAllowed := !s.inFlow }.dropKey).take .key 1

/-- Tokens with some put in at a place. -/
def insertTokens (tokens : Array Token) (place : Nat) (new : List Token) : Array Token :=
  (tokens.toList.take place ++ new ++ tokens.toList.drop place).toArray

/-- The state after the colon before a value: the place that was remembered is a key. -/
def readColon (s : TokenState) : Except Fault TokenState :=
  match s.keys.find? fun k => k.depth == s.depth with
  | some k =>
    let s := { s with keys := s.keys.filter fun k => k.depth != s.depth, keyAllowed := false }
    let marked :=
      match if s.inFlow then none else s.openAt? k.column with
      | some s' =>
        { s' with tokens := insertTokens s.tokens k.tokenCount [.blockMapStart, .key] }
      | none => { s with tokens := insertTokens s.tokens k.tokenCount [.key] }
    marked.take .value 1
  | none => do
    let opened ← s.openHere .blockMapStart
    (← { opened with keyAllowed := !s.inFlow }.dropKey).take .value 1

/-- The state after the name of an anchor or a reference. -/
def readName (s : TokenState) (make : String → Token) : Except Fault TokenState := do
  let s ← s.saveKey
  let (name, c) ← (← s.cursor.next).takeWhile isNameChar
  let ends (ch : Char) : Bool :=
    isSpaceOrBreak ch || ['?', ':', ',', ']', '\x7d', '%', '@', '\x60'].contains ch
  need !name.isEmpty
  need (← c.endsOr 0 ends)
  return { s with cursor := c, keyAllowed := false }.emit (make (String.ofList name))

/-- The state after a tag. -/
def readTag (s : TokenState) : Except Fault TokenState := do
  let s ← s.saveKey
  let (token, c) ← tagAt s.cursor
  return { s with cursor := c, keyAllowed := false }.emit token

/-- The state after a scalar that may be a key. -/
def readQuoted (s : TokenState) (scan : Cursor → Except Fault Scanned) :
    Except Fault TokenState := do
  let s ← s.saveKey
  let scanned ← scan s.cursor
  return { s with cursor := scanned.cursor, keyAllowed := false }.emit
    (.scalar scanned.text .quoted)

/-- The state after a block scalar. -/
def readBlock (s : TokenState) (folded : Bool) : Except Fault TokenState := do
  let s ← { s with keyAllowed := true }.dropKey
  let scanned ← block folded s.indent s.cursor
  return { s with cursor := scanned.cursor }.emit (.scalar scanned.text .quoted)

/-- The state after a plain scalar; a break after it allows a key. -/
def readPlain (s : TokenState) : Except Fault TokenState := do
  let s ← s.saveKey
  let (scanned, crossed) ← plain s.inFlow (s.indent + 1).toNat s.cursor
  return { s with cursor := scanned.cursor, keyAllowed := crossed }.emit
    (.scalar scanned.text .plain)

/-- The characters with which no plain scalar starts. -/
def indicators : List Char :=
  ['-', '?', ':', ',', '[', ']', '\x7b', '\x7d', '#', '&', '*', '!', '|', '>', '\'', '"', '%',
    '@', '\x60']

/-- Whether a document mark starts with a character. -/
def atMark (s : TokenState) (ch : Char) : Except Fault Bool :=
  if s.cursor.column == 0 && (ch == '-' || ch == '.') then s.cursor.atDocumentMark else .ok false

/-- Whether a blank or the end follows the character here. -/
def blankAfter (s : TokenState) : Except Fault Bool :=
  s.cursor.endsOr 1 isSpaceOrBreak

/-- Whether a character is the given mark for a key or a value: inside brackets always, outside if a
blank follows. -/
def isKeyMark (s : TokenState) (ch mark : Char) : Except Fault Bool :=
  if ch != mark then .ok false else if s.inFlow then .ok true else s.blankAfter

/-- Whether a plain scalar starts with a character. The one after it is looked at only if a plain
scalar hardly starts so. -/
def startsPlain (s : TokenState) (ch : Char) : Except Fault Bool := do
  if !isSpaceOrBreak ch && !indicators.contains ch then return true
  else return !(← s.blankAfter) && (ch == '-' || (!s.inFlow && (ch == '?' || ch == ':')))

/-- The state after one more token, which starts with a character. -/
def readToken (s : TokenState) (ch : Char) : Except Fault TokenState := do
  if ch == '%' && s.cursor.column == 0 then s.readDirective
  else if ← s.atMark ch then s.readMark (if ch == '-' then .documentStart else .documentEnd)
  else if ch == '[' then s.readOpening .flowListStart
  else if ch == '\x7b' then s.readOpening .flowMapStart
  else if ch == ']' then s.readClosing .flowListEnd
  else if ch == '\x7d' then s.readClosing .flowMapEnd
  else if ch == ',' then s.readComma
  else if ← (if ch == '-' then s.blankAfter else .ok false) then s.readDash
  else if ← s.isKeyMark ch '?' then s.readQuestion
  else if ← s.isKeyMark ch ':' then s.readColon
  else if ch == '*' then s.readName .alias
  else if ch == '&' then s.readName .anchor
  else if ch == '!' then s.readTag
  else if ch == '|' && !s.inFlow then s.readBlock false
  else if ch == '>' && !s.inFlow then s.readBlock true
  else if ch == '\'' then s.readQuoted singleQuoted
  else if ch == '"' then s.readQuoted doubleQuoted
  else if ← s.startsPlain ch then s.readPlain
  else .error .malformed

/-- The state before the next token, whose collections further in are closed. -/
def settle (s : TokenState) : Except Fault TokenState := do
  let s ← (← s.skipGaps (s.cursor.rest.length + 1)).dropStale
  return s.unwind s.column

/-- The state after the next token, and whether there is none because the text ends. -/
def advance (s : TokenState) : Except Fault (TokenState × Bool) := do
  let s ← s.settle
  match ← s.cursor.peek 0 with
  | none => return (← (s.unwind (-1)).dropKey, true)
  | some ch => return (← s.readToken ch, false)

/-- The state after a byte order mark at the front of a text. -/
def skipOrderMark (s : TokenState) : Except Fault TokenState := do
  if ← s.cursor.isAt (Char.ofNat 0xFEFF) then s.forward 1 else return s

/-- The number of tokens of which it is known that no key starts among them. -/
def settledCount (s : TokenState) : Nat :=
  s.keys.foldl (fun n k => min n k.tokenCount) s.tokens.size

/-- The settled tokens, and why there are no more. -/
def stop (s : TokenState) (fault : Fault) : List Token :=
  s.tokens.toList.take s.settledCount ++ [.unreadable fault]

/-- The tokens of a text of which a part is cut. Tokens are cut when they are asked for: those of
which it is known that no key starts among them are there before the next one is cut. -/
def run (fuel : Nat) (s : TokenState) : List Token :=
  match fuel with
  | 0 => s.stop .malformed
  | fuel + 1 =>
    match s.dropStale with
    | .error fault => s.stop fault
    | .ok s =>
      match s.advance with
      | .error fault => s.stop fault
      | .ok (s', true) => s'.tokens.toList
      | .ok (s', false) => run fuel s'

end TokenState

/-- The tokens of a text. A byte order mark at its front is skipped. -/
def tokens (d : Delivery) : List Token :=
  match (TokenState.initial d).skipOrderMark with
  | .error fault => [.unreadable fault]
  | .ok s => s.run (d.text.length + 2)

end LlmAudit.Yaml
