import LlmAudit.Text.Loose
import LlmAudit.Yaml.Cursor

/-!
# Scalars of a YAML text

Reading plain, quoted and block scalars. A line break inside a plain or quoted scalar is a space,
and each further one a line feed; a block scalar keeps its breaks, or folds them the same way. Only
the escapes of a scalar between double quotes can write half a pair.

A scalar is read no further than is needed to find its end, since looking further may be a fault.
Each function passes a bound on the number of steps down, for which the length of the text is
enough.

## Main definitions

* `plain`, `singleQuoted`, `doubleQuoted`, `block` — the scalars.
-/

namespace LlmAudit.Yaml

/-- A scalar and the cursor after it. -/
structure Scanned where
  /-- The text of the scalar. -/
  text : LooseText
  /-- What follows. -/
  cursor : Cursor

/-- A scalar of characters and the cursor after it. -/
def Scanned.ofChars (text : List Char) (c : Cursor) : Scanned :=
  ⟨text, c⟩

/-- A value; a text without it is malformed. -/
def orMalformed {α : Type} : Option α → Except Fault α
  | some x => .ok x
  | none => .error .malformed

/-- A test that a text must pass. -/
def need (holds : Bool) : Except Fault Unit :=
  if holds then .ok () else .error .malformed

/-! ### Plain scalars -/

/-- Whether a plain scalar goes on with a character, given those after it and what comes after
them. Only at a colon a character further is looked at. -/
def continuesPlain (inFlow : Bool) (ending : Except Fault Unit) (ch : Char) (rest : List Char) :
    Except Fault Bool :=
  let endsAtColon (d : Char) : Bool :=
    isSpaceOrBreak d || (inFlow && [',', '[', ']', '\x7b', '\x7d'].contains d)
  if ch == ':' then
    match rest with
    | [] => ending.map fun _ => false
    | d :: _ => .ok !(endsAtColon d)
  else .ok !(isSpaceOrBreak ch || (inFlow && [',', '?', '[', ']', '\x7b', '\x7d'].contains ch))

/-- The number of characters at the front with which a plain scalar goes on. -/
def plainLength (inFlow : Bool) (ending : Except Fault Unit) : List Char → Except Fault Nat
  | [] => ending.map fun _ => 0
  | ch :: rest => do
    if ← continuesPlain inFlow ending ch rest then return (← plainLength inFlow ending rest) + 1
    else return 0

/-- The breaks, less the spaces around them, before the next line of a plain scalar; none if a
document mark follows one. -/
def plainBreaks (fuel : Nat) (c : Cursor) (breaks : List Char) :
    Except Fault (Option (List Char) × Cursor) :=
  match fuel with
  | 0 => .ok (some breaks, c)
  | fuel + 1 => do
    match ← c.peek 0 with
    | none => return (some breaks, c)
    | some ' ' => plainBreaks fuel (← c.next) breaks
    | some ch =>
      if isBreak ch then
        let (kept, c') ← c.takeBreak
        if ← c'.atDocumentMark then return (none, c')
        else plainBreaks fuel c' (breaks ++ kept)
      else return (some breaks, c)

/-- What separates two parts of a plain scalar. -/
structure PlainGap where
  /-- The separating text; empty if the scalar ends. -/
  text : List Char
  /-- Whether it holds a break. -/
  crossed : Bool
  /-- What follows. -/
  cursor : Cursor

/-- A first break and the further ones, folded: one break alone is a space. -/
def foldBreaks (first further : List Char) : List Char :=
  if first != ['\n'] then first ++ further
  else if further.isEmpty then [' ']
  else further

/-- The separation after a part of a plain scalar. -/
def plainGap (c : Cursor) : Except Fault PlainGap := do
  let (spaces, c1) ← c.takeWhile (· == ' ')
  if (← c1.peek 0).any isBreak then
    let (first, c2) ← c1.takeBreak
    if ← c2.atDocumentMark then return ⟨[], true, c2⟩
    else
      match ← plainBreaks (c2.rest.length + 1) c2 [] with
      | (none, c3) => return ⟨[], true, c3⟩
      | (some further, c3) => return ⟨foldBreaks first further, true, c3⟩
  else return ⟨spaces, false, c1⟩

/-- The parts of a plain scalar from a cursor on; the lines after the first one start at column
`indent` or further, unless the scalar stands in brackets. Also tells whether the last separation
crossed a break. -/
def plainParts (fuel : Nat) (inFlow : Bool) (indent : Nat) (text gap : List Char)
    (crossed : Bool) (c : Cursor) : Except Fault (Scanned × Bool) :=
  match fuel with
  | 0 => .ok (.ofChars text c, crossed)
  | fuel + 1 => do
    if ← c.isAt '#' then return (.ofChars text c, crossed)
    else
      let length ← plainLength inFlow c.ending c.rest
      if length == 0 then return (.ofChars text c, crossed)
      else
        let text' := text ++ gap ++ c.rest.take length
        let g ← plainGap (← c.forward length)
        let comment ← g.cursor.isAt '#'
        if g.text.isEmpty || comment || (!inFlow && decide (g.cursor.column < indent)) then
          return (.ofChars text' g.cursor, g.crossed)
        else plainParts fuel inFlow indent text' g.text g.crossed g.cursor

/-- A plain scalar, and whether a break was crossed after it. -/
def plain (inFlow : Bool) (indent : Nat) (c : Cursor) : Except Fault (Scanned × Bool) :=
  plainParts (c.rest.length + 1) inFlow indent [] [] false c

/-! ### Quoted scalars -/

/-- The breaks, less the spaces and tabs around them, inside a quoted scalar, in which no document
mark may start a line. -/
def quotedBreaks (fuel : Nat) (c : Cursor) (breaks : List Char) :
    Except Fault (List Char × Cursor) :=
  match fuel with
  | 0 => .error .malformed
  | fuel + 1 => do
    if ← c.atDocumentMark then .error .malformed
    else
      let c1 ← c.skipWhile isGap
      match ← c1.takeBreak with
      | ([], _) => return (breaks, c1)
      | (kept, c2) => quotedBreaks fuel c2 (breaks ++ kept)

/-- The spaces or breaks inside a quoted scalar. -/
def quotedGap (c : Cursor) : Except Fault (List Char × Cursor) := do
  let (spaces, c1) ← c.takeWhile isGap
  match ← c1.peek 0 with
  | none => .error .malformed
  | some ch =>
    if isBreak ch then
      let (first, c2) ← c1.takeBreak
      let (further, c3) ← quotedBreaks (c2.rest.length + 1) c2 []
      return (foldBreaks first further, c3)
    else return (spaces, c1)

/-- The rest of a scalar between apostrophes; a doubled apostrophe is one. -/
def singleQuotedFrom (fuel : Nat) (text : List Char) (c : Cursor) : Except Fault Scanned :=
  match fuel with
  | 0 => .error .malformed
  | fuel + 1 => do
    match ← c.peek 0 with
    | none => .error .malformed
    | some '\'' =>
      if (← c.peek 1) == some '\'' then
        singleQuotedFrom fuel (text ++ ['\'']) (← c.forward 2)
      else return .ofChars text (← c.next)
    | some ch =>
      if isSpaceOrBreak ch then
        let (gap, c') ← quotedGap c
        singleQuotedFrom fuel (text ++ gap) c'
      else singleQuotedFrom fuel (text ++ [ch]) (← c.next)

/-- A scalar between apostrophes, from its opening one on. -/
def singleQuoted (c : Cursor) : Except Fault Scanned := do
  singleQuotedFrom (c.rest.length + 1) [] (← c.next)

/-- The code point of a single-letter escape. -/
def escapePoint? (c : Char) : Option Nat :=
  match c with
  | '0' => some 0x00
  | 'a' => some 0x07
  | 'b' => some 0x08
  | 't' => some 0x09
  | '\t' => some 0x09
  | 'n' => some 0x0A
  | 'v' => some 0x0B
  | 'f' => some 0x0C
  | 'r' => some 0x0D
  | 'e' => some 0x1B
  | ' ' => some 0x20
  | '"' => some 0x22
  | '\\' => some 0x5C
  | '/' => some 0x2F
  | 'N' => some 0x85
  | '_' => some 0xA0
  | 'L' => some 0x2028
  | 'P' => some 0x2029
  | _ => none

/-- The number of hexadecimal digits after the letter of an escape. -/
def escapeWidth? (c : Char) : Option Nat :=
  match c with
  | 'x' => some 2
  | 'u' => some 4
  | 'U' => some 8
  | _ => none

/-- The value of a hexadecimal digit. -/
def hexValue? (c : Char) : Option Nat :=
  if c.isDigit then some (c.toNat - '0'.toNat)
  else if 'a' ≤ c ∧ c ≤ 'f' then some (c.toNat - 'a'.toNat + 10)
  else if 'A' ≤ c ∧ c ≤ 'F' then some (c.toNat - 'A'.toNat + 10)
  else none

/-- The number that hexadecimal digits write, so many of them from some places further on; `n` is
what the digits before write. -/
def hexAhead (c : Cursor) (k n : Nat) : (width : Nat) → Except Fault Nat
  | 0 => .ok n
  | width + 1 => do
    let d ← orMalformed ((← c.peek k).bind hexValue?)
    hexAhead c (k + 1) (n * 16 + d) width

/-- A code point that an escape asks for, which must not lie beyond the last one. -/
def checkPoint (n : Nat) : Except Fault Nat :=
  if n ≤ 0x10FFFF then .ok n
  else if n < Nat.pow 2 31 then .error .beyondPoints
  else .error .overflow

/-- The code points of an escape, from the character after the backslash on. -/
def escape (c : Cursor) : Except Fault (List Point × Cursor) := do
  match ← c.peek 0 with
  | none => .error .malformed
  | some ch =>
    match escapePoint? ch, escapeWidth? ch with
    | some n, _ => return ([.ofNat n], ← c.next)
    | none, some width =>
      let c' ← c.next
      let n ← checkPoint (← hexAhead c' 0 0 width)
      return ([.ofNat n], ← c'.forward width)
    | none, none =>
      if isBreak ch then
        let (_, c') ← c.takeBreak
        let (breaks, c'') ← quotedBreaks (c'.rest.length + 1) c' []
        return (breaks.map .char, c'')
      else .error .malformed

/-- The rest of a scalar between double quotes; `points` holds the code points so far, last one
first. -/
def doubleQuotedFrom (fuel : Nat) (points : List Point) (c : Cursor) : Except Fault Scanned :=
  match fuel with
  | 0 => .error .malformed
  | fuel + 1 => do
    match ← c.peek 0 with
    | none => .error .malformed
    | some '"' => return ⟨⟨points.reverse⟩, ← c.next⟩
    | some '\\' =>
      let (part, c') ← escape (← c.next)
      doubleQuotedFrom fuel (part.reverse ++ points) c'
    | some ch =>
      if isSpaceOrBreak ch then
        let (gap, c') ← quotedGap c
        doubleQuotedFrom fuel ((gap.map .char).reverse ++ points) c'
      else doubleQuotedFrom fuel (.char ch :: points) (← c.next)

/-- A scalar between double quotes, from its opening one on. -/
def doubleQuoted (c : Cursor) : Except Fault Scanned := do
  doubleQuotedFrom (c.rest.length + 1) [] (← c.next)

/-! ### Block scalars -/

/-- What happens to the breaks at the end of a block scalar. -/
inductive Chomping where
  /-- One is kept. -/
  | clip
  /-- None is kept. -/
  | strip
  /-- All are kept. -/
  | keep
  deriving DecidableEq

/-- What a mark says about the breaks at the end of a block scalar. -/
def Chomping.ofMark? : Char → Option Chomping
  | '+' => some .keep
  | '-' => some .strip
  | _ => none

/-- The digit that says how much further in the lines of a block scalar stand, if one is there, and
the cursor after it. -/
def takeIncrement (c : Cursor) : Except Fault (Option Nat × Cursor) := do
  match (← c.peek 0).filter Char.isDigit with
  | none => return (none, c)
  | some '0' => .error .malformed
  | some d => return (some (d.toNat - '0'.toNat), ← c.next)

/-- What happens to the breaks at the end, if a mark says so, and the cursor after it. -/
def takeChomping (c : Cursor) : Except Fault (Option Chomping × Cursor) := do
  match (← c.peek 0).bind Chomping.ofMark? with
  | none => return (none, c)
  | some chomping => return (some chomping, ← c.next)

/-- The marks after the sign of a block scalar, in either order: what happens to its last breaks,
and how much further in its lines stand. -/
def blockMarks (c : Cursor) : Except Fault (Chomping × Option Nat × Cursor) := do
  let (before, c1) ← takeChomping c
  let (increment, c2) ← takeIncrement c1
  let (after, c3) ← if before.isNone && increment.isSome then takeChomping c2 else pure (none, c2)
  need (← c3.endsOr 0 fun ch => ch == ' ' || isBreak ch)
  return ((before.or after).getD .clip, increment, c3)

/-- The cursor after the rest of a line, which holds at most a comment. -/
def afterComment (c : Cursor) : Except Fault Cursor := do
  let c1 ← c.skipWhile (· == ' ')
  let c2 ← if ← c1.isAt '#' then c1.skipWhile (fun ch => !isBreak ch) else pure c1
  need (← c2.endsOr 0 isBreak)
  return (← c2.takeBreak).2

/-- The empty lines before the first line of a block scalar, and the greatest column reached. -/
def leadingBreaks (fuel : Nat) (c : Cursor) (breaks : List Char) (deepest : Nat) :
    Except Fault (List Char × Nat × Cursor) :=
  match fuel with
  | 0 => .ok (breaks, deepest, c)
  | fuel + 1 => do
    match ← c.peek 0 with
    | none => return (breaks, deepest, c)
    | some ' ' =>
      let c' ← c.next
      leadingBreaks fuel c' breaks (max deepest c'.column)
    | some ch =>
      if isBreak ch then
        let (kept, c') ← c.takeBreak
        leadingBreaks fuel c' (breaks ++ kept) deepest
      else return (breaks, deepest, c)

/-- The cursor after the spaces before a column. -/
def indentTo (indent : Nat) (c : Cursor) : Except Fault Cursor :=
  let spaces := (c.rest.takeWhile (· == ' ')).length
  c.forward (min spaces (indent - c.column))

/-- The empty lines inside a block scalar whose lines stand at a column. -/
def blockBreaks (fuel indent : Nat) (c : Cursor) (breaks : List Char) :
    Except Fault (List Char × Cursor) :=
  match fuel with
  | 0 => .ok (breaks, c)
  | fuel + 1 => do
    let c1 ← indentTo indent c
    match ← c1.takeBreak with
    | ([], _) => return (breaks, c1)
    | (kept, c2) => blockBreaks fuel indent c2 (breaks ++ kept)

/-- Whether a line of a block scalar whose lines stand at a column starts here. -/
def startsLine (indent : Nat) (c : Cursor) : Except Fault Bool :=
  if c.column == indent then (c.peek 0).map Option.isSome else .ok false

/-- The lines of a block scalar that stand at a column; `breaks` holds the empty lines before. -/
def blockLines (fuel : Nat) (folded : Bool) (chomping : Chomping) (indent : Nat)
    (text breaks : List Char) (c : Cursor) : Except Fault Scanned :=
  match fuel with
  | 0 => .ok (.ofChars text c)
  | fuel + 1 => do
    if ← startsLine indent c then
      let leading := !(← c.endsOr 0 isGap)
      let (line, c1) ← c.takeWhile (fun ch => !isBreak ch)
      let (lineBreak, c2) ← c1.takeBreak
      let (breaks', c3) ← blockBreaks (c2.rest.length + 1) indent c2 []
      let text' := text ++ breaks ++ line
      if ← startsLine indent c3 then
        let joint :=
          if folded && lineBreak == ['\n'] && leading && !(← c3.endsOr 0 isGap) then
            if breaks'.isEmpty then [' '] else []
          else lineBreak
        blockLines fuel folded chomping indent (text' ++ joint) breaks' c3
      else
        return .ofChars (text' ++ (if chomping = .strip then [] else lineBreak) ++
          (if chomping = .keep then breaks' else [])) c3
    else return .ofChars (text ++ (if chomping = .keep then breaks else [])) c

/-- A block scalar, from its sign on, inside lines that stand at a column. -/
def block (folded : Bool) (outer : Int) (c : Cursor) : Except Fault Scanned := do
  let (chomping, increment, c1) ← blockMarks (← c.next)
  let c2 ← afterComment c1
  let least := (max (outer + 1) 1).toNat
  match increment with
  | some n =>
    let indent := least + n - 1
    let (breaks, c3) ← blockBreaks (c2.rest.length + 1) indent c2 []
    blockLines (c3.rest.length + 1) folded chomping indent [] breaks c3
  | none =>
    let (breaks, deepest, c3) ← leadingBreaks (c2.rest.length + 1) c2 [] 0
    blockLines (c3.rest.length + 1) folded chomping (max least deepest) [] breaks c3

end LlmAudit.Yaml
