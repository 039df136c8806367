import LlmAudit.Yaml.Delivery

/-!
# A place in a YAML text

The rest of a text together with the line and column of its first character, and the character
classes of the format. A byte order mark takes no column.

Looking beyond what a file delivers is a fault. A cursor that moves looks at the character that it
comes to.
-/

namespace LlmAudit.Yaml

/-- A character that ends a line. -/
def isBreak (c : Char) : Bool :=
  c == '\n' || c == '\r' || c.toNat == 0x85 || c.toNat == 0x2028 || c.toNat == 0x2029

/-- A space or a tab. -/
def isGap (c : Char) : Bool :=
  c == ' ' || c == '\t'

/-- A space, a tab or a break. -/
def isSpaceOrBreak (c : Char) : Bool :=
  isGap c || isBreak c

/-- A place in a text. -/
structure Cursor where
  /-- The characters from here on that are delivered. -/
  rest : List Char
  /-- What comes after them. -/
  ending : Except Fault Unit
  /-- The number of characters before. -/
  index : Nat
  /-- The number of lines before. -/
  line : Nat
  /-- The number of columns before on this line. -/
  column : Nat

namespace Cursor

/-- The start of a text. -/
def start (d : Delivery) : Cursor :=
  ⟨d.text, d.ending, 0, 0, 0⟩

/-- The character some places further; none at the end of the text. -/
def peek (c : Cursor) (k : Nat) : Except Fault (Option Char) :=
  match c.rest[k]? with
  | some ch => .ok (some ch)
  | none => c.ending.map fun _ => none

/-- Whether a class holds of a character, the end of the text counting as one. -/
def endOr (p : Char → Bool) : Option Char → Bool
  | none => true
  | some c => p c

/-- Whether a class holds of the character some places further, or the text ends there. -/
def endsOr (c : Cursor) (k : Nat) (p : Char → Bool) : Except Fault Bool :=
  (c.peek k).map (endOr p)

/-- Whether a character stands here. -/
def isAt (c : Cursor) (ch : Char) : Except Fault Bool :=
  (c.peek 0).map (· == some ch)

/-- The cursor after its first character. -/
def step (c : Cursor) : Cursor :=
  match c.rest with
  | [] => c
  | ch :: rest =>
    let ends := isBreak ch && !(ch == '\r' && rest.head? == some '\n')
    { c with
      rest := rest
      index := c.index + 1
      line := if ends then c.line + 1 else c.line
      column :=
        if ends then 0 else if ch.toNat == 0xFEFF then c.column else c.column + 1 }

/-- The cursor after its first characters. -/
def steps (c : Cursor) : Nat → Cursor
  | 0 => c
  | n + 1 => c.step.steps n

/-- Moves some characters further. -/
def forward (c : Cursor) (n : Nat) : Except Fault Cursor :=
  (c.peek n).map fun _ => c.steps n

/-- Moves one character further. -/
def next (c : Cursor) : Except Fault Cursor :=
  c.forward 1

/-- The characters at the front that a class holds of, and the cursor after them. -/
def takeWhile (c : Cursor) (p : Char → Bool) : Except Fault (List Char × Cursor) :=
  let taken := c.rest.takeWhile p
  (c.forward taken.length).map fun c' => (taken, c')

/-- The cursor after the characters that a class holds of. -/
def skipWhile (c : Cursor) (p : Char → Bool) : Except Fault Cursor :=
  (c.takeWhile p).map Prod.snd

/-- The break at the front as it is kept, and the cursor after it: the ordinary breaks are one line
feed, and nothing is kept if no break stands there. -/
def takeBreak (c : Cursor) : Except Fault (List Char × Cursor) := do
  match ← c.peek 0 with
  | none => return ([], c)
  | some '\r' =>
    if (← c.peek 1) == some '\n' then return (['\n'], ← c.forward 2)
    else return (['\n'], ← c.next)
  | some ch =>
    if ch.toNat == 0x2028 || ch.toNat == 0x2029 then return ([ch], ← c.next)
    else if isBreak ch then return (['\n'], ← c.next)
    else return ([], c)

/-- Whether three dashes or three dots stand at the front, with a blank or the end after them. -/
def atDocumentMark (c : Cursor) : Except Fault Bool := do
  let _ ← c.peek 2
  let front := c.rest.take 3
  if front == ['-', '-', '-'] || front == ['.', '.', '.'] then c.endsOr 3 isSpaceOrBreak
  else return false

end Cursor

end LlmAudit.Yaml
