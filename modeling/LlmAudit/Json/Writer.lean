import LlmAudit.Json.Basic

/-!
# Writing JSON

The text of a JSON value on lines of its own, each level two blanks further in. A list or an object
without members is written as a pair of brackets. Two alphabets are in use: one writes characters
and halves of pairs as they are, the other escapes all but the printable ASCII characters.

## Main definitions

* `Json.write` — the text of a value.
* `Json.asciiText` — the text in the ASCII alphabet.
* `Json.canonical` — the text with sorted fields and a line feed at the end.
-/

namespace LlmAudit.Json

/-- Which code points of a text are escaped, beside the quote, the backslash and the controls. -/
inductive Alphabet where
  /-- None: every other one is written as it is. -/
  | unicode
  /-- All that are not printable ASCII. -/
  | ascii
  deriving DecidableEq

/-- Four hexadecimal digits. -/
def hexFour (n : Nat) : List Char :=
  let digits := Nat.toDigits 16 n
  List.replicate (4 - digits.length) '0' ++ digits

/-- The escape of a 16-bit unit. -/
def escapeUnit (n : Nat) : List Char :=
  '\\' :: 'u' :: hexFour n

/-- The escape of a code point: a pair of units from U+10000 on. -/
def escapePoint (n : Nat) : List Char :=
  if n < 0x10000 then escapeUnit n
  else escapeUnit (0xD800 + (n - 0x10000) / 0x400) ++ escapeUnit (0xDC00 + (n - 0x10000) % 0x400)

/-- A character inside a quoted text. -/
def writeChar (alphabet : Alphabet) (c : Char) : List Char :=
  if c = '"' then ['\\', '"']
  else if c = '\\' then ['\\', '\\']
  else if c = '\n' then ['\\', 'n']
  else if c = '\r' then ['\\', 'r']
  else if c = '\t' then ['\\', 't']
  else if c.toNat = 0x0C then ['\\', 'f']
  else if c.toNat = 0x08 then ['\\', 'b']
  else if c.toNat < 0x20 then escapeUnit c.toNat
  else if alphabet = .ascii ∧ 0x7E < c.toNat then escapePoint c.toNat
  else [c]

/-- A code point inside a quoted text. -/
def writePoint (alphabet : Alphabet) : Point → List Point
  | .char c => (writeChar alphabet c).map .char
  | .half k => if alphabet = .ascii then (escapeUnit (Point.half k).toNat).map .char else [.half k]

/-- A quoted text. -/
def writeText (alphabet : Alphabet) (t : LooseText) : List Point :=
  .char '"' :: (t.points.flatMap (writePoint alphabet) ++ [.char '"'])

/-- A whole number. -/
def writeInt (n : Int) : List Char :=
  (renderInt n).toList

/-- A number with the fewest digits. -/
def writeFloat (x : Binary64) : List Char :=
  (x.renderWith ⟨"NaN", "Infinity"⟩).toList

/-- A line feed and the margin of a depth. -/
def newLine (depth : Nat) : List Point :=
  .char '\n' :: List.replicate (2 * depth) (.char ' ')

mutual

/-- The text of a value whose first line stands at the given depth. -/
def write (alphabet : Alphabet) (depth : Nat) : Json → List Point
  | .null => "null".toList.map .char
  | .bool true => "true".toList.map .char
  | .bool false => "false".toList.map .char
  | .int n => (writeInt n).map .char
  | .float x => (writeFloat x).map .char
  | .str t => writeText alphabet t
  | .list [] => [.char '[', .char ']']
  | .list (j :: rest) =>
    .char '[' :: (newLine (depth + 1) ++ write alphabet (depth + 1) j ++
      writeItems alphabet (depth + 1) rest ++ newLine depth ++ [.char ']'])
  | .object [] => [.char '\x7b', .char '\x7d']
  | .object ((name, j) :: rest) =>
    .char '\x7b' :: (newLine (depth + 1) ++ writeText alphabet name ++ [.char ':', .char ' '] ++
      write alphabet (depth + 1) j ++ writeFields alphabet (depth + 1) rest ++
      newLine depth ++ [.char '\x7d'])

/-- The items after the first one. -/
def writeItems (alphabet : Alphabet) (depth : Nat) : List Json → List Point
  | [] => []
  | j :: rest =>
    .char ',' :: (newLine depth ++ write alphabet depth j ++ writeItems alphabet depth rest)

/-- The fields after the first one. -/
def writeFields (alphabet : Alphabet) (depth : Nat) : List (LooseText × Json) → List Point
  | [] => []
  | (name, j) :: rest =>
    .char ',' :: (newLine depth ++ writeText alphabet name ++ [.char ':', .char ' '] ++
      write alphabet depth j ++ writeFields alphabet depth rest)

end

/-- The text of a value in the ASCII alphabet, in which there are characters only. -/
def asciiText (j : Json) : List Char :=
  (write .ascii 0 j).filterMap Point.char?

/-- The canonical text: fields in increasing order of their names, code points as they are, and one
line feed at the end. There is none if something in the value is too much. -/
def canonical (bound : Nat) (j : Json) : Except Limit LooseText :=
  match j.sortFields.limit? bound 0 with
  | some e => .error e
  | none => .ok ⟨write .unicode 0 j.sortFields ++ [.char '\n']⟩

end LlmAudit.Json
