/-!
# UTF-8

Reading bytes as text. A character starts with a byte that says how many bytes follow and between
which bounds the first of them lies; the others lie between `80` and `BF`. Where the bytes stop
following this form, the longest part that still does is one ill-formed sequence. A lossy reading
puts one replacement character for each such sequence; a strict reading stops at the first one and
says where it is and what is wrong with it.

## Main definitions

* `Utf8.decodeLossy` — every byte sequence as text.
* `Utf8.decode` — well-formed byte sequences as text, or the first fault.
* `Utf8.decodePart` — bytes that go on as text.
* `Utf8.encode` — text as bytes.
-/

namespace LlmAudit.Utf8

/-- What is wrong with an ill-formed sequence. -/
inductive Fault where
  /-- No character starts with its first byte. -/
  | badStart
  /-- The byte after it does not continue the character. -/
  | badContinuation
  /-- The bytes end inside the character. -/
  | truncated
  deriving DecidableEq

/-- The form of the bytes after a lead byte: their number, the bounds of the first of them, and
the bits of the code point that the lead byte holds. -/
structure Lead where
  /-- The number of bytes that follow. -/
  count : Nat
  /-- The least byte that may follow. -/
  low : Nat
  /-- The greatest byte that may follow. -/
  high : Nat
  /-- The bits that the lead byte contributes. -/
  bits : Nat

/-- The form of a character that starts with byte `b`; none if no character does. -/
def lead? (b : Nat) : Option Lead :=
  if b ≤ 0x7F then some ⟨0, 0x80, 0xBF, b⟩
  else if b < 0xC2 then none
  else if b ≤ 0xDF then some ⟨1, 0x80, 0xBF, b - 0xC0⟩
  else if b = 0xE0 then some ⟨2, 0xA0, 0xBF, b - 0xE0⟩
  else if b = 0xED then some ⟨2, 0x80, 0x9F, b - 0xE0⟩
  else if b ≤ 0xEF then some ⟨2, 0x80, 0xBF, b - 0xE0⟩
  else if b = 0xF0 then some ⟨3, 0x90, 0xBF, b - 0xF0⟩
  else if b ≤ 0xF3 then some ⟨3, 0x80, 0xBF, b - 0xF0⟩
  else if b = 0xF4 then some ⟨3, 0x80, 0x8F, b - 0xF0⟩
  else none

/-- The first sequence of some bytes: a character or a fault, with the number of bytes it takes
after the lead byte. -/
structure Sequence where
  /-- The character, or what is wrong. -/
  content : Except Fault Char
  /-- The number of bytes after the first one. -/
  extra : Nat

/-- Reads the bytes that continue a character: `count` of them are owed, the next one lies between
`low` and `high`, `bits` holds the code point so far and `taken` the bytes read. -/
def follow (count low high bits taken : Nat) (bytes : List UInt8) : Sequence :=
  match count, bytes with
  | 0, _ => ⟨.ok (Char.ofNat bits), taken⟩
  | _ + 1, [] => ⟨.error .truncated, taken⟩
  | n + 1, b :: rest =>
    if low ≤ b.toNat ∧ b.toNat ≤ high then
      follow n 0x80 0xBF (bits * 64 + (b.toNat - 0x80)) (taken + 1) rest
    else ⟨.error .badContinuation, taken⟩

/-- The sequence that starts with byte `b`. -/
def sequence (b : UInt8) (rest : List UInt8) : Sequence :=
  match lead? b.toNat with
  | none => ⟨.error .badStart, 0⟩
  | some form => follow form.count form.low form.high form.bits 0 rest

/-- Text with one replacement character for each ill-formed sequence. -/
def decodeLossy : List UInt8 → List Char
  | [] => []
  | b :: rest =>
    let s := sequence b rest
    let c := match s.content with
      | .ok c => c
      | .error _ => Char.ofNat 0xFFFD
    c :: decodeLossy (rest.drop s.extra)
termination_by bytes => bytes.length
decreasing_by simp only [List.length_drop, List.length_cons]; omega

/-- The first ill-formed sequence of some bytes. -/
structure DecodeError where
  /-- What is wrong. -/
  fault : Fault
  /-- The bytes before the sequence. -/
  position : Nat
  /-- The bytes of the sequence. -/
  bytes : List UInt8
  deriving DecidableEq

/-- Strict reading of the rest of some bytes, `position` of which are read; `text` holds the
characters so far, last one first. -/
def decodeFrom (position : Nat) (text : List Char) : List UInt8 → Except DecodeError (List Char)
  | [] => .ok text.reverse
  | b :: rest =>
    let s := sequence b rest
    match s.content with
    | .ok c => decodeFrom (position + 1 + s.extra) (c :: text) (rest.drop s.extra)
    | .error fault => .error ⟨fault, position, b :: rest.take s.extra⟩
termination_by bytes => bytes.length
decreasing_by simp only [List.length_drop, List.length_cons]; omega

/-- The text of well-formed bytes, or the first fault. -/
def decode (bytes : List UInt8) : Except DecodeError (List Char) :=
  decodeFrom 0 [] bytes

/-- The text of bytes that go on, and the bytes at their end that start a character; or the first
fault. -/
def decodePart (bytes : List UInt8) : Except DecodeError (List Char × List UInt8) :=
  match decode bytes with
  | .ok text => .ok (text, [])
  | .error e =>
    if e.fault = .truncated then (decode (bytes.take e.position)).map fun text => (text, e.bytes)
    else .error e

/-- The bytes of a text. -/
def encode (s : List Char) : List UInt8 :=
  s.flatMap String.utf8EncodeChar

/-- The bytes of a string. -/
def bytesOf (s : String) : List UInt8 :=
  s.toUTF8.toList

/-- Two hexadecimal digits of a byte. -/
def hexByte (b : UInt8) : String :=
  let digits := Nat.toDigits 16 b.toNat
  String.ofList (if digits.length < 2 then '0' :: digits else digits)

/-- What is wrong, in words. -/
def Fault.describe : Fault → String
  | .badStart => "invalid start byte"
  | .badContinuation => "invalid continuation byte"
  | .truncated => "unexpected end of data"

/-- The message for a fault at a position. -/
def DecodeError.messageAt (e : DecodeError) (position : Nat) : String :=
  match e.bytes with
  | [b] => s!"'utf-8' codec can't decode byte 0x{hexByte b} in position {position}: {e.fault.describe}"
  | _ =>
    let last := position + e.bytes.length - 1
    s!"'utf-8' codec can't decode bytes in position {position}-{last}: {e.fault.describe}"

end LlmAudit.Utf8
