import LlmAudit.Number.Binary64
import LlmAudit.Text.Lines
import LlmAudit.Text.Utf8

/-!
# Texts in parts

A long text is read part by part. Its bytes are taken in chunks and decoded chunk by chunk, so what
is wrong with the bytes of a chunk is seen when the first character of the chunk is asked for, and
not before. A chunk is large enough for the characters that are wanted if they take as many bytes as
those of the chunk before. A character whose bytes are divided between two chunks belongs to the
second one, and so does a carriage return at the end of a chunk, since a line feed may follow it.

## Main definitions

* `TextStream` — a text that is read in parts.
* `TextStream.read` — its next characters.
-/

namespace LlmAudit

/-- A text that is read in parts. -/
structure TextStream where
  /-- The bytes that are not read yet. -/
  bytes : List UInt8
  /-- The bytes of a character that has begun. -/
  begun : List UInt8
  /-- Whether a carriage return is held back. -/
  returned : Bool
  /-- The bytes for each character of the last chunk. -/
  ratio : Binary64
  /-- The characters that are decoded and not taken yet. -/
  ready : List Char

namespace TextStream

/-- The text of some bytes, of which nothing is read. -/
def ofBytes (bytes : List UInt8) : TextStream :=
  ⟨bytes, [], false, .zero, []⟩

/-- The least number of bytes in a chunk that is not the last one. -/
def chunkSize : Nat := 8192

/-- The number of bytes to read for some characters. -/
def sizeFor (ratio : Binary64) (wanted : Nat) : Nat :=
  let bytes := (ratio.greatest .one).mul (.ofInt wanted)
  max chunkSize ((bytes.units?.getD 0).toNat / Binary64.unitsPerOne)

/-- Characters as they are delivered, with every break a line feed, and whether a carriage return at
their end is held back; `returned` tells whether one was held back before them. -/
def unify (final returned : Bool) (chars : List Char) : List Char × Bool :=
  let all := if returned && (final || !chars.isEmpty) then '\r' :: chars else chars
  if !final && all.getLast? == some '\r' then (Text.unifyBreaks all.dropLast, true)
  else (Text.unifyBreaks all, returned && !final && chars.isEmpty)

/-- The stream after one more chunk for some characters, and whether it was at its end. -/
def readChunk (s : TextStream) (wanted : Nat) : Except Utf8.DecodeError (Bool × TextStream) := do
  let size := sizeFor s.ratio wanted
  let chunk := s.bytes.take size
  let final := chunk.isEmpty
  let (chars, begun) ←
    if final then (Utf8.decode s.begun).map fun text => (text, [])
    else Utf8.decodePart (s.begun ++ chunk)
  let (ready, returned) := unify final s.returned chars
  let ratio := if ready.isEmpty then .zero else .ofRatio false chunk.length ready.length
  return (final && ready.isEmpty, ⟨s.bytes.drop size, begun, returned, ratio, ready⟩)

/-- The next characters after some that are taken already, and the stream after them. The bound is
on the number of chunks. -/
def readFrom (fuel wanted : Nat) (taken : List Char) (s : TextStream) :
    Except Utf8.DecodeError (List Char × TextStream) :=
  let part := s.ready.take wanted
  let rest := { s with ready := s.ready.drop wanted }
  match fuel with
  | 0 => .ok (taken ++ part, rest)
  | fuel + 1 =>
    if wanted ≤ part.length then .ok (taken ++ part, rest)
    else do
      let (ended, s') ← rest.readChunk (wanted - part.length)
      if ended then return (taken ++ part, s')
      else readFrom fuel (wanted - part.length) (taken ++ part) s'

/-- The next characters of a stream, so many unless it ends before, and the stream after them. -/
def read (s : TextStream) (wanted : Nat) : Except Utf8.DecodeError (List Char × TextStream) :=
  readFrom (s.bytes.length + 3) wanted [] s

end TextStream

end LlmAudit
