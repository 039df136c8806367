import LlmAudit.Text.Stream
import LlmAudit.Yaml.Fault

/-!
# What a YAML file delivers

A file is read block by block, and only as far as its text is looked at. A block is refused as a
whole if its bytes are no text or if it holds a character that no text may hold. So a file delivers
the characters of the blocks before the first refused one; whoever looks further meets the fault.

## Main definitions

* `Delivery` — the characters that can be looked at, and what comes after them.
* `Delivery.ofBytes` — what a file delivers.
-/

namespace LlmAudit.Yaml

/-- A character that a text may hold. -/
def isAllowed (c : Char) : Bool :=
  let n := c.toNat
  decide (n = 0x09 ∨ n = 0x0A ∨ n = 0x0D ∨ (0x20 ≤ n ∧ n ≤ 0x7E) ∨ n = 0x85 ∨
    (0xA0 ≤ n ∧ n ≤ 0xFFFD) ∨ 0x10000 ≤ n)

/-- What is delivered of a text. -/
structure Delivery where
  /-- The characters that can be looked at. -/
  text : List Char
  /-- What comes after them: the end of the text, or a fault. -/
  ending : Except Fault Unit

namespace Delivery

/-- The number of characters in a block. -/
def blockSize : Nat := 4096

/-- The next block of a stream, as it is read. -/
def readBlock (s : TextStream) : Except Fault (List Char × TextStream) :=
  match s.read blockSize with
  | .ok block => .ok block
  | .error e => .error (.undecodable e)

/-- The first block of a stream. More of it is read before it is looked at: twice as much, unless
the stream ends at once. -/
def readFirst (s : TextStream) : Except Fault (List Char × TextStream) := do
  let (first, s') ← readBlock s
  if first.length < 2 then return (first, s')
  else
    let (second, s'') ← readBlock s'
    return (first ++ second, s'')

/-- A block in which all characters are allowed. -/
def check (block : List Char) : Except Fault Unit :=
  if block.all isAllowed then .ok () else .error .malformed

/-- What is delivered after some characters, of which the next block is read by `read`. The bound is
on the number of blocks. -/
def after (fuel : Nat) (text : List Char) (read : Except Fault (List Char × TextStream)) :
    Delivery :=
  match fuel, read with
  | 0, _ => ⟨text, .ok ()⟩
  | _, .error fault => ⟨text, .error fault⟩
  | fuel + 1, .ok (block, s) =>
    match check block with
    | .error fault => ⟨text, .error fault⟩
    | .ok () =>
      if block.isEmpty then ⟨text, .ok ()⟩ else after fuel (text ++ block) (readBlock s)

/-- What a file delivers. -/
def ofBytes (bytes : List UInt8) : Delivery :=
  after (bytes.length + 2) [] (readFirst (.ofBytes bytes))

end Delivery

end LlmAudit.Yaml
