/-!
# Base 64

Bytes written as characters, four of them for three bytes. What is not in the alphabet is passed
over, and enough padding ends the text wherever it stands.

## Main definitions

* `Base64.decode?` — the bytes that a text writes.
-/

namespace LlmAudit.Base64

/-- The value of a character of the alphabet. -/
def valueOf? (c : Char) : Option Nat :=
  if 'A' ≤ c ∧ c ≤ 'Z' then some (c.toNat - 'A'.toNat)
  else if 'a' ≤ c ∧ c ≤ 'z' then some (c.toNat - 'a'.toNat + 26)
  else if '0' ≤ c ∧ c ≤ '9' then some (c.toNat - '0'.toNat + 52)
  else if c = '+' then some 62
  else if c = '/' then some 63
  else none

/-- The bytes of the rest of a text. Of the four characters that belong together, `place` are read,
and `left` holds the bits of the last one that are in no byte yet; `pads` counts the padding since,
and `bytes` holds the bytes so far, last one first. The text must not end inside of four. -/
def decodeFrom (place left pads : Nat) (bytes : List UInt8) : List Char → Option (List UInt8)
  | [] => if place = 0 then some bytes.reverse else none
  | c :: rest =>
    if c = '=' then
      if 2 ≤ place then
        if 4 ≤ place + pads + 1 then some bytes.reverse
        else decodeFrom place left (pads + 1) bytes rest
      else decodeFrom place left pads bytes rest
    else
      match valueOf? c, place with
      | none, _ => decodeFrom place left pads bytes rest
      | some v, 0 => decodeFrom 1 v 0 bytes rest
      | some v, 1 => decodeFrom 2 (v % 16) 0 (UInt8.ofNat (left * 4 + v / 16) :: bytes) rest
      | some v, 2 => decodeFrom 3 (v % 4) 0 (UInt8.ofNat (left * 16 + v / 4) :: bytes) rest
      | some v, _ => decodeFrom 0 0 0 (UInt8.ofNat (left * 64 + v) :: bytes) rest

/-- The bytes that a text writes; none if it ends too early. -/
def decode? (s : List Char) : Option (List UInt8) :=
  decodeFrom 0 0 0 [] s

end LlmAudit.Base64
