import LlmAudit.Text.Case
import LlmAudit.Text.Quoted

/-!
# Texts with halves of pairs

Some formats write characters as 16-bit units, and a unit that is one half of a pair may stand alone
there. No character has its code point, but a text may hold it between its characters, and two such
texts differ if they hold different halves. A text is therefore the list of its code points. Most
texts hold characters only, and these are also strings.

## Main definitions

* `Point` — a code point: a character, or half a pair.
* `LooseText` — a text of code points, ordered by them.
* `LooseText.text?`, `LooseText.chars?` — the string of a text, if it holds characters only.
* `LooseText.quoted`, `LooseText.lossy` — the ways to show it.
-/

namespace LlmAudit

/-- A code point of a text. -/
inductive Point where
  /-- A character. -/
  | char (c : Char)
  /-- Half a pair: the 16-bit unit that comes so many after the first of them. -/
  | half (k : Fin 0x800)
  deriving DecidableEq

namespace Point

instance : Coe Char Point := ⟨.char⟩

/-- The first unit that is half a pair. -/
def firstHalf : Nat := 0xD800

/-- The number of a code point. -/
def toNat : Point → Nat
  | .char c => c.toNat
  | .half k => firstHalf + k

/-- The code point of a number. -/
def ofNat (n : Nat) : Point :=
  if h : n.isValidChar then .char (Char.ofNatAux n h) else .half (Fin.ofNat 0x800 (n - firstHalf))

/-- The character, if the code point is one. -/
def char? : Point → Option Char
  | .char c => some c
  | .half _ => none

/-- Whether the code point is a character. -/
def isChar : Point → Bool
  | .char _ => true
  | .half _ => false

end Point

/-- A text in which halves of pairs may stand alone. -/
@[ext]
structure LooseText where
  /-- Its code points. -/
  points : List Point
  deriving DecidableEq

namespace LooseText

/-- The text of some characters. -/
def ofList (cs : List Char) : LooseText :=
  ⟨cs.map .char⟩

/-- The text of a string. -/
def ofString (s : String) : LooseText :=
  ofList s.toList

instance : Coe (List Char) LooseText := ⟨ofList⟩

instance : Coe String LooseText := ⟨ofString⟩

instance : Append LooseText := ⟨fun s t => ⟨s.points ++ t.points⟩⟩

/-- The characters of a text that holds nothing else. -/
def chars? (t : LooseText) : Option (List Char) :=
  t.points.mapM Point.char?

/-- The string of a text that holds characters only. -/
def text? (t : LooseText) : Option String :=
  t.chars?.map String.ofList

/-! ### Order -/

/-- The numbers of the code points. -/
def codes (t : LooseText) : List Nat :=
  t.points.map Point.toNat

instance : LT LooseText := ⟨fun s t => s.codes < t.codes⟩

instance : LE LooseText := ⟨fun s t => ¬ t < s⟩

instance (s t : LooseText) : Decidable (s < t) := List.decidableLT s.codes t.codes

instance (s t : LooseText) : Decidable (s ≤ t) := inferInstanceAs (Decidable (¬ t < s))

/-! ### Parts -/

/-- The empty text. -/
def empty : LooseText := ⟨[]⟩

/-- A text without its first code points. -/
def drop (k : Nat) (t : LooseText) : LooseText :=
  ⟨t.points.drop k⟩

/-- Whether a text starts with characters. -/
def startsWith (t : LooseText) (part : String) : Bool :=
  (ofString part).points.isPrefixOf t.points

/-- A text without a character. -/
def without (c : Char) (t : LooseText) : LooseText :=
  ⟨t.points.filter (· != .char c)⟩

/-- The pieces of code points between separators. -/
def splitPoints (separator : Char) : List Point → List (List Point)
  | [] => [[]]
  | p :: rest =>
    if p = .char separator then [] :: splitPoints separator rest
    else
      match splitPoints separator rest with
      | [] => [[p]]
      | piece :: pieces => (p :: piece) :: pieces

/-- The pieces of a text between separators. -/
def splitOn (separator : Char) (t : LooseText) : List LooseText :=
  (splitPoints separator t.points).map LooseText.mk

/-- A change of characters, done to each run of them between halves, and another one for the run at
the end; `run` is the one that has begun, last character first. -/
def mapRuns (change final : List Char → List Char) (run : List Char) : List Point → List Point
  | [] => (final run.reverse).map .char
  | .char c :: rest => mapRuns change final (c :: run) rest
  | .half k :: rest => (change run.reverse).map .char ++ .half k :: mapRuns change final [] rest

/-- A text in lower case; half a pair ends a word. -/
def lowered (t : LooseText) : LooseText :=
  ⟨mapRuns Text.lower Text.lower [] t.points⟩

/-! ### Showing -/

/-- A code point inside a quoted text. -/
def quotePoint (quote : Char) : Point → List Char
  | .char c => Text.quoteChar quote c
  | p => '\\' :: 'u' :: Text.hexPadded 4 p.toNat

/-- A quoted text, in which half a pair is written by its code point. -/
def quoted (t : LooseText) : String :=
  let holds (c : Char) : Bool := t.points.contains (.char c)
  let quote := if holds '\'' && !holds '"' then '"' else '\''
  String.ofList (quote :: (t.points.flatMap (quotePoint quote) ++ [quote]))

/-- A text in which three replacement characters, one for each byte, stand for half a pair. -/
def lossy (t : LooseText) : String :=
  String.ofList (t.points.flatMap fun p =>
    match p with
    | .char c => [c]
    | .half _ => List.replicate 3 (Char.ofNat 0xFFFD))

end LooseText

end LlmAudit
