import LlmAudit.Proofs.Json.Number

/-!
# The grammar of JSON

Which texts are JSON, said without a reader. `Writes s j` means that the text `s` writes the value
`j`; the fields of an object are kept as they stand there, so that a name can occur more than once,
and `merged` then keeps one field for each name. The grammar is that of the format, with the words
`NaN`, `Infinity` and `-Infinity` for numbers.

What a text writes can be too much for a reader, which then stops in the middle and does not see
what follows. `Overruns bound depth s e` means that a text begins like a value up to a whole number
with too many digits, or up to a bracket inside of `bound` others.

## Main definitions

* `Json.Writes`, `Json.IsText` — a text writes a value, with and without spaces around it.
* `Json.Overruns`, `Json.TextOverruns` — a text runs into a limit.
* `Json.taken`, `Json.ReadsAs` — what a reader is to give for a text.
-/

namespace LlmAudit.Json

/-- There are spaces only. -/
def Spaces (s : List Point) : Prop := ∀ p ∈ s, isSpace p = true

/-! ### Quoted texts -/

/-- What can be spelled inside of quotes. -/
inductive Piece where
  /-- A code point. -/
  | point (p : Point)
  /-- A 16-bit unit, given by its digits. -/
  | unit (n : Nat)

/-- How a code point or a 16-bit unit is spelled. -/
inductive Spells : List Point → Piece → Prop where
  /-- A code point that needs no escape. -/
  | plain {p : Point} : p ≠ .char '"' → p ≠ .char '\\' → 0x20 ≤ p.toNat → Spells [p] (.point p)
  /-- A short escape. -/
  | short {e c : Char} : shortEscape? e = some c →
      Spells [.char '\\', .char e] (.point (.char c))
  /-- Four hexadecimal digits. -/
  | unit {a b c d : Char} {i j k l : Nat} :
      hexDigit? a = some i → hexDigit? b = some j → hexDigit? c = some k → hexDigit? d = some l →
      Spells [.char '\\', .char 'u', .char a, .char b, .char c, .char d]
        (.unit (((i * 16 + j) * 16 + k) * 16 + l))

/-- What stands between two quotes. -/
inductive Quoted : List Point → List Piece → Prop where
  /-- Nothing. -/
  | nil : Quoted [] []
  /-- One more code point or unit. -/
  | cons {s t : List Point} {piece : Piece} {pieces : List Piece} :
      Spells s piece → Quoted t pieces → Quoted (s ++ t) (piece :: pieces)

/-- The code points of what was spelled: two units that are a pair are one code point. -/
def joinPairs : List Piece → List Point
  | [] => []
  | .point p :: rest => p :: joinPairs rest
  | .unit high :: .unit low :: rest =>
    if isPair high low then joined high low :: joinPairs rest
    else .ofNat high :: joinPairs (.unit low :: rest)
  | .unit n :: rest => .ofNat n :: joinPairs rest

/-- The text that was spelled. -/
def spelled (pieces : List Piece) : LooseText :=
  ⟨joinPairs pieces⟩

/-! ### Words and numbers -/

/-- A fraction behind a whole number, or none. -/
inductive Fraction : Option (List Char) → List Char → Prop where
  /-- There is none. -/
  | absent : Fraction none []
  /-- A point and digits. -/
  | present {ds : List Char} : AllDigits ds → ds ≠ [] → Fraction (some ds) ('.' :: ds)

/-- An exponent, or none. -/
inductive Exponent : Option Int → List Char → Prop where
  /-- There is none. -/
  | absent : Exponent none []
  /-- Digits without a sign. -/
  | plain {e : Char} {ds : List Char} : e = 'e' ∨ e = 'E' → AllDigits ds → ds ≠ [] →
      Exponent (some (digitsValue ds)) (e :: ds)
  /-- Digits with a plus sign. -/
  | plus {e : Char} {ds : List Char} : e = 'e' ∨ e = 'E' → AllDigits ds → ds ≠ [] →
      Exponent (some (digitsValue ds)) (e :: '+' :: ds)
  /-- Digits with a minus sign. -/
  | minus {e : Char} {ds : List Char} : e = 'e' ∨ e = 'E' → AllDigits ds → ds ≠ [] →
      Exponent (some (-(digitsValue ds : Int))) (e :: '-' :: ds)

/-- The sign in front of a number. -/
def sign (negative : Bool) : List Char :=
  if negative then ['-'] else []

/-- The number of some digits; with a fraction or an exponent it is the nearest one of the format.
-/
def numberOf (negative : Bool) (whole : List Char) : Option (List Char) → Option Int → Json
  | none, none => .int (if negative then -(digitsValue whole : Int) else digitsValue whole)
  | fraction, exponent =>
    .float (.ofDecimal negative (digitsValue (whole ++ fraction.getD []))
      (exponent.getD 0 - (fraction.getD []).length))

/-- A word or a number. -/
inductive Scalar : List Char → Json → Prop where
  /-- `null`. -/
  | null : Scalar "null".toList .null
  /-- `true`. -/
  | yes : Scalar "true".toList (.bool true)
  /-- `false`. -/
  | no : Scalar "false".toList (.bool false)
  /-- `NaN`. -/
  | nan : Scalar "NaN".toList (.float .nan)
  /-- `Infinity`. -/
  | infinity : Scalar "Infinity".toList (.float (.infinity false))
  /-- `-Infinity`. -/
  | minusInfinity : Scalar "-Infinity".toList (.float (.infinity true))
  /-- A number. -/
  | number {negative : Bool} {whole ft et : List Char} {fraction : Option (List Char)}
      {exponent : Option Int} :
      WholeDigits whole → Fraction fraction ft → Exponent exponent et →
      Scalar (sign negative ++ (whole ++ (ft ++ et))) (numberOf negative whole fraction exponent)

/-! ### Values -/

/-- A value with what stands around it in a list. -/
structure Item where
  /-- The spaces before it. -/
  before : List Point
  /-- Its text. -/
  text : List Point
  /-- The spaces after it. -/
  after : List Point
  /-- The value. -/
  value : Json

/-- The text of an item. -/
def Item.written (i : Item) : List Point :=
  i.before ++ (i.text ++ i.after)

/-- There is nothing but spaces around an item. -/
def Item.Padded (i : Item) : Prop :=
  Spaces i.before ∧ Spaces i.after

/-- A field with what stands around it in an object. -/
structure Member where
  /-- The spaces before its name. -/
  before : List Point
  /-- What stands between the quotes of its name. -/
  name : List Point
  /-- What is spelled there. -/
  pieces : List Piece
  /-- The spaces after its name. -/
  after : List Point
  /-- Its value. -/
  item : Item

/-- The text of a field. -/
def Member.written (m : Member) : List Point :=
  m.before ++ .char '"' :: (m.name ++ .char '"' :: (m.after ++ .char ':' :: m.item.written))

/-- The field. -/
def Member.field (m : Member) : LooseText × Json :=
  (spelled m.pieces, m.item.value)

/-- The name is spelled between its quotes, and there is nothing but spaces around the parts. -/
structure Member.Padded (m : Member) : Prop where
  /-- Spaces stand before the name. -/
  before : Spaces m.before
  /-- The name is spelled. -/
  name : Quoted m.name m.pieces
  /-- Spaces stand after the name. -/
  after : Spaces m.after
  /-- Spaces stand around the value. -/
  item : m.item.Padded

/-- Items with a comma after each. -/
def listed (items : List Item) : List Point :=
  items.flatMap fun i => i.written ++ [.char ',']

/-- Fields with a comma after each. -/
def gathered (members : List Member) : List Point :=
  members.flatMap fun m => m.written ++ [.char ',']

/-- A text writes a value. -/
inductive Writes : List Point → Json → Prop where
  /-- A word or a number. -/
  | scalar {s : List Char} {j : Json} : Scalar s j → Writes (s.map .char) j
  /-- A quoted text. -/
  | text {s : List Point} {pieces : List Piece} : Quoted s pieces →
      Writes (.char '"' :: (s ++ [.char '"'])) (.str (spelled pieces))
  /-- A list without items. -/
  | noItems {s : List Point} : Spaces s → Writes (.char '[' :: (s ++ [.char ']'])) (.list [])
  /-- A list with items. -/
  | items {front : List Item} {last : Item} :
      (∀ i ∈ front ++ [last], i.Padded) → (∀ i ∈ front ++ [last], Writes i.text i.value) →
      Writes (.char '[' :: (listed front ++ (last.written ++ [.char ']'])))
        (.list ((front ++ [last]).map Item.value))
  /-- An object without fields. -/
  | noMembers {s : List Point} : Spaces s →
      Writes (.char '\x7b' :: (s ++ [.char '\x7d'])) (.object [])
  /-- An object with fields. -/
  | members {front : List Member} {last : Member} :
      (∀ m ∈ front ++ [last], m.Padded) →
      (∀ m ∈ front ++ [last], Writes m.item.text m.item.value) →
      Writes (.char '\x7b' :: (gathered front ++ (last.written ++ [.char '\x7d'])))
        (.object ((front ++ [last]).map Member.field))

mutual

/-- The value with one field for each name of an object: the last one counts, at the place of the
first. -/
def merged : Json → Json
  | .list items => .list (mergedItems items)
  | .object fields => .object (mergedFields [] fields)
  | j => j

/-- `merged` of every item. -/
def mergedItems : List Json → List Json
  | [] => []
  | j :: rest => merged j :: mergedItems rest

/-- Fields with some more, `merged` of whose values are put to them. -/
def mergedFields (fields : List (LooseText × Json)) :
    List (LooseText × Json) → List (LooseText × Json)
  | [] => fields
  | (name, j) :: rest => mergedFields (putField fields name (merged j)) rest

end

/-- A whole text is JSON for a value. -/
def IsText (text : LooseText) (j : Json) : Prop :=
  ∃ before s after raw, Spaces before ∧ Spaces after ∧ Writes s raw ∧
    text.points = before ++ (s ++ after) ∧ j = raw.merged

/-! ### Limits -/

/-- A whole number ends before this text: it goes on with no digit, fraction or exponent. -/
structure EndsWhole (rest : List Point) : Prop where
  /-- No digit follows. -/
  digit : ∀ c, rest.head? = some (.char c) → c.isDigit = false
  /-- No fraction follows. -/
  fraction : ∀ {ds ft : List Char} {r : List Point}, Fraction (some ds) ft →
    rest ≠ ft.map .char ++ r
  /-- No exponent follows. -/
  exponent : ∀ {e : Int} {et : List Char} {r : List Point}, Exponent (some e) et →
    rest ≠ et.map .char ++ r

/-- A text, inside of `depth` lists and objects, begins like a value and runs into a limit, where
`bound` lists and objects may stand in each other. -/
inductive Overruns (bound : Nat) : Nat → List Point → Limit → Prop where
  /-- A whole number has too many digits. -/
  | digits {depth : Nat} {negative : Bool} {whole : List Char} {rest : List Point} :
      WholeDigits whole → digitLimit < whole.length → EndsWhole rest →
      Overruns bound depth ((sign negative ++ whole).map .char ++ rest)
        (.tooManyDigits whole.length)
  /-- A list stands too deep. -/
  | list {depth : Nat} {rest : List Point} : bound ≤ depth →
      Overruns bound depth (.char '[' :: rest) .tooDeep
  /-- An object stands too deep. -/
  | object {depth : Nat} {rest : List Point} : bound ≤ depth →
      Overruns bound depth (.char '\x7b' :: rest) .tooDeep
  /-- After some items that are not too much, one runs into a limit. -/
  | item {depth : Nat} {front : List Item} {before rest : List Point} {e : Limit} :
      depth < bound → (∀ i ∈ front, i.Padded) → (∀ i ∈ front, Writes i.text i.value) →
      limitItems? bound (depth + 1) (front.map Item.value) = none →
      Spaces before → Overruns bound (depth + 1) rest e →
      Overruns bound depth (.char '[' :: (listed front ++ (before ++ rest))) e
  /-- After some fields that are not too much, one runs into a limit. -/
  | member {depth : Nat} {front : List Member} {before name after gap rest : List Point}
      {pieces : List Piece} {e : Limit} :
      depth < bound → (∀ m ∈ front, m.Padded) →
      (∀ m ∈ front, Writes m.item.text m.item.value) →
      limitFields? bound (depth + 1) (front.map Member.field) = none →
      Spaces before → Quoted name pieces → Spaces after → Spaces gap →
      Overruns bound (depth + 1) rest e →
      Overruns bound depth (.char '\x7b' :: (gathered front ++
        (before ++ .char '"' :: (name ++ .char '"' :: (after ++ .char ':' :: (gap ++ rest)))))) e

/-- A whole text runs into a limit. -/
def TextOverruns (bound : Nat) (text : LooseText) (e : Limit) : Prop :=
  ∃ before s, Spaces before ∧ text.points = before ++ s ∧ Overruns bound 0 s e

/-! ### Readings -/

/-- How a reader tells what is too much. -/
def Limit.parseError : Limit → ParseError
  | .tooManyDigits count => .tooManyDigits count
  | .tooDeep => .tooDeep

/-- What a reader takes for a value that a text writes: the value with one field for each name and
the rest of the text, or the limit that the value runs into. -/
def taken {α : Type} (bound depth : Nat) (raw : Json) (rest : α) : Except ParseError (Json × α) :=
  (raw.limit? bound depth).elim (.ok (raw.merged, rest)) fun e => .error e.parseError

/-- What is read at the front of a text, inside of `depth` lists and objects, is what stands there:
a value that the text writes, or a limit that it runs into. -/
def ReadsAs (bound depth : Nat) (s : List Point)
    (result : Except ParseError (Json × List Point)) : Prop :=
  result = .error .malformed ∨
    (∃ p raw rest, s = p ++ rest ∧ Writes p raw ∧ raw.limit? bound depth = none ∧
      result = .ok (raw.merged, rest)) ∨
    ∃ e, Overruns bound depth s e ∧ result = .error e.parseError

end LlmAudit.Json
