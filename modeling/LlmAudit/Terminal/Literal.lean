import LlmAudit.Number.Decimal
import LlmAudit.Text.Search
import LlmAudit.Text.Word

/-!
# Literal arguments

The arguments that a tag may give to a handler are literals: numbers, texts, the names of a few
constants, and tuples, sets and mappings of literals. A number may have a sign, and an imaginary
number may be added to a real one. Only whether a text is a literal matters here; of the value, what
matters for that is kept.

The functions that read literals pass a bound on the number of steps down, for which twice the
length of the text is enough.

## Main definitions

* `Literal.Shape` — what matters of a literal.
* `isLiteral` — whether a text is a literal.
-/

namespace LlmAudit.Literal

/-- The kinds of numbers. -/
inductive Amount where
  /-- A whole number. -/
  | whole (n : Nat)
  /-- A number with a fraction or an exponent. -/
  | real
  /-- An imaginary number. -/
  | imaginary
  deriving DecidableEq

/-- What matters of a literal. -/
inductive Shape where
  /-- A number without a sign. -/
  | number (a : Amount)
  /-- A number with a sign. -/
  | signed (a : Amount)
  /-- Anything else, and whether it can be a key. -/
  | other (key : Bool)
  deriving DecidableEq

/-- Whether a literal can be a key or the member of a set. -/
def Shape.isKey : Shape → Bool
  | .other key => key
  | _ => true

/-- The sign of a literal, which must be a number without one. -/
def Shape.withSign? : Shape → Option Shape
  | .number a => some (.signed a)
  | _ => none

/-- The amount of a number, with a sign or without. -/
def Shape.amount? : Shape → Option Amount
  | .number a => some a
  | .signed a => some a
  | .other _ => none

/-- The sum or the difference of two literals: a real number, which must not be too large, and an
imaginary one without a sign. -/
def Shape.plus? (left right : Shape) : Option Shape :=
  match left.amount?, right with
  | some .real, .number .imaginary => some (.other true)
  | some (.whole n), .number .imaginary => (Binary64.ofInt n).units?.map fun _ => .other true
  | _, _ => none

/-! ### Gaps -/

/-- The text without the gap at its front. Inside brackets a gap may hold line breaks; a comment
goes up to the end of its line, and a backslash takes back the break after it. -/
def skipGap (inside : Bool) (s : List Char) : List Char :=
  go false s
where
  /-- The text without the rest of a gap, or of a comment in it. -/
  go (comment : Bool) : List Char → List Char
    | [] => []
    | '\n' :: rest => if inside then go false rest else '\n' :: rest
    | '\\' :: '\n' :: rest => if comment then go false ('\n' :: rest) else go false rest
    | c :: rest =>
      if comment then go true rest
      else if c = ' ' ∨ c = '\t' ∨ c = '\x0c' then go false rest
      else if c = '#' then go true rest
      else c :: rest
  termination_by s => s.length

/-- Whether a line holds nothing but a comment. -/
def isComment (line : List Char) : Bool :=
  match line.dropWhile fun c => c == ' ' || c == '\t' || c == '\x0c' with
  | [] => true
  | c :: _ => c == '#'

/-- A text without the comments before its first line; that line must not be set in after them. -/
def afterComments? (s : List Char) : Option (List Char) :=
  let all := Text.splitAt '\n' s
  let rest := all.dropWhile isComment
  let isIndented : Bool := match rest with
    | (c :: _) :: _ => c == ' ' || c == '\t'
    | _ => false
  if rest.length < all.length ∧ isIndented then none else some (['\n'].intercalate rest)

/-- Line breaks as line feeds. -/
def unifyLines : List Char → List Char
  | '\r' :: '\n' :: rest => '\n' :: unifyLines rest
  | '\r' :: rest => '\n' :: unifyLines rest
  | c :: rest => c :: unifyLines rest
  | [] => []

/-! ### Numbers -/

/-- Whether a character may be part of a digit string in a base. -/
def isDigitIn (base : Nat) (c : Char) : Bool :=
  if base = 16 then c.isDigit || decide ('a' ≤ c ∧ c ≤ 'f') || decide ('A' ≤ c ∧ c ≤ 'F')
  else c.isDigit && decide (c.toNat - '0'.toNat < base)

/-- Further digits with single underscores between them, and the text after them; `after` says
whether a digit came before. -/
def groupedFrom (base : Nat) (after : Bool) : List Char → List Char × List Char
  | [] => ([], [])
  | c :: rest =>
    if isDigitIn base c then
      let (digits, left) := groupedFrom base true rest
      (c :: digits, left)
    else if c = '_' ∧ after ∧ rest.head?.any (isDigitIn base) then groupedFrom base false rest
    else ([], c :: rest)

/-- Digits with single underscores between them, and the text after them; the digits are none if
the text does not start with one. -/
def takeGrouped (base : Nat) (s : List Char) : List Char × List Char :=
  groupedFrom base false s

/-- The value of a digit. -/
def digitValue (c : Char) : Nat :=
  if c.isDigit then c.toNat - '0'.toNat
  else if 'a' ≤ c then c.toNat - 'a'.toNat + 10
  else c.toNat - 'A'.toNat + 10

/-- The number that digits write in a base. -/
def valueIn (base : Nat) (digits : List Char) : Nat :=
  digits.foldl (fun n c => n * base + digitValue c) 0

/-- The base that a letter after a zero marks. -/
def markedBase? (c : Char) : Option Nat :=
  match c with
  | 'x' => some 16
  | 'X' => some 16
  | 'o' => some 8
  | 'O' => some 8
  | 'b' => some 2
  | 'B' => some 2
  | _ => none

/-- Whether nothing that belongs to a word stands at the front of a text. -/
def endsWord (s : List Char) : Bool :=
  match s with
  | c :: _ => !Text.isWordChar c
  | [] => true

/-- A number in a marked base, from the digits on; one underscore may come first. -/
def marked? (base : Nat) (s : List Char) : Option (Amount × List Char) :=
  let (digits, rest) := takeGrouped base (if s.head? = some '_' then s.drop 1 else s)
  if digits.isEmpty then none else some (.whole (valueIn base digits), rest)

/-- The text after an exponent, if there is one. -/
def exponent? (s : List Char) : Option (List Char) :=
  match s with
  | e :: rest =>
    if e = 'e' ∨ e = 'E' then
      let unsigned := match rest with
        | '+' :: r => r
        | '-' :: r => r
        | r => r
      let (digits, after) := takeGrouped 10 unsigned
      if digits.isEmpty then none else some after
    else none
  | [] => none

/-- A whole number of decimal digits: a leading zero needs all digits to be zeros, and their number
is limited. -/
def wholeOf? (digits : List Char) : Option Amount :=
  if digits.head? = some '0' ∧ ¬digits.all (· == '0') then none
  else if digitLimit < digits.length then none
  else some (.whole (valueIn 10 digits))

/-- A decimal number. -/
def decimal? (s : List Char) : Option (Amount × List Char) :=
  let (whole, afterWhole) := takeGrouped 10 s
  let (pointed, fraction, afterPoint) := match afterWhole with
    | '.' :: rest =>
      let (digits, after) := takeGrouped 10 rest
      (true, digits, after)
    | _ => (false, [], afterWhole)
  if whole.isEmpty ∧ fraction.isEmpty then none
  else
    let (raised, afterPower) := match exponent? afterPoint with
      | some after => (true, after)
      | none => (false, afterPoint)
    match afterPower with
    | 'j' :: rest => some (.imaginary, rest)
    | 'J' :: rest => some (.imaginary, rest)
    | rest =>
      if pointed || raised then some (.real, rest) else (wholeOf? whole).map fun a => (a, rest)

/-- The number at the front of a text; no word follows it directly. -/
def number? (s : List Char) : Option (Amount × List Char) :=
  let found := match s with
    | '0' :: m :: rest =>
      match markedBase? m with
      | some base => marked? base rest
      | none => decimal? s
    | _ => decimal? s
  found.filter fun f => endsWord f.2

/-! ### Texts -/

/-- A way to write a text. -/
structure TextForm where
  /-- Whether it stands for bytes. -/
  bytes : Bool
  /-- Whether backslashes are kept. -/
  raw : Bool
  /-- Its quote. -/
  quote : Char
  /-- Whether it has three quotes at either end. -/
  triple : Bool

/-- The letters that say how a text is written, and the text from its first quote on. -/
def textLetters : List Char → List Char × List Char
  | a :: b :: rest =>
    if a = '"' ∨ a = '\'' then ([], a :: b :: rest)
    else if b = '"' ∨ b = '\'' then ([a.toLower], b :: rest)
    else ([a.toLower, b.toLower], rest)
  | s => ([], s)

/-- How the text at the front is written, and what follows its opening quotes. -/
def textForm? (s : List Char) : Option (TextForm × List Char) := do
  let (letters, rest) := textLetters s
  let quote ← rest.head?
  let forms : List (List Char) :=
    [[], ['r'], ['u'], ['b'], ['b', 'r'], ['r', 'b']]
  if (quote = '"' ∨ quote = '\'') ∧ letters ∈ forms then
    let triple := rest.take 3 == [quote, quote, quote]
    some (⟨letters.contains 'b', letters.contains 'r', quote, triple⟩,
      rest.drop (if triple then 3 else 1))
  else none

/-- Whether some hexadecimal digits stand at the front of a text. -/
def startsHex (count : Nat) (s : List Char) : Bool :=
  decide ((s.take count).length = count) && (s.take count).all (isDigitIn 16)

/-- Whether a name between braces stands at the front of a text. -/
def startsName (s : List Char) : Bool :=
  let isNameChar (c : Char) : Bool := c.isAlphanum || c == ' ' || c == '-'
  match s with
  | c :: rest =>
    c == '\x7b' && !(rest.takeWhile isNameChar).isEmpty &&
      (rest.dropWhile isNameChar).head? == some '\x7d'
  | [] => false

/-- Whether an escape is well written, given the text after its backslash. -/
def isEscape (bytes : Bool) (s : List Char) : Bool :=
  match s with
  | 'x' :: rest => startsHex 2 rest
  | 'u' :: rest => bytes || startsHex 4 rest
  | 'U' :: rest =>
    bytes || (startsHex 8 rest && decide (valueIn 16 (rest.take 8) ≤ 0x10FFFF))
  | 'N' :: rest => bytes || startsName rest
  | _ => true

/-- The text after the closing quotes of a text. -/
def textBody? (form : TextForm) : List Char → Option (List Char)
  | [] => none
  | '\\' :: c :: rest =>
    if form.bytes && decide (0x80 ≤ c.toNat) then none
    else if form.raw || isEscape form.bytes (c :: rest) then textBody? form rest
    else none
  | c :: rest =>
    if c = form.quote then
      if form.triple then
        if rest.take 2 == [c, c] then some (rest.drop 2) else textBody? form rest
      else some rest
    else if c = '\n' ∧ ¬form.triple then none
    else if form.bytes && decide (0x80 ≤ c.toNat) then none
    else textBody? form rest

/-- The text at the front, whether it stands for bytes, and what follows it. -/
def text? (s : List Char) : Option (Bool × List Char) := do
  let (form, rest) ← textForm? s
  let after ← textBody? form rest
  some (form.bytes, after)

/-- What follows further texts, which are joined to one before them and are of its kind. -/
def joinedTexts? (fuel : Nat) (inside bytes : Bool) (s : List Char) : Option (List Char) :=
  match fuel with
  | 0 => none
  | fuel + 1 =>
    match text? (skipGap inside s) with
    | some (kind, rest) => if kind = bytes then joinedTexts? fuel inside bytes rest else none
    | none => if (textForm? (skipGap inside s)).isSome then none else some s

/-! ### Literals -/

/-- The text after a word at its front. -/
def afterWord? (word : String) (s : List Char) : Option (List Char) :=
  if word.toList.isPrefixOf s ∧ endsWord (s.drop word.length) then some (s.drop word.length)
  else none

/-- The text after the empty set, which is written as a call. -/
def emptySet? (inside : Bool) (s : List Char) : Option (List Char) := do
  let rest ← afterWord? "set" s
  match skipGap inside rest with
  | '(' :: more =>
    match skipGap true more with
    | ')' :: after => some after
    | _ => none
  | _ => none

/-- A constant or the empty set. -/
def named? (inside : Bool) (s : List Char) : Option (Shape × List Char) :=
  match ["True", "False", "None"].findSome? fun w => afterWord? w s with
  | some rest => some (.other true, rest)
  | none => (emptySet? inside s).map fun rest => (.other false, rest)

/-- The greatest depth of brackets. -/
def depthLimit : Nat := 200

mutual

/-- The literal at the front of a text, inside so many brackets. -/
def literal? (fuel depth : Nat) (s : List Char) : Option (Shape × List Char) :=
  match fuel with
  | 0 => none
  | fuel + 1 => do
    let inside := decide (0 < depth)
    let s := skipGap inside s
    let (left, rest) ←
      match s with
      | '+' :: r => (atom? fuel depth r).bind fun a => a.1.withSign?.map fun x => (x, a.2)
      | '-' :: r => (atom? fuel depth r).bind fun a => a.1.withSign?.map fun x => (x, a.2)
      | _ => atom? fuel depth s
    match skipGap inside rest with
    | '+' :: r => (atom? fuel depth r).bind fun a => (left.plus? a.1).map fun x => (x, a.2)
    | '-' :: r => (atom? fuel depth r).bind fun a => (left.plus? a.1).map fun x => (x, a.2)
    | rest' => some (left, rest')

/-- The literal without a sign at the front of a text. -/
def atom? (fuel depth : Nat) (s : List Char) : Option (Shape × List Char) :=
  match fuel with
  | 0 => none
  | fuel + 1 =>
    let inside := decide (0 < depth)
    match skipGap inside s with
    | [] => none
    | '(' :: rest => if depth < depthLimit then group? fuel (depth + 1) rest else none
    | '.' :: '.' :: '.' :: rest => some (.other true, rest)
    | c :: rest =>
      if c = '\x7b' then
        if depth < depthLimit then braces? fuel (depth + 1) rest else none
      else if (textForm? (c :: rest)).isSome then do
        let (bytes, after) ← text? (c :: rest)
        let after' ← joinedTexts? (after.length + 1) inside bytes after
        some (.other true, after')
      else if c.isDigit || c = '.' then
        (number? (c :: rest)).map fun n => (.number n.1, n.2)
      else named? inside (c :: rest)

/-- What stands in parentheses, and the text after them: nothing, one literal, or a tuple. -/
def group? (fuel depth : Nat) (s : List Char) : Option (Shape × List Char) :=
  match fuel with
  | 0 => none
  | fuel + 1 =>
    match skipGap true s with
    | ')' :: rest => some (.other true, rest)
    | s' => do
      let (first, rest) ← literal? fuel depth s'
      match skipGap true rest with
      | ')' :: after => some (first, after)
      | ',' :: after => tuple? fuel depth ')' first.isKey after
      | _ => none

/-- The further literals of a tuple or a set after a comma, up to its closing bracket, and whether
all literals can be keys. -/
def tuple? (fuel depth : Nat) (closing : Char) (keys : Bool) (s : List Char) :
    Option (Shape × List Char) :=
  match fuel with
  | 0 => none
  | fuel + 1 => do
    let s' := skipGap true s
    if s'.head? = some closing then some (.other keys, s'.drop 1)
    else
      let (item, rest) ← literal? fuel depth s'
      match skipGap true rest with
      | ',' :: after => tuple? fuel depth closing (keys && item.isKey) after
      | c :: after => if c = closing then some (.other (keys && item.isKey), after) else none
      | [] => none

/-- What stands in braces, and the text after them: a mapping or a set. -/
def braces? (fuel depth : Nat) (s : List Char) : Option (Shape × List Char) :=
  match fuel with
  | 0 => none
  | fuel + 1 => do
    let s' := skipGap true s
    if s'.head? = some '\x7d' then some (.other false, s'.drop 1)
    else
      let (first, rest) ← literal? fuel depth s'
      if !first.isKey then none
      else
        match skipGap true rest with
        | ':' :: after => mapping? fuel depth after
        | ',' :: after => do
          let (all, after') ← tuple? fuel depth '\x7d' true after
          if all.isKey then some (.other false, after') else none
        | c :: after => if c = '\x7d' then some (.other false, after) else none
        | [] => none

/-- The rest of a mapping after the colon of a key. -/
def mapping? (fuel depth : Nat) (s : List Char) : Option (Shape × List Char) :=
  match fuel with
  | 0 => none
  | fuel + 1 => do
    let (_, rest) ← literal? fuel depth s
    match skipGap true rest with
    | ',' :: after =>
      let after' := skipGap true after
      if after'.head? = some '\x7d' then some (.other false, after'.drop 1)
      else
        let (key, rest') ← literal? fuel depth after'
        match skipGap true rest' with
        | ':' :: after'' => if key.isKey then mapping? fuel depth after'' else none
        | _ => none
    | c :: after => if c = '\x7d' then some (.other false, after) else none
    | [] => none

end

/-- Whether nothing but gaps, comments and line breaks is left. -/
def isTail (s : List Char) : Bool :=
  (skipGap true s).isEmpty

/-- Whether a text is a literal, or several with commas between them. -/
def isSequence (fuel : Nat) (s : List Char) : Bool :=
  match fuel with
  | 0 => false
  | fuel + 1 =>
    match literal? (2 * s.length + 8) 0 s with
    | none => false
    | some (_, rest) =>
      match skipGap false rest with
      | ',' :: after => isTail after || isSequence fuel after
      | rest' => isTail rest'

end LlmAudit.Literal

namespace LlmAudit

/-- Whether a text is a literal. -/
def isLiteral (s : List Char) : Bool :=
  match Literal.afterComments? (Literal.unifyLines s) with
  | some s => !s.contains '\x00' && Literal.isSequence (s.length + 1) s
  | none => false

end LlmAudit
