import LlmAudit.Json.Basic

/-!
# Reading JSON

The value that a text writes, or why it writes none. Beside the grammar of the format, the words
`NaN`, `Infinity` and `-Infinity` are numbers. Of two fields with one name the later value counts,
at the place of the first. The digits of a whole number are limited in number, and so are the lists
and objects that stand in each other. Inside of quotes half a pair may stand as it is or be escaped;
two escaped halves that are a pair are one character.

Each step consumes a character, so the length of the text bounds the depth of the recursion; the
bound is passed down as the first argument of `readValue`.

## Main definitions

* `Json.parse` — the value of a whole text.
-/

namespace LlmAudit.Json

/-- Why a text writes no value. -/
inductive ParseError where
  /-- It is not written like one. -/
  | malformed
  /-- A whole number in it has so many digits, which are too many. -/
  | tooManyDigits (count : Nat)
  /-- Lists and objects stand in each other too deeply. -/
  | tooDeep
  deriving DecidableEq

/-- The characters between the parts of a value. -/
def isSpace (p : Point) : Bool :=
  p == .char ' ' || p == .char '\n' || p == .char '\r' || p == .char '\t'

/-- The text from its first code point that is not a space on. -/
def skipSpaces (s : List Point) : List Point :=
  s.dropWhile isSpace

/-- The value of a hexadecimal digit. -/
def hexDigit? (c : Char) : Option Nat :=
  if c.isDigit then some (c.toNat - '0'.toNat)
  else if 'a' ≤ c ∧ c ≤ 'f' then some (c.toNat - 'a'.toNat + 10)
  else if 'A' ≤ c ∧ c ≤ 'F' then some (c.toNat - 'A'.toNat + 10)
  else none

/-- Four hexadecimal digits at the front of a text. -/
def hexFour? : List Point → Option (Nat × List Point)
  | .char a :: .char b :: .char c :: .char d :: rest => do
    let a ← hexDigit? a
    let b ← hexDigit? b
    let c ← hexDigit? c
    let d ← hexDigit? d
    some (((a * 16 + b) * 16 + c) * 16 + d, rest)
  | _ => none

/-- The character of a single-letter escape. -/
def shortEscape? (c : Char) : Option Char :=
  if c = '"' then some '"'
  else if c = '\\' then some '\\'
  else if c = '/' then some '/'
  else if c = 'b' then some (Char.ofNat 0x08)
  else if c = 'f' then some (Char.ofNat 0x0C)
  else if c = 'n' then some '\n'
  else if c = 'r' then some '\r'
  else if c = 't' then some '\t'
  else none

/-- The two units are a pair. -/
def isPair (high low : Nat) : Bool :=
  decide (0xD800 ≤ high ∧ high < 0xDC00 ∧ 0xDC00 ≤ low ∧ low < 0xE000)

/-- The code point of a pair. -/
def joined (high low : Nat) : Point :=
  .ofNat (0x10000 + (high - 0xD800) * 0x400 + (low - 0xDC00))

/-- The code point of an escaped unit, and of the escaped unit after it if the two are a pair. -/
def joinUnits (unit : Nat) (rest : List Point) : Point × List Point :=
  match rest with
  | .char '\\' :: .char 'u' :: more =>
    match hexFour? more with
    | some (second, rest') =>
      if isPair unit second then (joined unit second, rest') else (.ofNat unit, rest)
    | none => (.ofNat unit, rest)
  | _ => (.ofNat unit, rest)

/-- The rest of a quoted text up to its closing quote; `points` holds the code points so far, last
one first. -/
def readText (fuel : Nat) (points s : List Point) : Option (LooseText × List Point) :=
  match fuel, s with
  | 0, _ => none
  | _ + 1, [] => none
  | fuel + 1, p :: rest =>
    if p = .char '"' then some (⟨points.reverse⟩, rest)
    else if p = .char '\\' then
      match rest with
      | .char 'u' :: more =>
        match hexFour? more with
        | some (unit, rest') =>
          let (point, rest'') := joinUnits unit rest'
          readText fuel (point :: points) rest''
        | none => none
      | .char e :: more =>
        match shortEscape? e with
        | some c => readText fuel (.char c :: points) more
        | none => none
      | _ => none
    else if p.toNat < 0x20 then none
    else readText fuel (p :: points) rest

/-- The number that decimal digits write. -/
def digitsValue (digits : List Char) : Nat :=
  digits.foldl (fun n c => n * 10 + (c.toNat - '0'.toNat)) 0

/-- The digits at the front of a text, and the rest. -/
def takeDigits (s : List Char) : List Char × List Char :=
  (s.takeWhile Char.isDigit, s.dropWhile Char.isDigit)

/-- The digits of a whole number at the front of a text, and the rest. No digit follows a leading
zero. -/
def takeWhole (s : List Char) : List Char × List Char :=
  match s with
  | '0' :: r => (['0'], r)
  | _ => takeDigits s

/-- The digits of a fraction, if one stands at the front of the text. -/
def readFraction (s : List Char) : Option (List Char) × List Char :=
  match s with
  | '.' :: rest =>
    match takeDigits rest with
    | ([], _) => (none, s)
    | (digits, rest') => (some digits, rest')
  | _ => (none, s)

/-- Whether an exponent is negative, and the text after its sign. -/
def takeSign (s : List Char) : Bool × List Char :=
  match s with
  | '-' :: r => (true, r)
  | '+' :: r => (false, r)
  | r => (false, r)

/-- An exponent, if one stands at the front of the text. -/
def readExponent (s : List Char) : Option Int × List Char :=
  match s with
  | e :: rest =>
    if e = 'e' ∨ e = 'E' then
      let (negative, rest') := takeSign rest
      match takeDigits rest' with
      | ([], _) => (none, s)
      | (digits, rest'') =>
        let n : Int := digitsValue digits
        (some (if negative then -n else n), rest'')
    else (none, s)
  | [] => (none, s)

/-- A number whose sign is read. -/
def readNumber (negative : Bool) (s : List Char) : Except ParseError (Json × List Char) :=
  let (whole, rest) := takeWhole s
  if whole.isEmpty then .error .malformed
  else
    let (fraction, rest') := readFraction rest
    let (exponent, rest'') := readExponent rest'
    match fraction, exponent with
    | none, none =>
      let n : Int := digitsValue whole
      if digitLimit < whole.length then .error (.tooManyDigits whole.length)
      else .ok (.int (if negative then -n else n), rest'')
    | _, _ =>
      let digits := fraction.getD []
      .ok (.float (.ofDecimal negative (digitsValue (whole ++ digits))
        (exponent.getD 0 - digits.length)), rest'')

/-- A value that is a word, and the rest of the text after it. -/
def readWord (word : String) (j : Json) (s : List Char) : Except ParseError (Json × List Char) :=
  if word.toList.isPrefixOf s then .ok (j, s.drop word.length) else .error .malformed

/-- A value that is a word or a number. -/
def readScalar (s : List Char) : Except ParseError (Json × List Char) :=
  match s with
  | 'n' :: _ => readWord "null" .null s
  | 't' :: _ => readWord "true" (.bool true) s
  | 'f' :: _ => readWord "false" (.bool false) s
  | 'N' :: _ => readWord "NaN" (.float .nan) s
  | 'I' :: _ => readWord "Infinity" (.float (.infinity false)) s
  | '-' :: 'I' :: _ => readWord "-Infinity" (.float (.infinity true)) s
  | '-' :: rest => readNumber true rest
  | _ => readNumber false s

/-- The characters at the front of a text up to half a pair, and the rest. -/
def takeChars (s : List Point) : List Char × List Point :=
  ((s.takeWhile Point.isChar).filterMap Point.char?, s.dropWhile Point.isChar)

/-- A value that is a word or a number, and holds no half of a pair. -/
def readBare (s : List Point) : Except ParseError (Json × List Point) :=
  let (cs, tail) := takeChars s
  match readScalar cs with
  | .error e => .error e
  | .ok (j, rest) => .ok (j, rest.map .char ++ tail)

mutual

/-- The value at the front of a text, inside of `depth` lists and objects of at most `bound`. -/
def readValue (bound fuel depth : Nat) (s : List Point) : Except ParseError (Json × List Point) :=
  match fuel with
  | 0 => .error .malformed
  | fuel + 1 =>
    match s with
    | .char '"' :: rest =>
      match readText fuel [] rest with
      | some (t, r) => .ok (.str t, r)
      | none => .error .malformed
    | .char '[' :: rest =>
      if bound ≤ depth then .error .tooDeep
      else
        match skipSpaces rest with
        | .char ']' :: r => .ok (.list [], r)
        | r => readItems bound fuel (depth + 1) [] r
    | p :: rest =>
      if p = .char '\x7b' then
        if bound ≤ depth then .error .tooDeep
        else
          match skipSpaces rest with
          | [] => .error .malformed
          | q :: r =>
            if q = .char '\x7d' then .ok (.object [], r)
            else readFields bound fuel (depth + 1) [] (q :: r)
      else readBare s
    | [] => .error .malformed

/-- The items of a list up to its closing bracket; `items` holds those so far, last one first. -/
def readItems (bound fuel depth : Nat) (items : List Json) (s : List Point) :
    Except ParseError (Json × List Point) :=
  match fuel with
  | 0 => .error .malformed
  | fuel + 1 =>
    match readValue bound fuel depth s with
    | .error e => .error e
    | .ok (j, rest) =>
      match skipSpaces rest with
      | .char ',' :: r => readItems bound fuel depth (j :: items) (skipSpaces r)
      | .char ']' :: r => .ok (.list (j :: items).reverse, r)
      | _ => .error .malformed

/-- The fields of an object up to its closing brace. -/
def readFields (bound fuel depth : Nat) (fields : List (LooseText × Json)) (s : List Point) :
    Except ParseError (Json × List Point) :=
  match fuel with
  | 0 => .error .malformed
  | fuel + 1 =>
    match s with
    | .char '"' :: rest =>
      match readText fuel [] rest with
      | none => .error .malformed
      | some (name, rest') =>
        match skipSpaces rest' with
        | .char ':' :: r =>
          match readValue bound fuel depth (skipSpaces r) with
          | .error e => .error e
          | .ok (j, rest'') =>
            let fields' := putField fields name j
            match skipSpaces rest'' with
            | .char ',' :: r' => readFields bound fuel depth fields' (skipSpaces r')
            | p :: r' => if p = .char '\x7d' then .ok (.object fields', r') else .error .malformed
            | [] => .error .malformed
        | _ => .error .malformed
    | _ => .error .malformed

end

/-- The value that a whole text writes, if at most `bound` lists and objects may stand in each
other. -/
def parse (bound : Nat) (text : LooseText) : Except ParseError Json :=
  match readValue bound (2 * text.points.length + 2) 0 (skipSpaces text.points) with
  | .error e => .error e
  | .ok (j, rest) => if (skipSpaces rest).isEmpty then .ok j else .error .malformed

end LlmAudit.Json
