import LlmAudit.Text.Base64
import LlmAudit.Text.Loose
import LlmAudit.Text.Search
import LlmAudit.Yaml.Fault

/-!
# Kinds of nodes

What a node stands for. A tag says so; a scalar without quotes and without a tag says so by the way
it is written: it is a truth value, a number, nothing, a date, or else a text. Numbers may have
underscores between their digits, a sign, and places of sixty divided by colons; a whole number may
be written in base two, eight or sixteen.

## Main definitions

* `Kind` — the kinds of nodes.
* `Kind.ofTag`, `Kind.ofPlain` — the kind of a tag and of a scalar without quotes.
* `flagOf`, `wholeOf`, `numberOf`, `momentOf`, `bytesOf` — the values of scalars.
-/

namespace LlmAudit.Yaml

/-- The kinds of nodes. -/
inductive Kind where
  /-- Nothing. -/
  | nothing
  /-- A truth value. -/
  | flag
  /-- A whole number. -/
  | whole
  /-- A number with a fraction. -/
  | number
  /-- Bytes, written in base 64. -/
  | bytes
  /-- A date, or a date and a time. -/
  | moment
  /-- A text. -/
  | text
  /-- A list. -/
  | list
  /-- A list of mappings of one pair each, as pairs. -/
  | pairs
  /-- A mapping whose keys are meant. -/
  | set
  /-- A mapping. -/
  | mapping
  /-- The key whose value is merged into its mapping. -/
  | merge
  /-- The key of the value of a mapping. -/
  | value
  /-- Something else, which has no value. -/
  | unknown
  deriving DecidableEq

/-- The start of the tags of the format. -/
def coreTag : String := "tag:yaml.org,2002:"

/-- The tags of the format, and what they ask for. -/
def coreKinds : List (String × Kind) :=
  [("null", .nothing), ("bool", .flag), ("int", .whole), ("float", .number), ("binary", .bytes),
    ("timestamp", .moment), ("str", .text), ("seq", .list), ("omap", .pairs), ("pairs", .pairs),
    ("set", .set), ("map", .mapping), ("merge", .merge), ("value", .value)]

/-- The kind that a tag asks for. -/
def Kind.ofTag (tag : String) : Kind :=
  ((coreKinds.find? fun k => coreTag ++ k.1 == tag).map Prod.snd).getD .unknown

/-! ### Scalars without quotes -/

/-- The words for true. -/
def trueWords : List String :=
  ["yes", "Yes", "YES", "true", "True", "TRUE", "on", "On", "ON"]

/-- The words for false. -/
def falseWords : List String :=
  ["no", "No", "NO", "false", "False", "FALSE", "off", "Off", "OFF"]

/-- The words for nothing. -/
def nothingWords : List String :=
  ["", "~", "null", "Null", "NULL"]

/-- The marks that have a meaning only at the front of other things. -/
def strayMarks : List String :=
  ["!", "&", "*"]

/-- A digit or an underscore. -/
def isDigitOrBar (c : Char) : Bool :=
  c.isDigit || c == '_'

/-- Digits and underscores that start with a digit. -/
def isDigits : List Char → Bool
  | [] => false
  | c :: rest => c.isDigit && rest.all isDigitOrBar

/-- An exponent, which has a sign. -/
def isSignedPower : List Char → Bool
  | [] => true
  | e :: sign :: digits =>
    (e == 'e' || e == 'E') && (sign == '-' || sign == '+') && !digits.isEmpty &&
      digits.all Char.isDigit
  | _ => false

/-- A place of sixty: one digit, or two of which the first is below six. -/
def isSixtieth : List Char → Bool
  | [d] => d.isDigit
  | [t, d] => decide ('0' ≤ t ∧ t ≤ '5') && d.isDigit
  | _ => false

/-- Whether a text writes a number with a fraction. -/
def isNumber (s : List Char) : Bool :=
  let unsigned := (takeSign s).2
  let whole := unsigned.takeWhile (· != '.')
  let fraction := (unsigned.dropWhile (· != '.')).drop 1
  let word := String.ofList unsigned
  let tail := fraction.dropWhile isDigitOrBar
  let sixty := match Text.splitAt ':' whole with
    | first :: more => isDigits first && !more.isEmpty && more.all isSixtieth
    | [] => false
  if [".inf", ".Inf", ".INF"].contains word then true
  else if [".nan", ".NaN", ".NAN"].contains word then decide (unsigned.length = s.length)
  else if unsigned.length = whole.length then false
  else if whole.isEmpty then
    decide (unsigned.length = s.length) && isDigits (fraction.takeWhile isDigitOrBar) &&
      isSignedPower tail
  else (isDigits whole && isSignedPower tail) || (sixty && tail.isEmpty)

/-- Whether a text writes a whole number. -/
def isWhole (s : List Char) : Bool :=
  match (takeSign s).2 with
  | ['0'] => true
  | '0' :: 'b' :: digits =>
    !digits.isEmpty && digits.all fun c => c == '0' || c == '1' || c == '_'
  | '0' :: 'x' :: digits =>
    !digits.isEmpty && digits.all fun c =>
      isDigitOrBar c || decide ('a' ≤ c ∧ c ≤ 'f') || decide ('A' ≤ c ∧ c ≤ 'F')
  | '0' :: digits => digits.all fun c => decide ('0' ≤ c ∧ c ≤ '7') || c == '_'
  | other =>
    match Text.splitAt ':' other with
    | first :: more => isDigits first && more.all isSixtieth
    | [] => false

/-- The kind of a line without quotes. -/
def Kind.ofWord (word : String) : Kind :=
  let s := word.toList
  if trueWords.contains word || falseWords.contains word then .flag
  else if isNumber s then .number
  else if isWhole s then .whole
  else if word = "<<" then .merge
  else if nothingWords.contains word then .nothing
  else if Moment.isWritten s then .moment
  else if word = "=" then .value
  else if strayMarks.contains word then .unknown
  else .text

/-- The kind of a scalar without quotes; one line feed at its end does not matter. -/
def Kind.ofPlain (text : LooseText) : Kind :=
  match text.chars? with
  | none => .text
  | some cs =>
    match cs.reverse with
    | ['\n'] => .text
    | '\n' :: rest => .ofWord (String.ofList rest.reverse)
    | _ => .ofWord (String.ofList cs)

/-! ### Values of scalars -/

/-- The truth value of a word in any case. -/
def flagOf (text : LooseText) : Except Fault Bool :=
  match text.lowered.text? with
  | some word =>
    if trueWords.contains word then .ok true
    else if falseWords.contains word then .ok false
    else .error .unknownFlag
  | none => .error .unknownFlag

/-- The sign of a number, and the number without it. -/
def signOf (text : LooseText) : Except Fault (Bool × LooseText) :=
  if text = .empty then .error .emptyNumber
  else if text.startsWith "-" then .ok (true, text.drop 1)
  else if text.startsWith "+" then .ok (false, text.drop 1)
  else .ok (false, text)

/-- The whole number that a text writes in a base. -/
def basedOf (base : Nat) (text : LooseText) : Except Fault Int :=
  match text.chars? with
  | some cs =>
    match Based.read base cs with
    | .ok n => .ok n
    | .error fault => .error (.whole base text.quoted fault)
  | none => .error (.whole base text.quoted .unreadable)

/-- The whole number that a text without a sign writes. -/
def magnitudeOf (text : LooseText) : Except Fault Int :=
  if text = .empty then .error .emptyNumber
  else if text = .ofString "0" then .ok 0
  else if text.startsWith "0b" then basedOf 2 (text.drop 2)
  else if text.startsWith "0x" then basedOf 16 (text.drop 2)
  else if text.startsWith "0" then basedOf 8 text
  else do
    let places ← (text.splitOn ':').mapM (basedOf 10)
    return places.foldl (fun n d => n * 60 + d) 0

/-- The whole number that a scalar writes. -/
def wholeOf (text : LooseText) : Except Fault Int := do
  let (negative, rest) ← signOf (text.without '_')
  let n ← magnitudeOf rest
  return if negative then -n else n

/-- The number that a text writes by itself. -/
def decimalOf (text : LooseText) : Except Fault Binary64 :=
  match text.chars?.bind fun cs => readPlainNumber? (Based.trimAscii (cs.map Based.asciiOf)) with
  | some x => .ok x
  | none => .error (.number text.quoted)

/-- The sum of places of sixty, last one first: `base` is the worth of the next place and `sum` what
the places before it are worth together. -/
def sumPlaces (base : Nat) (sum : Binary64) : List Binary64 → Except Fault Binary64
  | [] => .ok sum
  | x :: rest =>
    let worth := Binary64.ofInt base
    if worth.units?.isSome then sumPlaces (base * 60) (sum.add (x.mul worth)) rest
    else .error .overflow

/-- A number without its underscores, in lower case, as its sign and the rest. -/
def numberParts (text : LooseText) : Except Fault (Bool × LooseText) :=
  signOf (text.without '_').lowered

/-- The number that a scalar writes. -/
def numberOf (text : LooseText) : Except Fault Binary64 := do
  let (negative, rest) ← numberParts text
  let x ←
    if rest = .ofString ".inf" then pure (Binary64.infinity false)
    else if rest = .ofString ".nan" then pure Binary64.nan
    else
      match rest.splitOn ':' with
      | [_] => decimalOf rest
      | places => do sumPlaces 1 .zero (← places.mapM decimalOf).reverse
  return if negative then x.neg else x

/-- Whether a scalar is the word for no number, of which there is one only. -/
def isNanWord (text : LooseText) : Bool :=
  match numberParts text with
  | .ok (_, rest) => rest == .ofString ".nan"
  | .error _ => false

/-- The date and the time that a scalar writes. -/
def momentOf (text : LooseText) : Except Fault Moment :=
  match text.chars?.bind Moment.ofText? with
  | none => .error .notMoment
  | some m =>
    match m.fault? with
    | some fault => .error (.moment fault)
    | none => .ok m

/-- The bytes that a scalar writes. -/
def bytesOf (text : LooseText) : Except Fault (List UInt8) :=
  let ascii? := text.chars?.filter fun cs => cs.all fun c => decide (c.toNat < 0x80)
  match ascii?.bind Base64.decode? with
  | some bytes => .ok bytes
  | none => .error .malformed

end LlmAudit.Yaml
