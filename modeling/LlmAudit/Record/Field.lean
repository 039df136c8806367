import LlmAudit.Finding.Severity
import LlmAudit.Json.Basic
import LlmAudit.Number.Reader

/-!
# Fields of records

Records come in as loosely typed data, and each field is read into the type that it stands for. A
number may come as a text, a truth value as a number, a whole number as a number without a fraction.
A record with faults reports all of them, in the order of its fields.

## Main definitions

* `Record.Fault`, `Record.FieldError` — what is wrong with a field, and where.
* `Record.Decoded` — a record or all of its faults.
* `Record.readText`, `Record.readString`, `Record.readWhole`, `Record.readNumber`,
  `Record.readFlag`, `Record.readSeverity` — fields.
-/

namespace LlmAudit.Record

/-- What is wrong with a field. -/
inductive Fault where
  /-- It is not there. -/
  | missing
  /-- It is no text. -/
  | notText
  /-- It is a text that holds half a pair, or bytes that are no text. -/
  | brokenText
  /-- It is nothing that could be a whole number. -/
  | notWhole
  /-- It is a text that writes no whole number. -/
  | unreadableWhole
  /-- It is a number with a fraction. -/
  | fraction
  /-- It is an infinity or no number. -/
  | notFinite
  /-- It is a number of another kind beyond the machine's whole numbers, or a text with too many
  digits. -/
  | outOfRange
  /-- It is nothing that could be a number. -/
  | notNumber
  /-- It is a text that writes no number. -/
  | unreadableNumber
  /-- It is below the least value. -/
  | tooSmall
  /-- It is not at most the greatest value. -/
  | tooLarge
  /-- It is none of the choices. -/
  | unknownChoice
  /-- It is no record. -/
  | notRecord
  /-- It is no list. -/
  | notList
  /-- It is nothing that could be a truth value. -/
  | notFlag
  /-- It writes no truth value. -/
  | unreadableFlag
  /-- It is rejected with a message. -/
  | rejected (message : String)
  deriving DecidableEq

/-- What is wrong, in words. -/
def Fault.describe : Fault → String
  | .missing => "field required"
  | .notText => "not a text"
  | .brokenText => "not a well-formed text"
  | .notWhole => "not a whole number"
  | .unreadableWhole => "not readable as a whole number"
  | .fraction => "a number with a fraction"
  | .notFinite => "not a finite number"
  | .outOfRange => "a number that is too large"
  | .notNumber => "not a number"
  | .unreadableNumber => "not readable as a number"
  | .tooSmall => "below the least value"
  | .tooLarge => "above the greatest value"
  | .unknownChoice => "none of the choices"
  | .notRecord => "not a record"
  | .notList => "not a list"
  | .notFlag => "not a truth value"
  | .unreadableFlag => "not readable as a truth value"
  | .rejected message => message

/-- A step on the way to a field. -/
inductive Step where
  /-- Into a field. -/
  | field (name : String)
  /-- Into an item of a list. -/
  | index (i : Nat)
  deriving DecidableEq

/-- A fault and the way to it. -/
structure FieldError where
  /-- The way from the record. -/
  path : List Step
  /-- The fault. -/
  fault : Fault
  deriving DecidableEq

/-- A step in words. -/
def Step.describe : Step → String
  | .field name => name
  | .index i => renderInt i

/-- A fault and the way to it, in words. -/
def FieldError.describe (e : FieldError) : String :=
  ".".intercalate (e.path.map Step.describe) ++ ": " ++ e.fault.describe

/-- A value, or all that is wrong with it. -/
abbrev Decoded (α : Type) := Except (List FieldError) α

/-- The application of a function to a value; the faults of both are kept. -/
def Decoded.apply {α β : Type} (f : Decoded (α → β)) (x : Decoded α) : Decoded β :=
  match f, x with
  | .ok f, .ok x => .ok (f x)
  | .ok _, .error e => .error e
  | .error e, .ok _ => .error e
  | .error e, .error e' => .error (e ++ e')

/-- The faults seen from one step further out. -/
def Decoded.under {α : Type} (step : Step) (x : Decoded α) : Decoded α :=
  match x with
  | .ok x => .ok x
  | .error errors => .error (errors.map fun e => { e with path := step :: e.path })

/-- A value with its fault here. -/
def here {α : Type} (x : Except Fault α) : Decoded α :=
  match x with
  | .ok x => .ok x
  | .error fault => .error [⟨[], fault⟩]

/-- A field's value with its fault at the field. -/
def atField {α : Type} (name : String) (x : Except Fault α) : Decoded α :=
  (here x).under (.field name)

/-- A field that must be there. -/
def required {α : Type} (read : Json → Except Fault α) (fields : List (LooseText × Json))
    (name : String) : Decoded α :=
  match Json.getField? fields name with
  | some j => atField name (read j)
  | none => atField name (.error .missing)

/-- A field that may be left out. -/
def optional {α : Type} (read : Json → Except Fault α) (default : α)
    (fields : List (LooseText × Json)) (name : String) : Decoded α :=
  match Json.getField? fields name with
  | some j => atField name (read j)
  | none => .ok default

/-- All items of a list, or the faults of all of them. -/
def decodeItems {α : Type} (read : Json → Decoded α) (i : Nat) : List Json → Decoded (List α)
  | [] => .ok []
  | j :: rest =>
    let cons : Decoded (α → List α → List α) := .ok List.cons
    (cons.apply ((read j).under (.index i))).apply (decodeItems read (i + 1) rest)

/-- A text. -/
def readText : Json → Except Fault LooseText
  | .str t => .ok t
  | _ => .error .notText

/-- The string of a text, which must hold characters only. -/
def wholeText (t : LooseText) : Except Fault String :=
  match t.text? with
  | some s => .ok s
  | none => .error .brokenText

/-- A text of characters only. -/
def readString (j : Json) : Except Fault String := do
  wholeText (← readText j)

/-- The bound of the whole numbers that a number of another kind may stand for. -/
def wholeBound : Nat := Nat.pow 2 63

/-- A whole number: also a truth value, a number without a fraction, or a text that writes one. -/
def readWhole : Json → Except Fault Int
  | .int n => .ok n
  | .bool b => .ok (if b then 1 else 0)
  | .float x =>
    match x.units?, x.toInt? with
    | none, _ => .error .notFinite
    | some _, some n => if n.natAbs < wholeBound then .ok n else .error .outOfRange
    | some _, none => .error .fraction
  | .str t => do
    match wholeOfText (← wholeText t) with
    | .ok n => .ok n
    | .error .unreadable => .error .unreadableWhole
    | .error .tooLong => .error .outOfRange
  | _ => .error .notWhole

/-- A number: also a whole number that is not too large, a truth value, or a text that writes
one. -/
def readNumber : Json → Except Fault Binary64
  | .float x => .ok x
  | .int n => if (Binary64.ofInt n).units?.isSome then .ok (.ofInt n) else .error .notNumber
  | .bool b => .ok (if b then .one else .zero)
  | .str t => do
    match readNumber? (← wholeText t) with
    | some x => .ok x
    | none => .error .unreadableNumber
  | _ => .error .notNumber

/-- The words for true. -/
def yesWords : List String := ["1", "on", "t", "true", "y", "yes"]

/-- The words for false. -/
def noWords : List String := ["0", "off", "f", "false", "n", "no"]

/-- The truth value of a word in any case. -/
def flagOfText (s : String) : Except Fault Bool :=
  let word := String.ofList (s.toList.map Char.toLower)
  if yesWords.contains word then .ok true
  else if noWords.contains word then .ok false
  else .error .unreadableFlag

/-- Whether a whole number is one of the machine's. -/
def isMachineInt (n : Int) : Bool :=
  decide (-(wholeBound : Int) ≤ n ∧ n < wholeBound)

/-- The truth value of one and zero. -/
def flagOfInt (n : Int) : Except Fault Bool :=
  if n = 0 then .ok false
  else if n = 1 then .ok true
  else if isMachineInt n then .error .unreadableFlag
  else .error .notFlag

/-- The truth value of one and zero among the numbers with a fraction. -/
def flagOfNumber (x : Binary64) : Except Fault Bool :=
  match x.toInt? with
  | some n => flagOfInt n
  | none => .error .notFlag

/-- A truth value: also one and zero, and the usual words in any case. -/
def readFlag : Json → Except Fault Bool
  | .bool b => .ok b
  | .int n => flagOfInt n
  | .float x => flagOfNumber x
  | .str t => do flagOfText (← wholeText t)
  | _ => .error .notFlag

/-- The name of a severity, exactly as written. -/
def readSeverity : Json → Except Fault Severity
  | .str t => do
    match Severity.ofName? (← wholeText t) with
    | some v => .ok v
    | none => .error .unknownChoice
  | _ => .error .unknownChoice

end LlmAudit.Record
