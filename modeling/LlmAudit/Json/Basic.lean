import LlmAudit.Number.Decimal
import LlmAudit.Text.Loose

/-!
# JSON values

The values of the interchange format. Whole numbers have any size; a number with a fraction or an
exponent is a binary64 number. The fields of an object keep the order in which they were first
written, and no two have the same name. A text, also that of a name, may hold halves of pairs.

A value is read from a text and written to one only within limits: the digits of a whole number are
limited in number, and so are the lists and objects that stand in each other (`Json.limit?`). How
many of these may is not a matter of the format but of the one who reads or writes, who is asked for
it: the `bound` of `Json.limit?`, `Json.parse` and `Json.canonical`.
-/

namespace LlmAudit

/-- A JSON value. -/
inductive Json where
  /-- `null`. -/
  | null
  /-- `true` or `false`. -/
  | bool (b : Bool)
  /-- A whole number. -/
  | int (n : Int)
  /-- A number with a fraction or an exponent. -/
  | float (x : Binary64)
  /-- A text. -/
  | str (t : LooseText)
  /-- A list of values. -/
  | list (items : List Json)
  /-- Named fields. -/
  | object (fields : List (LooseText × Json))

namespace Json

/-- Fields with one more: a name that is there already keeps its place and takes the new value. -/
def putField (fields : List (LooseText × Json)) (name : LooseText) (value : Json) :
    List (LooseText × Json) :=
  match fields with
  | [] => [(name, value)]
  | (n, v) :: rest =>
    if n = name then (n, value) :: rest else (n, v) :: putField rest name value

/-- The value of a name in a list of fields. -/
def getField? (fields : List (LooseText × Json)) (name : LooseText) : Option Json :=
  (fields.find? fun f => f.1 == name).map Prod.snd

/-- The value of a field of an object. -/
def field? (j : Json) (name : LooseText) : Option Json :=
  match j with
  | .object fields => getField? fields name
  | _ => none

/-- Fields in increasing order of their names, with one more. -/
def insertField (f : LooseText × Json) : List (LooseText × Json) → List (LooseText × Json)
  | [] => [f]
  | g :: rest => if f.1 ≤ g.1 then f :: g :: rest else g :: insertField f rest

mutual

/-- The value with the fields of every object in increasing order of their names. -/
def sortFields : Json → Json
  | .list items => .list (sortItems items)
  | .object fields => .object (sortMembers fields)
  | j => j

/-- `sortFields` of every item. -/
def sortItems : List Json → List Json
  | [] => []
  | j :: rest => sortFields j :: sortItems rest

/-- `sortFields` of every field's value, in increasing order of the names. -/
def sortMembers : List (LooseText × Json) → List (LooseText × Json)
  | [] => []
  | (name, j) :: rest => insertField (name, sortFields j) (sortMembers rest)

end

/-! ### Limits -/

/-- How many lists and objects may stand in each other. The number depends on the machine and on the
place that asks, but all that is written here has room. -/
structure DepthLimit where
  /-- The greatest number. -/
  count : Nat
  /-- A report needs seven. -/
  room : 7 ≤ count

/-- What is too much to be read or written. -/
inductive Limit where
  /-- A whole number with so many digits. -/
  | tooManyDigits (count : Nat)
  /-- Lists and objects that stand in each other too deeply. -/
  | tooDeep
  deriving DecidableEq

mutual

/-- The first thing in a value that is too much if `bound` lists and objects may stand in each
other, the value being inside of `depth` of them. -/
def limit? (bound depth : Nat) : Json → Option Limit
  | .int n => if isWritable n then none else some (.tooManyDigits (Binary64.digitCount n.natAbs))
  | .list items => if bound ≤ depth then some .tooDeep else limitItems? bound (depth + 1) items
  | .object fields => if bound ≤ depth then some .tooDeep else limitFields? bound (depth + 1) fields
  | _ => none

/-- The first thing in some items that is too much. -/
def limitItems? (bound depth : Nat) : List Json → Option Limit
  | [] => none
  | j :: rest => (limit? bound depth j).or (limitItems? bound depth rest)

/-- The first thing in the values of some fields that is too much. -/
def limitFields? (bound depth : Nat) : List (LooseText × Json) → Option Limit
  | [] => none
  | (_, j) :: rest => (limit? bound depth j).or (limitFields? bound depth rest)

end

end Json

end LlmAudit
