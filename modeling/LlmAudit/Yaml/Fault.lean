import LlmAudit.Number.Based
import LlmAudit.Text.Utf8
import LlmAudit.Yaml.Moment

/-!
# Faults of a YAML text

Why a text has no value. Most texts without one are malformed; some are well written and ask for a
value that does not exist, such as a day that no calendar has.
-/

namespace LlmAudit.Yaml

/-- Why a text has no value. -/
inductive Fault where
  /-- It is not written as the format asks. -/
  | malformed
  /-- The bytes that write it are no text. -/
  | undecodable (e : Utf8.DecodeError)
  /-- A text that is to be a number, shown in quotes, writes none. -/
  | number (shown : String)
  /-- A text that is to be a whole number in a base, shown in quotes, writes none. -/
  | whole (base : Nat) (shown : String) (fault : Based.Fault)
  /-- The calendar or the clock does not have a moment. -/
  | moment (fault : Moment.Fault)
  /-- An escape asks for a code point beyond the last one. -/
  | beyondPoints
  /-- A number is too large for what it is used for. -/
  | overflow
  /-- A word that is to be a truth value is none. -/
  | unknownFlag
  /-- A number has no digits at all. -/
  | emptyNumber
  /-- A text that is to be a moment is not written like one. -/
  | notMoment
  /-- A mapping stands for a text that is to be a moment. -/
  | mappedMoment
  /-- A text is to be found inside itself. -/
  | endless
  /-- Collections stand in each other too deeply. -/
  | tooDeep
  deriving DecidableEq

/-- What is said of a fault in a text that is well written; nothing is said of the others. -/
def Fault.message? : Fault → Option String
  | .undecodable e => some (e.messageAt e.position)
  | .number shown => some ("could not convert string to float: " ++ shown)
  | .whole base shown fault => some (fault.message base shown)
  | .moment fault => some fault.message
  | .beyondPoints => some "chr() arg not in range(0x110000)"
  | _ => none

/-- A fault in words. -/
def Fault.describe (f : Fault) : String :=
  match f with
  | .malformed => "the text is malformed"
  | .overflow => "a number is too large"
  | .unknownFlag => "a word is no truth value"
  | .emptyNumber => "a number has no digits"
  | .notMoment => "a text is no date"
  | .mappedMoment => "a mapping is no date"
  | .endless => "a text is to be found inside itself"
  | .tooDeep => "collections stand in each other too deeply"
  | _ => f.message?.getD "the text has no value"

end LlmAudit.Yaml
