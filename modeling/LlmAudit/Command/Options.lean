import LlmAudit.Text.Search

/-!
# Options on a command line

How the words of a command line are read as options and operands. An option has a long name after
two dashes and perhaps a short one after a single dash; short ones may stand together. An option
with a value takes it after an equals sign, from the rest of its word if it is short, or from the
next word, whatever that is. After two dashes alone all words are operands.

## Main definitions

* `OptionSpec` — an option.
* `readOptions` — the options and operands of some words.
-/

namespace LlmAudit

/-- An option that a command has. -/
structure OptionSpec where
  /-- The long name, without its dashes. -/
  name : String
  /-- The short name. -/
  short : Option Char
  /-- Whether it has a value. -/
  takesValue : Bool
  deriving DecidableEq

/-- Why words are no options and operands. -/
inductive UsageError where
  /-- There is no such option. -/
  | unknownOption (word : String)
  /-- An option with a value is the last word. -/
  | missingValue (name : String)
  /-- An option without a value is given one. -/
  | unexpectedValue (name : String)
  /-- There are too many operands. -/
  | extraOperand (word : String)
  /-- An operand is missing. -/
  | missingOperand
  /-- There is no such command. -/
  | unknownCommand (word : String)
  /-- There is no command. -/
  | missingCommand
  /-- A value is not a number that the option takes. -/
  | badNumber (word : String)
  deriving DecidableEq

/-- What is wrong with the words, for the user. -/
def UsageError.message : UsageError → String
  | .unknownOption word => "No such option: " ++ word
  | .missingValue name => "Option '--" ++ name ++ "' requires an argument."
  | .unexpectedValue name => "Option '--" ++ name ++ "' does not take a value."
  | .extraOperand word => "Got unexpected extra argument (" ++ word ++ ")"
  | .missingOperand => "Missing argument."
  | .unknownCommand word => "No such command '" ++ word ++ "'."
  | .missingCommand => "Missing command."
  | .badNumber word => "'" ++ word ++ "' is not a valid number."

/-- What has been read of a command line. -/
structure OptionState where
  /-- The options so far with their values; an option without a value has an empty one. -/
  options : List (String × String)
  /-- The operands so far. -/
  operands : List String
  /-- The option whose value is the next word. -/
  pending : Option String
  /-- Whether all further words are operands. -/
  onlyOperands : Bool

namespace OptionState

/-- The state before the first word. -/
def initial : OptionState :=
  ⟨[], [], none, false⟩

/-- One more option. -/
def add (s : OptionState) (name value : String) : OptionState :=
  { s with options := s.options ++ [(name, value)] }

/-- The state after the short options of one word. -/
def addShort (specs : List OptionSpec) (s : OptionState) : List Char → Except UsageError OptionState
  | [] => .ok s
  | c :: rest =>
    match specs.find? fun o => o.short == some c with
    | none => .error (.unknownOption (String.ofList ['-', c]))
    | some o =>
      if o.takesValue then
        if rest.isEmpty then .ok { s with pending := some o.name }
        else .ok (s.add o.name (String.ofList rest))
      else addShort specs (s.add o.name "") rest

/-- The state after a long option, with what stands after its equals sign. -/
def addLong (specs : List OptionSpec) (s : OptionState) (name : String) (value : Option String) :
    Except UsageError OptionState :=
  match specs.find? fun o => o.name == name with
  | none => .error (.unknownOption ("--" ++ name))
  | some o =>
    match o.takesValue, value with
    | true, some v => .ok (s.add o.name v)
    | true, none => .ok { s with pending := some o.name }
    | false, some _ => .error (.unexpectedValue o.name)
    | false, none => .ok (s.add o.name "")

/-- The state after one more word. -/
def addWord (specs : List OptionSpec) (s : OptionState) (word : String) :
    Except UsageError OptionState :=
  match s.pending with
  | some name => .ok { s.add name word with pending := none }
  | none =>
    if s.onlyOperands then .ok { s with operands := s.operands ++ [word] }
    else
      match word.toList with
      | ['-', '-'] => .ok { s with onlyOperands := true }
      | '-' :: '-' :: long =>
        let name := long.takeWhile (· != '=')
        let value := match long.drop name.length with
          | _ :: v => some (String.ofList v)
          | [] => none
        s.addLong specs (String.ofList name) value
      | '-' :: c :: rest => s.addShort specs (c :: rest)
      | _ => .ok { s with operands := s.operands ++ [word] }

/-- The state after more words. -/
def addWords (specs : List OptionSpec) (s : OptionState) :
    List String → Except UsageError OptionState
  | [] => .ok s
  | word :: rest =>
    match s.addWord specs word with
    | .ok s' => s'.addWords specs rest
    | .error e => .error e

end OptionState

/-- The options and operands of some words. -/
structure Words where
  /-- The options with their values, in the order given. -/
  options : List (String × String)
  /-- The operands. -/
  operands : List String
  deriving DecidableEq

/-- The value of an option; the last one counts. -/
def Words.value? (w : Words) (name : String) : Option String :=
  (w.options.reverse.find? fun o => o.1 == name).map Prod.snd

/-- Whether an option is given. -/
def Words.has (w : Words) (name : String) : Bool :=
  (w.value? name).isSome

/-- The options and operands of some words. -/
def readOptions (specs : List OptionSpec) (words : List String) : Except UsageError Words :=
  match OptionState.initial.addWords specs words with
  | .error e => .error e
  | .ok s =>
    match s.pending with
    | some name => .error (.missingValue name)
    | none => .ok ⟨s.options, s.operands⟩

end LlmAudit
