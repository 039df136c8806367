import LlmAudit.Command.Options
import LlmAudit.Dependency.Package
import LlmAudit.Report.Page
import LlmAudit.Syntax.Source
import LlmAudit.Yaml.Fault

/-!
# Sessions

A command is a function of the machine it runs on: it reads the files, asks the registries and knows
the time; it leaves other files behind, prints, and ends in one of a few ways. What was done before
it ends stays done, however it ends.

## Main definitions

* `Machine` — what a command runs on.
* `Ending` — how a command ends.
* `Run` — a part of a command.
-/

namespace LlmAudit

/-- How deeply data may stand in each other. The numbers depend on the machine, and on how deep the
command already is where the data are read or written. -/
structure DepthLimits where
  /-- The collections of the settings. -/
  settings : Nat
  /-- The lists and objects of a manifest. -/
  manifest : Nat
  /-- The lists and objects of a baseline. -/
  baseline : Json.DepthLimit
  /-- The lists and objects of a report. -/
  report : Json.DepthLimit

/-- What a command runs on. -/
structure Machine where
  /-- The folder that the command is started in. -/
  workingDir : Path
  /-- The parser of source files. -/
  parser : SourceParser
  /-- The registries of packages. -/
  registry : Registry
  /-- The time. -/
  now : String
  /-- The pictures that the terminal knows. -/
  emoji : Emoji
  /-- How deeply data may stand in each other. -/
  limits : DepthLimits

/-- What a command has done so far. -/
structure Session where
  /-- The files. -/
  files : FileTree
  /-- What was printed. -/
  output : List Char
  /-- What was printed for those who look for faults. -/
  debugOutput : List Char
  /-- The addresses that were asked. -/
  requests : List String

/-- What breaks a command off without a message. -/
inductive Crash where
  /-- Settings of a kind that has no reading. -/
  | unfitSettings
  /-- Settings in a text that asks for a value that does not exist. -/
  | valuelessSettings (fault : Yaml.Fault)
  /-- Bytes that are no text. -/
  | undecodable
  /-- A whole number with too many digits. -/
  | tooManyDigits
  /-- Data that stand in each other too deeply. -/
  | tooDeep
  /-- A path that cannot be used. -/
  | access (e : AccessError)
  /-- A line that cannot be printed. -/
  | markup (e : Markup.Error)
  /-- A text that holds half a pair, which no bytes write. -/
  | unencodable
  deriving DecidableEq

/-- What breaks a command off, in words. -/
def Crash.describe : Crash → String
  | .unfitSettings => "the settings are unfit"
  | .valuelessSettings fault => fault.describe
  | .undecodable => "a file holds bytes that are no text"
  | .tooManyDigits => "a whole number has too many digits"
  | .tooDeep => "data stand in each other too deeply"
  | .access e => e.describe
  | .markup _ => "a line cannot be printed"
  | .unencodable => "a text holds half a pair"

/-- What breaks a command off when something is too much to be written. -/
def Crash.ofLimit : Json.Limit → Crash
  | .tooManyDigits _ => .tooManyDigits
  | .tooDeep => .tooDeep

/-- How a command ends. -/
inductive Ending where
  /-- As it should. -/
  | success
  /-- With a message. -/
  | failure
  /-- Because it was called in a wrong way. -/
  | usage (e : UsageError)
  /-- Without a message. -/
  | crash (c : Crash)

/-- The number that tells how a command ended. -/
def Ending.exitCode : Ending → Nat
  | .success => 0
  | .failure => 1
  | .usage _ => 2
  | .crash _ => 1

/-- What a user is told besides what was printed. -/
def Ending.complaint? : Ending → Option String
  | .success => none
  | .failure => none
  | .usage e => some e.message
  | .crash c => some c.describe

/-- A part of a command: it may end the command. -/
abbrev Run := ExceptT Ending (StateM Session)

namespace Run

/-- The files. -/
def files : Run FileTree := do
  return (← get).files

/-- Breaks the command off. -/
def crash {α : Type} (c : Crash) : Run α :=
  throw (.crash c)

/-- Prints characters. -/
def write (s : List Char) : Run Unit :=
  modify fun session => { session with output := session.output ++ s }

/-- Prints a text as it is. -/
def writeText (t : LooseText) : Run Unit :=
  match t.chars? with
  | some s => write s
  | none => crash .unencodable

/-- Prints lines; one that cannot be printed breaks the command off. -/
def print (m : Machine) (lines : List Line) : Run Unit := do
  let (s, e) := printPage m.emoji lines
  write s
  match e with
  | none => return ()
  | some e => crash (.markup e)

/-- Prints lines for those who look for faults. -/
def printDebug (m : Machine) (lines : List Line) : Run Unit := do
  let (s, e) := printPage m.emoji lines
  modify fun session => { session with debugOutput := session.debugOutput ++ s }
  match e with
  | none => return ()
  | some e => crash (.markup e)

/-- Ends the command with a message. -/
def fail {α : Type} (m : Machine) (message : String) : Run α := do
  print m (failurePage message)
  throw .failure

/-- A value, or the end of the command at a path that cannot be used. -/
def orCrash {α : Type} (x : Except AccessError α) : Run α :=
  match x with
  | .ok x => return x
  | .error e => crash (.access e)

/-- Breaks the command off at a file that cannot be read. -/
def crashReading {α : Type} (e : ReadError) : Run α :=
  match e with
  | .access e => crash (.access e)
  | .undecodable _ => crash .undecodable

/-- Leaves other files behind. -/
def setFiles (t : FileTree) : Run Unit :=
  modify fun session => { session with files := t }

/-- Remembers the addresses that were asked. -/
def ask (addresses : List String) : Run Unit :=
  modify fun session => { session with requests := session.requests ++ addresses }

/-- Makes a folder and those above it, if need be. -/
def makeFolders (path : Path) : Run Unit := do
  let (result, t) := (← files).makeFolders path
  setFiles t
  orCrash result

/-- Writes a file, whose folders are made if need be. A text that no bytes write leaves the file
empty. -/
def writeFile (path : Path) (text : LooseText) : Run Unit := do
  let (result, t) := (← files).writeMaking path (text.chars?.getD [])
  setFiles t
  orCrash result
  if text.chars?.isNone then
    crash .unencodable

end Run

end LlmAudit
