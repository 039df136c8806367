import LlmAudit.Audit
import LlmAudit.Command.Invocation
import LlmAudit.Command.Session
import LlmAudit.Dependency.Guard
import LlmAudit.Discovery
import LlmAudit.Report.Export
import LlmAudit.Settings

/-!
# The audit of a project

This module formalizes the `scan` command of Section 17 (CLI) of the specification; that options
override the settings is from Section 18 (Configuration).

The command that audits a project: it reads the settings, runs the checks, compares with a baseline
and reports. What is asked for on the command line goes before the settings.
-/

namespace LlmAudit.Scan

/-- The formats in which a report is printed. -/
def formats : List String := ["json", "markdown"]

/-- The folder of a project, which must be there. -/
def target (m : Machine) (path : String) : Run Path := do
  let folder ← Run.orCrash (resolvePath m.workingDir (.parse path))
  match (← Run.files).find? folder with
  | none => Run.fail m ("Directory not found: " ++ folder.render)
  | some (.file _) => Run.fail m ("Not a directory: " ++ folder.render)
  | some .folder => return folder

/-- The format in which the report is printed, in lower case. -/
def formatOf (m : Machine) (asked : Option String) : Run (Option String) :=
  match asked with
  | none => return none
  | some f =>
    if formats.contains (Text.lowered f) then return some (Text.lowered f)
    else
      Run.fail m ("Invalid --format value '" ++ f ++ "'. Use one of: " ++
        ", ".intercalate formats ++ ".")

/-- A message and the words of its cause. -/
def withCause (message : String) (cause : Option String) : String :=
  match cause with
  | some c => message ++ ": " ++ c
  | none => message

/-- A text, if it is not empty. -/
def nonEmpty (s : Option String) : Option String :=
  s.filter (· ≠ "")

/-- The settings of the project. -/
def settings (m : Machine) (folder : Path) (asked : Option String) : Run Settings := do
  let path := (nonEmpty asked).map Path.parse
  match Settings.load m.limits.settings (← Run.files) m.workingDir folder path with
  | .ok s => return s
  | .error (.unreadable (.access e)) => Run.crash (.access e)
  | .error (.unreadable (.undecodable e)) => Run.fail m (e.messageAt e.position)
  | .error (.invalid _ .unfit) => Run.crash .unfitSettings
  | .error (.valueless fault) =>
    match fault.message? with
    | some message => Run.fail m message
    | none => Run.crash (.valuelessSettings fault)
  | .error e => Run.fail m (withCause e.message e.cause?)

/-- The least severity that is reported. -/
def severity (m : Machine) (asked : Option String) (s : Settings) : Run (Option Severity) :=
  match asked with
  | none => return s.severity
  | some word =>
    match Severity.parse? word with
    | some v => return some v
    | none => Run.fail m (Severity.invalidMessage word)

/-- The checks that are chosen, before the restriction to those for language models. -/
def chosen (asked : Option String) (s : Settings) :
    Except Check.ChoiceError (Option (List String)) :=
  match asked with
  | some text => (Check.parseIds text).map some
  | none => .ok (if s.rules.isEmpty then none else some s.rules)

/-- The checks that run; none means all. -/
def rules (m : Machine) (asked : Option String) (onlyModelChecks : Bool) (s : Settings) :
    Run (Option (List String)) :=
  match (chosen asked s).bind fun c => Check.resolve c (onlyModelChecks || s.onlyModelChecks) with
  | .ok ids => return ids
  | .error e => Run.fail m e.message

/-- The audit of the project. No path holds half a pair, so a pattern that does excludes nothing. -/
def audit (m : Machine) (folder : Path) (ids : Option (List String)) (exclude : List LooseText) :
    Run Audit := do
  match Discovery.units m.parser (← Run.files) folder (exclude.filterMap LooseText.text?) with
  | .ok units => return Audit.ofUnits units (ids.getD [])
  | .error (.unreadable e) => Run.crashReading e
  | .error e => Run.fail m e.message

/-- What is found about the dependencies of a project. -/
def dependencies (m : Machine) (folder : Path) : Run (List Finding) := do
  let t ← Run.files
  let bound := m.limits.manifest
  match Dependency.findings m.registry.admits bound t folder, Dependency.requests bound t folder with
  | .ok found, .ok addresses =>
    Run.ask addresses
    return found
  | .error (.tooManyDigits _), _ => Run.crash .tooManyDigits
  | .error .tooDeep, _ => Run.crash .tooDeep
  | _, _ => Run.crash .undecodable

/-- The path of the baseline, if there is to be one. No file can have a path with half a pair. -/
def baselinePath (folder : Path) (asked : Option String) (s : Settings) :
    Except AccessError (Option Path) :=
  match nonEmpty asked, s.baseline.filter (· ≠ .empty) with
  | some p, _ => .ok (some (.parse p))
  | none, some p =>
    match p.text? with
    | some p => .ok (some (folder.join (.parse p)))
    | none => .error .unnameable
  | none, none => .ok none

/-- The comparison with a baseline. What was written stays, also if the comparison fails. -/
def compare (m : Machine) (path : Path) (findings : List Finding) : Run Baseline.Comparison := do
  let path ← Run.orCrash (resolvePath m.workingDir path)
  let (result, t) := Baseline.compare m.limits.baseline (← Run.files) path m.now findings
  Run.setFiles t
  match result with
  | .ok c => return c
  | .error (.unusable (.tooManyDigits _)) => Run.crash .tooManyDigits
  | .error (.unusable .tooDeep) => Run.crash .tooDeep
  | .error (.unusable .unnameable) => Run.crash (.access .unnameable)
  | .error (.unusable e) => Run.fail m (withCause e.message e.cause?)
  | .error (.unwritable .tooManyDigits) => Run.crash .tooManyDigits
  | .error (.unwritable (.access e)) => Run.crash (.access e)

/-- The text of a report in a format. -/
def textIn (m : Machine) (format : String) (r : Report) : Except Json.Limit LooseText :=
  if format = "json" then r.toJson.canonical m.limits.report.count
  else r.markdown.map LooseText.ofString

/-- The format of a report in a file, by the file's suffix. -/
def formatOfFile? (path : Path) : Option String :=
  match Text.lowered path.suffix with
  | ".json" => some "json"
  | ".md" => some "markdown"
  | _ => none

/-- The text of a report in a file, if the file has a format and the report a text in it. -/
def reportText? (m : Machine) (r : Report) (path : Path) : Option LooseText :=
  (formatOfFile? path).bind fun format => (textIn m format r).toOption

/-- What is said once a report is written. -/
def writtenPage (path : Path) : List Line :=
  [.markup (styled "dim" ("Report written to " ++ path.render))]

/-- Stores the report in a file in a format. The folders are made first, so they stay if the report
has no text. -/
def storeIn (m : Machine) (r : Report) (path : Path) (format : String) : Run Unit :=
  match textIn m format r with
  | .ok text => Run.writeFile (m.workingDir.join path) text
  | .error e => do
    Run.makeFolders (m.workingDir.join path).parent
    Run.crash (.ofLimit e)

/-- Stores the report in a file. -/
def storeReport (m : Machine) (r : Report) (path : Path) : Run Unit :=
  (formatOfFile? path).elim
    (Run.fail m ("Unsupported output extension '" ++ path.suffix ++ "'. Use .json or .md."))
    (storeIn m r path)

/-- Stores the report in a file and says so. -/
def writeReport (m : Machine) (r : Report) (output : String) (quiet : Bool) : Run Unit := do
  storeReport m r (.parse output)
  if !quiet then
    Run.print m (writtenPage (.parse output))

/-- Writes the report to the file that is asked for, if one is. -/
def writeAsked (m : Machine) (r : Report) (output : Option String) (quiet : Bool) : Run Unit :=
  match nonEmpty output with
  | some o => writeReport m r o quiet
  | none => return ()

/-- The report of an audit, or why it cannot be made. -/
def report (m : Machine) (t : FileTree) (folder : Path) (a : Audit) (findings : List Finding)
    (baseline : Option Baseline.Comparison) : Except AccessError Report :=
  Report.build (ReportMeta.ofTarget m.now folder.render) (some ⟨t, folder⟩) findings a.ignored
    baseline a.scannedFiles

/-- The number of files that are named. -/
def preview : Nat := 20

/-- What is known of a project before anything is written. -/
structure Inspection where
  /-- The folder of the project. -/
  folder : Path
  /-- The format in which the report is printed. -/
  format : Option String
  /-- The least severity that is reported. -/
  least : Option Severity
  /-- The audit of the source files. -/
  audit : Audit
  /-- The active findings, those about dependencies included. -/
  findings : List Finding
  /-- The path of the baseline, if there is to be one. -/
  baselinePath : Option Path

/-- Checks what is asked for and looks at the project. -/
def inspect (m : Machine) (o : ScanOptions) : Run Inspection := do
  let folder ← target m o.path
  let format ← formatOf m o.format
  let s ← settings m folder o.config
  let least ← severity m o.severity s
  let ids ← rules m o.rules o.onlyModelChecks s
  let a ← audit m folder ids s.exclude
  if o.debug && !o.quiet then
    Run.printDebug m (debugPage a.scannedFiles ids preview)
  let found ← if o.dependencies then dependencies m folder else pure []
  let path ← Run.orCrash (baselinePath folder o.baseline s)
  return ⟨folder, format, least, a, a.findings ++ found, path⟩

/-- The comparison with the baseline that is asked for, if one is. -/
def compareAsked (m : Machine) (i : Inspection) : Run (Option Baseline.Comparison) :=
  match i.baselinePath with
  | some path => some <$> compare m path i.findings
  | none => return none

/-- The report on a project, or why it cannot be made. -/
def Inspection.report (m : Machine) (i : Inspection) (t : FileTree)
    (baseline : Option Baseline.Comparison) : Except AccessError Report :=
  let reported := match baseline with
    | some c => c.findings
    | none => i.findings
  Scan.report m t i.folder i.audit (Finding.filterSeverity i.least reported) baseline

/-- Prints and writes the report as asked for. -/
def present (m : Machine) (o : ScanOptions) (format : Option String) (r : Report) : Run Unit :=
  match format with
  | some f =>
    match textIn m f r with
    | .ok text => do
      Run.writeText text
      writeAsked m r o.output true
    | .error e => Run.crash (.ofLimit e)
  | none => do
    writeAsked m r o.output o.quiet
    if !o.quiet then
      Run.print m (r.summaryPage o.limit)

/-- Audits a project. -/
def run (m : Machine) (o : ScanOptions) : Run Unit := do
  let i ← inspect m o
  let baseline ← compareAsked m i
  let r ← Run.orCrash (i.report m (← Run.files) baseline)
  present m o i.format r

end LlmAudit.Scan
