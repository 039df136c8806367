import LlmAudit.Command.Run
import LlmAudit.Syntax.OutlineFile
import Std.Time.Zoned

/-!
# The command line tool

Reads the files that a command may look at, runs the command on them, and writes what it leaves
behind. Registries are out of reach from here, and an outage stops nobody. The terminal knows no
pictures.
-/

namespace LlmAudit.Tool

/-- The greatest depth of folders that is read. -/
def depthLimit : Nat := 64

/-- The entries at an absolute path and below it; what cannot be read is left out. -/
def loadEntries (depth : Nat) (path : Path) : IO (List (List String × Entry)) := do
  match depth with
  | 0 => return []
  | depth + 1 =>
    let place := (← IO.currentDir) / path.render
    try
      if ← place.isDir then
        let below ← (← place.readDir).toList.mapM fun e =>
          loadEntries depth (path.join (.parse e.fileName))
        return (path.parts, Entry.folder) :: below.flatten
      else
        return [(path.parts, Entry.file (← IO.FS.readBinFile place).toList)]
    catch _ => return []

/-- The folders above an absolute path. -/
def foldersAbove (path : Path) : List (List String × Entry) :=
  (List.range path.parts.length).map fun n => (path.parts.take n, Entry.folder)

/-- The paths that a command may look at: the working directory and what its words name. -/
def namedPaths (workingDir : Path) (words : List String) : List Path :=
  let afterEquals (w : String) : String := String.ofList ((w.toList.dropWhile (· != '=')).drop 1)
  let named := (words ++ words.map afterEquals).filter (· ≠ "")
  let resolved := named.map fun w => Path.resolve workingDir (.parse w)
  workingDir :: (resolved.filter fun p => !workingDir.parts.isPrefixOf p.parts).eraseDups

/-- The files that a command may look at. -/
def loadFiles (workingDir : Path) (words : List String) : IO FileTree := do
  let loaded ← (namedPaths workingDir words).mapM fun p => do
    let entries ← loadEntries depthLimit p
    return if entries.isEmpty then [] else foldersAbove p ++ entries
  return loaded.flatten.foldl (fun t e => t.put e.1 e.2) FileTree.empty

/-- Writes the entries of a tree that another one does not have. -/
def saveFiles (before after : FileTree) : IO Unit :=
  after.entries.forM fun (parts, entry) => do
    if before.entryAt? parts != some entry then
      let path : Path := ⟨.root, parts⟩
      match entry with
      | .folder => IO.FS.createDirAll path.render
      | .file bytes =>
        IO.FS.createDirAll path.parent.render
        IO.FS.writeBinFile path.render ⟨bytes.toArray⟩

/-- The time as a text, down to a millionth of a second. -/
def now : IO String := do
  let wall := Std.Time.WallTime.ofTimestamp (← Std.Time.Timestamp.now) .zero
  let t := Std.Time.PlainDateTime.ofWallTime wall
  let moment : Moment :=
    ⟨t.year.toInt.toNat, t.month.val.toNat, t.day.val.toNat,
      some ⟨t.hour.val.toNat, t.minute.val.toNat, t.second.val.toNat,
        t.nanosecond.val.toNat / 1000, some 0⟩⟩
  return moment.render.map fun c => if c = ' ' then 'T' else c

/-- How deeply data may stand in each other. -/
def limits : DepthLimits :=
  ⟨488, 992, ⟨992, by decide⟩, ⟨992, by decide⟩⟩

/-- Runs a command line. -/
def runWords (words : List String) : IO UInt32 := do
  let workingDir := Path.parse (← IO.currentDir).toString
  let files ← loadFiles workingDir words
  let machine : Machine :=
    { workingDir := workingDir
      parser := outlineParser files
      registry := fun _ => .unreachable
      now := ← now
      emoji := .none
      limits := limits }
  let outcome := runCommandLine machine files words
  saveFiles files outcome.session.files
  IO.print (String.ofList outcome.session.output)
  IO.eprint (String.ofList outcome.session.debugOutput)
  match outcome.ending.complaint? with
  | some s => IO.eprintln s
  | none => pure ()
  return UInt32.ofNat outcome.ending.exitCode

end LlmAudit.Tool

/-- The command line tool. -/
def main (words : List String) : IO UInt32 :=
  LlmAudit.Tool.runWords words
