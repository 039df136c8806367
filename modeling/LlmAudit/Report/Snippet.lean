import LlmAudit.Files.Tree

/-!
# Snippets

This module formalizes the code snippets of Section 16 (Reporting) of the specification: "±2 lines,
flagged line marked".

The lines around a place in a source file. A reader that is asked for many of them reads each file
once.
-/

namespace LlmAudit

/-- A line of a snippet. -/
structure SnippetLine where
  /-- The number of the line, counted from one. -/
  number : Nat
  /-- The text of the line. -/
  text : String
  /-- Whether it is the line that the snippet is about. -/
  highlight : Bool
  deriving DecidableEq

namespace Snippet

/-- The number of lines shown before and after the line that a snippet is about. -/
def margin : Nat := 2

/-- The lines from a number up to another one. -/
def between (lines : List String) (first last highlighted : Nat) : List SnippetLine :=
  (((lines.zipIdx 1).drop (first - 1)).take (last + 1 - first)).map fun (text, n) =>
    ⟨n, text, n == highlighted⟩

/-- The snippet about a line; empty if there is no such line. -/
def ofLines (lines : List String) (line : Int) : List SnippetLine :=
  if 1 ≤ line ∧ line ≤ lines.length then
    let n := line.toNat
    between lines (max 1 (n - margin)) (min lines.length (n + margin)) n
  else []

/-- The lines of a file; none if it cannot be read. -/
def linesOf? (t : FileTree) (folder : Path) (file : String) : Option (List String) :=
  match t.readLossy (folder.join (.parse file)) with
  | .ok text => some ((Text.lines text).map String.ofList)
  | .error _ => none

/-- Where snippets are read from: the files and the folder of a project. -/
structure Source where
  /-- The files. -/
  files : FileTree
  /-- The folder from which files are seen. -/
  folder : Path

namespace Source

/-- Whether a file can have the path that a name leads to. -/
def admits (s : Source) (file : String) : Bool :=
  (s.folder.join (.parse file)).isNameable

/-- The lines of a file, none if it cannot be read; an error if no file can have the path. -/
def linesOf (s : Source) (file : String) : Except AccessError (Option (List String)) :=
  if s.admits file then .ok (linesOf? s.files s.folder file) else .error .unnameable

end Source

/-- Whether a file has a name under which nothing can be looked for. -/
def refuses (source : Option Source) (file : String) : Bool :=
  source.any fun s => !s.admits file

/-- The snippet about a line of a file; empty if there is nowhere to read from. -/
def read (source : Option Source) (file : String) (line : Int) : List SnippetLine :=
  match source with
  | none => []
  | some s =>
    match linesOf? s.files s.folder file with
    | some lines => ofLines lines line
    | none => []

/-- A reader of snippets. It keeps the lines of the files that it was asked for, so that no file is
read twice. -/
structure Reader where
  /-- Where it reads from. -/
  source : Option Source
  /-- The files that it was asked for, each with its lines; none for one that cannot be read. -/
  known : List (String × Option (List String))
  /-- What it keeps is what reading gives. -/
  faithful : ∀ e ∈ known, ∃ s, source = some s ∧ s.linesOf e.1 = .ok e.2

namespace Reader

/-- A reader that has read nothing. -/
def new (source : Option Source) : Reader := ⟨source, [], List.forall_mem_nil _⟩

/-- The lines of a file, and the reader afterwards. -/
def linesOf (r : Reader) (file : String) : Except AccessError (Option (List String)) × Reader :=
  match hsource : r.source with
  | none => (.ok none, r)
  | some s =>
    match r.known.find? fun e => e.1 == file with
    | some e => (.ok e.2, r)
    | none =>
      match hlines : s.linesOf file with
      | .error e => (.error e, r)
      | .ok lines =>
        (.ok lines,
          { r with
            known := (file, lines) :: r.known
            faithful := List.forall_mem_cons.2 ⟨⟨s, hsource, hlines⟩, r.faithful⟩ })

/-- The snippet about a line of a file, and the reader afterwards. -/
def snippet (r : Reader) (file : String) (line : Int) :
    Except AccessError (List SnippetLine) × Reader :=
  match r.linesOf file with
  | (.error e, r') => (.error e, r')
  | (.ok none, r') => (.ok [], r')
  | (.ok (some lines), r') => (.ok (ofLines lines line), r')

/-- The snippets about lines of files, one after another, and the reader afterwards. -/
def snippets (r : Reader) :
    List (String × Int) → List (Except AccessError (List SnippetLine)) × Reader
  | [] => ([], r)
  | (file, line) :: rest =>
    let (answer, r') := r.snippet file line
    let (answers, r'') := r'.snippets rest
    (answer :: answers, r'')

end Reader

end Snippet

end LlmAudit
