import LlmAudit.Text.Case
import LlmAudit.Text.Search

/-!
# Paths

A path is a list of parts from the root directory or from the working directory. Repeated slashes, a
slash at the end and the parts that mean the directory itself are dropped on reading, but for two
slashes at the front, which stay; the parts that mean the parent stay until a path is resolved.

## Main definitions

* `Path.parse`, `Path.render` — paths as texts.
* `Path.name`, `Path.suffix`, `Path.parent`, `Path.join` — parts of paths.
* `Path.resolve` — the absolute path without parts that mean the parent.
-/

namespace LlmAudit

/-- Where a path starts. -/
inductive Path.Start where
  /-- At the working directory. -/
  | workingDir
  /-- At the root directory. -/
  | root
  /-- At the root directory, which is written with two slashes. -/
  | doubledRoot
  deriving DecidableEq

/-- A path. -/
structure Path where
  /-- Where it starts. -/
  start : Path.Start
  /-- Its parts, none of them empty or `.`. -/
  parts : List String
  deriving DecidableEq

namespace Path

/-- The start of a path with a number of slashes at the front: two are a start of their own, more
are one. -/
def Start.ofSlashes : Nat → Start
  | 0 => .workingDir
  | 2 => .doubledRoot
  | _ => .root

/-- The slashes of a start. -/
def Start.render : Start → String
  | .workingDir => ""
  | .root => "/"
  | .doubledRoot => "//"

/-- The path that a text writes. -/
def parse (s : String) : Path where
  start := .ofSlashes (s.toList.takeWhile (· == '/')).length
  parts := (Text.splitOn '/' s).filter fun p => p ≠ "" ∧ p ≠ "."

/-- The text of a path. -/
def render (p : Path) : String :=
  if p.start = .workingDir ∧ p.parts.isEmpty then "."
  else p.start.render ++ "/".intercalate p.parts

/-- The last part; empty if there is none. -/
def name (p : Path) : String :=
  p.parts.getLast?.getD ""

/-- The parts, with the slashes of the start in front if there are any. -/
def components (p : Path) : List String :=
  if p.start = .workingDir then p.parts else p.start.render :: p.parts

/-- The last dot of a name and what follows it; nothing if the dot is the first or the last
character. -/
def suffixOf (name : List Char) : List Char :=
  let tail := name.reverse.takeWhile (· != '.')
  let head := (name.reverse.dropWhile (· != '.')).drop 1
  if tail.isEmpty ∨ head.isEmpty then [] else '.' :: tail.reverse

/-- The suffix of the last part. -/
def suffix (p : Path) : String :=
  String.ofList (suffixOf p.name.toList)

/-- The path without its last part. -/
def parent (p : Path) : Path :=
  { p with parts := p.parts.dropLast }

/-- A path seen from another; one that starts at the root directory stays. -/
def join (base p : Path) : Path :=
  if p.start = .workingDir then { base with parts := base.parts ++ p.parts } else p

/-- Parts without those that mean the parent. -/
def collapse (parts : List String) : List String :=
  (parts.foldl (fun done p => if p = ".." then done.drop 1 else p :: done) []).reverse

/-- The absolute path, seen from a working directory, without parts that mean the parent. -/
def resolve (workingDir p : Path) : Path :=
  { start := .root, parts := collapse (workingDir.join p).parts }

/-- Whether files can have a path: no part holds a null character. -/
def isNameable (p : Path) : Bool :=
  p.parts.all fun part => !part.toList.contains '\x00'

/-- The order of paths: by their components, each by code points. -/
def partsLe : List String → List String → Bool
  | [], _ => true
  | _ :: _, [] => false
  | a :: as, b :: bs => if a = b then partsLe as bs else decide (a < b)

end Path

end LlmAudit
