import LlmAudit.Directive.Basic
import LlmAudit.Finding.Key
import LlmAudit.Syntax.Source

/-!
# Suppression

This module formalizes the matching in Section 4.5 (Ignore-Annotation Resolver) of the
specification: "the first unconsumed directive in the same normalized file whose `rule_id` equals
the finding's rule and whose `line` is strictly less than the finding's line".

Findings are taken by file key and line. Each consumes the first directive of its file that suits
it and is ignored with that directive's reason; a finding without such a directive stays active.

## Main definitions

* `Directive.Table.ofUnits` — the directives of a project by file key.
* `suppress` — the split of findings into active and ignored ones.
-/

namespace LlmAudit

/-- The directives of a project by file key, in the order in which the keys came. -/
abbrev Directive.Table := List (String × List Directive)

namespace Directive.Table

/-- The directives of a file key. -/
def get (table : Table) (key : String) : List Directive :=
  match table with
  | [] => []
  | (k, ds) :: rest => if k = key then ds else get rest key

/-- The table with other directives for a key; a new key goes to the end. -/
def set (table : Table) (key : String) (directives : List Directive) : Table :=
  match table with
  | [] => [(key, directives)]
  | (k, ds) :: rest =>
    if k = key then (k, directives) :: rest else (k, ds) :: set rest key directives

/-- The table with the directives of one more file, behind those of the same key. -/
def addUnit (table : Table) (unit : SourceUnit) : Table :=
  match Directive.parse unit.lines with
  | [] => table
  | found => table.set (fileKey unit.path) (table.get (fileKey unit.path) ++ found)

/-- The directives of source files. -/
def ofUnits (units : List SourceUnit) : Table :=
  units.foldl addUnit []

/-- The table after one directive of a key is consumed by hand. -/
def consumeAt (table : Table) (key : String) (index : Nat) :
    Except Directive.ConsumedTwice Table :=
  match (table.get key)[index]? with
  | none => .ok table
  | some d =>
    match d.consume with
    | .ok d' => .ok (table.set key ((table.get key).set index d'))
    | .error e => .error e

end Directive.Table

/-- The first directive that suits a finding, and the list in which it is consumed. -/
def consumeFirst (f : Finding) : List Directive → Option (Directive × List Directive)
  | [] => none
  | d :: rest =>
    if d.suits f then some (d, { d with consumed := true } :: rest)
    else (consumeFirst f rest).map fun (m, rest') => (m, d :: rest')

/-- Whether a finding comes before or with another by file key and line. -/
def Finding.placeLe (f g : Finding) : Bool :=
  let a := fileKey f.file
  let b := fileKey g.file
  decide (a < b ∨ (a = b ∧ f.line ≤ g.line))

/-- Findings by file key and line; equal places keep their order. -/
def Finding.sortByPlace (findings : List Finding) : List Finding :=
  findings.mergeSort Finding.placeLe

/-- The split of findings, with the directives afterwards. -/
structure Suppression where
  /-- The findings without a directive. -/
  active : List Finding
  /-- The findings with a directive. -/
  ignored : List IgnoredFinding
  /-- The directives afterwards. -/
  table : Directive.Table

/-- Suppresses findings in the order given. -/
def suppressInOrder (table : Directive.Table) : List Finding → Suppression
  | [] => ⟨[], [], table⟩
  | f :: rest =>
    match consumeFirst f (table.get (fileKey f.file)) with
    | none =>
      let s := suppressInOrder table rest
      { s with active := f :: s.active }
    | some (d, ds) =>
      let s := suppressInOrder (table.set (fileKey f.file) ds) rest
      { s with ignored := ⟨f, d.reason, d.line⟩ :: s.ignored }

/-- Suppresses findings by file key and line. -/
def suppress (table : Directive.Table) (findings : List Finding) : Suppression :=
  suppressInOrder table (Finding.sortByPlace findings)

end LlmAudit
