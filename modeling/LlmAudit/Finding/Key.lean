import LlmAudit.Finding.Basic

/-!
# Keys of findings

This module formalizes Section 4.4 (Deduplicator) of the specification.

A source file and its compiled twin count as one file: the key of a path has forward slashes and
lower case, and a source extension at its end is cut off. Findings with the same rule, file key,
line and summary are one finding, of which the first is kept.

## Main definitions

* `fileKey`, `LooseText.fileKey` — the key of a path.
* `Finding.dedupe` — the first finding of each key.
-/

namespace LlmAudit

/-- The extensions of source files that are cut off. -/
def keyExtensions : List (List Char) :=
  [".ts".toList, ".tsx".toList, ".js".toList, ".jsx".toList]

/-- A text without the source extension at its end. -/
def cutExtension (s : List Char) : List Char :=
  match keyExtensions.find? fun e => e.isSuffixOf s with
  | some e => s.take (s.length - e.length)
  | none => s

/-- A text without the source extension at its end; a line feed may stand after the extension and
stays. -/
def cutFinalExtension (s : List Char) : List Char :=
  if s.getLast? = some '\n' then cutExtension s.dropLast ++ ['\n'] else cutExtension s

/-- A path with forward slashes only. -/
def forwardSlashes (s : List Char) : List Char :=
  s.map fun c => if c = '\\' then '/' else c

/-- The key of a path. -/
def fileKey (path : String) : String :=
  String.ofList (cutFinalExtension (Text.lower (forwardSlashes path.toList)))

/-- The key of a path in which halves of pairs may stand: each part between them is changed like a
path, and an extension is cut off the last one. -/
def LooseText.fileKey (path : LooseText) : LooseText :=
  let folded (s : List Char) : List Char := Text.lower (forwardSlashes s)
  ⟨mapRuns folded (fun s => cutFinalExtension (folded s)) [] path.points⟩

namespace Finding

/-- What makes two findings one. -/
structure Key where
  /-- The rule. -/
  ruleId : String
  /-- The key of the file. -/
  file : String
  /-- The line. -/
  line : Int
  /-- The summary. -/
  summary : LooseText
  deriving DecidableEq

/-- The key of a finding. -/
def key (f : Finding) : Key :=
  ⟨f.ruleId, fileKey f.file, f.line, f.summary⟩

/-- The findings whose key is not among the seen ones, the first of each. -/
def dedupeFrom (seen : List Key) : List Finding → List Finding
  | [] => []
  | f :: rest =>
    if f.key ∈ seen then dedupeFrom seen rest else f :: dedupeFrom (f.key :: seen) rest

/-- The first finding of each key, in the order given. -/
def dedupe (findings : List Finding) : List Finding :=
  dedupeFrom [] findings

end Finding

end LlmAudit
