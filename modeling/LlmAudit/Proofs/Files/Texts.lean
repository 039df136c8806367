import LlmAudit.Files.Tree
import LlmAudit.Proofs.Text.Utf8

/-!
# Files that hold texts

What a file holds, said without a reader: its bytes are those of a text (`HoldsText`), or of none
(`Garbled`). A strict reading gives the text (`readText_eq_ok_iff`), stops at the bytes
(`readText_undecodable_iff`), or finds no file to read.
-/

namespace LlmAudit.FileTree

/-- A file of well-formed bytes stands at a path and holds a text; its line breaks count as line
feeds. -/
def HoldsText (t : FileTree) (path : Path) (text : List Char) : Prop :=
  ∃ place cs, t.locate path = .ok place ∧ t.entryAt? place = some (.file (Utf8.encode cs)) ∧
    text = Text.unifyBreaks cs

theorem readText_eq_ok_iff {t : FileTree} {path : Path} {text : List Char} :
    t.readText path = .ok text ↔ t.HoldsText path text := by
  constructor
  · intro h
    unfold readText read at h
    cases hlocate : t.locate path with
    | error e =>
      rw [hlocate] at h
      cases h
    | ok place =>
      rw [hlocate] at h
      dsimp only at h
      cases hentry : t.entryAt? place with
      | none =>
        rw [hentry] at h
        cases h
      | some entry =>
        rw [hentry] at h
        cases entry with
        | folder => cases h
        | file bytes =>
          dsimp only at h
          cases hdecode : Utf8.decode bytes with
          | error e =>
            rw [hdecode] at h
            cases h
          | ok cs =>
            rw [hdecode] at h
            rw [Utf8.decode_eq_ok_iff.1 hdecode] at hentry
            exact ⟨place, cs, hlocate, hentry, (Except.ok.inj h).symm⟩
  · rintro ⟨place, cs, hlocate, hentry, rfl⟩
    rw [readText, read, hlocate]
    dsimp only
    rw [hentry]
    dsimp only
    rw [Utf8.decode_encode]

theorem HoldsText.unique {t : FileTree} {path : Path} {text text' : List Char}
    (h : t.HoldsText path text) (h' : t.HoldsText path text') : text = text' :=
  Except.ok.inj ((readText_eq_ok_iff.2 h).symm.trans (readText_eq_ok_iff.2 h'))

/-- Where something stands, a file can have the path. -/
theorem readText_ne_unnameable {t : FileTree} {path : Path} (h : t.has path = true) :
    t.readText path ≠ .error (.access .unnameable) := by
  intro hread
  rw [readText] at hread
  cases hbytes : t.read path with
  | ok bytes =>
    rw [hbytes] at hread
    dsimp only at hread
    split at hread <;> cases hread
  | error e =>
    rw [hbytes] at hread
    obtain rfl : e = .unnameable := ReadError.access.inj (Except.error.inj hread)
    rw [has, find?] at h
    rw [read] at hbytes
    cases hlocate : t.locate path with
    | error e =>
      rw [hlocate] at h
      cases h
    | ok place =>
      rw [hlocate] at hbytes
      dsimp only at hbytes
      split at hbytes <;> cases hbytes

/-- A file stands at a path, and its bytes are those of no text. -/
def Garbled (t : FileTree) (path : Path) : Prop :=
  ∃ bytes, t.read path = .ok bytes ∧ ∀ cs, bytes ≠ Utf8.encode cs

variable {t t' : FileTree} {path : Path}

/-- Exactly the bytes of no text stop a reading. -/
theorem readText_undecodable_iff :
    (∃ e, t.readText path = .error (.undecodable e)) ↔ t.Garbled path := by
  constructor
  · rintro ⟨e, h⟩
    rw [readText] at h
    split at h
    · cases h
    · rename_i bytes hread
      split at h
      · rename_i hdecode
        refine ⟨bytes, hread, fun cs hbytes => ?_⟩
        rw [hbytes, Utf8.decode_encode] at hdecode
        cases hdecode
      · cases h
  · rintro ⟨bytes, hread, hnone⟩
    rw [readText, hread]
    dsimp only
    cases hdecode : Utf8.decode bytes with
    | error e => exact ⟨e, rfl⟩
    | ok cs => exact absurd (Utf8.decode_eq_ok_iff.1 hdecode) (hnone cs)

/-- A reading depends on the bytes that stand at the path. -/
theorem readText_congr (h : t'.read path = t.read path) : t'.readText path = t.readText path := by
  rw [readText, readText, h]

/-! ### What stands at the path -/

theorem has_of_read {bytes : List UInt8} (h : t.read path = .ok bytes) : t.has path = true := by
  rw [read] at h
  split at h
  · cases h
  · rename_i parts hlocate
    rw [has, find?, hlocate]
    dsimp only
    split at h
    · cases h
    · cases h
    · rename_i hentry
      rw [hentry]
      rfl

theorem HoldsText.has {text : List Char} (h : t.HoldsText path text) : t.has path = true := by
  obtain ⟨parts, cs, hlocate, hentry, -⟩ := h
  rw [FileTree.has, find?, hlocate]
  dsimp only
  rw [hentry]
  rfl

end LlmAudit.FileTree
