import LlmAudit.Baseline.Diff
import LlmAudit.Proofs.Files.Writing

/-!
# What a run with a baseline changes

Section 4.6 (Baseline Differ) of the specification says that "the Differ never rewrites the baseline
file on a diff run — only first-run creation persists state".

A run with a baseline writes at most one file, and only where nothing stood: the baseline itself.
A run that stops leaves all files as they were, though it may have made folders.
-/

namespace LlmAudit.Baseline

open FileTree (AddsFolders Written)

variable {limit : Json.DepthLimit} {t u : FileTree} {path : Path} {now : String}
variable {findings : List Finding}

/-- Saving either fails and adds folders only, or writes the text of the document. -/
theorem save_cases (t : FileTree) (path : Path) (now : String) (findings : List Finding) :
    (∃ e u, save t path now findings = (.error e, u) ∧ AddsFolders t u) ∨
      ∃ place u, save t path now findings = (.ok (Document.ofFindings now findings), u) ∧
        Written t path (Utf8.encode (Document.ofFindings now findings).text) place u := by
  have hadds := FileTree.makeFolders_addsFolders t path.parent
  rw [save]
  rcases hmade : t.makeFolders path.parent with ⟨e | ⟨⟩, v⟩
  · exact .inl ⟨.access e, v, rfl, by simpa [hmade] using hadds⟩
  · rw [hmade] at hadds
    dsimp only
    split
    · cases hwrite : v.write path (Utf8.encode (Document.ofFindings now findings).text) with
      | error e => exact .inl ⟨.access e, v, rfl, hadds⟩
      | ok u =>
        obtain ⟨place, hwritten⟩ := Written.of_write hadds hwrite
        exact .inr ⟨place, u, rfl, hwritten⟩
    · exact .inl ⟨.tooManyDigits, v, rfl, hadds⟩

/-- What is saved has no line with too many digits. -/
theorem writable_of_save {d : Document} (h : save t path now findings = (.ok d, u)) :
    ∀ e ∈ (Document.ofFindings now findings).entries, isWritable e.line = true := by
  rw [save] at h
  split at h
  · cases h
  · split at h
    · rename_i hall
      exact List.all_eq_true.1 hall
    · cases h

/-- Where a file can be written, a baseline is saved if its lines do not have too many digits. -/
theorem save_of_accepts (haccepts : t.Accepts path) (now : String)
    (hlines : ∀ e ∈ (Document.ofFindings now findings).entries, isWritable e.line = true) :
    ∃ place u, save t path now findings = (.ok (Document.ofFindings now findings), u) ∧
      Written t path (Utf8.encode (Document.ofFindings now findings).text) place u := by
  obtain ⟨v, u, hmade, hwrite⟩ :=
    haccepts.write_eq (Utf8.encode (Document.ofFindings now findings).text)
  have hadds := FileTree.makeFolders_addsFolders t path.parent
  rw [hmade] at hadds
  obtain ⟨place, hwritten⟩ := Written.of_write hadds hwrite
  refine ⟨place, u, ?_, hwritten⟩
  rw [save, hmade]
  dsimp only
  rw [if_pos (List.all_eq_true.2 hlines), hwrite]

/-- A run that stops adds folders at most. -/
theorem addsFolders_of_compare_error {e : RunError}
    (h : compare limit t path now findings = (.error e, u)) : AddsFolders t u := by
  rw [compare] at h
  split at h
  · cases hload : load limit t path with
    | error err =>
      rw [hload, Prod.mk.injEq] at h
      exact h.2 ▸ .refl t
    | ok d =>
      rw [hload] at h
      cases h
  · rcases save_cases t path now findings with ⟨err, v, hsave, hadds⟩ | ⟨place, v, hsave, -⟩
    · rw [hsave, Prod.mk.injEq] at h
      exact h.2 ▸ hadds
    · rw [hsave] at h
      cases h

/-- A run that goes through has found a baseline and changed nothing, or has found none and saved
its findings. -/
theorem compare_cases {c : Comparison} (h : compare limit t path now findings = (.ok c, u)) :
    (t.has path = true ∧ u = t ∧ ∃ d, load limit t path = .ok d ∧
      c = ⟨false, path.render, newOrWorse d.entries findings, d.entries.length, findings.length⟩) ∨
    (t.has path = false ∧ (∃ d, save t path now findings = (.ok d, u)) ∧
      c = ⟨true, path.render, findings, findings.length, findings.length⟩) := by
  rw [compare] at h
  split at h
  · rename_i hhas
    cases hload : load limit t path with
    | error err =>
      rw [hload] at h
      cases h
    | ok d =>
      rw [hload] at h
      cases h
      exact .inl ⟨hhas, rfl, d, rfl, rfl⟩
  · rename_i hhas
    rcases hsave : save t path now findings with ⟨err | d, v⟩
    · rw [hsave] at h
      cases h
    · rw [hsave] at h
      cases h
      exact .inr ⟨Bool.eq_false_iff.2 hhas, ⟨d, rfl⟩, rfl⟩

/-- A run that makes the baseline saves its findings. -/
theorem save_of_compare_created {c : Comparison}
    (h : compare limit t path now findings = (.ok c, u)) (hc : c.created = true) :
    ∃ d, save t path now findings = (.ok d, u) := by
  rcases compare_cases h with ⟨-, -, d, -, rfl⟩ | ⟨-, hsave, -⟩
  · cases hc
  · exact hsave

/-- What is saved is written at the path. -/
theorem written_of_save {d : Document} (h : save t path now findings = (.ok d, u)) :
    ∃ place, Written t path (Utf8.encode (Document.ofFindings now findings).text) place u := by
  rcases save_cases t path now findings with ⟨err, v, hsave, -⟩ | ⟨place, v, hsave, hwritten⟩
  · rw [hsave] at h
    cases h
  · rw [hsave, Prod.mk.injEq] at h
    exact ⟨place, h.2 ▸ hwritten⟩

/-- A run that makes the baseline writes it where the path led to nothing. -/
theorem written_of_compare_created {c : Comparison}
    (h : compare limit t path now findings = (.ok c, u)) (hc : c.created = true) :
    t.has path = false ∧
      ∃ place, Written t path (Utf8.encode (Document.ofFindings now findings).text) place u := by
  rcases compare_cases h with ⟨-, -, d, -, rfl⟩ | ⟨hhas, ⟨d, hsave⟩, -⟩
  · cases hc
  · exact ⟨hhas, written_of_save hsave⟩

theorem exists_read_of_load {d : Document} (h : load limit t path = .ok d) :
    ∃ bytes, t.read path = .ok bytes := by
  cases hread : t.read path with
  | ok bytes => exact ⟨bytes, rfl⟩
  | error e =>
    rw [load, FileTree.readText, hread] at h
    cases e <;> cases h

/-- What stands at the path after a run: what stood there, or the findings of the run. -/
theorem read_of_compare {c : Comparison} (h : compare limit t path now findings = (.ok c, u)) :
    (t.has path = true ∧ ∃ bytes, t.read path = .ok bytes ∧ u.read path = .ok bytes) ∨
      t.has path = false ∧
        u.read path = .ok (Utf8.encode (Document.ofFindings now findings).text) := by
  rcases compare_cases h with ⟨hhas, rfl, d, hload, -⟩ | ⟨hhas, ⟨d, hsave⟩, -⟩
  · obtain ⟨bytes, hread⟩ := exists_read_of_load hload
    exact .inl ⟨hhas, bytes, hread, hread⟩
  · obtain ⟨place, hwritten⟩ := written_of_save hsave
    exact .inr ⟨hhas, hwritten.read⟩

/-- The time of a run does not matter for its comparison. -/
theorem eq_of_compare_later {c c' : Comparison} {later : String} {u' : FileTree}
    (h : compare limit t path now findings = (.ok c, u))
    (h' : compare limit t path later findings = (.ok c', u')) : c' = c := by
  rcases compare_cases h with ⟨hhas, -, d, hload, rfl⟩ | ⟨hhas, -, rfl⟩
  · rcases compare_cases h' with ⟨-, -, d', hload', rfl⟩ | ⟨hhas', -⟩
    · rw [Except.ok.inj (hload'.symm.trans hload)]
    · exact absurd (hhas.symm.trans hhas') (by simp)
  · rcases compare_cases h' with ⟨hhas', -⟩ | ⟨-, -, rfl⟩
    · exact absurd (hhas'.symm.trans hhas) (by simp)
    · rfl

end LlmAudit.Baseline
