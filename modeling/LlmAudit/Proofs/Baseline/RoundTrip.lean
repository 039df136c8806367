import LlmAudit.Proofs.Baseline.Rerun

/-!
# A saved baseline is loaded as it was

The subject is the baseline file of Section 6 (External Interfaces) of the specification, with
"findings sorted by canonical key ascending".

A baseline is saved as a text of ASCII characters, whatever the findings hold: quotes, control
characters and characters outside the Basic Multilingual Plane are all escaped (`ascii_text`). What
is loaded from that text is what was saved, and holds the findings sorted by key, those of one key
in the order in which they came (`load_save`). Only a line with more digits than can be written is
not saved.
-/

namespace LlmAudit

/-- A character of the ASCII range is one byte of that range. -/
theorem Utf8.lt_of_mem_encode {cs : List Char} (h : ∀ c ∈ cs, c.toNat < 0x80) :
    ∀ b ∈ encode cs, b < 0x80 := by
  intro b hb
  obtain ⟨c, hc, hbc⟩ := List.mem_flatMap.1 hb
  have hlt : c.val.toNat < 0x80 := h c hc
  rw [String.utf8EncodeChar, if_pos (by omega), List.mem_singleton] at hbc
  rw [hbc, UInt8.lt_iff_toNat_lt, toNat_ofNat (by omega)]
  exact hlt

namespace Baseline

theorem Document.ascii_text (d : Document) : ∀ b ∈ Utf8.encode d.text, b < 0x80 := by
  refine Utf8.lt_of_mem_encode fun c hc => ?_
  rcases d.plain_text c hc with rfl | ⟨-, hhigh⟩
  · decide
  · omega

/-- The entries of a baseline are the findings, sorted by key. -/
theorem entries_ofFindings (now : String) (findings : List Finding) :
    (Document.ofFindings now findings).entries =
      (findings.mergeSort fun f g => (keyOf f).le (keyOf g)).map Entry.ofFinding := by
  rw [Document.ofFindings, List.map_mergeSort]
  exact fun _ _ _ _ => rfl

/-- **A saved baseline is loaded as it was.** Wherever a file can be written, findings whose lines
do not have too many digits are saved as ASCII text; and what is loaded from it has the tag, the
time, and of each finding the rule, file, line, severity and confidence, sorted by rule, file key
and line, where equal ones keep their order. -/
theorem load_save (limit : Json.DepthLimit) {t : FileTree} {path : Path} (haccepts : t.Accepts path)
    (now : String) {findings : List Finding} (hlines : ∀ f ∈ findings, isWritable f.line = true) :
    ∃ d u bytes,
      save t path now findings = (.ok d, u) ∧
      u.read path = .ok bytes ∧ (∀ b ∈ bytes, b < 0x80) ∧
      load limit u path = .ok d ∧
      d.schema = "secureai-baseline/v1" ∧ d.createdAt = .ofString now ∧
      d.entries = (findings.mergeSort fun f g => (keyOf f).le (keyOf g)).map fun f =>
        ⟨.ofString f.ruleId, .ofString f.file, f.line, f.severity, f.confidence.value⟩ := by
  have hwritable : ∀ e ∈ (Document.ofFindings now findings).entries, isWritable e.line = true :=
    writable_entries hlines
  obtain ⟨place, u, hsave, hwritten⟩ := save_of_accepts haccepts now hwritable
  exact ⟨_, u, _, hsave, hwritten.read, Document.ascii_text _,
    load_of_written hwritten rfl (Document.kept_ofFindings now findings) hwritable limit, rfl, rfl,
    entries_ofFindings now findings⟩

/-- A baseline that takes the place of another file. The names of files hold a quote, a control
character and a character beyond the first plane; a source file and its twin share a key. -/
theorem load_save_overwriting :
    let t := FileTree.empty.put ["baseline.json"] (.file [0x7b])
    let quoted := graded .high "b\"\x07.ts" (-7)
    let source := graded .low "a😀.ts" 3
    let twin := graded .high "A😀.js" 3
    t.Accepts rootBaseline ∧ (∀ f ∈ [quoted, source, twin], isWritable f.line = true) ∧
      ∃ d u, save t rootBaseline "now" [quoted, source, twin] = (.ok d, u) ∧
        load tightest u rootBaseline = .ok d ∧
        d.entries = [source, twin, quoted].map Entry.ofFinding := by
  intro t quoted source twin
  have haccepts : t.Accepts rootBaseline := ⟨_, _, rfl, rfl⟩
  have hlines : ∀ f ∈ [quoted, source, twin], isWritable f.line = true := by decide
  obtain ⟨d, u, bytes, hsave, -, -, hload, -, -, hentries⟩ :=
    load_save tightest haccepts "now" hlines
  have horder : (keyOf quoted).le (keyOf source) = false ∧ (keyOf source).le (keyOf twin) = true ∧
      (keyOf quoted).le (keyOf twin) = false := by
    decide +kernel
  refine ⟨haccepts, hlines, d, u, hsave, hload, ?_⟩
  rw [hentries]
  simp [List.mergeSort, List.MergeSort.Internal.splitInTwo, horder, Entry.ofFinding]

/-- Of a finding whose line has more digits than can be written nothing is saved, and so nothing can
be loaded. -/
theorem long_line_is_not_saved :
    ∃ u, save FileTree.empty rootBaseline "now" [graded .low "src/app.ts" (10 ^ digitLimit)] =
        (.error .tooManyDigits, u) ∧
      ∀ limit, load limit u rootBaseline =
        .error (.unreadable rootBaseline (.access .notFound)) := by
  have hline : isWritable (graded .low "src/app.ts" (10 ^ digitLimit)).line = false :=
    not_isWritable_pow (Nat.le_refl digitLimit)
  obtain ⟨u, hsave, hlocate, hnone⟩ :=
    save_of_long_line vacant_rootBaseline "now" List.mem_cons_self hline
  refine ⟨u, hsave, fun limit => ?_⟩
  rw [load, FileTree.readText, FileTree.read, hlocate]
  simp only [hnone]

end Baseline

end LlmAudit
