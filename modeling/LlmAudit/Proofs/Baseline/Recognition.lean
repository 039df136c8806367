import LlmAudit.Proofs.Baseline.Rescan

/-!
# Whether a known finding is recognised

The subject is baseline monotonicity in Section 8 (Testable Properties) of the specification:
findings "present in both a baseline run and a later run with identical severity and confidence" are
unchanged.

Findings that differ in their summary are different findings (`Finding.key`), yet a baseline looks
both up under one key (`keyOf`) and knows only what the last of them said. A finding that was saved
is therefore recognised later exactly if it is no worse than the last saved finding of its key, and
whatever the order of the saved findings exactly if it is no worse than any of them
(`unchanged_iff_noWorse`). The order matters, and a saved finding can be reported again
(`finer_key_reported_again`).
-/

namespace LlmAudit.Baseline

/-- A finding is neither more severe than a known one nor more confident by more than the margin. -/
def NoWorse (f known : Finding) : Prop :=
  f.severity.rank ≤ known.severity.rank ∧
    (known.confidence.value.add margin).lt f.confidence.value = false

/-- Findings are saved at a path, and a later run finds the baseline and counts one of its own
findings as unchanged. -/
def Unchanged (limit : Json.DepthLimit) (t : FileTree) (path : Path) (now later : String)
    (known findings : List Finding) (f : Finding) : Prop :=
  ∃ d u c, save t path now known = (.ok d, u) ∧ compare limit u path later findings = (.ok c, u) ∧
    c.created = false ∧ f ∈ findings ∧ f ∉ c.findings

theorem noWorse_self (f : Finding) : NoWorse f f :=
  ⟨Nat.le_refl _, add_margin_not_lt f.confidence⟩

/-! ### The last known finding of a key -/

theorem exists_lastAlike? {known : List Finding} {f : Finding} (hf : f ∈ known) :
    ∃ b, lastAlike? known f = some b := by
  have hmem : f ∈ known.filter fun b => keyOf b == keyOf f :=
    List.mem_filter.2 ⟨hf, beq_self_eq_true _⟩
  exact ⟨_, List.getLast?_eq_some_getLast (List.ne_nil_of_mem hmem)⟩

theorem mem_of_lastAlike? {known : List Finding} {f b : Finding} (h : lastAlike? known f = some b) :
    b ∈ known ∧ keyOf b = keyOf f := by
  obtain ⟨hb, hkey⟩ := List.mem_filter.1 (List.mem_of_getLast? h)
  exact ⟨hb, eq_of_beq hkey⟩

theorem lastAlike?_append_self {known : List Finding} {f b : Finding} (h : keyOf b = keyOf f) :
    lastAlike? (known ++ [b]) f = some b := by
  rw [lastAlike?, List.filter_append, List.filter_cons, if_pos (by rw [h, beq_self_eq_true]),
    List.filter_nil, List.getLast?_concat]

theorem isReported_eq_false_iff {known : List Finding} {f b : Finding}
    (h : lastAlike? known f = some b) : isReported known f = false ↔ NoWorse f b := by
  simp only [isReported, h, Bool.or_eq_false_iff, decide_eq_false_iff_not, Nat.not_lt]
  rfl

/-! ### Saving and comparing -/

/-- Wherever a file can be written, what is saved is found by a later run, which reports what is new
or worse. -/
theorem exists_compare_of_accepts (limit : Json.DepthLimit) {t : FileTree} {path : Path}
    (haccepts : t.Accepts path) (now later : String) {known : List Finding}
    (hlines : ∀ b ∈ known, isWritable b.line = true)
    (findings : List Finding) :
    ∃ u, save t path now known = (.ok (Document.ofFindings now known), u) ∧
      compare limit u path later findings =
        (.ok ⟨false, path.render, findings.filter (isReported known), known.length,
          findings.length⟩, u) := by
  have hwritable : ∀ e ∈ (Document.ofFindings now known).entries, isWritable e.line = true :=
    writable_entries hlines
  obtain ⟨place, u, hsave, hwritten⟩ := save_of_accepts haccepts now hwritable
  refine ⟨u, hsave, ?_⟩
  rw [compare, if_pos hwritten.has, load_of_written hwritten rfl
    (Document.kept_ofFindings now known) hwritable limit]
  dsimp only
  rw [newOrWorse_ofFindings, length_entries_ofFindings]

theorem unchanged_iff_isReported {limit : Json.DepthLimit} {t : FileTree} {path : Path}
    (haccepts : t.Accepts path) (now later : String) {known findings : List Finding} {f : Finding}
    (hlines : ∀ b ∈ known, isWritable b.line = true) (hf : f ∈ findings) :
    Unchanged limit t path now later known findings f ↔ isReported known f = false := by
  obtain ⟨u, hsave, hcompare⟩ := exists_compare_of_accepts limit haccepts now later hlines findings
  have hiff : f ∉ findings.filter (isReported known) ↔ isReported known f = false := by
    simp [List.mem_filter, hf]
  constructor
  · rintro ⟨d, u', c, hsave', hcompare', -, -, hnot⟩
    rw [hsave, Prod.mk.injEq] at hsave'
    rw [← hsave'.2, hcompare, Prod.mk.injEq, Except.ok.injEq] at hcompare'
    rw [← hcompare'.1] at hnot
    exact hiff.1 hnot
  · intro hnot
    exact ⟨_, u, _, hsave, hcompare, rfl, hf, hiff.2 hnot⟩

/-- A saved finding that occurs in a later run counts as unchanged there exactly if it is no worse
than the last saved finding of its key. It does so for every order of the saved findings exactly if
it is no worse than any saved finding of its key. -/
theorem unchanged_iff_noWorse {limit : Json.DepthLimit} {t : FileTree} {path : Path}
    (haccepts : t.Accepts path) (now later : String) {known findings : List Finding} {f : Finding}
    (hlines : ∀ b ∈ known, isWritable b.line = true) (hknown : f ∈ known) (hf : f ∈ findings) :
    (Unchanged limit t path now later known findings f ↔
        ∃ b, lastAlike? known f = some b ∧ NoWorse f b) ∧
      ((∀ order : List Finding, order.Perm known →
          Unchanged limit t path now later order findings f) ↔
        ∀ b ∈ known, keyOf b = keyOf f → NoWorse f b) := by
  have hstep : ∀ order : List Finding, order.Perm known →
      (Unchanged limit t path now later order findings f ↔
        ∃ b, lastAlike? order f = some b ∧ NoWorse f b) := by
    intro order hperm
    obtain ⟨b, hb⟩ := exists_lastAlike? (hperm.mem_iff.2 hknown)
    rw [unchanged_iff_isReported haccepts now later (fun b hb => hlines b (hperm.mem_iff.1 hb)) hf,
      isReported_eq_false_iff hb, hb]
    simp
  refine ⟨hstep known (.refl _), ?_, ?_⟩
  · intro hall b hb hkey
    -- in the order that puts `b` last, `b` is what the baseline knows
    have hperm : (known.erase b ++ [b]).Perm known :=
      List.perm_append_comm.trans (List.perm_cons_erase hb).symm
    obtain ⟨b', hb', hno⟩ := (hstep _ hperm).1 (hall _ hperm)
    rw [lastAlike?_append_self hkey, Option.some.injEq] at hb'
    exact hb' ▸ hno
  · intro hall order hperm
    obtain ⟨b, hb⟩ := exists_lastAlike? (hperm.mem_iff.2 hknown)
    obtain ⟨hmem, hkey⟩ := mem_of_lastAlike? hb
    exact (hstep order hperm).2 ⟨b, hb, hall b (hperm.mem_iff.1 hmem) hkey⟩

/-- A finding of one place with its summary. -/
def summed (severity : Severity) (summary : String) : Finding :=
  { graded severity "src/app.ts" 3 with summary := .ofString summary }

/-- A mild finding is recognised beside a severe one of its key, in whatever order they were
saved. -/
theorem mild_unchanged_beside_severe :
    let known := [summed .low "a", summed .high "b"]
    FileTree.empty.Accepts rootBaseline ∧ (∀ b ∈ known, isWritable b.line = true) ∧
      (known.map Finding.key).Nodup ∧
      known.map keyOf = List.replicate 2 (keyOf (summed .low "a")) ∧
      ∀ order : List Finding, order.Perm known →
        Unchanged tightest .empty rootBaseline "now" "later" order known (summed .low "a") := by
  intro known
  have hlines : ∀ b ∈ known, isWritable b.line = true := by decide
  have hmem : summed .low "a" ∈ known := List.mem_cons_self
  have hnone : ∀ b ∈ known, keyOf b = keyOf (summed .low "a") → NoWorse (summed .low "a") b := by
    intro b hb _
    rcases List.mem_pair.1 hb with rfl | rfl
    · exact noWorse_self _
    · exact ⟨by decide, add_margin_not_lt (summed .low "a").confidence⟩
  exact ⟨vacant_rootBaseline.accepts, hlines, by decide +kernel, by decide +kernel,
    (unchanged_iff_noWorse vacant_rootBaseline.accepts "now" "later" hlines hmem hmem).2.2 hnone⟩

/-- Two different findings of one key are saved, the severe one first: a later run on the same
findings reports the severe one again. -/
theorem finer_key_reported_again :
    let known := [summed .high "a", summed .low "b"]
    (known.map Finding.key).Nodup ∧
      ∃ d u c, save .empty rootBaseline "now" known = (.ok d, u) ∧
        compare tightest u rootBaseline "later" known = (.ok c, u) ∧
        c.findings = [summed .high "a"] := by
  intro known
  have hlines : ∀ b ∈ known, isWritable b.line = true := by decide
  obtain ⟨u, hsave, hcompare⟩ :=
    exists_compare_of_accepts tightest vacant_rootBaseline.accepts "now" "later" hlines known
  exact ⟨by decide +kernel, _, u, _, hsave, hcompare, by decide +kernel⟩

end LlmAudit.Baseline
