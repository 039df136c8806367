import LlmAudit.Proofs.Baseline.Document
import LlmAudit.Proofs.Baseline.Saving
import LlmAudit.Proofs.Finding.Sorting
import Mathlib.Data.Prod.Lex
import Mathlib.Data.List.Lex

/-!
# A run after the one that made the baseline

The subject is the lookup in Section 4.6 (Baseline Differ) of the specification.

The baseline keeps the findings of a run sorted by key, and the sort is stable, so what it knows of
a key is what the last finding with that key said (`lookup?_ofFindings`). A later run therefore
reports the findings that are new, or worse than the last known finding of their key, and nothing
else (`compare_rerun`).
-/

namespace LlmAudit

namespace Baseline

/-! ### What a baseline knows -/

/-- A key in the order of keys. -/
def Key.order (k : Key) : List Nat ×ₗ List Nat ×ₗ Int :=
  toLex (k.ruleId.codes, toLex (k.file.codes, k.line))

theorem Key.le_iff {a b : Key} : a.le b = true ↔ a.order ≤ b.order := by
  simp only [Key.le, Key.order, Prod.Lex.toLex_le_toLex, decide_eq_true_eq,
    LooseText.codes_injective.eq_iff]
  rfl

theorem lookup?_eq_getLast? (entries : List Entry) (key : Key) :
    lookup? entries key = (entries.filter fun e => e.key == key).getLast? := by
  rw [lookup?, ← List.head?_filter, List.filter_reverse, List.head?_reverse]

/-- The last of some findings with the key of another. -/
def lastAlike? (known : List Finding) (f : Finding) : Option Finding :=
  (known.filter fun b => keyOf b == keyOf f).getLast?

/-- What the baseline of findings knows of a key is what the last of them with that key says. -/
theorem lookup?_ofFindings (now : String) (known : List Finding) (f : Finding) :
    lookup? (Document.ofFindings now known).entries (keyOf f) =
      (lastAlike? known f).map Entry.ofFinding := by
  have htrans : ∀ a b c : Entry, a.key.le b.key = true → b.key.le c.key = true →
      a.key.le c.key = true := by
    intro a b c hab hbc
    rw [Key.le_iff] at hab hbc ⊢
    exact hab.trans hbc
  have htotal : ∀ a b : Entry, (a.key.le b.key || b.key.le a.key) = true := by
    intro a b
    rw [Bool.or_eq_true, Key.le_iff, Key.le_iff]
    exact le_total _ _
  have halike : ∀ a b : Entry, (a.key == keyOf f) = true → (b.key == keyOf f) = true →
      a.key.le b.key = true := by
    intro a b ha hb
    rw [Key.le_iff, eq_of_beq ha, eq_of_beq hb]
  rw [lookup?_eq_getLast?, Document.ofFindings, filter_mergeSort htrans htotal halike,
    List.filter_map, List.getLast?_map, lastAlike?]
  rfl

/-- Whether a finding is new, or worse than the last known one of its key: more severe, or more
confident by more than a millionth. -/
def isReported (known : List Finding) (f : Finding) : Bool :=
  match lastAlike? known f with
  | none => true
  | some b =>
    decide (b.severity.rank < f.severity.rank) ||
      (b.confidence.value.add (.ofDecimal false 1 (-6))).lt f.confidence.value

theorem newOrWorse_ofFindings (now : String) (known findings : List Finding) :
    newOrWorse (Document.ofFindings now known).entries findings =
      findings.filter (isReported known) := by
  rw [newOrWorse]
  congr 1
  funext f
  rw [lookup?_ofFindings, isReported]
  cases lastAlike? known f <;> rfl

/-! ### Two runs -/

theorem mem_entries_ofFindings {now : String} {known : List Finding} {e : Entry} :
    e ∈ (Document.ofFindings now known).entries ↔ ∃ b ∈ known, Entry.ofFinding b = e := by
  rw [Document.ofFindings, List.mem_mergeSort, List.mem_map]

theorem length_entries_ofFindings (now : String) (known : List Finding) :
    (Document.ofFindings now known).entries.length = known.length := by
  rw [Document.ofFindings, List.length_mergeSort, List.length_map]

theorem writable_entries {now : String} {known : List Finding}
    (hlines : ∀ b ∈ known, isWritable b.line = true) :
    ∀ e ∈ (Document.ofFindings now known).entries, isWritable e.line = true := by
  intro e he
  obtain ⟨b, hb, rfl⟩ := mem_entries_ofFindings.1 he
  exact hlines b hb

/-- At a vacant place a baseline is saved if its lines do not have too many digits. -/
theorem save_of_vacant {t : FileTree} {path : Path} (hvacant : t.Vacant path) (now : String)
    {known : List Finding} (hlines : ∀ b ∈ known, isWritable b.line = true) :
    ∃ place u, save t path now known = (.ok (Document.ofFindings now known), u) ∧
      FileTree.Written t path (Utf8.encode (Document.ofFindings now known).text) place u :=
  save_of_accepts hvacant.accepts now (writable_entries hlines)

/-- At a vacant place nothing is saved if a line has too many digits. -/
theorem save_of_long_line {t : FileTree} {path : Path} (hvacant : t.Vacant path) (now : String)
    {known : List Finding} {b : Finding} (hb : b ∈ known) (hline : isWritable b.line = false) :
    ∃ u, save t path now known = (.error .tooManyDigits, u) ∧ u.locate path = .ok path.parts ∧
      u.entryAt? path.parts = none := by
  obtain ⟨v, hmade, hlocate, -, hnone⟩ := hvacant.makeFolders_eq
  have hlong :
      ¬ (Document.ofFindings now known).entries.all (fun e => isWritable e.line) = true := by
    intro hall
    have hwritable := List.all_eq_true.1 hall _ (mem_entries_ofFindings.2 ⟨b, hb, rfl⟩)
    rw [Entry.ofFinding, hline] at hwritable
    cases hwritable
  refine ⟨v, ?_, hlocate, hnone⟩
  rw [save, hmade]
  dsimp only
  rw [if_neg hlong]

/-- At a vacant place no baseline is made if a line has too many digits. -/
theorem compare_of_long_line {t : FileTree} {path : Path} (hvacant : t.Vacant path) (now : String)
    {known : List Finding} {b : Finding} (hb : b ∈ known) (hline : isWritable b.line = false) :
    ∃ u, (∀ limit, compare limit t path now known = (.error (.unwritable .tooManyDigits), u)) ∧
      u.has path = false := by
  obtain ⟨u, hsave, hlocate, hnone⟩ := save_of_long_line hvacant now hb hline
  refine ⟨u, fun limit => ?_, ?_⟩
  · rw [compare, if_neg (by rw [hvacant.absent]; decide), hsave]
  · rw [FileTree.has, FileTree.find?, hlocate]
    simp only [hnone, Option.isSome_none]

/-- The run that makes the baseline reports all of its findings. A later run leaves the file as it
is and reports, in their order, the findings that are new or worse than the last known finding of
their key; the others are counted as unchanged. -/
theorem compare_rerun (limit : Json.DepthLimit) {t : FileTree} {path : Path}
    (hvacant : t.Vacant path) (now : String) {known : List Finding}
    (hlines : ∀ b ∈ known, isWritable b.line = true) :
    ∃ u bytes,
      compare limit t path now known =
        (.ok ⟨true, path.render, known, known.length, known.length⟩, u) ∧
      u.read path = .ok bytes ∧
      ∀ (later : String) (findings : List Finding), ∃ c,
        compare limit u path later findings = (.ok c, u) ∧
        c.created = false ∧
        c.findings = findings.filter (isReported known) ∧
        c.baselineCount = known.length ∧
        c.currentCount = findings.length ∧
        c.unchangedCount = (findings.filter fun f => !isReported known f).length := by
  obtain ⟨place, u, hsave, hwritten⟩ := save_of_vacant hvacant now hlines
  have hload := load_of_written hwritten rfl (Document.kept_ofFindings now known)
    (writable_entries hlines) limit
  refine ⟨u, _, ?_, hwritten.read, fun later findings => ?_⟩
  · rw [compare, if_neg (by rw [hvacant.absent]; decide), hsave]
  · have hnew := newOrWorse_ofFindings now known findings
    have hcount := length_entries_ofFindings now known
    have hsplit := List.length_eq_length_filter_add (l := findings) (isReported known)
    refine ⟨⟨false, path.render, findings.filter (isReported known), known.length, findings.length⟩,
      ?_, rfl, rfl, rfl, rfl, ?_⟩
    · rw [compare, if_pos hwritten.has, hload]
      dsimp only
      rw [hnew, hcount]
    · rw [Comparison.unchangedCount, Comparison.newCount]
      dsimp only
      omega

/-! ### Two runs on findings of one file -/

/-- A finding of one rule with its severity and place, and nothing else. -/
def graded (severity : Severity) (file : String) (line : Int) : Finding :=
  ⟨"AI003", "", severity, file, line, .empty, "", "", .none⟩

/-- The least room for lists and objects. -/
def tightest : Json.DepthLimit := ⟨7, Nat.le_refl 7⟩

/-- The path of a baseline in the root directory. -/
def rootBaseline : Path := .parse "/baseline.json"

theorem vacant_rootBaseline : FileTree.empty.Vacant rootBaseline :=
  ⟨by decide, by decide, by decide, by decide⟩

/-- The last of two known findings of one key counts, and a source file and its compiled twin have
one key: what is no worse than it is dropped, what is worse or new is reported. -/
theorem compare_rerun_twins :
    FileTree.empty.Vacant rootBaseline ∧
    (∀ b ∈ [graded .low "src/app.ts" 3, graded .high "src/App.js" 3], isWritable b.line = true) ∧
    ∃ u c,
      (compare tightest FileTree.empty rootBaseline "now"
        [graded .low "src/app.ts" 3, graded .high "src/App.js" 3]).2 = u ∧
      compare tightest u rootBaseline "later"
        [graded .medium "src/app.ts" 3, graded .critical "src/app.ts" 3,
          graded .low "src/app.ts" 4] = (.ok c, u) ∧
      c.findings = [graded .critical "src/app.ts" 3, graded .low "src/app.ts" 4] ∧
      c.unchangedCount = 1 := by
  have hlines : ∀ b ∈ [graded .low "src/app.ts" 3, graded .high "src/App.js" 3],
      isWritable b.line = true := by decide
  obtain ⟨u, bytes, hfirst, -, hlater⟩ := compare_rerun tightest vacant_rootBaseline "now" hlines
  obtain ⟨c, hsecond, -, hfindings, -, -, hunchanged⟩ := hlater "later"
    [graded .medium "src/app.ts" 3, graded .critical "src/app.ts" 3, graded .low "src/app.ts" 4]
  refine ⟨vacant_rootBaseline, hlines, u, c, by rw [hfirst], hsecond, ?_, ?_⟩
  · rw [hfindings]
    decide +kernel
  · rw [hunchanged]
    decide +kernel

/-- A line with more digits than can be written stops the run that would make the baseline. -/
theorem long_line_leaves_no_baseline :
    ∃ u, (∀ limit, compare limit FileTree.empty rootBaseline "now"
          [graded .low "src/app.ts" (10 ^ digitLimit)] =
        (.error (.unwritable .tooManyDigits), u)) ∧
      u.has rootBaseline = false :=
  compare_of_long_line vacant_rootBaseline "now" List.mem_cons_self
    (not_isWritable_pow (Nat.le_refl digitLimit))

end Baseline

end LlmAudit
