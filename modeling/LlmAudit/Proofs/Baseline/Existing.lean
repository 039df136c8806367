import LlmAudit.Proofs.Baseline.Rerun
import LlmAudit.Proofs.Files.Texts
import LlmAudit.Proofs.Json.Reading

/-!
# Runs with a baseline that exists

Section 7 (Error Handling Design) of the specification says of a malformed baseline file that "the
core must fail loudly rather than silently treat the baseline as empty or migrate it".

What stands at the path of a baseline is left as it is, whatever a run makes of it. What the run
makes of it depends on what the file holds (`compare_existing`): a file that holds a baseline
document is compared with, and every other one is refused, unless its text runs into a limit of the
reader before it is known to be one or the other. Such a text is neither compared with nor refused,
although it can hold a baseline (`long_number_breaks_off`). The digits of a whole number have a
limit of their own; how many lists and objects may stand in each other is left open.

What a file holds is said without a reader: its bytes are those of a text, the text is JSON for a
value (`Json.IsText`), and the value is that of a document (`IsDocument`).

## Main statements

* `Baseline.compare_existing`
-/

namespace LlmAudit

namespace Baseline

open Json (Limit)

/-! ### What a file holds -/

/-- A file holds a baseline document. -/
def Holds (t : FileTree) (path : Path) (d : Document) : Prop :=
  ∃ text j, t.HoldsText path text ∧ Json.IsText (.ofList text) j ∧ IsDocument j d

/-- A file holds a text that runs into a limit of the reader. -/
def RunsOver (limit : Json.DepthLimit) (t : FileTree) (path : Path) (e : Limit) : Prop :=
  ∃ text, t.HoldsText path text ∧ Json.TextOverruns limit.count (.ofList text) e

/-- The limit that a file ran into, as an error. -/
def Error.ofLimit : Limit → Error
  | .tooManyDigits count => .tooManyDigits count
  | .tooDeep => .tooDeep

/-- The error says that the file is no baseline. -/
def Error.refuses : Error → Bool
  | .unnameable => false
  | .tooManyDigits _ => false
  | .tooDeep => false
  | _ => true

variable {limit : Json.DepthLimit}

theorem load_of_parse {t : FileTree} {path : Path} {text : List Char} {e : Limit}
    (htext : t.readText path = .ok text)
    (h : Json.parse limit.count (.ofList text) = .error e.parseError) :
    load limit t path = .error (.ofLimit e) := by
  rw [load, htext]
  dsimp only
  rw [h]
  cases e <;> rfl

theorem load_of_runsOver {t : FileTree} {path : Path} {e : Limit} (h : RunsOver limit t path e) :
    load limit t path = .error (.ofLimit e) := by
  obtain ⟨text, htext, hover⟩ := h
  exact load_of_parse (FileTree.readText_eq_ok_iff.2 htext) (Json.parse_eq_limit_iff.2 hover)

theorem load_of_holds {t : FileTree} {path : Path} {d : Document} (h : Holds t path d)
    (hwithin : ∀ e, ¬RunsOver limit t path e) : load limit t path = .ok d := by
  obtain ⟨text, j, htext, hj, hd⟩ := h
  have hparse : Json.parse limit.count (.ofList text) = .ok j :=
    Json.parse_eq_ok_iff.2 ⟨hj, fun e he => hwithin e ⟨text, htext, he⟩⟩
  rw [load, FileTree.readText_eq_ok_iff.2 htext]
  dsimp only
  rw [hparse]
  dsimp only
  rw [Document.ofJson_eq_ok_iff.2 hd]

/-- What becomes of a file that is read as a baseline. -/
theorem load_cases {t : FileTree} {path : Path} (h : t.has path = true) :
    (∃ e, RunsOver limit t path e ∧ load limit t path = .error (.ofLimit e)) ∨
      (∀ e, ¬RunsOver limit t path e) ∧
        ((∃ d, Holds t path d ∧ load limit t path = .ok d) ∨
          (∀ d, ¬Holds t path d) ∧ ∃ e, load limit t path = .error e ∧ e.refuses = true) := by
  by_cases hover : ∃ e, RunsOver limit t path e
  · obtain ⟨e, he⟩ := hover
    exact .inl ⟨e, he, load_of_runsOver he⟩
  have hwithin : ∀ e, ¬RunsOver limit t path e := fun e he => hover ⟨e, he⟩
  refine .inr ⟨hwithin, ?_⟩
  by_cases hholds : ∃ d, Holds t path d
  · obtain ⟨d, hd⟩ := hholds
    exact .inl ⟨d, hd, load_of_holds hd hwithin⟩
  refine .inr ⟨fun d hd => hholds ⟨d, hd⟩, ?_⟩
  cases hread : t.readText path with
  | error e =>
    refine ⟨.unreadable path e, ?_, rfl⟩
    rw [load, hread]
    split
    · rename_i heq
      rw [heq] at hread
      exact absurd hread (FileTree.readText_ne_unnameable h)
    · rename_i heq
      rw [Except.error.inj heq]
    · rename_i heq
      cases heq
  | ok text =>
    have htext := FileTree.readText_eq_ok_iff.1 hread
    rcases @Json.parse_cases limit.count (.ofList text) with hbad | ⟨j, hj, hparse⟩ | ⟨e, he, -⟩
    · exact ⟨.notJson path, by rw [load, hread]; dsimp only; rw [hbad], rfl⟩
    · cases hdoc : Document.ofJson j with
      | ok d => exact absurd ⟨d, text, j, htext, hj, Document.ofJson_eq_ok_iff.1 hdoc⟩ hholds
      | error fault =>
        cases fault with
        | wrongSchema =>
          refine ⟨.wrongSchema path, ?_, rfl⟩
          rw [load, hread]
          dsimp only
          rw [hparse]
          dsimp only
          rw [hdoc]
        | malformed errors =>
          exact ⟨.malformed path errors,
            by rw [load, hread]; dsimp only; rw [hparse]; dsimp only; rw [hdoc], rfl⟩
    · exact absurd ⟨text, htext, he⟩ (hwithin e)

theorem Error.ofLimit_injective {e e' : Limit} (h : Error.ofLimit e = .ofLimit e') : e = e' := by
  cases e <;> cases e' <;> first | rfl | (cases h; rfl) | cases h

theorem Error.refuses_ofLimit (e : Limit) : (Error.ofLimit e).refuses = false := by
  cases e <;> rfl

/-- A document is found exactly if the file holds it and runs into no limit. -/
theorem load_eq_ok_iff {t : FileTree} {path : Path} (hhas : t.has path = true) {d : Document} :
    load limit t path = .ok d ↔ (∀ e, ¬RunsOver limit t path e) ∧ Holds t path d := by
  refine ⟨fun h => ?_, fun h => load_of_holds h.2 h.1⟩
  rcases load_cases hhas with
    ⟨l, -, hload⟩ | ⟨hwithin, ⟨d', hd', hload⟩ | ⟨-, e, hload, -⟩⟩
  · rw [hload] at h
    cases h
  · rw [hload] at h
    rw [Except.ok.inj h] at hd'
    exact ⟨hwithin, hd'⟩
  · rw [hload] at h
    cases h

/-- The reader breaks off exactly if the file runs into a limit. -/
theorem load_eq_ofLimit_iff {t : FileTree} {path : Path} (hhas : t.has path = true) {e : Limit} :
    load limit t path = .error (.ofLimit e) ↔ RunsOver limit t path e := by
  refine ⟨fun h => ?_, load_of_runsOver⟩
  rcases load_cases hhas with
    ⟨l, hl, hload⟩ | ⟨-, ⟨d, -, hload⟩ | ⟨-, e', hload, he'⟩⟩
  · rw [hload] at h
    rw [← Error.ofLimit_injective (Except.error.inj h)]
    exact hl
  · rw [hload] at h
    cases h
  · rw [hload] at h
    rw [Except.error.inj h, Error.refuses_ofLimit] at he'
    cases he'

/-- A file is refused exactly if it holds no document and runs into no limit. -/
theorem load_refuses_iff {t : FileTree} {path : Path} (hhas : t.has path = true) :
    (∃ e, load limit t path = .error e ∧ e.refuses = true) ↔
      (∀ e, ¬RunsOver limit t path e) ∧ ¬∃ d, Holds t path d := by
  constructor
  · rintro ⟨e, hload, he⟩
    have hwithin : ∀ l, ¬RunsOver limit t path l := by
      intro l hl
      rw [load_of_runsOver hl] at hload
      rw [← Except.error.inj hload, Error.refuses_ofLimit] at he
      cases he
    refine ⟨hwithin, fun hholds => ?_⟩
    obtain ⟨d, hd⟩ := hholds
    rw [load_of_holds hd hwithin] at hload
    cases hload
  · rintro ⟨hwithin, hnone⟩
    rcases load_cases hhas with ⟨l, hl, -⟩ | ⟨-, ⟨d, hd, -⟩ | ⟨-, hrefused⟩⟩
    · exact absurd hl (hwithin l)
    · exact absurd ⟨d, hd⟩ hnone
    · exact hrefused

/-! ### Runs -/

theorem compare_of_load {t : FileTree} {path : Path} (h : t.has path = true) {d : Document}
    (hload : load limit t path = .ok d) (now : String) (findings : List Finding) :
    compare limit t path now findings =
      (.ok ⟨false, path.render, newOrWorse d.entries findings, d.entries.length,
        findings.length⟩, t) := by
  rw [compare, if_pos h, hload]

theorem compare_of_load_error {t : FileTree} {path : Path} (h : t.has path = true) {e : Error}
    (hload : load limit t path = .error e) (now : String) (findings : List Finding) :
    compare limit t path now findings = (.error (.unusable e), t) := by
  rw [compare, if_pos h, hload]

/-- A run with a baseline leaves what stands at its path as it is. It gives a comparison with all
known findings exactly if the file holds a document, refuses the file exactly if it holds none, and
breaks off exactly if the text of the file runs into a limit of the reader. -/
theorem compare_existing (limit : Json.DepthLimit) {t : FileTree} {path : Path}
    (h : t.has path = true) (now : String) (findings : List Finding) :
    (compare limit t path now findings).2 = t ∧
      (∀ c, (compare limit t path now findings).1 = .ok c ↔
        (∀ e, ¬RunsOver limit t path e) ∧ ∃ d, Holds t path d ∧
          c = ⟨false, path.render, newOrWorse d.entries findings, d.entries.length,
            findings.length⟩) ∧
      ((∃ e, (compare limit t path now findings).1 = .error (.unusable e) ∧ e.refuses = true) ↔
        (∀ e, ¬RunsOver limit t path e) ∧ ¬∃ d, Holds t path d) ∧
      ∀ e, (compare limit t path now findings).1 = .error (.unusable (.ofLimit e)) ↔
        RunsOver limit t path e := by
  have hok : ∀ c : Comparison,
      ((∀ e, ¬RunsOver limit t path e) ∧ ∃ d, Holds t path d ∧
        c = ⟨false, path.render, newOrWorse d.entries findings, d.entries.length,
          findings.length⟩) ↔
      ∃ d, load limit t path = .ok d ∧
        c = ⟨false, path.render, newOrWorse d.entries findings, d.entries.length,
          findings.length⟩ := by
    intro c
    simp only [load_eq_ok_iff h, and_assoc, exists_and_left]
  rw [← load_refuses_iff h]
  simp only [hok]
  simp only [← load_eq_ofLimit_iff h]
  -- what the file holds now stands in terms of `load`, and `compare` passes on what that gives
  cases hload : load limit t path with
  | error e =>
    rw [compare_of_load_error h hload]
    simp
  | ok d =>
    rw [compare_of_load h hload]
    refine ⟨rfl, fun c => ⟨?_, ?_⟩, by simp, by simp⟩
    · intro hc
      exact ⟨d, rfl, (Except.ok.inj hc).symm⟩
    · rintro ⟨d', hd', rfl⟩
      rw [Except.ok.inj hd']

/-! ### Two files -/

/-- The tree with one file, which holds a text, at the path of a baseline. -/
def rootFile (text : List Char) : FileTree :=
  ⟨[(["baseline.json"], .file (Utf8.encode text))], by simp [LlmAudit.Entry.at?]⟩

theorem locate_rootFile (text : List Char) :
    (rootFile text).locate rootBaseline = .ok ["baseline.json"] := by
  have hparts : rootBaseline.parts = ["baseline.json"] := by decide
  rw [FileTree.locate, if_pos (by decide), hparts]
  rfl

theorem has_rootFile (text : List Char) : (rootFile text).has rootBaseline = true := by
  rw [FileTree.has, FileTree.find?, locate_rootFile]
  rfl

theorem holdsText_rootFile {text : List Char} (h : '\r' ∉ text) :
    (rootFile text).HoldsText rootBaseline text :=
  ⟨_, text, locate_rootFile text, rfl, (Text.unifyBreaks_of_notMem h).symm⟩

/-- The tree with one file, which holds the text of a value, at the path of a baseline. -/
def valueFile (j : Json) : FileTree :=
  rootFile j.asciiText

theorem holdsText_valueFile (j : Json) : (valueFile j).HoldsText rootBaseline j.asciiText :=
  holdsText_rootFile (Json.plain_asciiText j).carriage_notMem

theorem ofList_asciiText (j : Json) : LooseText.ofList j.asciiText = ⟨Json.write .ascii 0 j⟩ :=
  LooseText.ext (Json.map_asciiText j)

theorem holds_valueFile {j : Json} (h : j.WellFormed .ascii) {d : Document} (hd : IsDocument j d) :
    Holds (valueFile j) rootBaseline d := by
  refine ⟨_, j, holdsText_valueFile j, ?_, hd⟩
  rw [ofList_asciiText]
  exact h.isText_write

theorem runsOver_valueFile_iff {j : Json} (h : j.WellFormed .ascii) {e : Limit} :
    RunsOver limit (valueFile j) rootBaseline e ↔ j.limit? limit.count 0 = some e := by
  rw [← h.textOverruns_write_iff, ← ofList_asciiText]
  constructor
  · rintro ⟨text, htext, hover⟩
    rwa [htext.unique (holdsText_valueFile j)] at hover
  · intro hover
    exact ⟨_, holdsText_valueFile j, hover⟩

/-- A finding made by hand, with a file whose name holds half a pair, a line that is a text and a
confidence that is a truth value. -/
def handmadeFields : List (LooseText × Json) :=
  [(.ofString "rule_id", .str (.ofString "AI003")),
    (.ofString "file", .str ⟨[.half ⟨2, by decide⟩]⟩),
    (.ofString "line", .str (.ofString "3")), (.ofString "severity", .str (.ofString "low")),
    (.ofString "confidence", .bool true)]

/-- A baseline of that finding, without a time. -/
def handmade : Json :=
  .object [(.ofString "schema", .str (.ofString schemaTag)),
    (.ofString "findings", .list [.object handmadeFields])]

theorem wellFormed_handmade : handmade.WellFormed .ascii := by
  have hfields : ∀ f ∈ handmadeFields, f.2.WellFormed .ascii := by
    simp only [handmadeFields, List.forall_mem_cons]
    exact ⟨.str (Json.keeps_ofString _ _), .str fun _ => .singleton _,
      .str (Json.keeps_ofString _ _), .str (Json.keeps_ofString _ _), .bool _,
      List.forall_mem_nil _⟩
  have hfinding : (Json.object handmadeFields).WellFormed .ascii :=
    .named ["rule_id", "file", "line", "severity", "confidence"] rfl (by decide) hfields
  refine .named ["schema", "findings"] rfl (by decide) ?_
  simp only [List.forall_mem_cons]
  exact ⟨.str (Json.keeps_ofString _ _), .list (List.forall_mem_singleton.2 hfinding),
    List.forall_mem_nil _⟩

/-- What is known of that finding. -/
def handmadeEntry : Entry :=
  ⟨.ofString "AI003", ⟨[.half ⟨2, by decide⟩]⟩, 3, .low, if true then .one else .zero⟩

theorem isEntry_handmadeFields : IsEntry handmadeFields handmadeEntry :=
  ⟨rfl, rfl, ⟨_, rfl, .text (by decide +kernel)⟩, rfl, ⟨_, rfl, .bool true⟩⟩

theorem isDocument_handmade : IsDocument handmade ⟨schemaTag, .empty, [handmadeEntry]⟩ :=
  ⟨rfl, rfl, .inr ⟨rfl, rfl⟩, _, rfl, .cons ⟨_, rfl, isEntry_handmadeFields⟩ .nil⟩

/-- A run reads that baseline, leaves it as it is, and reports a finding that it does not know. -/
theorem compare_handmade :
    (valueFile handmade).has rootBaseline = true ∧
      (compare tightest (valueFile handmade) rootBaseline "now"
        [graded .high "src/app.ts" 3]).2 = valueFile handmade ∧
      ∃ c, (compare tightest (valueFile handmade) rootBaseline "now"
          [graded .high "src/app.ts" 3]).1 = .ok c ∧
        c.findings = [graded .high "src/app.ts" 3] ∧ c.baselineCount = 1 := by
  have hhas : (valueFile handmade).has rootBaseline = true := has_rootFile _
  obtain ⟨hfiles, hok, -, -⟩ := compare_existing tightest hhas "now" [graded .high "src/app.ts" 3]
  have hwithin : ∀ e, ¬RunsOver tightest (valueFile handmade) rootBaseline e := by
    intro e
    have hlimit : handmade.limit? tightest.count 0 = none := by decide +kernel
    rw [runsOver_valueFile_iff wellFormed_handmade, hlimit]
    exact (Option.some_ne_none e).symm
  have hholds := holds_valueFile wellFormed_handmade isDocument_handmade
  exact ⟨hhas, hfiles, _, (hok _).2 ⟨hwithin, _, hholds, rfl⟩, by decide +kernel, rfl⟩

/-- A baseline without findings that has one more field. -/
def sized (size : Int) : Json :=
  .object [(.ofString "schema", .str (.ofString schemaTag)), (.ofString "findings", .list []),
    (.ofString "size", .int size)]

theorem wellFormed_sized (size : Int) : (sized size).WellFormed .ascii := by
  refine .named ["schema", "findings", "size"] rfl (by decide) ?_
  simp only [List.forall_mem_cons]
  exact ⟨.str (Json.keeps_ofString _ _), .list (List.forall_mem_nil _), .int _,
    List.forall_mem_nil _⟩

theorem isDocument_sized (size : Int) : IsDocument (sized size) ⟨schemaTag, .empty, []⟩ :=
  ⟨rfl, rfl, .inr ⟨rfl, rfl⟩, [], rfl, .nil⟩

theorem limit?_sized_pow {k : Nat} (h : digitLimit ≤ k) :
    (sized (10 ^ k)).limit? limit.count 0 = some (.tooManyDigits (k + 1)) := by
  have hroom := limit.room
  have hsize : Json.limit? limit.count 1 (.int (10 ^ k)) = some (.tooManyDigits (k + 1)) := by
    rw [Json.limit?, not_isWritable_pow h, Binary64.digitCount_natAbs_pow]
    rfl
  have hlist : Json.limit? limit.count 1 (.list []) = none :=
    Json.limit?_list_eq_none_iff.2 ⟨by omega, List.forall_mem_nil _⟩
  rw [sized, Json.limit?, if_neg (by omega)]
  simp only [Json.limitFields?, hsize, hlist]
  rfl

/-- A file holds a baseline that has, in a field which a run does not need, a number with too many
digits: the run breaks off, so it neither compares with the baseline nor refuses it. -/
theorem long_number_breaks_off :
    ∃ t d, t.has rootBaseline = true ∧ Holds t rootBaseline d ∧
      (∀ limit now findings, compare limit t rootBaseline now findings =
        (.error (.unusable (.tooManyDigits (digitLimit + 1))), t)) ∧
      (Error.tooManyDigits (digitLimit + 1)).refuses = false := by
  have hwellFormed := wellFormed_sized (10 ^ digitLimit)
  have hover : ∀ limit, RunsOver limit (valueFile (sized (10 ^ digitLimit))) rootBaseline
      (.tooManyDigits (digitLimit + 1)) := fun limit =>
    (runsOver_valueFile_iff hwellFormed).2 (limit?_sized_pow (Nat.le_refl digitLimit))
  exact ⟨valueFile (sized (10 ^ digitLimit)), _, has_rootFile _,
    holds_valueFile hwellFormed (isDocument_sized _),
    fun limit => compare_of_load_error (has_rootFile _) (load_of_runsOver (hover limit)), rfl⟩

end Baseline

end LlmAudit
