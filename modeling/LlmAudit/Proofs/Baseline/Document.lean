import LlmAudit.Baseline.Diff
import LlmAudit.Proofs.Files.Writing
import LlmAudit.Proofs.Json.Ascii
import LlmAudit.Proofs.Json.RoundTrip
import LlmAudit.Proofs.Record.Decoding
import LlmAudit.Proofs.Text.Utf8

/-!
# Baseline documents read back

Which values are those of a document is said without a decoder (`IsDocument`), and exactly these are
decoded (`Document.ofJson_eq_ok_iff`). The document of a baseline is therefore read as it was
written: as a value (`ofJson_toJson`), as a text (`parse_text`), and from the file that holds it
(`load_of_written`), as long as its lines do not have too many digits and its texts are told by what
is written for them (`Document.Kept`).
-/

namespace LlmAudit

namespace Baseline

open Json (getField?)

/-! ### The values of documents -/

/-- The fields of a record are those of a known finding. -/
structure IsEntry (fields : List (LooseText × Json)) (e : Entry) : Prop where
  /-- The rule is a text. -/
  ruleId : getField? fields (.ofString "rule_id") = some (.str e.ruleId)
  /-- The file is a text. -/
  file : getField? fields (.ofString "file") = some (.str e.file)
  /-- The line stands for a whole number. -/
  line : ∃ j, getField? fields (.ofString "line") = some j ∧ Record.IsWhole j e.line
  /-- The severity is the name of one. -/
  severity : getField? fields (.ofString "severity") = some (.str (.ofString e.severity.name))
  /-- The confidence stands for a number. -/
  confidence : ∃ j, getField? fields (.ofString "confidence") = some j ∧
    Record.IsNumber j e.confidence

/-- A value is that of a document. -/
structure IsDocument (j : Json) (d : Document) : Prop where
  /-- It has the tag of the format. -/
  schema : j.field? (.ofString "schema") = some (.str (.ofString schemaTag))
  /-- So has the document. -/
  tag : d.schema = schemaTag
  /-- The time is a text, or left out. -/
  createdAt : j.field? (.ofString "createdAt") = some (.str d.createdAt) ∨
    j.field? (.ofString "createdAt") = none ∧ d.createdAt = .empty
  /-- The findings are a list of records, each of which is a known finding. -/
  findings : ∃ items, j.field? (.ofString "findings") = some (.list items) ∧
    List.Forall₂ (fun item e => ∃ fields, item = .object fields ∧ IsEntry fields e) items d.entries

theorem Document.entryOf_eq_ok_iff {j : Json} {e : Entry} :
    entryOf j = .ok e ↔ ∃ fields, j = .object fields ∧ IsEntry fields e := by
  cases j with
  | object fields =>
    obtain ⟨ruleId, file, line, severity, confidence⟩ := e
    simp only [entryOf, entryOfFields, Record.Decoded.apply_eq_ok_iff, Record.required_eq_ok_iff,
      Record.readText_eq_ok_iff, Record.readSeverity_eq_ok_iff, Record.readWhole_eq_ok_iff,
      Record.readNumber_eq_ok_iff, Except.ok.injEq, Json.object.injEq]
    constructor
    · rintro ⟨_, x, ⟨_, v, ⟨_, n, ⟨_, f, ⟨_, r, rfl, ⟨_, hr, rfl⟩, rfl⟩, ⟨_, hf, rfl⟩, rfl⟩, hn,
        rfl⟩, ⟨_, hv, rfl⟩, rfl⟩, hx, heq⟩
      cases heq
      exact ⟨fields, rfl, hr, hf, hn, hv, hx⟩
    · rintro ⟨_, rfl, hr, hf, hn, hv, hx⟩
      exact ⟨_, _, ⟨_, _, ⟨_, _, ⟨_, _, ⟨_, _, rfl, ⟨_, hr, rfl⟩, rfl⟩, ⟨_, hf, rfl⟩, rfl⟩, hn, rfl⟩,
        ⟨_, hv, rfl⟩, rfl⟩, hx, rfl⟩
  | _ => simp [entryOf]

/-- A document is made of the parts that are decoded. -/
theorem Document.apply_eq_ok_iff {tag : String} {time : Record.Decoded LooseText} {items : List Json}
    {d : Document} :
    (Record.Decoded.apply (Record.Decoded.apply (.ok (Document.mk tag)) time)
        ((Record.decodeItems entryOf 0 items).under (.field "findings"))) = .ok d ↔
      d.schema = tag ∧ time = .ok d.createdAt ∧
        List.Forall₂ (fun item e => ∃ fields, item = .object fields ∧ IsEntry fields e) items
          d.entries := by
  obtain ⟨schema, createdAt, entries⟩ := d
  simp only [Record.Decoded.apply_eq_ok_iff, Record.Decoded.under_eq_ok_iff,
    Record.decodeItems_eq_ok_iff, entryOf_eq_ok_iff, Except.ok.injEq]
  constructor
  · rintro ⟨_, es, ⟨_, s, rfl, htime, rfl⟩, hes, heq⟩
    cases heq
    exact ⟨rfl, htime, hes⟩
  · rintro ⟨rfl, htime, hes⟩
    exact ⟨_, entries, ⟨_, createdAt, rfl, htime, rfl⟩, hes, rfl⟩

/-- Exactly the values of documents are read as such. -/
theorem Document.ofJson_eq_ok_iff {j : Json} {d : Document} :
    ofJson j = .ok d ↔ IsDocument j d := by
  constructor
  · intro h
    unfold ofJson at h
    split at h
    · rename_i tag items hschema hfindings
      by_cases htag : tag = .ofString schemaTag
      · rw [if_pos htag] at h
        rw [htag] at hschema
        -- the time is there or not; either way the rest is decoded likewise
        cases htime : j.field? (.ofString "createdAt") with
        | none =>
          rw [htime] at h
          dsimp only at h
          split at h
          · rename_i d' hd
            rw [Except.ok.inj h] at hd
            obtain ⟨hd, hcreated, hentries⟩ := apply_eq_ok_iff.1 hd
            exact ⟨hschema, hd, .inr ⟨htime, (Except.ok.inj hcreated).symm⟩, items,
              hfindings, hentries⟩
          · cases h
        | some time =>
          rw [htime] at h
          dsimp only at h
          split at h
          · rename_i d' hd
            rw [Except.ok.inj h] at hd
            obtain ⟨hd, hcreated, hentries⟩ := apply_eq_ok_iff.1 hd
            rw [Record.atField_eq_ok_iff, Record.readText_eq_ok_iff] at hcreated
            rw [hcreated] at htime
            exact ⟨hschema, hd, .inl htime, items, hfindings, hentries⟩
          · cases h
      · rw [if_neg htag] at h
        cases h
    · cases h
  · rintro ⟨hschema, htag, htime, items, hfindings, hentries⟩
    rw [ofJson, hschema, hfindings]
    dsimp only
    rw [if_pos rfl]
    rcases htime with htime | ⟨htime, hempty⟩
    · have htext : Record.atField "createdAt" (Record.readText (.str d.createdAt)) =
          .ok d.createdAt := rfl
      rw [htime]
      dsimp only
      rw [apply_eq_ok_iff.2 ⟨htag, htext, hentries⟩]
    · rw [htime]
      dsimp only
      rw [apply_eq_ok_iff.2 ⟨htag, congrArg Except.ok hempty.symm, hentries⟩]

/-! ### Documents that were written -/

namespace Document

theorem isEntry_entryJson (e : Entry) :
    ∃ fields, entryJson e = .object fields ∧ IsEntry fields e :=
  ⟨_, rfl, rfl, rfl, ⟨_, rfl, .int e.line⟩, rfl, ⟨_, rfl, .float e.confidence⟩⟩

/-- The value of a document is read as the document. -/
theorem ofJson_toJson {d : Document} (h : d.schema = schemaTag) : ofJson d.toJson = .ok d := by
  rw [ofJson_eq_ok_iff]
  refine ⟨?_, h, .inl rfl, d.entries.map entryJson, rfl, ?_⟩
  · rw [← h]
    rfl
  · rw [List.forall₂_map_left_iff, List.forall₂_same]
    exact fun e _ => isEntry_entryJson e

/-- The texts of a document are told by what is written for them in the ASCII alphabet. -/
structure Kept (d : Document) : Prop where
  /-- The time is. -/
  createdAt : Json.Alphabet.ascii.Keeps d.createdAt
  /-- So are the rule and the file of each known finding. -/
  entries : ∀ e ∈ d.entries, Json.Alphabet.ascii.Keeps e.ruleId ∧ Json.Alphabet.ascii.Keeps e.file

theorem wellFormed_entryJson {e : Entry} (hrule : Json.Alphabet.ascii.Keeps e.ruleId)
    (hfile : Json.Alphabet.ascii.Keeps e.file) : (entryJson e).WellFormed .ascii := by
  refine .named ["rule_id", "file", "line", "severity", "confidence"] rfl (by decide) ?_
  simp only [List.forall_mem_cons]
  exact ⟨.str hrule, .str hfile, .int _, .str (Json.keeps_ofString _ _), .float _,
    List.forall_mem_nil _⟩

theorem Kept.wellFormed_toJson {d : Document} (h : d.Kept) : d.toJson.WellFormed .ascii := by
  have hitems : ∀ j ∈ d.entries.map entryJson, j.WellFormed .ascii := by
    intro j hj
    obtain ⟨e, he, rfl⟩ := List.mem_map.1 hj
    exact wellFormed_entryJson (h.entries e he).1 (h.entries e he).2
  refine .named ["schema", "createdAt", "findings"] rfl (by decide) ?_
  simp only [List.forall_mem_cons]
  exact ⟨.str (Json.keeps_ofString _ _), .str h.createdAt, .list hitems, List.forall_mem_nil _⟩

theorem limit?_entryJson {e : Entry} (h : isWritable e.line = true) {bound depth : Nat}
    (hdepth : depth < bound) : (entryJson e).limit? bound depth = none := by
  refine Json.limit?_object_eq_none_iff.2 ⟨hdepth, ?_⟩
  simp only [List.forall_mem_cons]
  exact ⟨rfl, rfl, if_pos h, rfl, rfl, List.forall_mem_nil _⟩

theorem limit?_toJson {d : Document} (h : ∀ e ∈ d.entries, isWritable e.line = true)
    (limit : Json.DepthLimit) : d.toJson.limit? limit.count 0 = none := by
  have hroom := limit.room
  have hitems : ∀ j ∈ d.entries.map entryJson, j.limit? limit.count 2 = none := by
    intro j hj
    obtain ⟨e, he, rfl⟩ := List.mem_map.1 hj
    exact limit?_entryJson (h e he) (by omega)
  refine Json.limit?_object_eq_none_iff.2 ⟨by omega, ?_⟩
  simp only [List.forall_mem_cons]
  exact ⟨rfl, rfl, Json.limit?_list_eq_none_iff.2 ⟨by omega, hitems⟩, List.forall_mem_nil _⟩

theorem plain_text (d : Document) : Json.Plain d.text := by
  rw [text, Json.plain_append]
  exact ⟨Json.plain_asciiText d.toJson, by decide⟩

theorem Kept.parse_text {d : Document} (hkept : d.Kept)
    (h : ∀ e ∈ d.entries, isWritable e.line = true) (limit : Json.DepthLimit) :
    Json.parse limit.count d.text = .ok d.toJson := by
  have hpoints : (d.text : LooseText) = ⟨Json.write .ascii 0 d.toJson ++ [.char '\n']⟩ := by
    rw [text, LooseText.ofList_append, ← Json.map_asciiText]
    rfl
  rw [hpoints]
  exact hkept.wellFormed_toJson.parse_write (limit?_toJson h limit) (List.forall_mem_singleton.2 rfl)

/-- What is kept of findings are strings. -/
theorem kept_ofFindings (now : String) (findings : List Finding) :
    (ofFindings now findings).Kept := by
  refine ⟨Json.keeps_ofString _ now, fun e he => ?_⟩
  rw [ofFindings, List.mem_mergeSort] at he
  obtain ⟨f, -, rfl⟩ := List.mem_map.1 he
  exact ⟨Json.keeps_ofString _ f.ruleId, Json.keeps_ofString _ f.file⟩

end Document

/-- A baseline that was written to a file is read from it. -/
theorem load_of_written {t u : FileTree} {path : Path} {place : List String} {d : Document}
    (hwritten : FileTree.Written t path (Utf8.encode d.text) place u)
    (hschema : d.schema = schemaTag) (hkept : d.Kept)
    (hlines : ∀ e ∈ d.entries, isWritable e.line = true) (limit : Json.DepthLimit) :
    load limit u path = .ok d := by
  have hbreaks := Text.unifyBreaks_of_notMem d.plain_text.carriage_notMem
  rw [load, FileTree.readText, hwritten.read]
  dsimp only
  rw [Utf8.decode_encode]
  dsimp only
  rw [hbreaks, hkept.parse_text hlines limit]
  dsimp only
  rw [Document.ofJson_toJson hschema]

end Baseline

end LlmAudit
