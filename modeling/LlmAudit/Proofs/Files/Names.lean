import LlmAudit.Discovery
import Mathlib.Data.List.Basic

/-!
# Names of files

A name of a file is not empty, means no directory and holds no slash. A path of such names is read
back as it was written (`Path.parse_render`), so a source file is found again under the path that it
was given (`Discovery.exists_readLossy_of_mem_units`).
-/

namespace LlmAudit

/-! ### Cutting what was joined -/

namespace Text

variable {separator : Char} {s : List Char}

theorem splitAt_append_cons (h : separator ∉ s) (rest : List Char) :
    splitAt separator (s ++ separator :: rest) = s :: splitAt separator rest := by
  induction s with
  | nil => rw [List.nil_append, splitAt, if_pos rfl]
  | cons c s ih =>
    rw [List.mem_cons, not_or] at h
    rw [List.cons_append, splitAt, if_neg (Ne.symm h.1), ih h.2]

theorem splitAt_of_notMem (h : separator ∉ s) : splitAt separator s = [s] := by
  induction s with
  | nil => rfl
  | cons c s ih =>
    rw [List.mem_cons, not_or] at h
    rw [splitAt, if_neg (Ne.symm h.1), ih h.2]

theorem splitAt_ne_nil (separator : Char) (s : List Char) : splitAt separator s ≠ [] := by
  unfold splitAt
  split
  · exact List.cons_ne_nil _ _
  · split
    · exact List.cons_ne_nil _ _
    · split <;> exact List.cons_ne_nil _ _

/-- A separator ends the pieces before it. -/
theorem splitAt_append (separator : Char) (s rest : List Char) :
    splitAt separator (s ++ separator :: rest) =
      splitAt separator s ++ splitAt separator rest := by
  induction s with
  | nil => simp [splitAt]
  | cons c s ih =>
    rw [List.cons_append, splitAt, splitAt, ih]
    split
    · rfl
    · cases hs : splitAt separator s with
      | nil => exact absurd hs (splitAt_ne_nil separator s)
      | cons piece pieces => rfl

/-- The pieces of a text, joined again. -/
theorem intercalate_splitAt (separator : Char) (s : List Char) :
    [separator].intercalate (splitAt separator s) = s := by
  induction s with
  | nil => rfl
  | cons c s ih =>
    rw [splitAt]
    cases hs : splitAt separator s with
    | nil => exact absurd hs (splitAt_ne_nil separator s)
    | cons piece pieces =>
      rw [hs] at ih
      split
      · rename_i hc
        rw [List.intercalate_cons_cons, ih, hc]
        rfl
      · dsimp only
        cases pieces with
        | nil => rw [← ih, List.intercalate_singleton, List.intercalate_singleton]
        | cons next more =>
          rw [← ih, List.intercalate_cons_cons, List.intercalate_cons_cons]
          rfl

/-- Pieces without the separator are found again. -/
theorem splitAt_intercalate {pieces : List (List Char)} (hne : pieces ≠ [])
    (h : ∀ p ∈ pieces, separator ∉ p) :
    splitAt separator ([separator].intercalate pieces) = pieces := by
  induction pieces with
  | nil => exact absurd rfl hne
  | cons piece pieces ih =>
    rw [List.forall_mem_cons] at h
    cases pieces with
    | nil =>
      rw [List.intercalate_singleton]
      exact splitAt_of_notMem h.1
    | cons next more =>
      rw [List.intercalate_cons_cons, List.append_assoc, List.singleton_append,
        splitAt_append_cons h.1, ih (List.cons_ne_nil next more) h.2]

/-- What is joined does not start with the separator if its first piece does not. -/
theorem takeWhile_intercalate {piece : List Char} (hne : piece ≠ []) (h : separator ∉ piece)
    (pieces : List (List Char)) :
    ([separator].intercalate (piece :: pieces)).takeWhile (· == separator) = [] := by
  cases piece with
  | nil => exact absurd rfl hne
  | cons c piece =>
    rw [List.mem_cons, not_or] at h
    have hc : ¬ (c == separator) = true := by simpa using Ne.symm h.1
    cases pieces with
    | nil => rw [List.intercalate_singleton, List.takeWhile_cons, if_neg hc]
    | cons next more =>
      rw [List.intercalate_cons_cons, List.append_assoc, List.cons_append, List.takeWhile_cons,
        if_neg hc]

end Text

/-! ### Paths of names -/

namespace Path

/-- A part of a path that is the name of a file. -/
def IsName (part : String) : Prop :=
  part ≠ "" ∧ part ≠ "." ∧ '/' ∉ part.toList

instance (part : String) : Decidable (IsName part) :=
  inferInstanceAs (Decidable (part ≠ "" ∧ part ≠ "." ∧ '/' ∉ part.toList))

theorem toList_render {parts : List String} (hne : parts ≠ []) :
    (render ⟨.workingDir, parts⟩).toList = ['/'].intercalate (parts.map String.toList) := by
  have hparts : parts.isEmpty = false := List.isEmpty_eq_false_iff.2 hne
  rw [render, if_neg (by simp [hparts]), Start.render, String.empty_append,
    String.toList_intercalate]
  rfl

/-- A path of names is read back as it was written. -/
theorem parse_render {parts : List String} (h : ∀ part ∈ parts, IsName part) :
    parse (render ⟨.workingDir, parts⟩) = ⟨.workingDir, parts⟩ := by
  cases parts with
  | nil => decide +kernel
  | cons first rest =>
    have htext := toList_render (List.cons_ne_nil first rest)
    have hstart : (render ⟨.workingDir, first :: rest⟩).toList.takeWhile (· == '/') = [] := by
      obtain ⟨hne, -, hslash⟩ := h first List.mem_cons_self
      rw [htext, List.map_cons]
      exact Text.takeWhile_intercalate (mt String.toList_eq_nil_iff.1 hne) hslash _
    have hsplit : Text.splitOn '/' (render ⟨.workingDir, first :: rest⟩) = first :: rest := by
      have hpieces : ∀ p ∈ (first :: rest).map String.toList, '/' ∉ p := by
        intro p hp
        obtain ⟨part, hpart, rfl⟩ := List.mem_map.1 hp
        exact (h part hpart).2.2
      rw [Text.splitOn, htext, Text.splitAt_intercalate (by simp) hpieces, List.map_map]
      simp
    have hall : (first :: rest).filter (fun p => p ≠ "" ∧ p ≠ ".") = first :: rest := by
      refine List.filter_eq_self.2 fun part hpart => ?_
      obtain ⟨hne, hdot, -⟩ := h part hpart
      exact decide_eq_true ⟨hne, hdot⟩
    rw [parse, hstart, hsplit, hall]
    rfl

end Path

/-- Everything in a tree stands under names. -/
def FileTree.WellNamed (t : FileTree) : Prop :=
  ∀ e ∈ t.entries, ∀ part ∈ e.1, Path.IsName part

instance (t : FileTree) : Decidable t.WellNamed :=
  inferInstanceAs (Decidable (∀ e ∈ t.entries, ∀ part ∈ e.1, Path.IsName part))

/-! ### Source files -/

namespace Discovery

variable {parser : SourceParser} {t : FileTree} {folder : Path} {given : List String}
  {us : List SourceUnit} {unit : SourceUnit}

theorem mem_parts_of_mem_filesBelow {base parts : List String} (h : parts ∈ t.filesBelow base) :
    ∃ e ∈ t.entries, ∀ part ∈ parts, part ∈ e.1 := by
  have hmem := (List.mergeSort_perm _ _).mem_iff.1 h
  obtain ⟨⟨all, entry⟩, hentry, hparts⟩ := List.mem_filterMap.1 hmem
  refine ⟨(all, entry), hentry, fun part hpart => ?_⟩
  cases entry with
  | folder => cases hparts
  | file bytes =>
    dsimp only at hparts
    split at hparts
    · cases hparts
      exact List.mem_of_mem_drop hpart
    · cases hparts

/-- A source file is made from the text at its place, which is found again under its path. -/
theorem exists_readLossy_of_mem_units (hnames : t.WellNamed)
    (hunits : units parser t folder given = .ok us) (hunit : unit ∈ us) :
    ∃ place grammar s, t.readLossy (folder.join (.parse unit.path)) = .ok s ∧
      unit = .ofText unit.path (String.ofList s) (parser place grammar (String.ofList s)) := by
  rw [units] at hunits
  split at hunits
  · rename_i files hfiles
    cases hunits
    obtain ⟨p, hp, hsome⟩ := List.mem_filterMap.1 hunit
    -- the path is that of an entry of the tree
    have hpath : ∃ parts ∈ t.filesBelow folder.parts, p = ⟨.workingDir, parts⟩ := by
      rw [sourceFiles] at hfiles
      split at hfiles
      · cases hfiles
      · cases hfiles
      · split at hfiles
        · cases hfiles
        · cases hfiles
          obtain ⟨parts, hparts, rfl⟩ := List.mem_map.1 (List.mem_of_mem_filter hp)
          exact ⟨parts, hparts, rfl⟩
    obtain ⟨parts, hparts, rfl⟩ := hpath
    obtain ⟨e, he, hsub⟩ := mem_parts_of_mem_filesBelow hparts
    have hback : Path.parse (Path.render ⟨.workingDir, parts⟩) = ⟨.workingDir, parts⟩ :=
      Path.parse_render fun part hpart => hnames e he part (hsub part hpart)
    rw [unit?] at hsome
    dsimp only at hsome
    split at hsome
    · rename_i text hread
      cases hsome
      refine ⟨_, _, text, ?_, rfl⟩
      rwa [SourceUnit.ofText, hback]
    · cases hsome
  · cases hunits

end Discovery

end LlmAudit
