import LlmAudit.Files.Tree
import Mathlib.Data.List.Induction

/-!
# What making folders and writing files changes

A change of a file tree is described by what stands at each place before and after. Making folders
only adds folders (`FileTree.AddsFolders`), also where it fails halfway. Writing a file adds folders
and leaves one file with the given bytes (`FileTree.Written`), which is what is read there
afterwards (`Written.read`).
-/

namespace LlmAudit

/-- Parts without those that mean the parent hold none of them. -/
theorem Path.not_mem_collapse (parts : List String) : ".." ∉ Path.collapse parts := by
  have hfold : ∀ done : List String, ".." ∉ done →
      ".." ∉ parts.foldl (fun done p => if p = ".." then done.drop 1 else p :: done) done := by
    induction parts with
    | nil => exact fun done hdone => hdone
    | cons p rest ih =>
      intro done hdone
      refine ih _ ?_
      by_cases hp : p = ".."
      · simpa [hp] using fun h => hdone (List.mem_of_mem_tail h)
      · simpa [hp, eq_comm] using hdone
  exact fun h => hfold [] List.not_mem_nil (List.mem_reverse.1 h)

/-- A resolved path has no steps to the parent. -/
theorem not_mem_parts_of_resolvePath {workingDir p path : Path}
    (h : resolvePath workingDir p = .ok path) : ".." ∉ path.parts := by
  rw [resolvePath] at h
  split at h
  · cases h
    exact Path.not_mem_collapse _
  · cases h

namespace FileTree

variable {t u : FileTree} {p : Path} {here parts ps q : List String} {bytes : List UInt8} {e : Entry}

/-! ### Places -/

@[simp] theorem entryAt?_nil (t : FileTree) : t.entryAt? [] = some .folder := rfl

/-- Whatever stands in a tree stands in a folder. -/
theorem entryAt?_dropLast (h : t.entryAt? parts = some e) :
    t.entryAt? parts.dropLast = some .folder := by
  cases hparts : parts with
  | nil => rfl
  | cons p rest =>
    rw [hparts] at h
    obtain ⟨x, hx, -⟩ := Option.map_eq_some_iff.1 h
    have hkey : x.1 = p :: rest := by simpa using List.find?_some hx
    rw [← hkey]
    exact t.rooted x (List.mem_of_find?_eq_some hx)

/-- What stands above something is a folder. -/
theorem entryAt?_of_append {below : List String} (h : t.entryAt? (here ++ below) = some e)
    (hbelow : below ≠ []) : t.entryAt? here = some .folder := by
  induction below using List.reverseRecOn generalizing e with
  | nil => exact absurd rfl hbelow
  | append_singleton init last ih =>
    have hinit := entryAt?_dropLast h
    rw [← List.append_assoc, List.dropLast_concat] at hinit
    cases init with
    | nil => simpa using hinit
    | cons x xs => exact ih hinit (List.cons_ne_nil x xs)

theorem entryAt?_put (h : t.admits parts e) (q : List String) :
    (t.put parts e).entryAt? q = if q = parts then some e else t.entryAt? q := by
  rw [put, dif_pos h]
  exact at?_putEntry t.entries h.1 e q

theorem entryAt?_put_of_ne (t : FileTree) (e : Entry) (h : q ≠ parts) :
    (t.put parts e).entryAt? q = t.entryAt? q := by
  by_cases hadmits : t.admits parts e
  · rw [entryAt?_put hadmits, if_neg h]
  · rw [put, dif_neg hadmits]

/-- The parts of a path without steps to the parent are the place it leads to. -/
theorem eq_append_of_walkParts (hps : ".." ∉ ps) (h : t.walkParts here ps = .ok q) :
    q = here ++ ps := by
  induction ps generalizing here with
  | nil => simpa [walkParts, eq_comm] using h
  | cons x rest ih =>
    rw [walkParts] at h
    split at h
    · cases h
    · cases h
    · have hx : x ≠ ".." := fun hx => hps (hx ▸ List.mem_cons_self)
      rw [if_neg hx] at h
      simpa using ih (fun hm => hps (List.mem_cons_of_mem x hm)) h

/-- A way leads to its parts without those that mean the parent, whatever stands there. -/
theorem eq_foldl_of_walkParts (h : t.walkParts here ps = .ok q) :
    q = (ps.foldl (fun done p => if p = ".." then done.drop 1 else p :: done)
      here.reverse).reverse := by
  induction ps generalizing here with
  | nil => simpa [walkParts, eq_comm] using h
  | cons x rest ih =>
    rw [walkParts] at h
    split at h
    · cases h
    · cases h
    · rw [ih h, List.foldl_cons]
      by_cases hx : x = ".."
      · rw [if_pos hx, if_pos hx, ← List.tail_reverse, List.drop_one]
      · rw [if_neg hx, if_neg hx, List.reverse_append, List.reverse_singleton,
          List.singleton_append]

/-- A path leads to the place of its resolved form. -/
theorem eq_collapse_of_locate (h : t.locate p = .ok q) : q = Path.collapse p.parts := by
  rw [locate] at h
  split at h
  · exact eq_foldl_of_walkParts h
  · cases h

/-- A path without steps to the parent leads to whatever stands at its parts. -/
theorem walkParts_of_entryAt? (hps : ".." ∉ ps) (h : t.entryAt? (here ++ ps) = some e) :
    t.walkParts here ps = .ok (here ++ ps) := by
  induction ps generalizing here with
  | nil => simp [walkParts]
  | cons x rest ih =>
    have hx : x ≠ ".." := fun hx => hps (hx ▸ List.mem_cons_self)
    rw [walkParts, entryAt?_of_append h (List.cons_ne_nil x rest)]
    simp only [if_neg hx]
    have hrest : t.entryAt? (here ++ [x] ++ rest) = some e := by simpa using h
    simpa using ih (fun hm => hps (List.mem_cons_of_mem x hm)) hrest

/-- The rest of a way goes on from where its first part leads. -/
theorem walkParts_append (h : t.walkParts here ps = .ok q) (more : List String) :
    t.walkParts here (ps ++ more) = t.walkParts q more := by
  induction ps generalizing here with
  | nil =>
    cases h
    rfl
  | cons x rest ih =>
    rw [walkParts] at h
    rw [List.cons_append, walkParts]
    split at h
    · cases h
    · cases h
    · exact ih h

/-- Nothing stands at the parts of a path without steps to the parent if it leads to nothing. -/
theorem entryAt?_of_has (hparts : ".." ∉ p.parts) (hname : p.isNameable = true)
    (h : t.has p = false) : t.entryAt? p.parts = none := by
  cases he : t.entryAt? p.parts with
  | none => rfl
  | some e =>
    have hwalk : t.walkParts [] p.parts = .ok p.parts := walkParts_of_entryAt? hparts he
    simp [has, find?, locate, hname, hwalk, he] at h

/-- What is read at a path without steps to the parent is the file at its parts. -/
theorem read_eq_ok_iff (hparts : ".." ∉ p.parts) :
    t.read p = .ok bytes ↔ p.isNameable = true ∧ t.entryAt? p.parts = some (.file bytes) := by
  constructor
  · intro h
    rw [read, locate] at h
    by_cases hname : p.isNameable = true
    · rw [if_pos hname] at h
      refine ⟨hname, ?_⟩
      cases hwalk : t.walkParts [] p.parts with
      | error e =>
        rw [hwalk] at h
        cases h
      | ok q =>
        obtain rfl : q = p.parts := eq_append_of_walkParts hparts hwalk
        rw [hwalk] at h
        dsimp only at h
        split at h
        · cases h
        · cases h
        · rename_i hfile
          cases h
          exact hfile
    · rw [if_neg hname] at h
      cases h
  · rintro ⟨hname, hfile⟩
    have hwalk : t.walkParts [] p.parts = .ok p.parts := walkParts_of_entryAt? hparts hfile
    rw [read, locate, if_pos hname, hwalk]
    dsimp only
    rw [hfile]

/-! ### Making folders -/

/-- Nothing has changed but that there are more folders. -/
def AddsFolders (t u : FileTree) : Prop :=
  ∀ q, u.entryAt? q = t.entryAt? q ∨ t.entryAt? q = none ∧ u.entryAt? q = some .folder

namespace AddsFolders

theorem refl (t : FileTree) : AddsFolders t t := fun _ => .inl rfl

theorem trans {v : FileTree} (h₁ : AddsFolders t u) (h₂ : AddsFolders u v) : AddsFolders t v := by
  intro q
  rcases h₂ q with h | ⟨hnone, hfolder⟩
  · rw [h]
    exact h₁ q
  · rcases h₁ q with h | ⟨-, h⟩
    · exact .inr ⟨h ▸ hnone, hfolder⟩
    · simp [h] at hnone

/-- What stood somewhere still stands there. -/
theorem entryAt? (h : AddsFolders t u) (hq : t.entryAt? q = some e) : u.entryAt? q = some e := by
  rcases h q with hq' | ⟨hnone, -⟩
  · rw [hq', hq]
  · simp [hnone] at hq

theorem put_folder (h : t.entryAt? parts = none) : AddsFolders t (t.put parts .folder) := by
  intro q
  by_cases hadmits : t.admits parts .folder
  · rw [entryAt?_put hadmits]
    split
    · rename_i hq
      exact .inr ⟨hq ▸ h, rfl⟩
    · exact .inl rfl
  · rw [put, dif_neg hadmits]
    exact .inl rfl

end AddsFolders

theorem makeParts_addsFolders (t : FileTree) (made : Bool) (here ps : List String) :
    AddsFolders t (t.makeParts made here ps).2 := by
  induction ps generalizing t made here with
  | nil => exact .refl t
  | cons x rest ih =>
    rw [makeParts]
    split
    · exact ih t made _
    · exact .refl t
    · rename_i hnone
      exact (AddsFolders.put_folder hnone).trans (ih _ true _)

theorem makeFolders_addsFolders (t : FileTree) (p : Path) : AddsFolders t (t.makeFolders p).2 := by
  rw [makeFolders]
  split
  · exact makeParts_addsFolders t false [] p.parts
  · exact .refl t

/-- The next folder on a way can be made if nothing stands there. -/
theorem admits_step (hhere : t.entryAt? here = some .folder) {x : String}
    (h : t.entryAt? (if x = ".." then here.dropLast else here ++ [x]) = none) :
    t.admits (if x = ".." then here.dropLast else here ++ [x]) .folder := by
  split at h
  · rw [entryAt?_dropLast hhere] at h
    cases h
  · rename_i hx
    rw [if_neg hx]
    exact ⟨by simp, by simpa using hhere, .inl rfl⟩

/-- Once the folders of a way are made, it leads to a folder. -/
theorem walkParts_of_makeParts (made : Bool) (hhere : t.entryAt? here = some .folder)
    (h : t.makeParts made here ps = (.ok (), u)) :
    ∃ q, u.walkParts here ps = .ok q ∧ u.entryAt? q = some .folder := by
  induction ps generalizing t made here with
  | nil =>
    rw [makeParts, Prod.mk.injEq] at h
    exact ⟨here, rfl, h.2 ▸ hhere⟩
  | cons x rest ih =>
    have hfolder : u.entryAt? here = some .folder := by
      have hadds := makeParts_addsFolders t made here (x :: rest)
      rw [h] at hadds
      exact hadds.entryAt? hhere
    rw [makeParts] at h
    rw [walkParts, hfolder]
    split at h
    · rename_i hnext
      exact ih made hnext h
    · cases h
    · rename_i hnone
      refine ih true ?_ h
      rw [entryAt?_put (admits_step hhere hnone), if_pos rfl]

/-- Folders are made on the way only. -/
theorem entryAt?_makeParts (t : FileTree) (made : Bool) (hps : ".." ∉ ps)
    (hq : ¬ q <+: here ++ ps) :
    (t.makeParts made here ps).2.entryAt? q = t.entryAt? q := by
  induction ps generalizing t made here with
  | nil => rfl
  | cons x rest ih =>
    have hx : x ≠ ".." := fun hx => hps (hx ▸ List.mem_cons_self)
    have hrest : ".." ∉ rest := fun hm => hps (List.mem_cons_of_mem x hm)
    have hsplit : here ++ x :: rest = here ++ [x] ++ rest := List.append_cons here x rest
    rw [hsplit] at hq
    rw [makeParts, if_neg hx]
    split
    · exact ih t made hrest hq
    · rfl
    · have hne : q ≠ here ++ [x] := fun heq => hq (heq ▸ List.prefix_append _ _)
      rw [ih _ true hrest hq, entryAt?_put_of_ne t _ hne]

/-! ### Writing files -/

/-- A file can be written exactly where its path leads to a place for it. -/
theorem write_eq_ok_iff :
    t.write p bytes = .ok u ↔
      ∃ place, t.locate p = .ok place ∧ t.admits place (.file bytes) ∧
        u = t.put place (.file bytes) := by
  rw [write]
  cases hlocate : t.locate p with
  | error err => simp
  | ok place =>
    cases hplace : t.entryAt? place with
    | none =>
      have hne : place ≠ [] := by
        rintro rfl
        simp at hplace
      cases hparent : t.entryAt? place.dropLast with
      | none => simp [admits, hplace, hparent]
      | some entry => cases entry <;> simp [admits, hparent, hne, hplace, eq_comm]
    | some entry =>
      cases entry with
      | folder => simp [admits, hplace]
      | file old =>
        have hne : place ≠ [] := by
          rintro rfl
          simp at hplace
        simp [admits, hplace, hne, entryAt?_dropLast hplace, eq_comm]

/-- A file put somewhere does not stand in the way of paths that led elsewhere. -/
theorem walkParts_put (h : t.admits parts (.file bytes)) (hwalk : t.walkParts here ps = .ok q) :
    (t.put parts (.file bytes)).walkParts here ps = .ok q := by
  induction ps generalizing here with
  | nil => exact hwalk
  | cons x rest ih =>
    rw [walkParts] at hwalk
    split at hwalk
    · cases hwalk
    · cases hwalk
    · rename_i hhere
      have hne : here ≠ parts := by
        rintro rfl
        simp [admits, hhere] at h
      rw [walkParts, entryAt?_put h, if_neg hne, hhere]
      exact ih hwalk

/-- What writing a file leaves behind: the file at the place that its path leads to, more folders,
and all else as it was. -/
structure Written (t : FileTree) (p : Path) (bytes : List UInt8) (place : List String)
    (u : FileTree) : Prop where
  /-- The path leads to the place. -/
  located : u.locate p = .ok place
  /-- The file stands there. -/
  stored : u.entryAt? place = some (.file bytes)
  /-- Elsewhere there are at most more folders. -/
  elsewhere : ∀ q, q ≠ place →
    u.entryAt? q = t.entryAt? q ∨ t.entryAt? q = none ∧ u.entryAt? q = some .folder
  /-- No folder stood there. -/
  fresh : t.entryAt? place ≠ some .folder

namespace Written

variable {place : List String}

/-- Writing a file once folders are made. -/
theorem of_write {v : FileTree} (hadds : AddsFolders t v) (h : v.write p bytes = .ok u) :
    ∃ place, Written t p bytes place u := by
  obtain ⟨place, hlocate, hadmits, rfl⟩ := write_eq_ok_iff.1 h
  refine ⟨place, ?_, ?_, ?_, ?_⟩
  · rw [locate] at hlocate ⊢
    split at hlocate
    · rename_i hname
      rw [if_pos hname]
      exact walkParts_put hadmits hlocate
    · cases hlocate
  · rw [entryAt?_put hadmits, if_pos rfl]
  · intro q hq
    rw [entryAt?_put hadmits, if_neg hq]
    exact hadds q
  · intro hfolder
    have hstill := hadds.entryAt? hfolder
    simp [admits, hstill] at hadmits

/-- What is read at the path are the bytes written. -/
theorem read (h : Written t p bytes place u) : u.read p = .ok bytes := by
  rw [FileTree.read, h.located]
  simp only [h.stored]

theorem isNameable (h : Written t p bytes place u) : p.isNameable = true := by
  have hlocated := h.located
  rw [locate] at hlocated
  split at hlocated
  · assumption
  · cases hlocated

/-- A path without steps to the parent leads to its parts. -/
theorem place_eq (h : Written t p bytes place u) (hparts : ".." ∉ p.parts) : place = p.parts := by
  have hlocated := h.located
  rw [locate, if_pos h.isNameable] at hlocated
  exact eq_append_of_walkParts hparts hlocated

theorem has (h : Written t p bytes place u) : u.has p = true := by
  simp [FileTree.has, find?, h.located, h.stored]

/-- Where a file stood, one stands. -/
theorem file_of_file (h : Written t p bytes place u) {old : List UInt8}
    (hq : t.entryAt? q = some (.file old)) : ∃ new, u.entryAt? q = some (.file new) := by
  by_cases hqp : q = place
  · exact ⟨bytes, hqp ▸ h.stored⟩
  · rcases h.elsewhere q hqp with heq | ⟨hnone, -⟩
    · exact ⟨old, heq ▸ hq⟩
    · simp [hnone] at hq

end Written

/-- Writing a file with its folders either fails and adds folders only, or writes the file. -/
theorem writeMaking_cases (t : FileTree) (p : Path) (text : List Char) :
    (∃ err u, t.writeMaking p text = (.error err, u) ∧ AddsFolders t u) ∨
      ∃ place u, t.writeMaking p text = (.ok (), u) ∧
        Written t p (Utf8.encode text) place u := by
  have hadds := makeFolders_addsFolders t p.parent
  rw [writeMaking]
  rcases hmade : t.makeFolders p.parent with ⟨err | ⟨⟩, v⟩
  · exact .inl ⟨err, v, rfl, by simpa [hmade] using hadds⟩
  · rw [hmade] at hadds
    cases hwrite : v.write p (Utf8.encode text) with
    | error err => exact .inl ⟨err, v, by simp [hwrite], hadds⟩
    | ok u =>
      obtain ⟨place, hwritten⟩ := Written.of_write hadds hwrite
      exact .inr ⟨place, u, by simp [hwrite], hwritten⟩

theorem written_of_writeMaking {text : List Char} (h : t.writeMaking p text = (.ok (), u)) :
    ∃ place, Written t p (Utf8.encode text) place u := by
  rcases writeMaking_cases t p text with ⟨err, v, hfail, -⟩ | ⟨place, v, hdone, hwritten⟩
  · rw [h] at hfail
    cases hfail
  · rw [h, Prod.mk.injEq] at hdone
    exact ⟨place, hdone.2 ▸ hwritten⟩

/-! ### Places for files -/

/-- A file can be written at an absolute path: the folders above are there or can be made, and then
an empty file can be written. -/
def Accepts (t : FileTree) (p : Path) : Prop :=
  ∃ v u, t.makeFolders p.parent = (.ok (), v) ∧ v.write p [] = .ok u

/-- Where an empty file can be written, any other file can be written. -/
theorem Accepts.write_eq (h : Accepts t p) (bytes : List UInt8) :
    ∃ v u, t.makeFolders p.parent = (.ok (), v) ∧ v.write p bytes = .ok u := by
  obtain ⟨v, u, hmade, hwrite⟩ := h
  obtain ⟨place, hlocate, ⟨hne, hparent, hkind⟩, -⟩ := write_eq_ok_iff.1 hwrite
  have hadmits : v.admits place (.file bytes) :=
    ⟨hne, hparent, .inr (hkind.resolve_left (by simp))⟩
  exact ⟨v, v.put place (.file bytes), hmade, write_eq_ok_iff.2 ⟨place, hlocate, hadmits, rfl⟩⟩

/-- A file can be made at an absolute path: nothing stands there, and the folders above are there or
can be made. -/
structure Vacant (t : FileTree) (p : Path) : Prop where
  /-- A file can have the path. -/
  nameable : p.isNameable = true
  /-- It has no steps to the parent. -/
  resolved : ".." ∉ p.parts
  /-- Nothing stands there. -/
  absent : t.has p = false
  /-- The folders above are there or can be made. -/
  folders : (t.makeFolders p.parent).1 = .ok ()

namespace Vacant

theorem entryAt?_eq_none (h : Vacant t p) : t.entryAt? p.parts = none :=
  entryAt?_of_has h.resolved h.nameable h.absent

/-- With the folders above it, the path leads to a place in a folder where nothing stands. -/
theorem makeFolders_eq (h : Vacant t p) :
    ∃ v, t.makeFolders p.parent = (.ok (), v) ∧ v.locate p = .ok p.parts ∧
      v.entryAt? p.parts.dropLast = some .folder ∧ v.entryAt? p.parts = none := by
  have hne : p.parts ≠ [] := by
    intro hnil
    have hnone := h.entryAt?_eq_none
    rw [hnil] at hnone
    cases hnone
  have hinit : ".." ∉ p.parts.dropLast := fun hm => h.resolved (List.dropLast_subset _ hm)
  rcases hmade : t.makeFolders p.parent with ⟨r, v⟩
  obtain rfl : r = .ok () := by
    have hfolders := h.folders
    rwa [hmade] at hfolders
  have hparts : t.makeParts false [] p.parts.dropLast = (.ok (), v) := by
    rw [makeFolders] at hmade
    split at hmade
    · exact hmade
    · cases hmade
  obtain ⟨q, hwalk, hfolder⟩ := walkParts_of_makeParts false (entryAt?_nil t) hparts
  obtain rfl : q = p.parts.dropLast := eq_append_of_walkParts hinit hwalk
  refine ⟨v, rfl, ?_, hfolder, ?_⟩
  · -- The last part goes on from the folder above.
    have hlast : p.parts.getLast hne ≠ ".." := fun heq => h.resolved (heq ▸ List.getLast_mem hne)
    have hstep := walkParts_append hwalk [p.parts.getLast hne]
    rw [walkParts, hfolder, List.dropLast_concat_getLast hne] at hstep
    dsimp only at hstep
    rw [if_neg hlast] at hstep
    rw [locate, if_pos h.nameable]
    exact hstep
  · have hlonger : ¬ p.parts <+: [] ++ p.parts.dropLast := by
      intro hprefix
      have hlength := hprefix.length_le
      have hpos := List.length_pos_iff.2 hne
      rw [List.nil_append, List.length_dropLast] at hlength
      omega
    have hstill := entryAt?_makeParts t false hinit hlonger
    rw [hparts, h.entryAt?_eq_none] at hstill
    exact hstill

/-- A file can be written at a vacant place, once the folders above are made. -/
theorem accepts (h : Vacant t p) : Accepts t p := by
  obtain ⟨v, hmade, hlocate, hfolder, hnone⟩ := h.makeFolders_eq
  refine ⟨v, v.put p.parts (.file []), hmade, ?_⟩
  rw [write, hlocate]
  simp only [hnone, hfolder]

end Vacant

/-! ### Files that are the same -/

/-- Both trees have the same files, with the same bytes; folders may differ. -/
def SameFiles (t u : FileTree) : Prop :=
  ∀ q bytes, u.entryAt? q = some (.file bytes) ↔ t.entryAt? q = some (.file bytes)

namespace SameFiles

theorem refl (t : FileTree) : SameFiles t t := fun _ _ => Iff.rfl

end SameFiles

/-- After writing a file the files are the same exactly if it stood there already. -/
theorem Written.sameFiles_iff {place : List String} (h : Written t p bytes place u) :
    SameFiles t u ↔ t.entryAt? place = some (.file bytes) := by
  refine ⟨fun hsame => (hsame place bytes).1 h.stored, fun hold q b => ?_⟩
  by_cases hq : q = place
  · rw [hq, h.stored, hold]
  · rcases h.elsewhere q hq with heq | ⟨hnone, hfolder⟩
    · rw [heq]
    · simp [hnone, hfolder]

end FileTree

end LlmAudit
