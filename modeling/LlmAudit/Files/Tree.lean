import LlmAudit.Files.Path
import LlmAudit.Text.Lines
import LlmAudit.Text.Utf8

/-!
# File trees

The files of a machine as a value. A program that reads and writes files is a function of a file
tree; what it leaves behind is another file tree. Every folder has an entry of its own, apart from
the root directory, which is always there, and whatever stands in a tree stands in a folder of it.

## Main definitions

* `resolvePath` — the absolute path of a path.
* `FileTree.find?`, `FileTree.locate` — what stands at a path.
* `FileTree.read`, `FileTree.readText`, `FileTree.readLossy` — the contents of files.
* `FileTree.makeFolders`, `FileTree.write` — the tree after a change.
* `FileTree.filesBelow` — the files below a folder.
-/

namespace LlmAudit

/-- What stands at a path. -/
inductive Entry where
  /-- A folder. -/
  | folder
  /-- A file with its bytes. -/
  | file (bytes : List UInt8)
  deriving DecidableEq

/-- The first of some entries with the given parts; the root directory has none and needs none. -/
def Entry.at? (entries : List (List String × Entry)) (parts : List String) : Option Entry :=
  if parts.isEmpty then some .folder
  else (entries.find? fun e => e.1 == parts).map Prod.snd

/-- The files of a machine. -/
structure FileTree where
  /-- The entries by the parts of their absolute paths. -/
  entries : List (List String × Entry)
  /-- Every entry stands in a folder. -/
  rooted : ∀ e ∈ entries, Entry.at? entries e.1.dropLast = some .folder
  deriving DecidableEq

/-- Why a path cannot be used. -/
inductive AccessError where
  /-- Nothing stands there. -/
  | notFound
  /-- A folder stands there. -/
  | isFolder
  /-- A file stands where a folder is needed. -/
  | notFolder
  /-- A file stands there already. -/
  | alreadyThere
  /-- No file can have such a path. -/
  | unnameable
  deriving DecidableEq

/-- Why a path cannot be used, in words. -/
def AccessError.describe : AccessError → String
  | .notFound => "no such file or directory"
  | .isFolder => "is a directory"
  | .notFolder => "not a directory"
  | .alreadyThere => "file exists"
  | .unnameable => "no file can have this path"

/-- Why a file cannot be read as text. -/
inductive ReadError where
  /-- The path cannot be used. -/
  | access (e : AccessError)
  /-- The bytes are no text. -/
  | undecodable (e : Utf8.DecodeError)
  deriving DecidableEq

/-- Why a file cannot be read as text, in words. -/
def ReadError.describe : ReadError → String
  | .access e => e.describe
  | .undecodable e => e.messageAt e.position

/-- The absolute path, seen from a working directory, of a path that files can have. -/
def resolvePath (workingDir p : Path) : Except AccessError Path :=
  if p.isNameable then .ok (Path.resolve workingDir p) else .error .unnameable

namespace FileTree

/-- The tree with nothing but the root directory. -/
def empty : FileTree := ⟨[], by simp⟩

/-- The entry at the parts of an absolute path. -/
def entryAt? (t : FileTree) (parts : List String) : Option Entry :=
  Entry.at? t.entries parts

/-- Walks the remaining parts of a path from a folder; each part but the last needs a folder. -/
def walkParts (t : FileTree) (here : List String) : List String → Except AccessError (List String)
  | [] => .ok here
  | p :: rest =>
    match t.entryAt? here with
    | none => .error .notFound
    | some (.file _) => .error .notFolder
    | some .folder => t.walkParts (if p = ".." then here.dropLast else here ++ [p]) rest

/-- The place that an absolute path leads to. -/
def locate (t : FileTree) (p : Path) : Except AccessError (List String) :=
  if p.isNameable then t.walkParts [] p.parts else .error .unnameable

/-- What an absolute path leads to. -/
def find? (t : FileTree) (p : Path) : Option Entry :=
  match t.locate p with
  | .ok parts => t.entryAt? parts
  | .error _ => none

/-- Whether something stands at a path. -/
def has (t : FileTree) (p : Path) : Bool :=
  (t.find? p).isSome

/-- Whether a folder stands at a path. -/
def isFolder (t : FileTree) (p : Path) : Bool :=
  t.find? p == some .folder

/-- The bytes of a file. -/
def read (t : FileTree) (p : Path) : Except AccessError (List UInt8) :=
  match t.locate p with
  | .error e => .error e
  | .ok parts =>
    match t.entryAt? parts with
    | none => .error .notFound
    | some .folder => .error .isFolder
    | some (.file bytes) => .ok bytes

/-- The text of a file of well-formed bytes, with line feeds only. -/
def readText (t : FileTree) (p : Path) : Except ReadError (List Char) :=
  match t.read p with
  | .error e => .error (.access e)
  | .ok bytes =>
    match Utf8.decode bytes with
    | .error e => .error (.undecodable e)
    | .ok s => .ok (Text.unifyBreaks s)

/-- The text of a file, with a replacement for what is ill-formed and line feeds only. -/
def readLossy (t : FileTree) (p : Path) : Except AccessError (List Char) :=
  match t.read p with
  | .error e => .error e
  | .ok bytes => .ok (Text.unifyBreaks (Utf8.decodeLossy bytes))

/-! ### Changing a tree -/

/-- The entries with another one at some parts. -/
def putEntry (entries : List (List String × Entry)) (parts : List String) (entry : Entry) :
    List (List String × Entry) :=
  match entries with
  | [] => [(parts, entry)]
  | (k, e) :: rest =>
    if k = parts then (k, entry) :: rest else (k, e) :: putEntry rest parts entry

theorem mem_putEntry {entries : List (List String × Entry)} {parts : List String} {entry : Entry}
    {e : List String × Entry} (h : e ∈ putEntry entries parts entry) :
    e = (parts, entry) ∨ e ∈ entries := by
  induction entries with
  | nil => exact .inl (List.mem_singleton.1 h)
  | cons x rest ih =>
    rw [putEntry] at h
    split at h
    · rename_i hx
      rcases List.mem_cons.1 h with rfl | h
      · exact .inl (by rw [hx])
      · exact .inr (List.mem_cons_of_mem _ h)
    · rcases List.mem_cons.1 h with rfl | h
      · exact .inr List.mem_cons_self
      · exact (ih h).imp_right (List.mem_cons_of_mem _)

theorem find?_putEntry (entries : List (List String × Entry)) (parts : List String) (entry : Entry)
    (other : List String) :
    ((putEntry entries parts entry).find? fun e => e.1 == other).map Prod.snd =
      if other = parts then some entry
      else (entries.find? fun e => e.1 == other).map Prod.snd := by
  induction entries with
  | nil =>
    by_cases ho : other = parts
    · simp [putEntry, ho]
    · simp [putEntry, ho, Ne.symm ho]
  | cons x rest ih =>
    rw [putEntry]
    by_cases hx : x.1 = parts
    · by_cases ho : other = parts
      · simp [hx, ho]
      · simp [hx, ho, Ne.symm ho]
    · by_cases ho : x.1 = other
      · simp [ho, show other ≠ parts from fun h => hx (ho.trans h)]
      · simpa [hx, ho] using ih

/-- What stands at some parts once another entry is put: that entry where it was put, and what stood
there before elsewhere. -/
theorem at?_putEntry (entries : List (List String × Entry)) {parts : List String}
    (hparts : parts ≠ []) (entry : Entry) (other : List String) :
    Entry.at? (putEntry entries parts entry) other =
      if other = parts then some entry else Entry.at? entries other := by
  cases other with
  | nil => simp [Entry.at?, Ne.symm hparts]
  | cons p rest => simpa [Entry.at?] using find?_putEntry entries parts entry (p :: rest)

/-- Whether an entry can be put at some parts: they lie in a folder, and no file takes the place of
a folder. -/
def admits (t : FileTree) (parts : List String) (entry : Entry) : Prop :=
  parts ≠ [] ∧ t.entryAt? parts.dropLast = some .folder ∧
    (entry = .folder ∨ t.entryAt? parts ≠ some .folder)

instance (t : FileTree) (parts : List String) (entry : Entry) : Decidable (t.admits parts entry) :=
  inferInstanceAs (Decidable (_ ∧ _ ∧ _))

theorem dropLast_ne_self {parts : List String} (h : parts ≠ []) : parts.dropLast ≠ parts := by
  intro heq
  have hlength := congrArg List.length heq
  rw [List.length_dropLast] at hlength
  have hpos := List.length_pos_iff.2 h
  omega

theorem rooted_putEntry {t : FileTree} {parts : List String} {entry : Entry}
    (h : t.admits parts entry) (e : List String × Entry) (he : e ∈ putEntry t.entries parts entry) :
    Entry.at? (putEntry t.entries parts entry) e.1.dropLast = some .folder := by
  obtain ⟨hparts, hparent, hkind⟩ := h
  rw [at?_putEntry _ hparts]
  split
  · rename_i heq
    -- The entry stands right below the new one, which is then a folder.
    rcases mem_putEntry he with rfl | he
    · exact absurd heq (dropLast_ne_self hparts)
    · have hold := t.rooted e he
      rw [heq] at hold
      rw [hkind.resolve_right fun hne => hne hold]
  · rcases mem_putEntry he with rfl | he
    · exact hparent
    · exact t.rooted e he

/-- The tree with another entry at some parts, if it can be put there. -/
def put (t : FileTree) (parts : List String) (entry : Entry) : FileTree :=
  if h : t.admits parts entry then ⟨putEntry t.entries parts entry, rooted_putEntry h⟩ else t

/-- The entries outside some parts. -/
def entriesOutside (t : FileTree) (parts : List String) : List (List String × Entry) :=
  t.entries.filter fun e => !parts.isPrefixOf e.1

theorem at?_entriesOutside {t : FileTree} {parts other : List String}
    (h : parts.isPrefixOf other = false) :
    Entry.at? (t.entriesOutside parts) other = t.entryAt? other := by
  have hfind : (t.entriesOutside parts).find? (fun e => e.1 == other) =
      t.entries.find? fun e => e.1 == other := by
    rw [entriesOutside, List.find?_filter]
    congr 1
    funext e
    by_cases he : e.1 = other
    · simp [he, h]
    · simp [he]
  simp only [entryAt?, Entry.at?, hfind]

/-- The tree without the entries at some parts and below. -/
def erase (t : FileTree) (parts : List String) : FileTree where
  entries := t.entriesOutside parts
  rooted := by
    intro e he
    obtain ⟨he, hout⟩ := List.mem_filter.1 he
    have hparent : parts.isPrefixOf e.1.dropLast = false := by
      rw [Bool.eq_false_iff]
      intro hp
      have := (List.isPrefixOf_iff_prefix.1 hp).trans (List.dropLast_prefix e.1)
      simp [List.isPrefixOf_iff_prefix.2 this] at hout
    rw [at?_entriesOutside hparent]
    exact t.rooted e he

/-- Makes the folders on the way of the remaining parts of a path; `made` tells whether one was made
before. Those that are made stay, also where the way is then barred by a file. -/
def makeParts (t : FileTree) (made : Bool) (here : List String) :
    List String → Except AccessError Unit × FileTree
  | [] => (.ok (), t)
  | p :: rest =>
    let next := if p = ".." then here.dropLast else here ++ [p]
    match t.entryAt? next with
    | some .folder => t.makeParts made next rest
    | some (.file _) => (.error (if made ∨ rest.isEmpty then .alreadyThere else .notFolder), t)
    | none => (t.put next .folder).makeParts true next rest

/-- Makes the folders of an absolute path; those that are there stay. The tree afterwards holds what
was made, also if not all could be. -/
def makeFolders (t : FileTree) (p : Path) : Except AccessError Unit × FileTree :=
  if p.isNameable then t.makeParts false [] p.parts else (.error .unnameable, t)

/-- The tree with a file of the given bytes; the folder must be there. -/
def write (t : FileTree) (p : Path) (bytes : List UInt8) : Except AccessError FileTree :=
  match t.locate p with
  | .error e => .error e
  | .ok parts =>
    match t.entryAt? parts with
    | some .folder => .error .isFolder
    | some (.file _) => .ok (t.put parts (.file bytes))
    | none =>
      match t.entryAt? parts.dropLast with
      | some .folder => .ok (t.put parts (.file bytes))
      | some (.file _) => .error .notFolder
      | none => .error .notFound

/-- Writes a file of the given text, whose folders are made if need be. The tree afterwards holds
the folders that were made, also if the file cannot be written. -/
def writeMaking (t : FileTree) (p : Path) (text : List Char) : Except AccessError Unit × FileTree :=
  match t.makeFolders p.parent with
  | (.error e, t') => (.error e, t')
  | (.ok (), t') =>
    match t'.write p (Utf8.encode text) with
    | .error e => (.error e, t')
    | .ok t'' => (.ok (), t'')

/-- The parts, seen from a folder, of the files below it, in the order of paths. -/
def filesBelow (t : FileTree) (folder : List String) : List (List String) :=
  let below := t.entries.filterMap fun (parts, entry) =>
    match entry with
    | .file _ =>
      if folder.isPrefixOf parts ∧ folder.length < parts.length then
        some (parts.drop folder.length)
      else none
    | .folder => none
  below.mergeSort Path.partsLe

end FileTree

end LlmAudit
