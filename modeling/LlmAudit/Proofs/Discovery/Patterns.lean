import LlmAudit.Proofs.Files.Names
import LlmAudit.Proofs.Files.Texts
import LlmAudit.Proofs.Files.Writing
import LlmAudit.Proofs.Finding.Sorting
import LlmAudit.Proofs.Text.Stripping

/-!
# Patterns in the ignore file and patterns that are given

The subject are the extra patterns of Section 12 (Source Discovery) of the specification.

A pattern excludes the paths that it covers (`excludedBy_iff`): those whose name ends in what
follows its stars, those that have it as a part, and those that lie below it. The slashes at the end
of a pattern are cut off if it is a line of the ignore file and stay if it is given by the caller,
and no path is covered by a pattern with a slash at its end (`not_covers_of_slash`).

## What is proved

* `sourceFiles_of_pattern` — the source files of a project with a pattern in either place, and when
  they are the same.
* `generated_slash_given` — a folder that is excluded by a line and not by the same text as a given
  pattern.
-/

namespace LlmAudit.Discovery

/-! ### What a pattern covers -/

/-- A pattern covers a path: with stars in front, if the name ends in what follows them; without, if
it is one of the parts or the path lies below it. -/
def Covers (pattern : List Char) (parts : List String) : Prop :=
  (pattern.head? = some '*' ∧
    pattern.dropWhile (· == '*') <:+ (parts.getLast?.getD "").toList) ∨
  (pattern.head? ≠ some '*' ∧
    ((∃ part ∈ parts, part.toList = pattern) ∨
      ∃ n < parts.length, 0 < n ∧ ['/'].intercalate ((parts.take n).map String.toList) = pattern))

instance (pattern : List Char) (parts : List String) : Decidable (Covers pattern parts) :=
  inferInstanceAs (Decidable (_ ∨ _))

section

variable {pattern : List Char} {parts : List String}

theorem intercalate_append {pieces more : List (List Char)} (hpieces : pieces ≠ [])
    (hmore : more ≠ []) :
    ['/'].intercalate (pieces ++ more) =
      ['/'].intercalate pieces ++ '/' :: ['/'].intercalate more := by
  induction pieces with
  | nil => exact absurd rfl hpieces
  | cons piece pieces ih =>
    cases pieces with
    | nil =>
      obtain ⟨next, rest, rfl⟩ := List.exists_cons_of_ne_nil hmore
      rw [List.singleton_append, List.intercalate_cons_cons, List.intercalate_singleton,
        List.append_assoc, List.singleton_append]
    | cons next rest =>
      rw [List.cons_append, List.cons_append, List.intercalate_cons_cons, ← List.cons_append,
        ih (List.cons_ne_nil next rest), List.intercalate_cons_cons]
      simp only [List.append_assoc]

theorem splitAt_parts (hnames : ∀ part ∈ parts, Path.IsName part) (hne : parts ≠ []) :
    Text.splitAt '/' (['/'].intercalate (parts.map String.toList)) = parts.map String.toList := by
  refine Text.splitAt_intercalate (by simpa using hne) fun p hp => ?_
  obtain ⟨part, hpart, rfl⟩ := List.mem_map.1 hp
  exact (hnames part hpart).2.2

/-- A path starts with a text and a slash exactly if the text is made of its first parts, and others
follow. -/
theorem prefix_intercalate_iff (hnames : ∀ part ∈ parts, Path.IsName part) (hne : parts ≠ []) :
    pattern ++ ['/'] <+: ['/'].intercalate (parts.map String.toList) ↔
      ∃ n < parts.length, 0 < n ∧
        ['/'].intercalate ((parts.take n).map String.toList) = pattern := by
  constructor
  · rintro ⟨rest, hrest⟩
    rw [List.append_assoc, List.singleton_append] at hrest
    -- both sides are cut at the slashes
    have hpieces := Text.splitAt_append '/' pattern rest
    rw [hrest, splitAt_parts hnames hne] at hpieces
    have hlength := congrArg List.length hpieces
    rw [List.length_map, List.length_append] at hlength
    have hpos := List.length_pos_iff.2 (Text.splitAt_ne_nil '/' pattern)
    have hmore := List.length_pos_iff.2 (Text.splitAt_ne_nil '/' rest)
    refine ⟨(Text.splitAt '/' pattern).length, by omega, hpos, ?_⟩
    rw [List.map_take, hpieces, List.take_left, Text.intercalate_splitAt]
  · rintro ⟨n, hn, hpos, rfl⟩
    have htake : (parts.take n).map String.toList ≠ [] := by
      simp [hne]
      omega
    have hdrop : (parts.drop n).map String.toList ≠ [] := by
      simp
      omega
    have hjoin := intercalate_append htake hdrop
    rw [← List.map_append, List.take_append_drop] at hjoin
    rw [hjoin]
    exact ⟨_, by rw [List.append_assoc, List.singleton_append]⟩

/-- Several parts are joined with slashes. -/
theorem slash_or_part_of_take {n : Nat} (hn : n < parts.length) (hpos : 0 < n) :
    '/' ∈ ['/'].intercalate ((parts.take n).map String.toList) ∨
      ∃ part ∈ parts, part.toList = ['/'].intercalate ((parts.take n).map String.toList) := by
  cases parts with
  | nil => cases hn
  | cons first rest =>
    cases n with
    | zero => cases hpos
    | succ n =>
      rw [List.take_succ_cons, List.map_cons]
      cases hrest : (rest.take n).map String.toList with
      | nil =>
        rw [List.intercalate_singleton]
        exact .inr ⟨first, List.mem_cons_self, rfl⟩
      | cons next more =>
        rw [List.intercalate_cons_cons]
        simp

theorem startsWith_star_iff : Text.startsWith (String.ofList pattern) "*" = true ↔
    pattern.head? = some '*' := by
  have hstar : "*".toList = ['*'] := rfl
  rw [Text.startsWith, hstar, String.toList_ofList]
  cases pattern with
  | nil => decide
  | cons c pattern =>
    rw [List.isPrefixOf_iff_prefix, List.cons_prefix_cons, List.head?_cons,
      Option.some_inj, and_iff_left List.nil_prefix]
    exact eq_comm

/-- A pattern excludes what it covers. -/
theorem excludedBy_iff (hnames : ∀ part ∈ parts, Path.IsName part) (hne : parts ≠ []) :
    excludedBy ⟨.workingDir, parts⟩ (String.ofList pattern) = true ↔ Covers pattern parts := by
  rw [excludedBy, Covers]
  by_cases hstar : pattern.head? = some '*'
  · rw [if_pos (startsWith_star_iff.2 hstar)]
    simp [hstar, Text.endsWith, Path.name, List.isSuffixOf_iff_suffix]
  · have hpart : String.ofList pattern ∈ parts ↔ ∃ part ∈ parts, part.toList = pattern := by
      constructor
      · exact fun hmem => ⟨_, hmem, String.toList_ofList⟩
      · rintro ⟨part, hmem, rfl⟩
        rwa [String.ofList_toList]
    have hname : Path.name ⟨.workingDir, parts⟩ = String.ofList pattern →
        String.ofList pattern ∈ parts := by
      intro heq
      rw [← heq, Path.name, List.getLast?_eq_some_getLast hne, Option.getD_some]
      exact List.getLast_mem hne
    have hbelow :
        Text.startsWith (Path.render ⟨.workingDir, parts⟩) (String.ofList pattern ++ "/") = true ↔
        ∃ n < parts.length, 0 < n ∧
          ['/'].intercalate ((parts.take n).map String.toList) = pattern := by
      rw [← prefix_intercalate_iff hnames hne, Text.startsWith, Path.toList_render hne,
        List.isPrefixOf_iff_prefix, String.toList_append, String.toList_ofList]
      rfl
    have hcontains : Text.contains (String.ofList pattern) "/" = true ↔ '/' ∈ pattern := by
      have hsingle : "/".toList = ['/'] := rfl
      rw [Text.contains, Text.occursIn_iff, hsingle, String.toList_ofList]
      constructor
      · exact fun hinfix => hinfix.subset (List.mem_singleton_self '/')
      · intro hmem
        obtain ⟨front, back, heq⟩ := List.append_of_mem hmem
        exact ⟨front, back, by rw [heq, List.append_assoc, List.singleton_append]⟩
    have hcomponents : Path.components ⟨.workingDir, parts⟩ = parts := if_pos rfl
    rw [if_neg (mt startsWith_star_iff.1 hstar), hcomponents]
    simp only [Bool.or_eq_true, Bool.and_eq_true, beq_iff_eq, List.contains_iff_mem, hcontains,
      hbelow, hstar, false_and, false_or, ne_eq, not_false_eq_true, true_and]
    rw [← hpart]
    constructor
    · rintro ((heq | hmem) | ⟨-, hfirst⟩)
      · exact .inl (hname heq)
      · exact .inl hmem
      · exact .inr hfirst
    · rintro (hmem | ⟨n, hn, hpos, rfl⟩)
      · exact .inl (.inr hmem)
      · rcases slash_or_part_of_take hn hpos with hslash | hone
        · exact .inr ⟨hslash, n, hn, hpos, rfl⟩
        · exact .inl (.inr (hpart.2 hone))

/-- No path is covered by a pattern with a slash at its end. -/
theorem not_covers_of_slash (hnames : ∀ part ∈ parts, Path.IsName part) (hne : parts ≠ [])
    (hslash : pattern.getLast? = some '/') : ¬ Covers pattern parts := by
  obtain ⟨front, hfront⟩ := List.getLast?_eq_some_iff.1 hslash
  have hpart : ¬ ∃ part ∈ parts, part.toList = pattern := by
    rintro ⟨part, hpart, heq⟩
    exact (hnames part hpart).2.2 (by rw [heq, hfront]; simp)
  rintro (⟨-, hends⟩ | ⟨-, hmem | ⟨n, hn, hpos, hjoin⟩⟩)
  · -- no name holds a slash
    have hmem : '/' ∈ pattern.dropWhile (· == '*') := by
      rw [hfront, List.dropWhile_append]
      split <;> simp
    have hlast := List.getLast_mem hne
    rw [List.getLast?_eq_some_getLast hne, Option.getD_some] at hends
    exact (hnames _ hlast).2.2 (hends.subset hmem)
  · exact hpart hmem
  · -- the last of the first parts would be empty
    have htaken : ∀ part ∈ parts.take n, Path.IsName part :=
      fun part hpart => hnames part (List.mem_of_mem_take hpart)
    have hsome : parts.take n ≠ [] := by
      simp [hne]
      omega
    have hpieces := splitAt_parts htaken hsome
    rw [hjoin, hfront, Text.splitAt_append] at hpieces
    have hempty : [] ∈ (parts.take n).map String.toList := by
      rw [← hpieces]
      exact List.mem_append_right _ List.mem_cons_self
    obtain ⟨part, hpart, heq⟩ := List.mem_map.1 hempty
    exact (htaken part hpart).1 (String.toList_eq_nil_iff.1 heq)

end

/-! ### The source files without patterns -/

/-- What is seen of an entry from a folder, if it is a file below it. -/
def seenFrom? (folder : List String) (e : List String × Entry) : Option (List String) :=
  if e.2 ≠ .folder ∧ folder.isPrefixOf e.1 ∧ folder.length < e.1.length then
    some (e.1.drop folder.length)
  else none

theorem filesBelow_eq (t : FileTree) (folder : List String) :
    t.filesBelow folder = (t.entries.filterMap (seenFrom? folder)).mergeSort Path.partsLe := by
  have hseen : (fun e => seenFrom? folder e) = seenFrom? folder := rfl
  rw [FileTree.filesBelow, ← hseen]
  congr 2
  funext e
  obtain ⟨parts, entry⟩ := e
  cases entry with
  | folder => simp [seenFrom?]
  | file bytes => simp [seenFrom?]

theorem partsLe_cons_iff {x y : String} {a b : List String} :
    Path.partsLe (x :: a) (y :: b) = true ↔ x < y ∨ x = y ∧ Path.partsLe a b = true := by
  rw [Path.partsLe]
  split
  · rename_i heq
    simp [heq]
  · rename_i hne
    simp [hne]

theorem partsLe_total (a b : List String) : (Path.partsLe a b || Path.partsLe b a) = true := by
  induction a generalizing b with
  | nil => simp [Path.partsLe]
  | cons x a ih =>
    cases b with
    | nil => simp [Path.partsLe]
    | cons y b =>
      rw [Bool.or_eq_true, partsLe_cons_iff, partsLe_cons_iff]
      rcases lt_trichotomy x y with hlt | rfl | hlt
      · exact .inl (.inl hlt)
      · exact (Bool.or_eq_true_iff.1 (ih b)).imp (.inr ⟨rfl, ·⟩) (.inr ⟨rfl, ·⟩)
      · exact .inr (.inl hlt)

theorem partsLe_trans (a b c : List String) (hab : Path.partsLe a b = true)
    (hbc : Path.partsLe b c = true) : Path.partsLe a c = true := by
  induction a generalizing b c with
  | nil => rfl
  | cons x a ih =>
    cases b with
    | nil => cases hab
    | cons y b =>
      cases c with
      | nil => cases hbc
      | cons z c =>
        rw [partsLe_cons_iff] at *
        rcases hab with hxy | ⟨rfl, hab⟩
        · rcases hbc with hyz | ⟨rfl, -⟩
          · exact .inl (hxy.trans hyz)
          · exact .inl hxy
        · exact hbc.imp_right fun h => ⟨h.1, ih b c hab h.2⟩

/-- The source files of the project in a folder, whatever its patterns. -/
def allSources (t : FileTree) (folder : Path) : List Path :=
  ((t.filesBelow folder.parts).map fun parts => (⟨.workingDir, parts⟩ : Path)).filter isSourceFile

/-- The place of the ignore file of a folder. -/
def ignorePath (folder : Path) : Path :=
  folder.join (.parse ignoreFileName)

theorem parts_ignorePath (folder : Path) :
    (ignorePath folder).parts = folder.parts ++ [ignoreFileName] := by
  have hparse : Path.parse ignoreFileName = ⟨.workingDir, [ignoreFileName]⟩ := by decide
  rw [ignorePath, Path.join, hparse, if_pos rfl]

/-- Two trees have the same entries but for those at a place. -/
def SameBut (place : List String) (t u : FileTree) : Prop :=
  t.entries.filter (fun e => e.1 ≠ place) = u.entries.filter fun e => e.1 ≠ place

variable {t u : FileTree} {folder : Path} {place : List String}

theorem SameBut.entryAt?_eq (h : SameBut place t u) {q : List String} (hq : q ≠ place) :
    t.entryAt? q = u.entryAt? q := by
  have hfind : ∀ entries : List (List String × Entry),
      (entries.filter fun e => e.1 ≠ place).find? (fun e => e.1 == q) =
        entries.find? fun e => e.1 == q := by
    intro entries
    rw [List.find?_filter]
    congr 1
    funext e
    by_cases he : e.1 = q
    · simp [he, hq]
    · simp [he]
  rw [FileTree.entryAt?, FileTree.entryAt?, Entry.at?, Entry.at?, ← hfind t.entries, h, hfind]

theorem sameBut_put (t : FileTree) (place : List String) (entry : Entry) :
    SameBut place (t.put place entry) t := by
  have hentries : ∀ entries : List (List String × Entry),
      (FileTree.putEntry entries place entry).filter (fun e => e.1 ≠ place) =
        entries.filter fun e => e.1 ≠ place := by
    intro entries
    induction entries with
    | nil => simp [FileTree.putEntry]
    | cons e entries ih =>
      rw [FileTree.putEntry]
      split
      · rename_i hplace
        simp [hplace]
      · rw [List.filter_cons, List.filter_cons, ih]
  rw [SameBut, FileTree.put]
  split
  · exact hentries t.entries
  · rfl

theorem ne_ignorePath (folder : Path) : folder.parts ≠ (ignorePath folder).parts := by
  rw [parts_ignorePath]
  intro heq
  simpa using congrArg List.length heq

/-- A folder is found in both of two trees that differ in its ignore file only. -/
theorem SameBut.find?_folder (h : SameBut (ignorePath folder).parts t u)
    (hparts : ".." ∉ folder.parts) (hfolder : t.find? folder = some .folder) :
    u.find? folder = some .folder := by
  rw [FileTree.find?, FileTree.locate] at hfolder ⊢
  by_cases hname : folder.isNameable = true
  · rw [if_pos hname] at hfolder ⊢
    cases hwalk : t.walkParts [] folder.parts with
    | error e =>
      rw [hwalk] at hfolder
      cases hfolder
    | ok q =>
      rw [hwalk] at hfolder
      dsimp only at hfolder
      rw [FileTree.eq_append_of_walkParts hparts hwalk, List.nil_append,
        h.entryAt?_eq (ne_ignorePath folder)] at hfolder
      rw [FileTree.walkParts_of_entryAt? hparts hfolder]
      exact hfolder
  · rw [if_neg hname] at hfolder
    cases hfolder

/-- The ignore file is no source file. -/
theorem filter_seenFrom? (folder : Path) (entries : List (List String × Entry)) :
    ((entries.filter fun e => e.1 ≠ (ignorePath folder).parts).filterMap
        (seenFrom? folder.parts)).filter (fun parts => isSourceFile ⟨.workingDir, parts⟩) =
      (entries.filterMap (seenFrom? folder.parts)).filter
        fun parts => isSourceFile ⟨.workingDir, parts⟩ := by
  have hname : isSourceFile ⟨.workingDir, [ignoreFileName]⟩ = false := by decide
  rw [List.filterMap_filter, List.filter_filterMap, List.filter_filterMap]
  congr 1
  funext e
  by_cases he : e.1 = (ignorePath folder).parts
  · rw [parts_ignorePath] at he
    by_cases hfolder : e.2 = .folder
    · simp [seenFrom?, parts_ignorePath, he, hfolder]
    · have hseen : seenFrom? folder.parts e = some [ignoreFileName] := by
        simp [seenFrom?, he, hfolder]
      rw [hseen, Option.filter_some, hname]
      simp [parts_ignorePath, he]
  · simp [he]

theorem SameBut.allSources_eq (h : SameBut (ignorePath folder).parts t u) :
    allSources t folder = allSources u folder := by
  have hsorted : ∀ v : FileTree, allSources v folder =
      (((v.entries.filterMap (seenFrom? folder.parts)).filter
        fun parts => isSourceFile ⟨.workingDir, parts⟩).mergeSort Path.partsLe).map
          fun parts => (⟨.workingDir, parts⟩ : Path) := by
    intro v
    rw [allSources, List.filter_map, filesBelow_eq, mergeSort_filter partsLe_trans partsLe_total,
      Function.comp_def]
  rw [hsorted t, hsorted u, ← filter_seenFrom?, h, filter_seenFrom?]

/-! ### The patterns of a project -/

/-- The ignore file of a folder has some lines: it is there and holds them, or it is not there, and
there are none. -/
def HasIgnoreLines (t : FileTree) (folder : Path) (lines : List (List Char)) : Prop :=
  (t.has (ignorePath folder) = false ∧ lines = []) ∨
    ∃ text, t.HoldsText (ignorePath folder) text ∧ Text.lines text = lines

/-- The patterns of a project, with repetitions. -/
def allPatterns (given : List String) (lines : List (List Char)) : List String :=
  defaultPatterns ++ givenPatterns given ++ lines.filterMap linePattern?

theorem excludes_congr {patterns patterns' : List String}
    (h : ∀ q, q ∈ patterns ↔ q ∈ patterns') (p : Path) :
    excludes patterns p = excludes patterns' p := by
  rw [Bool.eq_iff_iff, excludes, excludes, List.any_eq_true, List.any_eq_true]
  simp only [h]

theorem patterns_of_lines {lines : List (List Char)} (h : HasIgnoreLines t folder lines)
    (given : List String) :
    patterns t folder given = .ok (allPatterns given lines).eraseDups := by
  rw [patterns, allPatterns]
  rcases h with ⟨hhas, rfl⟩ | ⟨text, htext, rfl⟩
  · rw [ignorePath] at hhas
    rw [hhas, if_neg Bool.false_ne_true, List.filterMap_nil, List.append_nil]
  · have hread := FileTree.readText_eq_ok_iff.2 htext
    have hhas := htext.has
    rw [ignorePath] at hhas hread
    rw [if_pos hhas, hread]
    rfl

/-- The source files are those that no pattern excludes. -/
theorem sourceFiles_eq {lines : List (List Char)} (hfolder : t.find? folder = some .folder)
    (hlines : HasIgnoreLines t folder lines) (given : List String) :
    sourceFiles t folder given =
      .ok ((allSources t folder).filter fun p => !excludes (allPatterns given lines) p) := by
  have hpatterns : ∀ p, excludes (allPatterns given lines).eraseDups p =
      excludes (allPatterns given lines) p :=
    excludes_congr fun q => List.mem_eraseDups
  rw [sourceFiles, hfolder, patterns_of_lines hlines]
  dsimp only
  rw [allSources, List.filter_filter]
  simp only [hpatterns, Bool.and_comm]

theorem names_of_mem_allSources (hnames : t.WellNamed) {p : Path} (hp : p ∈ allSources t folder) :
    p = ⟨.workingDir, p.parts⟩ ∧ p.parts ≠ [] ∧ ∀ part ∈ p.parts, Path.IsName part := by
  obtain ⟨parts, hparts, rfl⟩ := List.mem_map.1 (List.mem_of_mem_filter hp)
  obtain ⟨e, he, hsub⟩ := mem_parts_of_mem_filesBelow hparts
  refine ⟨rfl, ?_, fun part hpart => hnames e he part (hsub part hpart)⟩
  rw [filesBelow_eq] at hparts
  obtain ⟨e', -, hseen⟩ := List.mem_filterMap.1 ((List.mergeSort_perm _ _).mem_iff.1 hparts)
  rw [seenFrom?] at hseen
  split at hseen
  · rename_i hbelow
    rw [← Option.some_inj.1 hseen]
    simp
    omega
  · cases hseen

/-! ### One pattern in either place -/

/-- A text that is a pattern as a line of the ignore file. -/
structure IsPattern (pattern : String) : Prop where
  /-- It is not blank. -/
  notBlank : ¬ Text.AllBlank pattern.toList
  /-- It is no comment. -/
  noComment : (Text.strip pattern.toList).head? ≠ some '#'

theorem IsPattern.linePattern?_eq {pattern : String} (h : IsPattern pattern) :
    linePattern? pattern.toList =
      some (String.ofList (cutSlashes (Text.strip pattern.toList))) := by
  have hstrip : Text.strip pattern.toList ≠ [] := mt Text.strip_eq_nil_iff.1 h.notBlank
  rw [linePattern?, if_neg]
  simp [hstrip, h.noComment]

theorem cutSlashes_of_ne {s : List Char} (h : s.getLast? ≠ some '/') : cutSlashes s = s := by
  have hkept : s.reverse.dropWhile (· == '/') = s.reverse := by
    rw [← List.head?_reverse] at h
    cases hs : s.reverse with
    | nil => rfl
    | cons c rest =>
      rw [hs, List.head?_cons, ne_eq, Option.some_inj] at h
      rw [List.dropWhile_cons, if_neg (by simpa using h)]
  rw [cutSlashes, hkept, List.reverse_reverse]

theorem excludes_insert {patterns patterns' : List String} {pattern : String}
    (h : ∀ q, q ∈ patterns' ↔ q = pattern ∨ q ∈ patterns) (p : Path) :
    excludes patterns' p = (excludes patterns p || excludedBy p pattern) := by
  have hmem : ∀ q, q ∈ patterns' ↔ q ∈ pattern :: patterns := by simpa using h
  rw [excludes_congr hmem, excludes, List.any_cons, Bool.or_comm, excludes]

variable {pattern : String} {given given' : List String}

/-- A line of the ignore file adds the pattern without the slashes at its end. -/
theorem excludes_line (h : IsPattern pattern) (given : List String)
    (before after : List (List Char)) (p : Path) :
    excludes (allPatterns given (before ++ pattern.toList :: after)) p =
      (excludes (allPatterns given (before ++ after)) p ||
        excludedBy p (String.ofList (cutSlashes (Text.strip pattern.toList)))) := by
  refine excludes_insert (fun q => ?_) p
  simp only [allPatterns, List.mem_append, List.filterMap_append, List.filterMap_cons,
    h.linePattern?_eq, List.mem_cons]
  rw [or_left_comm (b := q = _), or_left_comm (b := q = _)]

/-- A pattern that is given is added with the slashes at its end. -/
theorem excludes_given (h : IsPattern pattern) (hgiven : given'.Perm (pattern :: given))
    (lines : List (List Char)) (p : Path) :
    excludes (allPatterns given' lines) p =
      (excludes (allPatterns given lines) p ||
        excludedBy p (String.ofList (Text.strip pattern.toList))) := by
  have htrim : Text.trim pattern ≠ "" := by
    rw [Text.trim, ne_eq, ← String.toList_eq_nil_iff, String.toList_ofList, Text.strip_eq_nil_iff]
    exact h.notBlank
  have hadded : ∀ q, q ∈ givenPatterns given' ↔
      q = Text.trim pattern ∨ q ∈ givenPatterns given := by
    intro q
    simp only [givenPatterns, List.mem_filter, List.mem_map, hgiven.mem_iff, List.mem_cons,
      decide_eq_true_eq]
    constructor
    · rintro ⟨⟨g, rfl | hg, rfl⟩, hne⟩
      · exact .inl rfl
      · exact .inr ⟨⟨g, hg, rfl⟩, hne⟩
    · rintro (rfl | ⟨⟨g, hg, rfl⟩, hne⟩)
      · exact ⟨⟨pattern, .inl rfl, rfl⟩, htrim⟩
      · exact ⟨⟨g, .inr hg, rfl⟩, hne⟩
  refine excludes_insert (fun q => ?_) p
  rw [allPatterns, allPatterns, List.mem_append, List.mem_append, hadded, List.mem_append,
    List.mem_append, or_left_comm, or_assoc]
  rfl

/-- With a further pattern, what it covers is left out too. -/
theorem filter_covers {files : List Path} {patterns patterns' : List String} {q : List Char}
    (hfiles : ∀ p ∈ files,
      p = ⟨.workingDir, p.parts⟩ ∧ p.parts ≠ [] ∧ ∀ part ∈ p.parts, Path.IsName part)
    (h : ∀ p, excludes patterns' p = (excludes patterns p || excludedBy p (String.ofList q))) :
    (files.filter fun p => !excludes patterns' p) =
      (files.filter fun p => !excludes patterns p).filter fun p => ¬ Covers q p.parts := by
  rw [List.filter_filter]
  refine List.filter_congr fun p hp => ?_
  obtain ⟨hpath, hne, hnamed⟩ := hfiles p hp
  have hcovers : excludedBy p (String.ofList q) = decide (Covers q p.parts) := by
    rw [Bool.eq_iff_iff, decide_eq_true_eq, hpath]
    exact excludedBy_iff hnamed hne
  rw [h, hcovers, Bool.not_or, Bool.and_comm, decide_not]

/-- **Where a pattern stands matters only if a slash ends it.** As a line of the ignore file it
excludes what it covers without the slashes at its end. Given by the caller it excludes the same if
no slash ends it, and nothing if one does. So the source files are the same exactly if no slash ends
the pattern or it covers none of them anyway. -/
theorem sourceFiles_of_pattern {before after : List (List Char)} (hnames : t.WellNamed)
    (hparts : ".." ∉ folder.parts) (hfolder : t.find? folder = some .folder)
    (hsame : SameBut (ignorePath folder).parts t u)
    (hlines : HasIgnoreLines t folder (before ++ pattern.toList :: after))
    (hless : HasIgnoreLines u folder (before ++ after))
    (hpattern : IsPattern pattern) (hgiven : given'.Perm (pattern :: given)) :
    let text := Text.strip pattern.toList
    ∃ others, sourceFiles u folder given = .ok others ∧
      sourceFiles t folder given =
        .ok (others.filter fun p => ¬ Covers (cutSlashes text) p.parts) ∧
      sourceFiles u folder given' =
        .ok (if text.getLast? = some '/' then others
          else others.filter fun p => ¬ Covers (cutSlashes text) p.parts) ∧
      (sourceFiles t folder given = sourceFiles u folder given' ↔
        text.getLast? ≠ some '/' ∨ ∀ p ∈ others, ¬ Covers (cutSlashes text) p.parts) := by
  intro text
  have hall : ∀ p ∈ allSources u folder,
      p = ⟨.workingDir, p.parts⟩ ∧ p.parts ≠ [] ∧ ∀ part ∈ p.parts, Path.IsName part :=
    fun p hp => names_of_mem_allSources hnames (hsame.allSources_eq ▸ hp)
  have hfolder' := hsame.find?_folder hparts hfolder
  have hothers := sourceFiles_eq hfolder' hless given
  have hline := sourceFiles_eq hfolder hlines given
  have hgave := sourceFiles_eq hfolder' hless given'
  rw [hsame.allSources_eq, filter_covers hall (excludes_line hpattern given before after)] at hline
  rw [filter_covers hall (excludes_given hpattern hgiven (before ++ after))] at hgave
  refine ⟨_, hothers, hline, ?_⟩
  rw [hline, hgave, Except.ok.injEq, Except.ok.injEq]
  by_cases hslash : text.getLast? = some '/'
  · -- what is given covers nothing
    have hnone : ∀ p ∈ (allSources u folder).filter fun p =>
        !excludes (allPatterns given (before ++ after)) p, ¬ Covers text p.parts := by
      intro p hp
      obtain ⟨-, hne, hnamed⟩ := hall p (List.mem_of_mem_filter hp)
      exact not_covers_of_slash hnamed hne hslash
    rw [if_pos hslash, List.filter_eq_self.2 fun p hp => decide_eq_true (hnone p hp),
      or_iff_right (not_not_intro hslash), List.filter_eq_self]
    simp only [decide_eq_true_eq, true_and]
    exact Iff.rfl
  · rw [if_neg hslash, cutSlashes_of_ne hslash]
    exact ⟨rfl, iff_of_true rfl (.inl hslash)⟩

/-! ### A project with generated files -/

/-- A project with one source file, in a folder of its own. -/
def generatedTree : FileTree where
  entries := [(["generated"], .folder), (["generated", "client.ts"], .file [])]
  rooted := by
    simp only [List.forall_mem_cons]
    exact ⟨rfl, rfl, List.forall_mem_nil _⟩

/-- The project with an ignore file of one line. -/
def generatedTreeWith (line : String) : FileTree :=
  generatedTree.put [ignoreFileName] (.file (Utf8.encode line.toList))

/-- The source file of the project. -/
def clientFile : Path := ⟨.workingDir, ["generated", "client.ts"]⟩

/-- The folder of the project. -/
def projectRoot : Path := ⟨.root, []⟩

theorem sameBut_generatedTree (line : String) :
    SameBut (ignorePath projectRoot).parts (generatedTreeWith line) generatedTree := by
  rw [parts_ignorePath]
  exact sameBut_put generatedTree [ignoreFileName] _

theorem hasIgnoreLines_generatedTree : HasIgnoreLines generatedTree projectRoot [] :=
  .inl ⟨by decide, rfl⟩

theorem hasIgnoreLines_generatedTreeWith {line : String}
    (h : Text.lines (Text.unifyBreaks line.toList) = [line.toList]) :
    HasIgnoreLines (generatedTreeWith line) projectRoot [line.toList] := by
  have hadmits : generatedTree.admits [ignoreFileName] (.file (Utf8.encode line.toList)) :=
    ⟨List.cons_ne_nil _ _, rfl, .inr (by decide)⟩
  have hentry : (generatedTreeWith line).entryAt? [ignoreFileName] =
      some (.file (Utf8.encode line.toList)) := by
    rw [generatedTreeWith, FileTree.entryAt?_put hadmits, if_pos rfl]
  have hlocate : (generatedTreeWith line).locate (ignorePath projectRoot) =
      .ok [ignoreFileName] := by
    rw [FileTree.locate, if_pos (by decide), parts_ignorePath]
    exact FileTree.walkParts_of_entryAt? (by decide) hentry
  exact .inr ⟨_, ⟨_, _, hlocate, hentry, rfl⟩, h⟩

theorem allSources_generatedTree : allSources generatedTree projectRoot = [clientFile] := by
  have hseen : generatedTree.entries.filterMap (seenFrom? projectRoot.parts) =
      [["generated", "client.ts"]] := by decide
  rw [allSources, filesBelow_eq, hseen, List.mergeSort_singleton]
  decide

/-- A pattern with blanks around it excludes the same in either place. -/
theorem generated_in_either_place :
    IsPattern " generated " ∧ (generatedTreeWith " generated ").WellNamed ∧
      sourceFiles (generatedTreeWith " generated ") projectRoot [] =
        sourceFiles generatedTree projectRoot [" generated "] := by
  have hpattern : IsPattern " generated " := ⟨by decide, by decide⟩
  have hnames : (generatedTreeWith " generated ").WellNamed := by decide
  have hlines : HasIgnoreLines (generatedTreeWith " generated ") projectRoot
      ([] ++ " generated ".toList :: []) :=
    hasIgnoreLines_generatedTreeWith (by decide)
  obtain ⟨others, -, -, -, hsame⟩ := sourceFiles_of_pattern hnames List.not_mem_nil rfl
    (sameBut_generatedTree " generated ") hlines hasIgnoreLines_generatedTree hpattern
    (List.Perm.refl [" generated "])
  exact ⟨hpattern, hnames, hsame.2 (.inl (by decide))⟩

/-- A pattern with a slash at its end excludes a folder as a line, and nothing if it is given. -/
theorem generated_slash_given :
    sourceFiles (generatedTreeWith "generated/") projectRoot [] = .ok [] ∧
      sourceFiles generatedTree projectRoot ["generated/"] = .ok [clientFile] := by
  have hlines : HasIgnoreLines (generatedTreeWith "generated/") projectRoot ["generated/".toList] :=
    hasIgnoreLines_generatedTreeWith (by decide)
  rw [sourceFiles_eq rfl hlines, sourceFiles_eq rfl hasIgnoreLines_generatedTree,
    (sameBut_generatedTree "generated/").allSources_eq, allSources_generatedTree]
  decide

end LlmAudit.Discovery
