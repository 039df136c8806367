import LlmAudit.Dependency.Manifest
import LlmAudit.Proofs.Files.Texts
import LlmAudit.Proofs.Json.Reading
import LlmAudit.Proofs.Lists.Firsts

/-!
# What manifests ask for

The subject are the manifests that the dependency guard of Section 15 of the specification reads.

A project has two manifests, and each of them is read on its own. What a manifest asks for is said
without a reader: the names in the sections of the object that `package.json` writes (`AsksNpm`),
and the names at the front of the lines of `requirements.txt` (`AsksPypi`). A manifest that is not
there, is a folder, or writes no object asks for nothing, and the other manifest is read as if it
stood alone. A name is kept as it is written, also if it holds half a pair.

There are two kinds of faults that are not absorbed: the bytes of a manifest are no text, or
`package.json` runs into a limit of the reader before it is known what it writes. Then nothing is
collected, from neither manifest (`garbled_manifest_stops`).

## Main statements

* `Manifest.mentions_absorb` — when packages are collected, and what each manifest contributes.
-/

namespace LlmAudit.Manifest

variable {bound : Nat} {t : FileTree} {folder : Path} {ms : List Mention} {m : Mention}

/-! ### What is asked for -/

/-- The path of `package.json`. -/
def packageJson (folder : Path) : Path := folder.join (.parse "package.json")

/-- The path of `requirements.txt`. -/
def requirementsTxt (folder : Path) : Path := folder.join (.parse "requirements.txt")

/-- The text of a file runs into a limit of the reader of JSON. -/
def RunsOver (bound : Nat) (t : FileTree) (path : Path) : Prop :=
  ∃ text e, t.HoldsText path text ∧ Json.TextOverruns bound (.ofList text) e

/-- A name stands in a section of the object that `package.json` writes. -/
def AsksNpm (t : FileTree) (folder : Path) (name : LooseText) : Prop :=
  ∃ text fields, t.HoldsText (packageJson folder) text ∧
    Json.IsText (.ofList text) (.object fields) ∧
    name ∈ sections.flatMap (sectionNames (.object fields))

/-- A name stands at the front of a line of `requirements.txt`. -/
def AsksPypi (t : FileTree) (folder : Path) (name : String) : Prop :=
  ∃ text line, t.HoldsText (requirementsTxt folder) text ∧ line ∈ Text.lines text ∧
    requirementName? line = some name

/-! ### One manifest -/

/-- What becomes of a manifest: its text is read, its bytes are no text, or there is no file. -/
theorem ofFile_cases (t : FileTree) (folder : Path) (file : String)
    (read : String → List Char → Except Error (List Mention)) :
    (∃ text, t.HoldsText (folder.join (.parse file)) text ∧
      ofFile t folder file read = read file text) ∨
    (t.Garbled (folder.join (.parse file)) ∧
      ∃ e, ofFile t folder file read = .error (.undecodable e)) ∨
    ¬ t.Garbled (folder.join (.parse file)) ∧
      (∀ text, ¬ t.HoldsText (folder.join (.parse file)) text) ∧
      ofFile t folder file read = .ok [] := by
  simp only [ofFile, ← FileTree.readText_eq_ok_iff, ← FileTree.readText_undecodable_iff]
  cases t.readText (folder.join (.parse file)) with
  | ok text => simp
  | error e =>
    cases e with
    | access e => simp
    | undecodable e => simp

theorem not_garbled_of_holdsText {path : Path} {text : List Char} (h : t.HoldsText path text) :
    ¬ t.Garbled path := by
  rw [← FileTree.readText_undecodable_iff, FileTree.readText_eq_ok_iff.2 h]
  simp

theorem sectionNames_of_ne {j : Json} (h : ∀ fields, j ≠ .object fields) (name : String) :
    sectionNames j name = [] := by
  cases j with
  | object fields => exact absurd rfl (h fields)
  | _ => rfl

/-- What becomes of the text of `package.json`: it runs into a limit, or the names in the sections
are listed. -/
theorem ofPackageJson_cases (bound : Nat) (file : String) (text : List Char) :
    (∃ e e', Json.TextOverruns bound (.ofList text) e ∧ ofPackageJson bound file text = .error e') ∨
    (∀ e, ¬ Json.TextOverruns bound (.ofList text) e) ∧
      ∃ ms, ofPackageJson bound file text = .ok ms ∧ ∀ k, k ∈ ms.map Mention.key ↔
        ∃ name fields, Json.IsText (.ofList text) (.object fields) ∧
          name ∈ sections.flatMap (sectionNames (.object fields)) ∧
          k = (.npm, name.lowered, file) := by
  cases hparse : Json.parse bound (.ofList text) with
  | error e =>
    cases e with
    | malformed =>
      obtain ⟨hnone, hwithin⟩ := Json.parse_eq_malformed_iff.1 hparse
      refine .inr ⟨hwithin, [], by rw [ofPackageJson, hparse], fun k => ?_⟩
      simp [hnone]
    | tooManyDigits count =>
      have hover := Json.parse_eq_limit_iff (e := .tooManyDigits count).1 hparse
      exact .inl ⟨_, _, hover, by rw [ofPackageJson, hparse]⟩
    | tooDeep =>
      have hover := Json.parse_eq_limit_iff (e := .tooDeep).1 hparse
      exact .inl ⟨_, _, hover, by rw [ofPackageJson, hparse]⟩
  | ok j =>
    obtain ⟨htext, hwithin⟩ := Json.parse_eq_ok_iff.1 hparse
    have hunique : ∀ fields, Json.IsText (.ofList text) (.object fields) → j = .object fields := by
      intro fields hfields
      exact Except.ok.inj (hparse.symm.trans (Json.parse_eq_ok_iff.2 ⟨hfields, hwithin⟩))
    refine .inr ⟨hwithin, _, by rw [ofPackageJson, hparse], fun k => ?_⟩
    simp only [List.map_map, List.mem_map, Function.comp]
    constructor
    · rintro ⟨name, hname, rfl⟩
      -- only an object has sections
      cases j with
      | object fields => exact ⟨name, fields, htext, hname, rfl⟩
      | _ => simp [sectionNames_of_ne] at hname
    · rintro ⟨name, fields, hfields, hname, rfl⟩
      rw [hunique fields hfields]
      exact ⟨name, hname, rfl⟩

/-- The names at the front of lines are listed under the ecosystem of `requirements.txt`. -/
theorem map_key_ofRequirementLines (file : String) (number : Nat) (lines : List (List Char)) :
    (ofRequirementLines file number lines).map Mention.key =
      (lines.filterMap requirementName?).map fun name =>
        (.pypi, (LooseText.ofString name).lowered, file) := by
  induction lines generalizing number with
  | nil => rfl
  | cons line rest ih =>
    rw [ofRequirementLines]
    cases hname : requirementName? line with
    | none => simp [hname, ih]
    | some name => simp [hname, ih, Mention.key]

/-- Where nothing can be wrong with the text of a manifest but its bytes, packages are listed unless
the bytes are wrong. -/
theorem requirements_cases (t : FileTree) (folder : Path) :
    (t.Garbled (requirementsTxt folder) ∧
      ∃ e, ofFile t folder "requirements.txt" ofRequirements = .error e) ∨
    ¬ t.Garbled (requirementsTxt folder) ∧
      ∃ ms, ofFile t folder "requirements.txt" ofRequirements = .ok ms ∧
        ∀ k, k ∈ ms.map Mention.key ↔ ∃ name, AsksPypi t folder name ∧
          k = (.pypi, (LooseText.ofString name).lowered, "requirements.txt") := by
  rcases ofFile_cases t folder "requirements.txt" ofRequirements with
    ⟨text, hholds, hread⟩ | ⟨hgarbled, e, hread⟩ | ⟨hgarbled, hnone, hread⟩
  · refine .inr ⟨not_garbled_of_holdsText hholds, _, hread, fun k => ?_⟩
    rw [map_key_ofRequirementLines]
    simp only [List.mem_map, List.mem_filterMap]
    constructor
    · rintro ⟨name, ⟨line, hline, hname⟩, rfl⟩
      exact ⟨name, ⟨text, line, hholds, hline, hname⟩, rfl⟩
    · rintro ⟨name, ⟨text', line, hholds', hline, hname⟩, rfl⟩
      rw [hholds'.unique hholds] at hline
      exact ⟨name, ⟨line, hline, hname⟩, rfl⟩
  · exact .inl ⟨hgarbled, _, hread⟩
  · refine .inr ⟨hgarbled, [], hread, fun k => ?_⟩
    constructor
    · intro hk
      exact absurd hk List.not_mem_nil
    · rintro ⟨name, ⟨text, line, hholds, -⟩, -⟩
      exact absurd hholds (hnone text)

/-- `package.json` is read unless its bytes are wrong or it runs into a limit. -/
theorem packageJson_cases (bound : Nat) (t : FileTree) (folder : Path) :
    ((t.Garbled (packageJson folder) ∨ RunsOver bound t (packageJson folder)) ∧
      ∃ e, ofFile t folder "package.json" (ofPackageJson bound) = .error e) ∨
    ¬ t.Garbled (packageJson folder) ∧ ¬ RunsOver bound t (packageJson folder) ∧
      ∃ ms, ofFile t folder "package.json" (ofPackageJson bound) = .ok ms ∧
        ∀ k, k ∈ ms.map Mention.key ↔
          ∃ name, AsksNpm t folder name ∧ k = (.npm, name.lowered, "package.json") := by
  rcases ofFile_cases t folder "package.json" (ofPackageJson bound) with
    ⟨text, hholds, hread⟩ | ⟨hgarbled, e, hread⟩ | ⟨hgarbled, hnone, hread⟩
  · rcases ofPackageJson_cases bound "package.json" text with
      ⟨e, e', hover, herror⟩ | ⟨hwithin, ms, hok, hkeys⟩
    · exact .inl ⟨.inr ⟨text, e, hholds, hover⟩, e', hread.trans herror⟩
    · refine .inr ⟨not_garbled_of_holdsText hholds, ?_, ms, hread.trans hok, fun k => ?_⟩
      · rintro ⟨text', e, hholds', hover⟩
        rw [hholds'.unique hholds] at hover
        exact hwithin e hover
      · rw [hkeys]
        constructor
        · rintro ⟨name, fields, hfields, hname, rfl⟩
          exact ⟨name, ⟨text, fields, hholds, hfields, hname⟩, rfl⟩
        · rintro ⟨name, ⟨text', fields, hholds', hfields, hname⟩, rfl⟩
          rw [hholds'.unique hholds] at hfields
          exact ⟨name, fields, hfields, hname, rfl⟩
  · exact .inl ⟨.inl hgarbled, _, hread⟩
  · refine .inr ⟨hgarbled, ?_, [], hread, fun k => ?_⟩
    · rintro ⟨text, e, hholds, -⟩
      exact hnone text hholds
    · constructor
      · intro hk
        exact absurd hk List.not_mem_nil
      · rintro ⟨name, ⟨text, fields, hholds, -⟩, -⟩
        exact absurd hholds (hnone text)

/-! ### Both manifests -/

/-- The packages of both manifests, each one at its first place. -/
theorem firstOfEach_eq_firstBy (seen : List (Ecosystem × LooseText × String)) (ms : List Mention) :
    firstOfEach seen ms = firstBy Mention.key seen ms := by
  induction ms generalizing seen with
  | nil => rfl
  | cons m ms ih =>
    rw [firstOfEach, ih, ih]
    split
    · rename_i hseen
      rw [firstBy_cons_of_mem hseen]
    · rename_i hseen
      rw [firstBy_cons_of_notMem hseen]

/-- Packages are collected if both manifests are read. -/
theorem mentions_eq_ok_iff :
    mentions bound t folder = .ok ms ↔ ∃ scripts others,
      ofFile t folder "package.json" (ofPackageJson bound) = .ok scripts ∧
      ofFile t folder "requirements.txt" ofRequirements = .ok others ∧
      ms = firstBy Mention.key [] (scripts ++ others) := by
  rw [mentions]
  cases ofFile t folder "package.json" (ofPackageJson bound) with
  | error e => simp [bind, Except.bind]
  | ok scripts =>
    cases ofFile t folder "requirements.txt" ofRequirements with
    | error e => simp [bind, Except.bind]
    | ok others => simp [bind, Except.bind, pure, Except.pure, firstOfEach_eq_firstBy, eq_comm]

/-- The packages that a manifest lists. -/
def listedIn (file : String) (ms : List Mention) : List Mention :=
  ms.filter fun m => m.file == file

/-- Packages are collected exactly if no manifest is garbled and `package.json` runs into no limit.
-/
theorem exists_mentions_iff :
    (∃ ms, mentions bound t folder = .ok ms) ↔
      ¬ t.Garbled (packageJson folder) ∧ ¬ RunsOver bound t (packageJson folder) ∧
        ¬ t.Garbled (requirementsTxt folder) := by
  simp only [mentions_eq_ok_iff]
  rcases packageJson_cases bound t folder with ⟨hwrong, e, herror⟩ | ⟨hgarbled, hover, ms, hok, -⟩
  · simp only [herror]
    constructor
    · rintro ⟨_, _, _, h, -⟩
      cases h
    · rintro ⟨hgarbled, hover, -⟩
      exact (hwrong.elim hgarbled hover).elim
  · rcases requirements_cases t folder with ⟨hwrong, e, herror⟩ | ⟨hgarbled', ms', hok', -⟩
    · simp only [herror]
      constructor
      · rintro ⟨_, _, _, -, h, -⟩
        cases h
      · rintro ⟨-, -, hnot⟩
        exact absurd hwrong hnot
    · exact iff_of_true ⟨_, ms, ms', hok, hok', rfl⟩ ⟨hgarbled, hover, hgarbled'⟩

/-- The keys of what `package.json` lists, if it is read. -/
theorem mem_keys_packageJson_iff {scripts : List Mention}
    (h : ofFile t folder "package.json" (ofPackageJson bound) = .ok scripts)
    (k : Ecosystem × LooseText × String) :
    k ∈ scripts.map Mention.key ↔
      ∃ name, AsksNpm t folder name ∧ k = (.npm, name.lowered, "package.json") := by
  rcases packageJson_cases bound t folder with ⟨-, e, herror⟩ | ⟨-, -, ms, hok, hkeys⟩
  · rw [herror] at h
    cases h
  · rw [hok] at h
    cases h
    exact hkeys k

/-- The keys of what `requirements.txt` lists, if it is read. -/
theorem mem_keys_requirements_iff {others : List Mention}
    (h : ofFile t folder "requirements.txt" ofRequirements = .ok others)
    (k : Ecosystem × LooseText × String) :
    k ∈ others.map Mention.key ↔ ∃ name, AsksPypi t folder name ∧
      k = (.pypi, (LooseText.ofString name).lowered, "requirements.txt") := by
  rcases requirements_cases t folder with ⟨-, e, herror⟩ | ⟨-, ms, hok, hkeys⟩
  · rw [herror] at h
    cases h
  · rw [hok] at h
    cases h
    exact hkeys k

/-- The keys of the packages that are collected are those of the names that are asked for. -/
theorem mem_keys_mentions_iff (h : mentions bound t folder = .ok ms)
    (k : Ecosystem × LooseText × String) :
    k ∈ ms.map Mention.key ↔
      (∃ name, AsksNpm t folder name ∧ k = (.npm, name.lowered, "package.json")) ∨
        ∃ name, AsksPypi t folder name ∧
          k = (.pypi, (LooseText.ofString name).lowered, "requirements.txt") := by
  obtain ⟨scripts, others, hscripts, hothers, rfl⟩ := mentions_eq_ok_iff.1 h
  rw [mem_map_firstBy_iff, List.map_append, List.mem_append, mem_keys_packageJson_iff hscripts,
    mem_keys_requirements_iff hothers]

/-- The world of a package that is collected goes with its manifest. -/
theorem world_of_mem_mentions (h : mentions bound t folder = .ok ms) (hm : m ∈ ms) :
    m.ecosystem = .npm ∧ m.file = "package.json" ∨
      m.ecosystem = .pypi ∧ m.file = "requirements.txt" := by
  rcases (mem_keys_mentions_iff h m.key).1 (List.mem_map_of_mem hm) with
    ⟨name, -, hkey⟩ | ⟨name, -, hkey⟩
  · simp only [Mention.key, Prod.mk.injEq] at hkey
    exact .inl ⟨hkey.1, hkey.2.2⟩
  · simp only [Mention.key, Prod.mk.injEq] at hkey
    exact .inr ⟨hkey.1, hkey.2.2⟩

/-! ### What each manifest contributes -/

theorem file_of_mem_packageJson {scripts : List Mention}
    (h : ofFile t folder "package.json" (ofPackageJson bound) = .ok scripts) (hm : m ∈ scripts) :
    m.file = "package.json" := by
  obtain ⟨name, -, hkey⟩ := (mem_keys_packageJson_iff h m.key).1 (List.mem_map_of_mem hm)
  exact congrArg (fun k => k.2.2) hkey

theorem file_of_mem_requirements {others : List Mention}
    (h : ofFile t folder "requirements.txt" ofRequirements = .ok others) (hm : m ∈ others) :
    m.file = "requirements.txt" := by
  obtain ⟨name, -, hkey⟩ := (mem_keys_requirements_iff h m.key).1 (List.mem_map_of_mem hm)
  exact congrArg (fun k => k.2.2) hkey

theorem listedIn_append (file : String) (xs ys : List Mention) :
    listedIn file (xs ++ ys) = listedIn file xs ++ listedIn file ys :=
  List.filter_append ..

theorem listedIn_of_forall {file : String} {xs : List Mention} (h : ∀ m ∈ xs, m.file = file) :
    listedIn file xs = xs := by
  rw [listedIn, List.filter_eq_self]
  intro m hm
  rw [h m hm, beq_self_eq_true]

theorem listedIn_of_ne {file other : String} (hne : other ≠ file) {xs : List Mention}
    (h : ∀ m ∈ xs, m.file = other) : listedIn file xs = [] := by
  rw [listedIn, List.filter_eq_nil_iff]
  intro m hm
  rw [h m hm, beq_iff_eq]
  exact hne

/-- What a manifest contributes is what it lists, each package at its first place there. -/
theorem listedIn_firstBy (file : String) (ms : List Mention) :
    listedIn file (firstBy Mention.key [] ms) = firstBy Mention.key [] (listedIn file ms) := by
  refine (firstBy_filter ?_ (fun _ _ => Iff.rfl) ms).symm
  intro m m' hkey
  have hfile : m.file = m'.file := congrArg (fun k => k.2.2) hkey
  rw [hfile]

/-- What is collected falls into what the manifests list. -/
theorem listedIn_of_mentions (h : mentions bound t folder = .ok ms) :
    ∃ scripts others, ofFile t folder "package.json" (ofPackageJson bound) = .ok scripts ∧
      ofFile t folder "requirements.txt" ofRequirements = .ok others ∧
      listedIn "package.json" ms = firstBy Mention.key [] scripts ∧
      listedIn "requirements.txt" ms = firstBy Mention.key [] others := by
  obtain ⟨scripts, others, hscripts, hothers, rfl⟩ := mentions_eq_ok_iff.1 h
  have hs : ∀ m ∈ scripts, m.file = "package.json" := fun m => file_of_mem_packageJson hscripts
  have ho : ∀ m ∈ others, m.file = "requirements.txt" := fun m => file_of_mem_requirements hothers
  refine ⟨scripts, others, hscripts, hothers, ?_, ?_⟩
  · rw [listedIn_firstBy, listedIn_append, listedIn_of_forall hs, listedIn_of_ne (by decide) ho,
      List.append_nil]
  · rw [listedIn_firstBy, listedIn_append, listedIn_of_forall ho, listedIn_of_ne (by decide) hs,
      List.nil_append]

/-- The packages of `package.json` come first. -/
theorem eq_listedIn_append (h : mentions bound t folder = .ok ms) :
    ms = listedIn "package.json" ms ++ listedIn "requirements.txt" ms := by
  obtain ⟨scripts, others, hscripts, hothers, hms⟩ := mentions_eq_ok_iff.1 h
  have hsublist : ms.Sublist (scripts ++ others) := hms ▸ firstBy_sublist Mention.key [] _
  obtain ⟨xs, ys, rfl, hxs, hys⟩ := List.sublist_append_iff.1 hsublist
  have hx : ∀ m ∈ xs, m.file = "package.json" := by
    intro m hm
    exact file_of_mem_packageJson hscripts (hxs.subset hm)
  have hy : ∀ m ∈ ys, m.file = "requirements.txt" := by
    intro m hm
    exact file_of_mem_requirements hothers (hys.subset hm)
  rw [listedIn_append, listedIn_append, listedIn_of_forall hx, listedIn_of_ne (by decide) hy,
    listedIn_of_ne (by decide) hx, listedIn_of_forall hy, List.append_nil, List.nil_append]

theorem eq_nil_of_keys {xs : List Mention} (h : ∀ k, k ∉ xs.map Mention.key) : xs = [] :=
  List.map_eq_nil_iff.1 (List.eq_nil_iff_forall_not_mem.2 h)

/-- A manifest is read as its bytes say, whatever else stands in the tree. -/
theorem ofFile_congr {t' : FileTree} {file : String}
    (h : t'.read (folder.join (.parse file)) = t.read (folder.join (.parse file)))
    (read : String → List Char → Except Error (List Mention)) :
    ofFile t' folder file read = ofFile t folder file read := by
  rw [ofFile, ofFile, FileTree.readText_congr h]

/-- **Manifests are absorbed, but for their bytes and the limits of the reader.** Packages are
collected exactly if the bytes of both manifests are those of texts, where there are files, and
`package.json` runs into no limit, however many lists and objects may stand in each other there.
Then what is collected are the packages that the manifests ask for, those of `package.json` first. A
manifest that is no file, or a `package.json` that writes no object, contributes nothing, and what a
manifest contributes depends on its own bytes only. -/
theorem mentions_absorb (bound : Nat) (t : FileTree) (folder : Path) :
    ((∃ ms, mentions bound t folder = .ok ms) ↔
      ¬ t.Garbled (packageJson folder) ∧ ¬ RunsOver bound t (packageJson folder) ∧
        ¬ t.Garbled (requirementsTxt folder)) ∧
    ∀ ms, mentions bound t folder = .ok ms →
      ms = listedIn "package.json" ms ++ listedIn "requirements.txt" ms ∧
      (∀ k, k ∈ ms.map Mention.key ↔
        (∃ name, AsksNpm t folder name ∧ k = (.npm, name.lowered, "package.json")) ∨
          ∃ name, AsksPypi t folder name ∧
            k = (.pypi, (LooseText.ofString name).lowered, "requirements.txt")) ∧
      ((∀ text fields, t.HoldsText (packageJson folder) text →
        ¬ Json.IsText (.ofList text) (.object fields)) → listedIn "package.json" ms = []) ∧
      ((∀ text, ¬ t.HoldsText (requirementsTxt folder) text) →
        listedIn "requirements.txt" ms = []) ∧
      ∀ t' ms', mentions bound t' folder = .ok ms' →
        (t'.read (packageJson folder) = t.read (packageJson folder) →
          listedIn "package.json" ms' = listedIn "package.json" ms) ∧
        (t'.read (requirementsTxt folder) = t.read (requirementsTxt folder) →
          listedIn "requirements.txt" ms' = listedIn "requirements.txt" ms) := by
  refine ⟨exists_mentions_iff, fun ms hms => ?_⟩
  obtain ⟨scripts, others, hscripts, hothers, hlisted, hlisted'⟩ := listedIn_of_mentions hms
  refine ⟨eq_listedIn_append hms, mem_keys_mentions_iff hms, fun hnone => ?_, fun hnone => ?_,
    fun t' ms' hms' => ?_⟩
  · have hempty : scripts = [] := by
      refine eq_nil_of_keys fun k hk => ?_
      obtain ⟨name, ⟨text, fields, hholds, hobject, -⟩, -⟩ :=
        (mem_keys_packageJson_iff hscripts k).1 hk
      exact hnone text fields hholds hobject
    rw [hlisted, hempty]
    rfl
  · have hempty : others = [] := by
      refine eq_nil_of_keys fun k hk => ?_
      obtain ⟨name, ⟨text, line, hholds, -⟩, -⟩ := (mem_keys_requirements_iff hothers k).1 hk
      exact hnone text hholds
    rw [hlisted', hempty]
    rfl
  · obtain ⟨scripts', others', hs', ho', hl, hl'⟩ := listedIn_of_mentions hms'
    constructor
    · intro hread
      rw [ofFile_congr hread, hscripts] at hs'
      rw [hl, hlisted, Except.ok.inj hs']
    · intro hread
      rw [ofFile_congr hread, hothers] at ho'
      rw [hl', hlisted', Except.ok.inj ho']

/-! ### Projects with two manifests -/

/-- A project that asks for one package in `requirements.txt`, beside something in the place of
`package.json`. -/
def besideFlask (scripts : Entry) : FileTree where
  entries :=
    [(["package.json"], scripts), (["requirements.txt"], .file (Utf8.encode "flask\n".toList))]
  rooted := by
    simp only [List.forall_mem_cons]
    exact ⟨rfl, rfl, by simp⟩

/-- The mention of that package. -/
def flaskMention : Mention := ⟨.pypi, .ofString "flask", "requirements.txt", 1⟩

/-- A brace alone writes no object: it contributes nothing, and the other package is found as if a
folder stood there. -/
theorem mentions_absorb_brace :
    mentions 1 (besideFlask (.file [0x7B])) (.parse "/") = .ok [flaskMention] ∧
    mentions 1 (besideFlask .folder) (.parse "/") = .ok [flaskMention] ∧
    (besideFlask .folder).read (requirementsTxt (.parse "/")) =
      (besideFlask (.file [0x7B])).read (requirementsTxt (.parse "/")) ∧
    listedIn "requirements.txt" [flaskMention] = [flaskMention] ∧
    ¬ (besideFlask (.file [0x7B])).Garbled (packageJson (.parse "/")) := by
  have hruns : mentions 1 (besideFlask (.file [0x7B])) (.parse "/") = .ok [flaskMention] ∧
      mentions 1 (besideFlask .folder) (.parse "/") = .ok [flaskMention] ∧
      (besideFlask .folder).read (requirementsTxt (.parse "/")) =
        (besideFlask (.file [0x7B])).read (requirementsTxt (.parse "/")) := by
    decide +kernel
  obtain ⟨hcollects, hparts⟩ := mentions_absorb 1 (besideFlask (.file [0x7B])) (.parse "/")
  obtain ⟨-, -, -, -, halone⟩ := hparts _ hruns.1
  exact ⟨hruns.1, hruns.2.1, hruns.2.2, (halone _ _ hruns.2.1).2 hruns.2.2,
    (hcollects.1 ⟨_, hruns.1⟩).1⟩

/-- A byte that starts no character stands in `package.json`: nothing is collected, although the
other manifest asks for a package. -/
theorem garbled_manifest_stops :
    (besideFlask (.file [0xFF])).Garbled (packageJson (.parse "/")) ∧
    mentions 1 (besideFlask (.file [0xFF])) (.parse "/") =
      .error (.undecodable ⟨.badStart, 0, [0xFF]⟩) ∧
    mentions 1 (besideFlask .folder) (.parse "/") = .ok [flaskMention] := by
  have hruns : mentions 1 (besideFlask (.file [0xFF])) (.parse "/") =
        .error (.undecodable ⟨.badStart, 0, [0xFF]⟩) ∧
      mentions 1 (besideFlask .folder) (.parse "/") = .ok [flaskMention] ∧
      (besideFlask (.file [0xFF])).readText (packageJson (.parse "/")) =
        .error (.undecodable ⟨.badStart, 0, [0xFF]⟩) := by
    decide +kernel
  exact ⟨FileTree.readText_undecodable_iff.1 ⟨_, hruns.2.2⟩, hruns.1, hruns.2.1⟩

end LlmAudit.Manifest
