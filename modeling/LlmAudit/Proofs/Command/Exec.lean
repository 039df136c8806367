import LlmAudit.Command.Run
import LlmAudit.Proofs.Terminal.Pages

/-!
# Executing parts of commands

A part of a command, executed from a session, gives a value or an ending, and the session
afterwards (`Run.exec`). Two judgements are built on this: the part goes on with a value
(`Run.Goes`), or it ends the command with code one (`Run.Ends`). A part that changes no file does
one of both, and what it goes on with is as told (`Run.Yields`); in either case it leaves the files
alone (`Run.Keeps`).

All that an audit does before its first comparison with a baseline is of this kind: an inspection
goes on with what the machine, the files and the options say, or ends the command
(`Scan.inspect_yields`).
-/

namespace LlmAudit

namespace Run

variable {α β : Type}

/-- How a part of a command goes from a session on, and the session afterwards. -/
def exec (x : Run α) (s : Session) : Except Ending α × Session :=
  x.run.run s

theorem exec_bind (x : Run α) (f : α → Run β) (s : Session) :
    (x >>= f).exec s =
      match x.exec s with
      | (.ok a, s') => (f a).exec s'
      | (.error e, s') => (.error e, s') := by
  simp only [exec, ExceptT.run_bind, StateT.run_bind]
  rcases StateT.run (ExceptT.run x) s with ⟨a | a, s'⟩
  · rfl
  · rfl

/-! ### Going on and ending -/

/-- The part gives a value, and then the files are as told. -/
def Goes (x : Run α) (s : Session) (a : α) (t : FileTree) : Prop :=
  ∃ s', x.exec s = (.ok a, s') ∧ s'.files = t

/-- The part ends the command with code one, and then the files are as told. -/
def Ends (x : Run α) (s : Session) (t : FileTree) : Prop :=
  ∃ e s', x.exec s = (.error e, s') ∧ e.exitCode = 1 ∧ s'.files = t

variable {x : Run α} {f : α → Run β} {s : Session} {a : α} {b : β} {t u : FileTree}

theorem Goes.pure (a : α) (s : Session) : (pure a : Run α).Goes s a s.files := ⟨s, rfl, rfl⟩

theorem Goes.bind (hx : x.Goes s a t) (hf : ∀ s', s'.files = t → (f a).Goes s' b u) :
    (x >>= f).Goes s b u := by
  obtain ⟨s', hs', rfl⟩ := hx
  obtain ⟨s'', hs'', hu⟩ := hf s' rfl
  exact ⟨s'', by rw [exec_bind, hs']; exact hs'', hu⟩

theorem Goes.bind_ends (hx : x.Goes s a t) (hf : ∀ s', s'.files = t → (f a).Ends s' u) :
    (x >>= f).Ends s u := by
  obtain ⟨s', hs', rfl⟩ := hx
  obtain ⟨e, s'', hs'', he, hu⟩ := hf s' rfl
  exact ⟨e, s'', by rw [exec_bind, hs']; exact hs'', he, hu⟩

theorem Ends.bind (hx : x.Ends s t) (f : α → Run β) : (x >>= f).Ends s t := by
  obtain ⟨e, s', hs', he, ht⟩ := hx
  exact ⟨e, s', by rw [exec_bind, hs'], he, ht⟩

theorem Goes.unique {a' : α} (h : x.Goes s a t) (h' : x.Goes s a' u) : a' = a ∧ u = t := by
  obtain ⟨s', hs', rfl⟩ := h
  obtain ⟨s'', hs'', rfl⟩ := h'
  rw [hs', Prod.mk.injEq, Except.ok.injEq] at hs''
  exact ⟨hs''.1.symm, by rw [hs''.2]⟩

theorem Ends.not_goes (h : x.Ends s t) : ¬ x.Goes s a u := by
  rintro ⟨s', hs', -⟩
  obtain ⟨e, s'', hs'', -⟩ := h
  rw [hs'] at hs''
  cases hs''

theorem Goes.map (hx : x.Goes s a t) (g : α → β) : (g <$> x).Goes s (g a) t := by
  rw [map_eq_pure_bind]
  exact hx.bind fun s' hs' => hs' ▸ Goes.pure (g a) s'

theorem Ends.map (hx : x.Ends s t) (g : α → β) : (g <$> x).Ends s t := by
  rw [map_eq_pure_bind]
  exact hx.bind _

theorem crash_ends (c : Crash) (s : Session) : (crash c : Run α).Ends s s.files :=
  ⟨.crash c, s, rfl, rfl, rfl⟩

theorem files_goes (s : Session) : files.Goes s s.files s.files := ⟨s, rfl, rfl⟩

theorem setFiles_goes (t : FileTree) (s : Session) : (setFiles t).Goes s () t :=
  ⟨{ s with files := t }, rfl, rfl⟩

theorem write_goes (text : List Char) (s : Session) : (write text).Goes s () s.files :=
  ⟨{ s with output := s.output ++ text }, rfl, rfl⟩

theorem writeText_goes {t : LooseText} {cs : List Char} (h : t.chars? = some cs) (s : Session) :
    (writeText t).Goes s () s.files := by
  rw [writeText, h]
  exact write_goes cs s

/-- A text with half a pair is not printed. -/
theorem writeText_ends {t : LooseText} (h : t.chars? = none) (s : Session) :
    (writeText t).Ends s s.files := by
  rw [writeText, h]
  exact crash_ends .unencodable s

section

variable {m : Machine} {lines : List Line}

/-- Printing goes on if all lines are well-formed. -/
theorem print_goes (h : ¬ Malformed m.emoji lines) (s : Session) :
    (print m lines).Goes s () s.files := by
  refine (write_goes (printPage m.emoji lines).1 s).bind fun s' hs' => ?_
  rw [printPage_snd_eq_none_iff.2 h, ← hs']
  exact Goes.pure () s'

/-- Printing breaks the command off at a malformed line. -/
theorem print_ends (h : Malformed m.emoji lines) (s : Session) :
    (print m lines).Ends s s.files := by
  refine (write_goes (printPage m.emoji lines).1 s).bind_ends fun s' hs' => ?_
  cases he : (printPage m.emoji lines).2 with
  | none => exact absurd h (printPage_snd_eq_none_iff.1 he)
  | some e =>
    rw [← hs']
    exact crash_ends (.markup e) s'

/-- A failure ends the command with code one, whether or not its message can be printed. -/
theorem fail_ends (m : Machine) (message : String) (s : Session) :
    (fail m message : Run α).Ends s s.files := by
  by_cases h : Malformed m.emoji (failurePage message)
  · exact (print_ends h s).bind _
  · exact (print_goes h s).bind_ends fun s' hs' => ⟨.failure, s', rfl, rfl, hs'⟩

end

/-- Writing a file goes on with the tree that the writing gives. -/
theorem writeFile_goes {path : Path} {text : LooseText} {cs : List Char} {s : Session}
    (hcs : text.chars? = some cs) (h : s.files.writeMaking path cs = (.ok (), u)) :
    (writeFile path text).Goes s () u := by
  refine (files_goes s).bind fun s' _ => ?_
  rw [hcs, Option.getD_some, h]
  exact (setFiles_goes u s').bind fun s'' hs'' => hs'' ▸ Goes.pure () s''

/-- A file that cannot be written breaks the command off. -/
theorem writeFile_ends {path : Path} {text : LooseText} {s : Session} {e : AccessError}
    (h : s.files.writeMaking path (text.chars?.getD []) = (.error e, u)) :
    (writeFile path text).Ends s u := by
  refine (files_goes s).bind_ends fun s' _ => ?_
  rw [h]
  exact (setFiles_goes u s').bind_ends fun s'' hs'' => hs'' ▸ crash_ends (.access e) s''

/-- A text with half a pair leaves an empty file. -/
theorem writeFile_ends_of_half {path : Path} {text : LooseText} {s : Session}
    (hhalf : text.chars? = none) (h : s.files.writeMaking path [] = (.ok (), u)) :
    (writeFile path text).Ends s u := by
  refine (files_goes s).bind_ends fun s' _ => ?_
  rw [hhalf, Option.getD_none, h]
  refine (setFiles_goes u s').bind_ends fun s'' hs'' => ?_
  exact hs'' ▸ crash_ends .unencodable s''

/-- Folders that are made before a command is broken off stay. -/
theorem makeFolders_crash_ends (path : Path) (c : Crash) (s : Session) :
    (makeFolders path >>= fun _ => (crash c : Run α)).Ends s (s.files.makeFolders path).2 := by
  rcases h : s.files.makeFolders path with ⟨e | ⟨⟩, v⟩
  · refine Ends.bind ?_ _
    refine (files_goes s).bind_ends fun s' _ => ?_
    rw [h]
    exact (setFiles_goes v s').bind_ends fun s'' hs'' => hs'' ▸ crash_ends (.access e) s''
  · have hmade : (makeFolders path).Goes s () v := by
      refine (files_goes s).bind fun s' _ => ?_
      rw [h]
      exact (setFiles_goes v s').bind fun s'' hs'' => hs'' ▸ Goes.pure () s''
    exact hmade.bind_ends fun s' hs' => hs' ▸ crash_ends c s'

/-! ### Parts that change no file -/

/-- The part goes on with a value as told, or it ends the command with code one; the files are the
same either way. -/
def Yields (x : Run α) (s : Session) (P : α → Prop) : Prop :=
  (∃ a, P a ∧ x.Goes s a s.files) ∨ x.Ends s s.files

namespace Yields

variable {P : α → Prop} {Q : β → Prop}

theorem of_goes (h : x.Goes s a s.files) (ha : P a) : x.Yields s P := .inl ⟨a, ha, h⟩

theorem pure (s : Session) (h : P a) : (pure a : Run α).Yields s P := of_goes (Goes.pure a s) h

/-- What a part goes on with is what the next one starts from. -/
theorem bind (hx : x.Yields s P) (hf : ∀ a s', P a → s'.files = s.files → (f a).Yields s' Q) :
    (x >>= f).Yields s Q := by
  rcases hx with ⟨a, ha, s', hs', hfiles⟩ | hends
  · rcases hf a s' ha hfiles with ⟨b, hb, s'', hs'', hfiles'⟩ | ⟨e, s'', hs'', he, hfiles'⟩
    · exact .inl ⟨b, hb, s'', by rw [exec_bind, hs']; exact hs'', hfiles'.trans hfiles⟩
    · exact .inr ⟨e, s'', by rw [exec_bind, hs']; exact hs'', he, hfiles'.trans hfiles⟩
  · exact .inr (hends.bind f)

theorem crash (c : Crash) (s : Session) : (crash c : Run α).Yields s P := .inr (crash_ends c s)

theorem fail (m : Machine) (message : String) (s : Session) : (fail m message : Run α).Yields s P :=
  .inr (fail_ends m message s)

theorem files (s : Session) : files.Yields s (· = s.files) := of_goes (files_goes s) rfl

theorem ask (addresses : List String) (s : Session) : (ask addresses).Yields s fun _ => True :=
  of_goes ⟨_, rfl, rfl⟩ trivial

theorem orCrash (x : Except AccessError α) (s : Session) : (orCrash x).Yields s (x = .ok ·) := by
  cases x with
  | ok a => exact pure s rfl
  | error e => exact crash (.access e) s

theorem crashReading (e : ReadError) (s : Session) : (crashReading e : Run α).Yields s P := by
  cases e with
  | access e => exact crash (.access e) s
  | undecodable e => exact crash .undecodable s

theorem printDebug (m : Machine) (lines : List Line) (s : Session) :
    (printDebug m lines).Yields s fun _ => True := by
  refine bind (P := fun _ => True) (of_goes ⟨_, rfl, rfl⟩ trivial) fun _ s' _ _ => ?_
  cases (printPage m.emoji lines).2 with
  | none => exact pure s' trivial
  | some e => exact crash (.markup e) s'

end Yields

/-- The files are the same afterwards, however the part ends. -/
def Keeps (x : Run α) : Prop :=
  ∀ s : Session, (x.exec s).2.files = s.files

namespace Keeps

theorem of_yields {P : Session → α → Prop} (h : ∀ s, x.Yields s (P s)) : x.Keeps := by
  intro s
  rcases h s with ⟨a, -, s', hs', hfiles⟩ | ⟨e, s', hs', -, hfiles⟩
  · rw [hs', hfiles]
  · rw [hs', hfiles]

theorem of_goes (h : ∀ s, x.Goes s a s.files) : x.Keeps :=
  of_yields (P := fun _ _ => True) fun s => .of_goes (h s) trivial

theorem pure (a : α) : (pure a : Run α).Keeps := fun _ => rfl

theorem bind {x : Run α} {f : α → Run β} (hx : x.Keeps) (hf : ∀ a, (f a).Keeps) :
    (x >>= f).Keeps := by
  intro s
  have hs := hx s
  rw [exec_bind]
  rcases h : x.exec s with ⟨e | a, s'⟩
  · simpa [h] using hs
  · rw [h] at hs
    exact (hf a s').trans hs

theorem print (m : Machine) (lines : List Line) : (print m lines).Keeps := by
  refine of_yields (P := fun _ _ => True) fun s => ?_
  by_cases h : Malformed m.emoji lines
  · exact .inr (print_ends h s)
  · exact .of_goes (print_goes h s) trivial

theorem fail (m : Machine) (message : String) : (fail m message : Run α).Keeps :=
  of_yields (P := fun _ _ => True) (Yields.fail m message)

end Keeps

end Run

/-! ### Looking at a project -/

namespace Scan

open Run (Yields)

theorem target_yields (m : Machine) (path : String) (s : Session) :
    (target m path).Yields s fun folder =>
      resolvePath m.workingDir (.parse path) = .ok folder := by
  refine (Yields.orCrash _ s).bind fun folder s₁ hfolder _ => ?_
  refine (Yields.files s₁).bind fun t s₂ _ _ => ?_
  cases t.find? folder with
  | none => exact .fail m _ s₂
  | some entry =>
    cases entry with
    | folder => exact .pure s₂ hfolder
    | file bytes => exact .fail m _ s₂

theorem formatOf_yields (m : Machine) (asked : Option String) (s : Session) :
    (formatOf m asked).Yields s (· = asked.map Text.lowered) := by
  cases asked with
  | none => exact .pure s rfl
  | some f =>
    rw [formatOf]
    split
    · exact .pure s rfl
    · exact .fail m _ s

theorem settings_yields (m : Machine) (folder : Path) (asked : Option String) (s : Session) :
    (settings m folder asked).Yields s fun found =>
      Settings.load m.limits.settings s.files m.workingDir folder
        ((nonEmpty asked).map Path.parse) = .ok found := by
  refine (Yields.files s).bind fun t s' ht _ => ?_
  subst ht
  split
  · rename_i hload
    exact .pure s' hload
  · exact .crash _ s'
  · exact .fail m _ s'
  · exact .crash _ s'
  · split
    · exact .fail m _ s'
    · exact .crash _ s'
  · exact .fail m _ s'

theorem severity_yields (m : Machine) (asked : Option String) (found : Settings) (s : Session) :
    (severity m asked found).Yields s (· = asked.elim found.severity Severity.parse?) := by
  cases asked with
  | none => exact .pure s rfl
  | some word =>
    rw [severity, Option.elim_some]
    cases Severity.parse? word with
    | some v => exact .pure s rfl
    | none => exact .fail m _ s

theorem rules_yields (m : Machine) (asked : Option String) (only : Bool) (found : Settings)
    (s : Session) :
    (rules m asked only found).Yields s fun ids =>
      ((chosen asked found).bind fun c => Check.resolve c (only || found.onlyModelChecks)) =
        .ok ids := by
  unfold rules
  split
  · rename_i ids hids
    exact .pure s hids
  · exact .fail m _ s

theorem audit_yields (m : Machine) (folder : Path) (ids : Option (List String))
    (exclude : List LooseText) (s : Session) :
    (audit m folder ids exclude).Yields s fun a =>
      ∃ units, Discovery.units m.parser s.files folder (exclude.filterMap LooseText.text?) =
          .ok units ∧
        a = Audit.ofUnits units (ids.getD []) := by
  refine (Yields.files s).bind fun t s' ht _ => ?_
  subst ht
  split
  · rename_i units hunits
    exact .pure s' ⟨units, hunits, rfl⟩
  · exact .crashReading _ s'
  · exact .fail m _ s'

theorem dependencies_yields (m : Machine) (folder : Path) (s : Session) :
    (dependencies m folder).Yields s fun found =>
      Dependency.findings m.registry.admits m.limits.manifest s.files folder = .ok found := by
  refine (Yields.files s).bind fun t s₁ ht _ => ?_
  subst ht
  dsimp only
  split
  · rename_i found addresses hfound _
    exact (Yields.ask addresses s₁).bind fun _ s₂ _ _ => .pure s₂ hfound
  · exact .crash _ s₁
  · exact .crash _ s₁
  · exact .crash _ s₁

/-- What an inspection looks at. -/
structure Evidence where
  /-- The settings. -/
  settings : Settings
  /-- The checks that run; none means all. -/
  rules : Option (List String)
  /-- The source files. -/
  units : List SourceUnit
  /-- What is found about dependencies. -/
  dependencies : List Finding

/-- What an inspection says, seen from what it looks at: its parts follow from the machine, the
files and the options. -/
structure Evidence.Supports (v : Evidence) (m : Machine) (files : FileTree) (o : ScanOptions)
    (i : Inspection) : Prop where
  /-- The folder is the one that is named. -/
  folder : resolvePath m.workingDir (.parse o.path) = .ok i.folder
  /-- The settings are those of the project or those that are named. -/
  settings : Settings.load m.limits.settings files m.workingDir i.folder
    ((nonEmpty o.config).map Path.parse) = .ok v.settings
  /-- The checks are those that are asked for, or those of the settings. -/
  rules : ((chosen o.rules v.settings).bind fun c =>
    Check.resolve c (o.onlyModelChecks || v.settings.onlyModelChecks)) = .ok v.rules
  /-- The source files are those of the folder. -/
  units : Discovery.units m.parser files i.folder
    (v.settings.exclude.filterMap LooseText.text?) = .ok v.units
  /-- Dependencies are looked at if this is asked for. -/
  dependencies : if o.dependencies then
      Dependency.findings m.registry.admits m.limits.manifest files i.folder = .ok v.dependencies
    else v.dependencies = []
  /-- The format is the one that is asked for. -/
  format : i.format = o.format.map Text.lowered
  /-- The least severity is the one that is asked for, or that of the settings. -/
  least : i.least = o.severity.elim v.settings.severity Severity.parse?
  /-- The audit is that of the source files. -/
  audit : i.audit = Audit.ofUnits v.units (v.rules.getD [])
  /-- All findings are kept, whatever is reported of them. -/
  findings : i.findings = i.audit.findings ++ v.dependencies
  /-- The baseline is the one that is asked for, or that of the settings. -/
  baselinePath : Scan.baselinePath i.folder o.baseline v.settings = .ok i.baselinePath

/-- An inspection says what the machine, the files and the options say, or ends the command. -/
theorem inspect_yields (m : Machine) (o : ScanOptions) (s : Session) :
    (inspect m o).Yields s fun i => ∃ v : Evidence, v.Supports m s.files o i := by
  refine (target_yields m o.path s).bind fun folder s₁ hfolder hs₁ => ?_
  refine (formatOf_yields m o.format s₁).bind fun format s₂ hformat hs₂ => ?_
  refine (settings_yields m folder o.config s₂).bind fun found s₃ hsettings hs₃ => ?_
  refine (severity_yields m o.severity found s₃).bind fun least s₄ hleast hs₄ => ?_
  refine (rules_yields m o.rules o.onlyModelChecks found s₄).bind fun ids s₅ hids hs₅ => ?_
  refine (audit_yields m folder ids found.exclude s₅).bind fun a s₆ ⟨units, hunits, ha⟩ hs₆ => ?_
  rw [hs₂, hs₁] at hsettings
  rw [hs₅, hs₄, hs₃, hs₂, hs₁] at hunits
  -- what is left does not depend on whether the files are told
  have hpath : ∀ (more : List Finding) (s' : Session), (if o.dependencies then
        Dependency.findings m.registry.admits m.limits.manifest s.files folder = .ok more
      else more = []) →
      (Run.orCrash (baselinePath folder o.baseline found) >>= fun path =>
        pure ⟨folder, format, least, a, a.findings ++ more, path⟩ : Run Inspection).Yields s'
        fun i => ∃ v : Evidence, v.Supports m s.files o i := by
    intro more s' hmore
    refine (Yields.orCrash _ s').bind fun path s'' hpath _ => .pure s'' ?_
    exact ⟨⟨found, ids, units, more⟩, hfolder, hsettings, hids, hunits, hmore, hformat, hleast, ha,
      rfl, hpath⟩
  have hrest : ∀ s' : Session, s'.files = s.files →
      (if o.dependencies then dependencies m folder >>= fun more =>
        Run.orCrash (baselinePath folder o.baseline found) >>= fun path =>
          pure ⟨folder, format, least, a, a.findings ++ more, path⟩
      else pure [] >>= fun more =>
        Run.orCrash (baselinePath folder o.baseline found) >>= fun path =>
          pure ⟨folder, format, least, a, a.findings ++ more, path⟩ : Run Inspection).Yields s'
        fun i => ∃ v : Evidence, v.Supports m s.files o i := by
    intro s' hs'
    split
    · rename_i hdependencies
      refine (dependencies_yields m folder s').bind fun more s'' hmore _ => hpath more s'' ?_
      rw [hs'] at hmore
      rw [if_pos hdependencies]
      exact hmore
    · rename_i hdependencies
      refine (Yields.pure (P := (· = [])) s' rfl).bind fun more s'' hmore _ => hpath more s'' ?_
      rw [if_neg hdependencies]
      exact hmore
  have hs : s₆.files = s.files := by rw [hs₆, hs₅, hs₄, hs₃, hs₂, hs₁]
  dsimp only
  split
  · exact (Yields.printDebug m _ s₆).bind fun _ s₇ _ hs₇ => hrest s₇ (hs₇.trans hs)
  · exact hrest s₆ hs

end Scan

end LlmAudit
