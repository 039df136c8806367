import LlmAudit.Proofs.Baseline.Saving
import LlmAudit.Proofs.Command.Exec

/-!
# What a failed audit leaves behind

The subject are the exits with code one in Section 17 (CLI) of the specification.

An audit writes twice: first the baseline, if there is none yet, and then the report. What is
checked before does no harm, and neither does a write that fails; but the report is made, and the
suffix of its file is looked at, only when the baseline stands, a file is there before the bytes of
its text, and what is told to the user comes last.

`Scan.LeavesTrace` says in which cases a failure comes too late, and
`failed_sameFiles_iff_not_leavesTrace` that these are all.
-/

namespace LlmAudit

open FileTree (AddsFolders Written SameFiles)

namespace Scan

open Run (Goes Ends)

variable {m : Machine} {o : ScanOptions} {i : Inspection} {format : Option String} {r : Report}
variable {files t u : FileTree} {baseline : Option Baseline.Comparison}

/-! ### The comparison -/

/-- The comparison with a baseline goes through, if one is asked for. -/
inductive Compared (m : Machine) (t : FileTree) (i : Inspection) :
    Option Baseline.Comparison → FileTree → Prop where
  /-- None is asked for. -/
  | unasked : i.baselinePath = none → Compared m t i none t
  /-- One is asked for. -/
  | asked {given path : Path} {c : Baseline.Comparison} {u : FileTree} :
      i.baselinePath = some given → resolvePath m.workingDir given = .ok path →
      Baseline.compare m.limits.baseline t path m.now i.findings = (.ok c, u) →
      Compared m t i (some c) u

theorem compareAsked_goes {s : Session} (h : Compared m s.files i baseline u) :
    (compareAsked m i).Goes s baseline u := by
  rw [compareAsked]
  cases h with
  | unasked hnone =>
    rw [hnone]
    exact Goes.pure none s
  | @asked given path c u hsome hpath hcompare =>
    rw [hsome]
    refine Goes.map ?_ some
    rw [compare, hpath]
    refine (Goes.pure path s).bind fun s₁ hs₁ => (Run.files_goes s₁).bind fun s₂ _ => ?_
    rw [hs₁, hcompare]
    refine (Run.setFiles_goes u s₂).bind fun s₃ hs₃ => ?_
    rw [← hs₃]
    exact Goes.pure c s₃

/-- A comparison goes through, or ends the command and adds folders at most. -/
theorem compared_or_ends (m : Machine) (i : Inspection) (s : Session) :
    (∃ baseline u, Compared m s.files i baseline u) ∨
      ∃ u, AddsFolders s.files u ∧ (compareAsked m i).Ends s u := by
  cases hgiven : i.baselinePath with
  | none => exact .inl ⟨none, s.files, .unasked hgiven⟩
  | some given =>
    cases hpath : resolvePath m.workingDir given with
    | error e =>
      refine .inr ⟨s.files, .refl _, ?_⟩
      rw [compareAsked, hgiven]
      refine Ends.map ?_ some
      rw [compare, hpath]
      exact (Run.crash_ends (.access e) s).bind _
    | ok path =>
      rcases hcompare : Baseline.compare m.limits.baseline s.files path m.now i.findings with
        ⟨e | c, u⟩
      · refine .inr ⟨u, Baseline.addsFolders_of_compare_error hcompare, ?_⟩
        rw [compareAsked, hgiven]
        refine Ends.map ?_ some
        rw [compare, hpath]
        refine (Goes.pure path s).bind_ends fun s₁ hs₁ => ?_
        refine (Run.files_goes s₁).bind_ends fun s₂ _ => ?_
        rw [hs₁, hcompare]
        refine (Run.setFiles_goes u s₂).bind_ends fun s₃ hs₃ => ?_
        rw [← hs₃]
        -- Each cause ends the command, by a message or without one.
        cases e with
        | unusable e =>
          cases e with
          | tooManyDigits count => exact Run.crash_ends .tooManyDigits s₃
          | tooDeep => exact Run.crash_ends .tooDeep s₃
          | unnameable => exact Run.crash_ends (.access .unnameable) s₃
          | unreadable path cause => exact Run.fail_ends m _ s₃
          | notJson path => exact Run.fail_ends m _ s₃
          | wrongSchema path => exact Run.fail_ends m _ s₃
          | malformed path errors => exact Run.fail_ends m _ s₃
        | unwritable e =>
          cases e with
          | tooManyDigits => exact Run.crash_ends .tooManyDigits s₃
          | access e => exact Run.crash_ends (.access e) s₃
      · exact .inl ⟨some c, u, .asked hgiven hpath hcompare⟩

/-- A baseline that is made is a new file. -/
theorem Compared.created_file {c : Baseline.Comparison} (h : Compared m t i (some c) u)
    (hcreated : c.created = true) :
    ∃ place bytes, t.entryAt? place = none ∧ u.entryAt? place = some (.file bytes) := by
  cases h with
  | asked hsome hpath hcompare =>
    obtain ⟨hhas, place, hwritten⟩ := Baseline.written_of_compare_created hcompare hcreated
    have hparts := not_mem_parts_of_resolvePath hpath
    refine ⟨place, _, ?_, hwritten.stored⟩
    rw [hwritten.place_eq hparts]
    exact FileTree.entryAt?_of_has hparts hwritten.isNameable hhas

/-! ### The report -/

/-- The report is to be printed in a format, and no bytes write it in this format. -/
def CannotPrint (m : Machine) (format : Option String) (r : Report) : Prop :=
  ∃ f, format = some f ∧ ∀ text, textIn m f r = .ok text → text.chars? = none

/-- The report is to be stored in a file, and no file can be written there with what bytes write of
it. -/
def CannotStore (m : Machine) (o : ScanOptions) (r : Report) (t : FileTree) : Prop :=
  ∃ output, nonEmpty o.output = some output ∧
    ∀ text, reportText? m r (.parse output) = some text →
      (t.writeMaking (m.workingDir.join (.parse output)) (text.chars?.getD [])).1 ≠ .ok ()

/-- The report is stored in a file, if this is asked for. -/
inductive Stored (m : Machine) (o : ScanOptions) (r : Report) (t : FileTree) : FileTree → Prop where
  /-- No file is asked for. -/
  | unasked : nonEmpty o.output = none → Stored m o r t t
  /-- A file is asked for. -/
  | asked {output : String} {text : LooseText} {cs : List Char} {u : FileTree} :
      nonEmpty o.output = some output → reportText? m r (.parse output) = some text →
      text.chars? = some cs →
      t.writeMaking (m.workingDir.join (.parse output)) cs = (.ok (), u) → Stored m o r t u

/-- The file for the report is there and stays empty, since no bytes write the report. -/
inductive Emptied (m : Machine) (o : ScanOptions) (r : Report) (t : FileTree) :
    FileTree → Prop where
  /-- A file is asked for. -/
  | asked {output : String} {text : LooseText} {u : FileTree} :
      nonEmpty o.output = some output → reportText? m r (.parse output) = some text →
      text.chars? = none →
      t.writeMaking (m.workingDir.join (.parse output)) [] = (.ok (), u) → Emptied m o r t u

/-- What the user is told of the file with the report. -/
def notePage (o : ScanOptions) : List Line :=
  match nonEmpty o.output with
  | some output => writtenPage (.parse output)
  | none => []

/-- What the user is told in the end. -/
def shownPage (o : ScanOptions) (format : Option String) (r : Report) : List Line :=
  if format.isSome ∨ o.quiet = true then [] else notePage o ++ r.summaryPage o.limit

theorem stored_cases (m : Machine) (o : ScanOptions) (r : Report) (t : FileTree) :
    (∃ u, Stored m o r t u) ∨ (∃ u, Emptied m o r t u) ∨ CannotStore m o r t := by
  cases houtput : nonEmpty o.output with
  | none => exact .inl ⟨t, .unasked houtput⟩
  | some output =>
    cases htext : reportText? m r (.parse output) with
    | none => exact .inr (.inr ⟨output, houtput, fun text h => by simp [htext] at h⟩)
    | some text =>
      rcases hwrite : t.writeMaking (m.workingDir.join (.parse output)) (text.chars?.getD []) with
        ⟨e | ⟨⟩, u⟩
      · refine .inr (.inr ⟨output, houtput, fun text' h => ?_⟩)
        rw [htext, Option.some.injEq] at h
        simp [← h, hwrite]
      · cases hcs : text.chars? with
        | none =>
          rw [hcs] at hwrite
          exact .inr (.inl ⟨u, .asked houtput htext hcs hwrite⟩)
        | some cs =>
          rw [hcs] at hwrite
          exact .inl ⟨u, .asked houtput htext hcs hwrite⟩

theorem reportText?_eq_some_iff {path : Path} {text : LooseText} :
    reportText? m r path = some text ↔
      ∃ f, formatOfFile? path = some f ∧ textIn m f r = .ok text := by
  rw [reportText?, Option.bind_eq_some_iff]
  refine exists_congr fun f => and_congr_right fun _ => ?_
  cases textIn m f r <;> simp [Except.toOption]

/-- A report with a text in the format of its file is stored by writing this text. -/
theorem storeReport_eq {path : Path} {text : LooseText} (htext : reportText? m r path = some text) :
    storeReport m r path = Run.writeFile (m.workingDir.join path) text := by
  obtain ⟨f, hformat, htext⟩ := reportText?_eq_some_iff.1 htext
  rw [storeReport, hformat, Option.elim_some, storeIn, htext]

theorem storeReport_ends (m : Machine) (r : Report) {path : Path}
    (h : ∀ text, reportText? m r path = some text →
      (t.writeMaking (m.workingDir.join path) (text.chars?.getD [])).1 ≠ .ok ()) :
    ∃ u, AddsFolders t u ∧ ∀ s : Session, s.files = t → (storeReport m r path).Ends s u := by
  rw [storeReport]
  cases hformat : formatOfFile? path with
  | none => exact ⟨t, .refl t, fun s hs => hs ▸ Run.fail_ends m _ s⟩
  | some f =>
    rw [Option.elim_some, storeIn]
    cases htext : textIn m f r with
    | error e =>
      refine ⟨_, FileTree.makeFolders_addsFolders t (m.workingDir.join path).parent, fun s hs => ?_⟩
      exact hs ▸ Run.makeFolders_crash_ends _ _ s
    | ok text =>
      rcases FileTree.writeMaking_cases t (m.workingDir.join path) (text.chars?.getD []) with
        ⟨e, u, hwrite, hadds⟩ | ⟨place, u, hwrite, -⟩
      · exact ⟨u, hadds, fun s hs => Run.writeFile_ends (hs.symm ▸ hwrite)⟩
      · exact absurd (by rw [hwrite]) (h text (reportText?_eq_some_iff.2 ⟨f, hformat, htext⟩))

theorem writeAsked_ends_of_emptied {s : Session} (h : Emptied m o r s.files u) (quiet : Bool) :
    (writeAsked m r o.output quiet).Ends s u := by
  obtain ⟨houtput, htext, hhalf, hwrite⟩ := h
  rw [writeAsked, houtput]
  refine Ends.bind ?_ _
  rw [storeReport_eq htext]
  exact Run.writeFile_ends_of_half hhalf hwrite

theorem writeAsked_goes {s : Session} (h : Stored m o r s.files u) {quiet : Bool}
    (hpage : quiet = true ∨ ¬ Malformed m.emoji (notePage o)) :
    (writeAsked m r o.output quiet).Goes s () u := by
  cases h with
  | unasked hnone =>
    rw [writeAsked, hnone]
    exact Goes.pure () s
  | @asked output text cs u houtput htext hcs hwrite =>
    rw [writeAsked, houtput]
    dsimp only
    rw [writeReport, storeReport_eq htext]
    refine (Run.writeFile_goes hcs hwrite).bind fun s' hs' => ?_
    rw [← hs']
    cases quiet with
    | true => exact Goes.pure () s'
    | false =>
      rw [notePage, houtput] at hpage
      exact Run.print_goes (hpage.resolve_left Bool.false_ne_true) s'

theorem writeAsked_ends_of_malformed {s : Session} (h : Stored m o r s.files u)
    (hpage : Malformed m.emoji (notePage o)) : (writeAsked m r o.output false).Ends s u := by
  cases h with
  | unasked hnone =>
    rw [notePage, hnone] at hpage
    exact absurd hpage (by simp [Malformed])
  | @asked output text cs u houtput htext hcs hwrite =>
    rw [writeAsked, houtput]
    rw [notePage, houtput] at hpage
    dsimp only
    rw [writeReport, storeReport_eq htext]
    refine (Run.writeFile_goes hcs hwrite).bind_ends fun s' hs' => ?_
    exact hs' ▸ Run.print_ends hpage s'

/-- A report that no bytes write in the format that is asked for ends the command. -/
theorem present_ends_of_cannotPrint (h : CannotPrint m format r) (o : ScanOptions) (s : Session) :
    (present m o format r).Ends s s.files := by
  obtain ⟨f, rfl, hnone⟩ := h
  rw [present]
  cases htext : textIn m f r with
  | error e => exact Run.crash_ends _ s
  | ok text => exact (Run.writeText_ends (hnone text htext) s).bind _

/-- Otherwise it is printed before it is stored. -/
theorem exists_present_eq {f : String} (h : ¬ CannotPrint m (some f) r) (o : ScanOptions) :
    ∃ text cs, text.chars? = some cs ∧ present m o (some f) r = (do
      Run.writeText text
      writeAsked m r o.output true) := by
  rw [present]
  cases htext : textIn m f r with
  | error e => exact absurd ⟨f, rfl, fun text h => by cases htext.symm.trans h⟩ h
  | ok text =>
    cases hcs : text.chars? with
    | none =>
      refine absurd ⟨f, rfl, fun text' h' => ?_⟩ h
      cases htext.symm.trans h'
      exact hcs
    | some cs => exact ⟨text, cs, hcs, rfl⟩

/-- A report that is not stored ends the command as the storing of it does. -/
theorem present_ends_of_writeAsked (hprint : ¬ CannotPrint m format r)
    (h : ∀ (quiet : Bool) (s : Session), s.files = t → (writeAsked m r o.output quiet).Ends s u)
    {s : Session} (hs : s.files = t) : (present m o format r).Ends s u := by
  cases format with
  | some f =>
    obtain ⟨text, cs, hcs, hpresent⟩ := exists_present_eq hprint o
    rw [hpresent]
    exact (Run.writeText_goes hcs s).bind_ends fun s' hs' => h true s' (hs'.trans hs)
  | none => exact (h o.quiet s hs).bind _

/-- A report that cannot be printed or stored ends the command and adds folders at most. -/
theorem present_ends_of_cannotStore (h : CannotStore m o r t ∨ CannotPrint m format r) :
    ∃ u, AddsFolders t u ∧ ∀ s : Session, s.files = t → (present m o format r).Ends s u := by
  by_cases hprint : CannotPrint m format r
  · exact ⟨t, .refl t, fun s hs => hs ▸ present_ends_of_cannotPrint hprint o s⟩
  obtain ⟨output, houtput, hcannot⟩ := h.resolve_right hprint
  obtain ⟨u, hadds, hends⟩ := storeReport_ends m r hcannot
  refine ⟨u, hadds, fun s hs => present_ends_of_writeAsked hprint (fun quiet s' hs' => ?_) hs⟩
  rw [writeAsked, houtput]
  exact (hends s' hs').bind _

/-- A report that no bytes write ends the command and leaves an empty file. -/
theorem present_ends_of_emptied {s : Session} (hs : s.files = t) (h : Emptied m o r t u)
    (hprint : ¬ CannotPrint m format r) : (present m o format r).Ends s u :=
  present_ends_of_writeAsked hprint
    (fun quiet _ hs' => writeAsked_ends_of_emptied (hs'.symm ▸ h) quiet) hs

/-- A report that is stored but cannot be told ends the command. -/
theorem present_ends_of_malformed {s : Session} (hs : s.files = t) (h : Stored m o r t u)
    (hpage : Malformed m.emoji (shownPage o format r)) : (present m o format r).Ends s u := by
  subst hs
  rw [shownPage] at hpage
  split at hpage
  · exact absurd hpage (by simp [Malformed])
  · rename_i hloud
    obtain ⟨hformat, hquiet⟩ := not_or.1 hloud
    rw [Option.not_isSome_iff_eq_none.1 hformat, present, Bool.eq_false_iff.2 hquiet]
    by_cases hnote : Malformed m.emoji (notePage o)
    · exact (writeAsked_ends_of_malformed h hnote).bind _
    · have hsummary := (malformed_append.1 hpage).resolve_left hnote
      refine (writeAsked_goes h (.inr hnote)).bind_ends fun s' hs' => ?_
      exact hs' ▸ Run.print_ends hsummary s'

/-- A report that is printed, stored and told ends well. -/
theorem present_goes {s : Session} (hs : s.files = t) (h : Stored m o r t u)
    (hprint : ¬ CannotPrint m format r) (hpage : ¬ Malformed m.emoji (shownPage o format r)) :
    (present m o format r).Goes s () u := by
  subst hs
  rw [shownPage] at hpage
  cases format with
  | some f =>
    obtain ⟨text, cs, hcs, hpresent⟩ := exists_present_eq hprint o
    rw [hpresent]
    refine (Run.writeText_goes hcs s).bind fun s' hs' => ?_
    exact writeAsked_goes (hs' ▸ h) (.inl rfl)
  | none =>
    cases hquiet : o.quiet with
    | true =>
      rw [present, hquiet]
      exact (writeAsked_goes h (.inl rfl)).bind fun s' hs' => hs' ▸ Goes.pure () s'
    | false =>
      rw [hquiet, if_neg (by simp), malformed_append, not_or] at hpage
      rw [present, hquiet]
      refine (writeAsked_goes h (.inr hpage.1)).bind fun s' hs' => ?_
      exact hs' ▸ Run.print_goes hpage.2 s'

/-! ### The whole audit -/

/-- What an audit has done so far when it begins. -/
def start (files : FileTree) : Session := ⟨files, [], [], []⟩

/-- The inspection of a project goes through. -/
def Inspects (m : Machine) (files : FileTree) (o : ScanOptions) (i : Inspection) : Prop :=
  (inspect m o).Goes (start files) i files

/-- An audit whose report cannot be made ends, and the files are those after the comparison. -/
theorem run_ends_of_unmade {e : AccessError} (hi : Inspects m files o i)
    (hc : Compared m files i baseline t) (hr : i.report m t baseline = .error e) :
    (run m o).Ends (start files) t := by
  refine hi.bind_ends fun s₁ hs₁ => ?_
  refine (compareAsked_goes (hs₁.symm ▸ hc)).bind_ends fun s₂ hs₂ => ?_
  refine (Run.files_goes s₂).bind_ends fun s₃ hs₃ => ?_
  rw [hs₂, hr, ← hs₂, ← hs₃]
  exact (Run.crash_ends (.access e) s₃).bind _

/-- An audit whose report is made ends as the presentation of the report does. -/
theorem run_ends (hi : Inspects m files o i) (hc : Compared m files i baseline t)
    (hr : i.report m t baseline = .ok r)
    (h : ∀ s : Session, s.files = t → (present m o i.format r).Ends s u) :
    (run m o).Ends (start files) u := by
  refine hi.bind_ends fun s₁ hs₁ => ?_
  refine (compareAsked_goes (hs₁.symm ▸ hc)).bind_ends fun s₂ hs₂ => ?_
  refine (Run.files_goes s₂).bind_ends fun s₃ hs₃ => ?_
  rw [hs₂, hr]
  exact (Goes.pure r s₃).bind_ends fun s₄ hs₄ => h s₄ (hs₄.trans (hs₃.trans hs₂))

theorem run_goes (hi : Inspects m files o i) (hc : Compared m files i baseline t)
    (hr : i.report m t baseline = .ok r)
    (h : ∀ s : Session, s.files = t → (present m o i.format r).Goes s () u) :
    (run m o).Goes (start files) () u := by
  refine hi.bind fun s₁ hs₁ => ?_
  refine (compareAsked_goes (hs₁.symm ▸ hc)).bind fun s₂ hs₂ => ?_
  refine (Run.files_goes s₂).bind fun s₃ hs₃ => ?_
  rw [hs₂, hr]
  exact (Goes.pure r s₃).bind fun s₄ hs₄ => h s₄ (hs₄.trans (hs₃.trans hs₂))

/-- How far an audit comes: a failure before its report is made adds folders at most. -/
theorem compares_or_addsFolders (m : Machine) (files : FileTree) (o : ScanOptions) :
    (∃ i baseline t, Inspects m files o i ∧ Compared m files i baseline t) ∨
      ∃ u, AddsFolders files u ∧ (run m o).Ends (start files) u := by
  rcases inspect_yields m o (start files) with ⟨i, -, s, hs, hfiles⟩ | hends
  · have hfiles : s.files = files := hfiles
    rcases compared_or_ends m i s with ⟨baseline, t, hc⟩ | ⟨u, hadds, hends⟩
    · exact .inl ⟨i, baseline, t, ⟨s, hs, hfiles⟩, hfiles ▸ hc⟩
    · obtain ⟨e, s', hs', he, hu⟩ := hends.bind fun baseline => do
        present m o i.format (← Run.orCrash (i.report m (← Run.files) baseline))
      refine .inr ⟨u, hfiles ▸ hadds, e, s', ?_, he, hu⟩
      rw [run, Run.exec_bind, hs]
      exact hs'
  · exact .inr ⟨files, .refl files, hends.bind _⟩

/-! ### Failures that come too late -/

/-- The report of an audit cannot be made, printed, stored or told. -/
inductive FailsLate (m : Machine) (o : ScanOptions) (format : Option String) (t : FileTree) :
    Except AccessError Report → Prop where
  /-- It cannot be made. -/
  | unmade (e : AccessError) : FailsLate m o format t (.error e)
  /-- It cannot be printed in the format that is asked for. -/
  | unprinted {r : Report} : CannotPrint m format r → FailsLate m o format t (.ok r)
  /-- It cannot be stored. -/
  | unstored {r : Report} : CannotStore m o r t → FailsLate m o format t (.ok r)
  /-- Its file stays empty. -/
  | emptied {r : Report} {u : FileTree} : Emptied m o r t u → FailsLate m o format t (.ok r)
  /-- It cannot be told. -/
  | untold {r : Report} : Malformed m.emoji (shownPage o format r) →
      FailsLate m o format t (.ok r)

/-- An audit that fails after it has written something. -/
inductive LeavesTrace (m : Machine) (files : FileTree) (o : ScanOptions) : Prop where
  /-- The baseline is made, and then the report cannot be made, printed, stored or told. -/
  | baseline {i : Inspection} {c : Baseline.Comparison} {t : FileTree} :
      Inspects m files o i → Compared m files i (some c) t → c.created = true →
      FailsLate m o i.format t (i.report m t (some c)) → LeavesTrace m files o
  /-- The report is stored in a file that did not hold it before, and then cannot be told. -/
  | report {i : Inspection} {b : Option Baseline.Comparison} {r : Report} {output : String}
      {text : LooseText} {cs : List Char} {t : FileTree} {place : List String} :
      Inspects m files o i → Compared m files i b files → i.report m files b = .ok r →
      nonEmpty o.output = some output → reportText? m r (.parse output) = some text →
      text.chars? = some cs →
      files.writeMaking (m.workingDir.join (.parse output)) cs = (.ok (), t) →
      t.locate (m.workingDir.join (.parse output)) = .ok place →
      files.entryAt? place ≠ some (.file (Utf8.encode cs)) →
      Malformed m.emoji (shownPage o i.format r) → LeavesTrace m files o
  /-- The file for the report was not empty before, and then no bytes write the report. -/
  | emptied {i : Inspection} {b : Option Baseline.Comparison} {r : Report} {output : String}
      {text : LooseText} {t : FileTree} {place : List String} :
      Inspects m files o i → Compared m files i b files → i.report m files b = .ok r →
      ¬ CannotPrint m i.format r →
      nonEmpty o.output = some output → reportText? m r (.parse output) = some text →
      text.chars? = none →
      files.writeMaking (m.workingDir.join (.parse output)) [] = (.ok (), t) →
      t.locate (m.workingDir.join (.parse output)) = .ok place →
      files.entryAt? place ≠ some (.file []) → LeavesTrace m files o

/-- Where a file stood, one stands after another is written. -/
theorem file_of_writeMaking {path : Path} {cs : List Char} (h : t.writeMaking path cs = (.ok (), u))
    {place : List String} {bytes : List UInt8} (hplace : t.entryAt? place = some (.file bytes)) :
    ∃ new, u.entryAt? place = some (.file new) := by
  obtain ⟨_, hwritten⟩ := FileTree.written_of_writeMaking h
  exact hwritten.file_of_file hplace

theorem Stored.file_of_file (h : Stored m o r t u) {place : List String} {bytes : List UInt8}
    (hplace : t.entryAt? place = some (.file bytes)) :
    ∃ new, u.entryAt? place = some (.file new) := by
  cases h with
  | unasked hnone => exact ⟨bytes, hplace⟩
  | asked houtput htext hcs hwrite => exact file_of_writeMaking hwrite hplace

theorem Emptied.file_of_file (h : Emptied m o r t u) {place : List String} {bytes : List UInt8}
    (hplace : t.entryAt? place = some (.file bytes)) :
    ∃ new, u.entryAt? place = some (.file new) := by
  obtain ⟨houtput, htext, hhalf, hwrite⟩ := h
  exact file_of_writeMaking hwrite hplace

/-- However the presentation of a report fails, where a file stood before, one stands. -/
theorem FailsLate.exists_ends (h : FailsLate m o format t (.ok r)) {place : List String}
    {bytes : List UInt8} (hplace : t.entryAt? place = some (.file bytes)) :
    ∃ u, (∃ new, u.entryAt? place = some (.file new)) ∧
      ∀ s : Session, s.files = t → (present m o format r).Ends s u := by
  by_cases hcannot : CannotStore m o r t ∨ CannotPrint m format r
  · obtain ⟨u, hadds, hends⟩ := present_ends_of_cannotStore hcannot
    exact ⟨u, ⟨bytes, hadds.entryAt? hplace⟩, hends⟩
  obtain ⟨hstore, hprint⟩ := not_or.1 hcannot
  have hends_of_emptied : ∀ {u}, Emptied m o r t u →
      ∃ u, (∃ new, u.entryAt? place = some (.file new)) ∧
        ∀ s : Session, s.files = t → (present m o format r).Ends s u := fun hemptied =>
    ⟨_, hemptied.file_of_file hplace, fun s hs => present_ends_of_emptied hs hemptied hprint⟩
  cases h with
  | unprinted h => exact absurd h hprint
  | unstored h => exact absurd h hstore
  | emptied h => exact hends_of_emptied h
  | untold hpage =>
    rcases stored_cases m o r t with ⟨u, hstored⟩ | ⟨u, hemptied⟩ | hcannot
    · exact ⟨u, hstored.file_of_file hplace, fun s hs => present_ends_of_malformed hs hstored hpage⟩
    · exact hends_of_emptied hemptied
    · exact absurd hcannot hstore

/-- A file that is written with other bytes than it had is not the same. -/
theorem not_sameFiles_of_writeMaking {path : Path} {cs : List Char}
    (h : files.writeMaking path cs = (.ok (), u)) {place : List String}
    (hlocate : u.locate path = .ok place)
    (hother : files.entryAt? place ≠ some (.file (Utf8.encode cs))) : ¬ SameFiles files u := by
  obtain ⟨place', hwritten⟩ := FileTree.written_of_writeMaking h
  obtain rfl := Except.ok.inj (hlocate.symm.trans hwritten.located)
  rw [hwritten.sameFiles_iff]
  exact hother

/-- A baseline that was made is there however the audit fails afterwards. -/
theorem exists_ends_of_created {c : Baseline.Comparison} (hi : Inspects m files o i)
    (hc : Compared m files i (some c) t) (hcreated : c.created = true)
    (hlate : FailsLate m o i.format t (i.report m t (some c))) :
    ∃ u, (run m o).Ends (start files) u ∧ ¬ SameFiles files u := by
  obtain ⟨place, bytes, hnone, hfile⟩ := hc.created_file hcreated
  -- It is enough that some file still stands at the place of the baseline.
  have hnew : ∀ {u : FileTree} {new : List UInt8}, u.entryAt? place = some (.file new) →
      ¬ SameFiles files u := by
    intro u new hu hsame
    have hold := (hsame place new).1 hu
    rw [hnone] at hold
    cases hold
  cases hr : i.report m t (some c) with
  | error e => exact ⟨t, run_ends_of_unmade hi hc hr, hnew hfile⟩
  | ok r =>
    rw [hr] at hlate
    obtain ⟨u, ⟨new, hu⟩, hends⟩ := hlate.exists_ends hfile
    exact ⟨u, run_ends hi hc hr hends, hnew hu⟩

/-- A failure that comes too late ends the audit with code one and with other files. -/
theorem LeavesTrace.ends (h : LeavesTrace m files o) :
    ∃ u, (run m o).Ends (start files) u ∧ ¬ SameFiles files u := by
  cases h with
  | baseline hi hc hcreated hlate => exact exists_ends_of_created hi hc hcreated hlate
  | @report i b r output text cs t place hi hc hr houtput htext hcs hwrite hlocate hother hpage =>
    refine ⟨t, run_ends hi hc hr fun s hs => ?_, ?_⟩
    · exact present_ends_of_malformed hs (.asked houtput htext hcs hwrite) hpage
    · exact not_sameFiles_of_writeMaking hwrite hlocate hother
  | @emptied i b r output text t place hi hc hr hprint houtput htext hhalf hwrite hlocate hother =>
    refine ⟨t, run_ends hi hc hr fun s hs => ?_, ?_⟩
    · exact present_ends_of_emptied hs (.asked houtput htext hhalf hwrite) hprint
    · exact not_sameFiles_of_writeMaking hwrite hlocate hother

end Scan

/-! ### Command lines -/

theorem runCommandLine_of_error {m : Machine} {files : FileTree} {words : List String}
    {invocation : Invocation} {e : Ending} {s : Session}
    (hparse : Invocation.parse words = .ok invocation)
    (hrun : (invocation.run m).exec (Scan.start files) = (.error e, s)) :
    runCommandLine m files words = ⟨e, s⟩ := by
  rw [runCommandLine, hparse]
  exact congrArg (fun x : Except Ending Unit × Session => match x with
    | (.ok (), session) => (⟨.success, session⟩ : Outcome)
    | (.error ending, session) => ⟨ending, session⟩) hrun

theorem runCommandLine_of_ok {m : Machine} {files : FileTree} {words : List String}
    {invocation : Invocation} {s : Session} (hparse : Invocation.parse words = .ok invocation)
    (hrun : (invocation.run m).exec (Scan.start files) = (.ok (), s)) :
    runCommandLine m files words = ⟨.success, s⟩ := by
  rw [runCommandLine, hparse]
  exact congrArg (fun x : Except Ending Unit × Session => match x with
    | (.ok (), session) => (⟨.success, session⟩ : Outcome)
    | (.error ending, session) => ⟨ending, session⟩) hrun

end LlmAudit
