import LlmAudit.Dependency.Guard
import LlmAudit.Proofs.Dependency.Manifests
import LlmAudit.Proofs.Dependency.Packages

/-!
# Outages of registries

Section 15 of the specification says that "network failures are FAIL-OPEN", and Section 9 (Design
Notes) gives the reason: "failing closed would block scans on network outages".

A lookup that gets no answer lets its package pass. So when some lookups of a registry fail, no
package becomes unknown (`Registry.Outage.knows`), and the only findings that change are those
about the packages whose lookups fail: an unknown package is no longer reported as unknown, and if
its name looks like a popular one it is reported for that instead.

To say so of whole lists of findings, a finding has to tell which package it is about (`About`). Its
summary begins with the name, and what follows the name can be told apart from the name
(`eq_of_append_tail`), so no finding is about two of the packages that are collected
(`About.eq_of_mem`). As the keys of these differ, each one has a finding of its own or none.

## Main statements

* `Dependency.findings_fail_open`
-/

namespace LlmAudit

/-- The second registry is the first one, but for some lookups that get no answer. -/
def Registry.Outage (R R' : Registry) : Prop :=
  ∀ a, R' a = R a ∨ R' a = .unreachable

/-- No package becomes unknown through an outage. -/
theorem Registry.Outage.knows {R R' : Registry} (h : R.Outage R') {p : Package}
    (hknows : R.knows p = true) : R'.knows p = true := by
  simp only [Registry.knows, Bool.and_eq_true] at hknows ⊢
  refine ⟨hknows.1, ?_⟩
  rcases h p.address with hsame | hlost
  · rw [hsame]
    exact hknows.2
  · rw [hlost]
    rfl

/-- A text lets a package through if it is the name of one that is known. -/
theorem Registry.admits_iff {R : Registry} {world : Ecosystem} {name : LooseText} :
    R.admits world name = true ↔ ∃ s, name = .ofString s ∧ R.knows ⟨world, s⟩ = true := by
  simp only [Registry.admits, Option.any_eq_true, LooseText.text?_eq_some_iff]

theorem Registry.Outage.admits {R R' : Registry} (h : R.Outage R') {world : Ecosystem}
    {name : LooseText} (hadmits : R.admits world name = true) : R'.admits world name = true := by
  obtain ⟨s, hname, hknows⟩ := Registry.admits_iff.1 hadmits
  exact Registry.admits_iff.2 ⟨s, hname, h.knows hknows⟩

/-- A text is a name that a package can have. -/
def Package.Sane (name : LooseText) : Prop :=
  ∃ s, name = .ofString s ∧ isSaneName s = true

theorem Registry.admits_of_not_sane {name : LooseText} (h : ¬Package.Sane name)
    (R : Registry) (world : Ecosystem) : R.admits world name = false := by
  rw [← Bool.not_eq_true, Registry.admits_iff]
  rintro ⟨s, hname, hknows⟩
  rw [Registry.knows, Bool.and_eq_true] at hknows
  exact h ⟨s, hname, hknows.1⟩

namespace Dependency

open Manifest (Mention)

variable {bound : Nat} {t : FileTree} {folder : Path} {ms : List Mention} {m m' : Mention}
  {f : Finding} {admits : Checker}

/-! ### Which package a finding is about -/

/-- A finding is about a package: it tells that the package is unknown, or that its name looks like
a popular one. -/
def About (m : Mention) (f : Finding) : Prop :=
  f = unknownFinding m ∨ ∃ p ∈ popularNames, f = lookalikeFinding m p

instance (m : Mention) (f : Finding) : Decidable (About m f) :=
  inferInstanceAs (Decidable (_ ∨ _))

/-- What follows the name of a package in a summary. -/
def tails : List (List Char) :=
  [" was not found in npm.".toList, " was not found in pypi.".toList] ++
    popularNames.map fun p => (" may be confused with " ++ p ++ ".").toList

/-- No tail ends in another one. -/
theorem tails_apart : (tails.all fun x => tails.all fun y => !x.isSuffixOf y || x == y) = true := by
  decide +kernel

theorem eq_of_suffix_tail {x y : List Char} (hx : x ∈ tails) (hy : y ∈ tails)
    (h : x.map Point.char <:+ y.map Point.char) : x = y := by
  obtain ⟨before, hbefore⟩ := h
  obtain ⟨start, rest, rfl, -, hrest⟩ := List.map_eq_append_iff.1 hbefore.symm
  have hsuffix : x <:+ start ++ rest := ⟨start, by rw [map_char_injective hrest]⟩
  have hall := List.all_eq_true.1 (List.all_eq_true.1 tails_apart x hx) _ hy
  rw [List.isSuffixOf_iff_suffix.2 hsuffix] at hall
  simpa using hall

/-- A name can be told apart from the tail behind it. -/
theorem eq_of_append_tail {a b : List Point} {x y : List Char} (hx : x ∈ tails) (hy : y ∈ tails)
    (h : a ++ x.map Point.char = b ++ y.map Point.char) : a = b := by
  have hends : x.map Point.char <:+ a ++ x.map Point.char ∧
      y.map Point.char <:+ a ++ x.map Point.char :=
    ⟨List.suffix_append a _, h ▸ List.suffix_append b _⟩
  have hxy : x = y := by
    rcases List.suffix_or_suffix_of_suffix hends.1 hends.2 with hle | hle
    · exact eq_of_suffix_tail hx hy hle
    · exact (eq_of_suffix_tail hy hx hle).symm
  rw [hxy] at h
  exact List.append_cancel_right h

/-- The summary of a finding about a package begins with its name. -/
theorem About.summary (h : About m f) :
    ∃ tail ∈ tails, f.summary.points = m.name.points ++ tail.map Point.char := by
  rcases h with rfl | ⟨p, hp, rfl⟩
  · refine ⟨(" was not found in " ++ m.ecosystem.name ++ ".").toList, ?_, rfl⟩
    cases m.ecosystem <;> decide +kernel
  · refine ⟨(" may be confused with " ++ p ++ ".").toList, ?_, rfl⟩
    exact List.mem_append_right _ (List.mem_map.2 ⟨p, hp, rfl⟩)

theorem About.place (h : About m f) : f.file = m.file ∧ f.line = m.line := by
  rcases h with rfl | ⟨p, -, rfl⟩
  · exact ⟨rfl, rfl⟩
  · exact ⟨rfl, rfl⟩

/-- A finding is about one name at one place. -/
theorem About.unique (h : About m f) (h' : About m' f) :
    m.name = m'.name ∧ m.file = m'.file ∧ m.line = m'.line := by
  obtain ⟨x, hx, hname⟩ := h.summary
  obtain ⟨y, hy, hname'⟩ := h'.summary
  have hline : (m.line : Int) = m'.line := h.place.2.symm.trans h'.place.2
  refine ⟨?_, h.place.1.symm.trans h'.place.1, Int.ofNat_inj.1 hline⟩
  exact LooseText.ext (eq_of_append_tail hx hy (hname.symm.trans hname'))

/-- Packages that are collected are of one world exactly if they are listed in one manifest. -/
theorem world_eq_iff (hms : Manifest.mentions bound t folder = .ok ms) (hm : m ∈ ms)
    (hm' : m' ∈ ms) : m.ecosystem = m'.ecosystem ↔ m.file = m'.file := by
  rcases Manifest.world_of_mem_mentions hms hm with ⟨hworld, hfile⟩ | ⟨hworld, hfile⟩
  · rcases Manifest.world_of_mem_mentions hms hm' with ⟨hworld', hfile'⟩ | ⟨hworld', hfile'⟩
    · simp [hworld, hfile, hworld', hfile']
    · simp [hworld, hfile, hworld', hfile']
  · rcases Manifest.world_of_mem_mentions hms hm' with ⟨hworld', hfile'⟩ | ⟨hworld', hfile'⟩
    · simp [hworld, hfile, hworld', hfile']
    · simp [hworld, hfile, hworld', hfile']

/-- Of the packages that are collected, a finding is about one at most. -/
theorem About.eq_of_mem (hms : Manifest.mentions bound t folder = .ok ms) (hm : m ∈ ms)
    (hm' : m' ∈ ms) (h : About m f) (h' : About m' f) : m = m' := by
  obtain ⟨hname, hfile, hline⟩ := h.unique h'
  have hworld := (world_eq_iff hms hm hm').2 hfile
  obtain ⟨world, name, file, line⟩ := m
  obtain ⟨world', name', file', line'⟩ := m'
  dsimp only at hname hfile hline hworld
  rw [hname, hfile, hline, hworld]

/-! ### What is found about one package -/

theorem mem_popularNames_of_lookalike? {name : LooseText} {p : String}
    (h : lookalike? name = some p) :
    p ∈ popularNames := by
  rw [lookalike?] at h
  split at h
  · cases h
  · exact List.mem_of_find?_eq_some h

/-- What is found about a package tells that it is unknown, or looks like a popular one. -/
theorem inspect_about (h : inspect admits m = some f) : About m f := by
  rw [inspect] at h
  split at h
  · obtain ⟨p, hp, rfl⟩ := Option.map_eq_some_iff.1 h
    exact .inr ⟨p, mem_popularNames_of_lookalike? hp, rfl⟩
  · exact .inl (Option.some.inj h).symm

theorem inspect_of_known (h : admits m.ecosystem m.name = true) :
    inspect admits m = (lookalike? m.name).map (lookalikeFinding m) := by
  rw [inspect, if_pos h]

theorem inspect_of_unknown (h : admits m.ecosystem m.name = false) :
    inspect admits m = some (unknownFinding m) := by
  rw [inspect, h]
  rfl

/-- A finding tells that a package is unknown. -/
def isUnknown (f : Finding) : Bool := f.ruleId == "LLM_DEP001"

@[simp]
theorem isUnknown_unknownFinding (m : Mention) : isUnknown (unknownFinding m) = true := by
  simp [isUnknown, unknownFinding]

@[simp]
theorem isUnknown_lookalikeFinding (m : Mention) (p : String) :
    isUnknown (lookalikeFinding m p) = false := by
  simp [isUnknown, lookalikeFinding]

theorem inspect_eq_unknown_iff :
    inspect admits m = some (unknownFinding m) ↔ admits m.ecosystem m.name = false := by
  constructor
  · intro h
    by_contra hknown
    rw [inspect_of_known (Bool.eq_true_of_not_eq_false hknown)] at h
    obtain ⟨p, -, hp⟩ := Option.map_eq_some_iff.1 h
    have hunknown := isUnknown_unknownFinding m
    rw [← hp, isUnknown_lookalikeFinding] at hunknown
    cases hunknown
  · exact inspect_of_unknown

/-! ### What is found about all packages -/

theorem findings_of_mentions (h : Manifest.mentions bound t folder = .ok ms) (admits : Checker) :
    findings admits bound t folder = .ok (ms.filterMap (inspect admits)) := by
  rw [findings, h]
  rfl

theorem findings_of_error {e : Manifest.Error} (h : Manifest.mentions bound t folder = .error e)
    (admits : Checker) : findings admits bound t folder = .error e := by
  rw [findings, h]
  rfl

/-- The findings about unknown packages are those of the packages that are not known. -/
theorem filter_isUnknown (admits : Checker) (ms : List Mention) :
    (ms.filterMap (inspect admits)).filter isUnknown =
      (ms.filter fun m => !admits m.ecosystem m.name).map unknownFinding := by
  induction ms with
  | nil => rfl
  | cons m ms ih =>
    cases hknows : admits m.ecosystem m.name with
    | false =>
      rw [List.filterMap_cons_some (inspect_of_unknown hknows),
        List.filter_cons_of_pos (isUnknown_unknownFinding m), ih]
      simp [hknows]
    | true =>
      rw [List.filterMap_cons, inspect_of_known hknows]
      cases lookalike? m.name with
      | none => simp [hknows, ih]
      | some p => simp [hknows, ih]

/-- A package that is collected is reported as unknown exactly if it is not known. -/
theorem unknownFinding_mem_iff (hms : Manifest.mentions bound t folder = .ok ms) (hm : m ∈ ms) :
    unknownFinding m ∈ ms.filterMap (inspect admits) ↔ admits m.ecosystem m.name = false := by
  rw [List.mem_filterMap, ← inspect_eq_unknown_iff]
  constructor
  · rintro ⟨m', hm', hfound⟩
    obtain rfl := About.eq_of_mem hms hm hm' (.inl rfl) (inspect_about hfound)
    exact hfound
  · intro h
    exact ⟨m, hm, h⟩

/-- The packages that are collected have different keys. -/
theorem nodup_keys_mentions (hms : Manifest.mentions bound t folder = .ok ms) :
    (ms.map Mention.key).Nodup := by
  obtain ⟨scripts, others, -, -, rfl⟩ := Manifest.mentions_eq_ok_iff.1 hms
  exact nodup_map_firstBy Mention.key [] _

/-- What is found about other packages that are collected is not about a package. -/
theorem filter_about_others (hms : Manifest.mentions bound t folder = .ok ms) (hm : m ∈ ms)
    {others : List Mention} (hsub : others ⊆ ms) (hnot : m ∉ others) (admits : Checker) :
    (others.filterMap (inspect admits)).filter (fun f => About m f) = [] := by
  rw [List.filter_eq_nil_iff]
  intro f hf habout
  obtain ⟨m', hm', hfound⟩ := List.mem_filterMap.1 hf
  have heq := About.eq_of_mem hms hm (hsub hm') (of_decide_eq_true habout) (inspect_about hfound)
  exact hnot (heq ▸ hm')

/-- What is found about a package that is collected is all that the findings tell of it. -/
theorem filter_about (hms : Manifest.mentions bound t folder = .ok ms) (hm : m ∈ ms)
    (admits : Checker) :
    (ms.filterMap (inspect admits)).filter (fun f => About m f) = (inspect admits m).toList := by
  obtain ⟨before, after, hsplit⟩ := List.append_of_mem hm
  have hnodup : ms.Nodup := (nodup_keys_mentions hms).of_map _
  rw [hsplit, List.nodup_middle, List.nodup_cons, List.mem_append, not_or] at hnodup
  obtain ⟨⟨hbefore, hafter⟩, -⟩ := hnodup
  have hsub : before ⊆ ms ∧ after ⊆ ms := by
    rw [hsplit]
    exact ⟨List.subset_append_left _ _, fun x hx => List.mem_append_right _ (.tail _ hx)⟩
  have hb := filter_about_others hms hm hsub.1 hbefore admits
  have ha := filter_about_others hms hm hsub.2 hafter admits
  rw [hsplit, List.filterMap_append, List.filter_append, hb, List.nil_append]
  cases hfound : inspect admits m with
  | none =>
    rw [List.filterMap_cons_none hfound, ha]
    rfl
  | some f =>
    rw [List.filterMap_cons_some hfound, List.filter_cons,
      if_pos (decide_eq_true (inspect_about hfound)), ha]
    rfl

/-- Two findings tell of packages with different keys. -/
def Apart (f g : Finding) : Prop :=
  ∀ m m', About m f → About m' g → m.key ≠ m'.key

/-- Each key yields at most one finding, whatever is known. -/
theorem pairwise_apart (hms : Manifest.mentions bound t folder = .ok ms) (admits : Checker) :
    (ms.filterMap (inspect admits)).Pairwise Apart := by
  rw [List.pairwise_filterMap]
  have hkeys : ms.Pairwise fun m m' => m.key ≠ m'.key :=
    List.pairwise_map.1 (nodup_keys_mentions hms)
  refine hkeys.imp_of_mem ?_
  intro m m' hm hm' hne f hf g hg n n' hn hn' hkey
  -- the findings are about the packages that are collected, which have the same key as well
  obtain ⟨hname, hfile, -⟩ := hn.unique (inspect_about hf)
  obtain ⟨hname', hfile', -⟩ := hn'.unique (inspect_about hg)
  simp only [Mention.key, Prod.mk.injEq, hname, hfile, hname', hfile'] at hkey
  refine hne ?_
  simp only [Mention.key, Prod.mk.injEq]
  exact ⟨(world_eq_iff hms hm hm').2 hkey.2.2, hkey.2⟩

/-- An address is asked for a mention if it is asked for the package of that name. -/
theorem mem_requests_iff {a : String} : a ∈ m.package?.elim [] Package.requests ↔
    ∃ p : Package, (p.ecosystem = m.ecosystem ∧ m.name = .ofString p.name) ∧ a ∈ p.requests := by
  constructor
  · intro h
    cases hp : m.package? with
    | none =>
      rw [hp] at h
      cases h
    | some p =>
      rw [hp] at h
      obtain ⟨s, hs, rfl⟩ := Option.map_eq_some_iff.1 hp
      exact ⟨_, ⟨rfl, LooseText.text?_eq_some_iff.1 hs⟩, h⟩
  · rintro ⟨p, ⟨hworld, hname⟩, h⟩
    have hp : m.package? = some p := by
      rw [Mention.package?, hname, LooseText.text?_ofString, ← hworld]
      rfl
    rw [hp]
    exact h

/-- No address is asked twice. -/
theorem nodup_requests (hms : Manifest.mentions bound t folder = .ok ms) :
    (ms.flatMap fun m => m.package?.elim [] Package.requests).Nodup := by
  rw [List.nodup_flatMap]
  constructor
  · intro m _
    cases m.package? with
    | none => exact List.nodup_nil
    | some p =>
      rw [Option.elim_some, Package.requests]
      split
      · exact List.nodup_singleton _
      · exact List.nodup_nil
  · have hkeys : ms.Pairwise fun m m' => m.key ≠ m'.key :=
      List.pairwise_map.1 (nodup_keys_mentions hms)
    refine hkeys.imp_of_mem ?_
    intro m m' hm hm' hne a ha ha'
    obtain ⟨p, hp, hask⟩ := mem_requests_iff.1 ha
    obtain ⟨p', hp', hask'⟩ := mem_requests_iff.1 ha'
    have haddress := (Package.eq_address_of_mem_requests hask).symm.trans
      (Package.eq_address_of_mem_requests hask')
    obtain rfl := Package.address_injective haddress
    have hworld : m.ecosystem = m'.ecosystem := hp.1.symm.trans hp'.1
    have hname : m.name = m'.name := hp.2.trans hp'.2.symm
    refine hne ?_
    simp only [Mention.key, Prod.mk.injEq]
    exact ⟨hworld, by rw [hname], (world_eq_iff hms hm hm').1 hworld⟩

/-! ### Two runs -/

/-- A package is reported as unknown in the first findings only. -/
def Cleared (fs fs' : List Finding) (m : Mention) : Prop :=
  unknownFinding m ∈ fs ∧ unknownFinding m ∉ fs'

instance (fs fs' : List Finding) (m : Mention) : Decidable (Cleared fs fs' m) :=
  inferInstanceAs (Decidable (_ ∧ _))

/-- A finding is about none of the packages that are reported as unknown in the first findings
only. -/
def Untouched (ms : List Mention) (fs fs' : List Finding) (f : Finding) : Prop :=
  ∀ m ∈ ms, Cleared fs fs' m → ¬ About m f

instance (ms : List Mention) (fs fs' : List Finding) (f : Finding) :
    Decidable (Untouched ms fs fs' f) :=
  inferInstanceAs (Decidable (∀ m ∈ ms, Cleared fs fs' m → ¬ About m f))

/-- What is found about a package depends on whether the package is known. -/
theorem inspect_congr {admits' : Checker}
    (h : admits m.ecosystem m.name = admits' m.ecosystem m.name) :
    inspect admits m = inspect admits' m := by
  rw [inspect, inspect, h]

/-- What is found about a package that is cleared is no untouched finding. -/
theorem filter_untouched_of_cleared {fs fs' : List Finding} (hm : m ∈ ms) (h : Cleared fs fs' m) :
    (inspect admits m).filter (fun f => Untouched ms fs fs' f) = none := by
  rw [Option.filter_eq_none_iff]
  intro f hfound huntouched
  exact of_decide_eq_true huntouched m hm h (inspect_about hfound)

/-- The findings about the packages that are not cleared are the same in both runs. -/
theorem filter_untouched {R R' : Registry} (h : R.Outage R')
    (hms : Manifest.mentions bound t folder = .ok ms) {fs fs' : List Finding}
    (hfs : fs = ms.filterMap (inspect R.admits)) (hfs' : fs' = ms.filterMap (inspect R'.admits)) :
    fs'.filter (fun f => Untouched ms fs fs' f) = fs.filter fun f => Untouched ms fs fs' f := by
  have hstep : ∀ m ∈ ms, (inspect R'.admits m).filter (fun f => Untouched ms fs fs' f) =
      (inspect R.admits m).filter fun f => Untouched ms fs fs' f := by
    intro m hm
    by_cases hsame : R'.admits m.ecosystem m.name = R.admits m.ecosystem m.name
    · rw [inspect_congr hsame]
    · -- an outage changes what is known in one way only
      have hknows : R.admits m.ecosystem m.name = false ∧ R'.admits m.ecosystem m.name = true := by
        cases hR : R.admits m.ecosystem m.name with
        | false => simpa [hR] using hsame
        | true => exact absurd ((h.admits hR).trans hR.symm) hsame
      have hcleared : Cleared fs fs' m := by
        rw [Cleared, hfs, hfs', unknownFinding_mem_iff hms hm, unknownFinding_mem_iff hms hm]
        simp [hknows]
      rw [filter_untouched_of_cleared hm hcleared, filter_untouched_of_cleared hm hcleared]
  have hall := List.filterMap_congr hstep
  rw [← List.filter_filterMap, ← List.filter_filterMap, ← hfs, ← hfs'] at hall
  exact hall

/-- **Outages fail open.** Two runs over a project, the second with some lookups that get no answer,
break off alike or both end with findings. Then the findings about unknown packages of the second
run are some of those of the first, in their order. A name that no package can have is reported as
unknown by both. A package that is reported as unknown by the first run only is reported by the
second if its name looks like a popular one, and then once, for that. All other findings are the
same, in the same order. In both runs each key yields at most one finding, and no address is asked
twice, so that one reply decides about one package. -/
theorem findings_fail_open {R R' : Registry} (h : R.Outage R') (bound : Nat) (t : FileTree)
    (folder : Path) :
    (∀ e, findings R'.admits bound t folder = .error e ↔
      findings R.admits bound t folder = .error e) ∧
    ∀ ms, Manifest.mentions bound t folder = .ok ms → ∃ fs fs',
      findings R.admits bound t folder = .ok fs ∧ findings R'.admits bound t folder = .ok fs' ∧
      (fs'.filter isUnknown).Sublist (fs.filter isUnknown) ∧
      (∀ m ∈ ms, ¬Package.Sane m.name → unknownFinding m ∈ fs ∧ unknownFinding m ∈ fs') ∧
      (∀ m ∈ ms, Cleared fs fs' m → fs'.filter (fun f => About m f) =
        ((lookalike? m.name).map (lookalikeFinding m)).toList) ∧
      fs'.filter (fun f => Untouched ms fs fs' f) = fs.filter (fun f => Untouched ms fs fs' f) ∧
      fs.Pairwise Apart ∧ fs'.Pairwise Apart ∧
      (ms.flatMap fun m => m.package?.elim [] Package.requests).Nodup := by
  refine ⟨fun e => ?_, fun ms hms => ?_⟩
  · cases hms : Manifest.mentions bound t folder with
    | error e' => rw [findings_of_error hms, findings_of_error hms]
    | ok ms => simp [findings_of_mentions hms]
  · refine ⟨_, _, findings_of_mentions hms R.admits, findings_of_mentions hms R'.admits, ?_, ?_, ?_,
      filter_untouched h hms rfl rfl, pairwise_apart hms R.admits, pairwise_apart hms R'.admits,
      nodup_requests hms⟩
    · rw [filter_isUnknown, filter_isUnknown]
      refine (List.monotone_filter_right ms ?_).map unknownFinding
      intro m hunknown
      by_contra hknown
      simp only [Bool.not_eq_true', Bool.not_eq_false] at hunknown hknown
      rw [h.admits hknown] at hunknown
      cases hunknown
    · intro m hm hname
      rw [unknownFinding_mem_iff hms hm, unknownFinding_mem_iff hms hm]
      exact ⟨Registry.admits_of_not_sane hname R _, Registry.admits_of_not_sane hname R' _⟩
    · intro m hm hcleared
      have hknown : R'.admits m.ecosystem m.name = true := by
        have hnot := hcleared.2
        rw [unknownFinding_mem_iff hms hm, Bool.not_eq_false] at hnot
        exact hnot
      rw [filter_about hms hm, inspect_of_known hknown]

/-! ### An outage -/

/-- A project that asks for four packages on one line: a look-alike, a name like no other and two
names that no package can have, for each one is half of a surrogate pair. -/
def fourPackages : FileTree where
  entries := [(["package.json"], .file (Utf8.encode
    ("\x7b\"dependencies\": \x7b\"opena1\": 1, \"zzz\": 2, " ++
      "\"\\ud800\": 3, \"\\ud801\": 4\x7d\x7d").toList))]
  rooted := List.forall_mem_singleton.2 rfl

/-- The mention of a package there. -/
def onLineOne (name : LooseText) : Mention := ⟨.npm, name, "package.json", 1⟩

/-- The two names that no package can have. -/
def firstHalf : LooseText := ⟨[.half ⟨0, by decide⟩]⟩

@[inherit_doc firstHalf]
def secondHalf : LooseText := ⟨[.half ⟨1, by decide⟩]⟩

/-- The mentions of all four. -/
def fourMentions : List Mention :=
  [onLineOne "opena1", onLineOne "zzz", onLineOne firstHalf, onLineOne secondHalf]

/-- The registries that know no package. -/
def noneKnown : Registry := fun _ => .status 404

/-- The same registries, but for two lookups that get no answer. -/
def partlyDown : Registry := fun a =>
  if a = "https://registry.npmjs.org/opena1" ∨ a = "https://registry.npmjs.org/zzz" then .unreachable
  else .status 404

theorem outage_partlyDown : noneKnown.Outage partlyDown := by
  intro a
  rw [partlyDown]
  split
  · exact .inr rfl
  · exact .inl rfl

/-- Half of a surrogate pair is no name that a package can have. -/
theorem not_sane_half (i : Fin 2048) : ¬Package.Sane ⟨[.half i]⟩ := by
  rintro ⟨s, hname, -⟩
  have hpoints : [Point.half i] = s.toList.map Point.char := congrArg LooseText.points hname
  obtain ⟨c, -, hc⟩ := List.mem_map.1 (hpoints ▸ List.mem_singleton_self _)
  cases hc

/-- Without the outage all four packages are unknown. With it, the look-alike is reported as such,
the second package is not reported, and the other two are unknown as before, each one with a finding
of its own. -/
theorem findings_fail_open_four :
    noneKnown.Outage partlyDown ∧
    Manifest.mentions 2 fourPackages (.parse "/") = .ok fourMentions ∧
    ¬Package.Sane firstHalf ∧ ¬Package.Sane secondHalf ∧
    ∃ fs fs', findings noneKnown.admits 2 fourPackages (.parse "/") = .ok fs ∧
      findings partlyDown.admits 2 fourPackages (.parse "/") = .ok fs' ∧
      Cleared fs fs' (onLineOne "opena1") ∧
      fs'.filter (fun f => About (onLineOne "opena1") f) =
        [lookalikeFinding (onLineOne "opena1") "openai"] ∧
      Cleared fs fs' (onLineOne "zzz") ∧ fs'.filter (fun f => About (onLineOne "zzz") f) = [] ∧
      unknownFinding (onLineOne firstHalf) ∈ fs' ∧ unknownFinding (onLineOne secondHalf) ∈ fs' := by
  have hms : Manifest.mentions 2 fourPackages (.parse "/") = .ok fourMentions := by
    decide +kernel
  have hnames : lookalike? (onLineOne "opena1").name = some "openai" ∧
      lookalike? (onLineOne "zzz").name = none := by
    decide +kernel
  have hswitched : ∀ m ∈ [onLineOne "opena1", onLineOne "zzz"],
      Cleared (fourMentions.filterMap (inspect noneKnown.admits))
        (fourMentions.filterMap (inspect partlyDown.admits)) m := by
    decide +kernel
  rw [List.forall_mem_cons, List.forall_mem_singleton] at hswitched
  obtain ⟨-, hrun⟩ := findings_fail_open outage_partlyDown 2 fourPackages (.parse "/")
  obtain ⟨fs, fs', hfs, hfs', -, hinsane, hcleared, -⟩ := hrun _ hms
  obtain rfl := Except.ok.inj (hfs.symm.trans (findings_of_mentions hms _))
  obtain rfl := Except.ok.inj (hfs'.symm.trans (findings_of_mentions hms _))
  have hopena1 := hcleared (onLineOne "opena1") (by simp [fourMentions]) hswitched.1
  have hzzz := hcleared (onLineOne "zzz") (by simp [fourMentions]) hswitched.2
  have hfirst := hinsane (onLineOne firstHalf) (by simp [fourMentions]) (not_sane_half 0)
  have hsecond := hinsane (onLineOne secondHalf) (by simp [fourMentions]) (not_sane_half 1)
  rw [hnames.1] at hopena1
  rw [hnames.2] at hzzz
  exact ⟨outage_partlyDown, hms, not_sane_half 0, not_sane_half 1, _, _, hfs, hfs', hswitched.1,
    hopena1, hswitched.2, hzzz, hfirst.2, hsecond.2⟩

end Dependency

end LlmAudit
