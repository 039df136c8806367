import LlmAudit.Proofs.Lists.Firsts
import LlmAudit.Proofs.Report.Snippets
import LlmAudit.Report.Basic
import Mathlib.Algebra.GroupWithZero.Nat
import Mathlib.Data.List.Perm.Basic
import Mathlib.Data.Prod.Lex
import Mathlib.Data.String.Basic

/-!
# Grouping in reports

The subject is Section 16 (Reporting) of the specification: "findings grouped by rule with
confidence range".

A report tells every finding once, in the group of its rule. The groups are made in one pass. After
each finding they tell those that have been passed (`Grouped`): each rule has one group, with the
places of its findings in their order, the texts of the first of them and the range of their
confidences. A step either notes the place in the group of the rule or opens a group at the end
(`noteIn_cases`), and keeps this (`Grouped.noteIn`); so it holds of the whole pass
(`run_foldlM_groupStep`), which breaks off exactly at a file that no path can lead to. Everything
that is counted in a report follows, because the elements of a list are those of its parts of one
key, key by key (`flatMap_filter_perm`).

## Main statements

* `Report.build_accounts`
-/

namespace LlmAudit

/-! ### Lists by key -/

section

variable {α κ : Type} [DecidableEq κ]

/-- The elements of a list are those of its parts of one key, taken key by key. -/
theorem flatMap_filter_perm {keys : List κ} (key : α → κ) {l : List α} (hnodup : keys.Nodup)
    (hkey : ∀ a ∈ l, key a ∈ keys) :
    (keys.flatMap fun k => l.filter fun a => key a = k).Perm l := by
  induction keys generalizing l with
  | nil =>
    rw [List.eq_nil_iff_forall_not_mem.2 fun a ha => List.not_mem_nil (hkey a ha)]
    exact List.Perm.nil
  | cons k keys ih =>
    obtain ⟨hk, hnodup⟩ := List.nodup_cons.1 hnodup
    -- the parts of the other keys can be taken from what the part of this key leaves
    have hrest : (keys.flatMap fun k' => l.filter fun a => key a = k') =
        keys.flatMap fun k' =>
          (l.filter fun a => !decide (key a = k)).filter fun a => key a = k' := by
      refine List.flatMap_congr fun k' hk' => ?_
      rw [List.filter_filter]
      refine List.filter_congr fun a _ => ?_
      have hne : key a = k' → key a ≠ k := fun h h' => hk (h' ▸ h ▸ hk')
      by_cases h : key a = k'
      · simp [h, h ▸ hne h]
      · simp [h]
    have hleft : ∀ a ∈ l.filter (fun a => !decide (key a = k)), key a ∈ keys := by
      intro a ha
      obtain ⟨ha, hne⟩ := List.mem_filter.1 ha
      exact (List.mem_cons.1 (hkey a ha)).resolve_left (by simpa using hne)
    rw [List.flatMap_cons, hrest]
    exact ((ih hnodup hleft).append_left _).trans (List.filter_append_perm _ l)

end

/-! ### The order of confidences -/

namespace Confidence

/-- The place of a confidence in the order of numbers. -/
def place (c : Confidence) : Int :=
  c.value.place.getD 0

theorem place_value (c : Confidence) : c.value.place = some c.place := by
  have hunit := c.inUnit
  rw [Binary64.inUnit, Bool.and_eq_true] at hunit
  rw [place]
  cases hvalue : c.value with
  | nan =>
    rw [hvalue] at hunit
    cases hunit.1
  | number s r => rfl

theorem lt_iff {a b : Confidence} : a.value.lt b.value = true ↔ a.place < b.place := by
  rw [Binary64.lt, place_value, place_value]
  exact decide_eq_true_iff

theorem le_iff {a b : Confidence} : a.value.le b.value = true ↔ a.place ≤ b.place := by
  rw [Binary64.le, place_value, place_value]
  exact decide_eq_true_iff

theorem least_cases (a b : Confidence) :
    a.least b = a ∧ a.place ≤ b.place ∨ a.least b = b ∧ b.place < a.place := by
  by_cases h : b.value.lt a.value = true
  · exact Or.inr ⟨if_pos h, lt_iff.1 h⟩
  · exact Or.inl ⟨if_neg h, not_lt.1 (mt lt_iff.2 h)⟩

theorem greatest_cases (a b : Confidence) :
    a.greatest b = a ∧ b.place ≤ a.place ∨ a.greatest b = b ∧ a.place < b.place := by
  by_cases h : a.value.lt b.value = true
  · exact Or.inr ⟨if_pos h, lt_iff.1 h⟩
  · exact Or.inl ⟨if_neg h, not_lt.1 (mt lt_iff.2 h)⟩

end Confidence

/-! ### Groups -/

/-- What a report has to tell of a finding: its rule, its place and how sure it is. -/
def Finding.entry (f : Finding) : String × String × Int × Confidence :=
  (f.ruleId, f.file, f.line, f.confidence)

/-- A finding belongs to the inventory: its rule begins with `LLM_`. -/
def Finding.InInventory (f : Finding) : Prop :=
  "LLM_".toList <+: f.ruleId.toList

instance (f : Finding) : Decidable f.InInventory :=
  inferInstanceAs (Decidable (_ <+: _))

theorem Finding.isInformational_eq (f : Finding) : f.isInformational = decide f.InInventory := by
  rw [Bool.eq_iff_iff, decide_eq_true_iff, isInformational, isInventoryRule, Text.startsWith]
  exact List.isPrefixOf_iff_prefix

/-- The place of a finding, with the snippet that its source gives. -/
def Report.placeOf (source : Option Snippet.Source) (f : Finding) : Occurrence :=
  ⟨f.file, f.line, f.confidence, Snippet.read source f.file f.line⟩

namespace FindingGroup

/-- What a group tells of the findings of its rule. -/
def entries (g : FindingGroup) : List (String × String × Int × Confidence) :=
  g.occurrences.map fun o => (g.ruleId, o.file, o.line, o.confidence)

/-- A group is made from the findings of its rule. -/
structure Gathers (source : Option Snippet.Source) (findings : List Finding) (g : FindingGroup) :
    Prop where
  /-- It has their places, in their order. -/
  occurrences : g.occurrences =
    (findings.filter fun f => f.ruleId = g.ruleId).map (Report.placeOf source)
  /-- Its texts and its severity are those of the first one. -/
  first : ∃ f, IsFirst (fun f => f.ruleId = g.ruleId) findings f ∧ g.title = f.title ∧
    g.severity = f.severity ∧ g.summary = f.summary ∧ g.description = f.description ∧
    g.recommendation = f.recommendation
  /-- Its range begins at their least confidence. -/
  least : (∃ o ∈ g.occurrences, o.confidence = g.confidenceMin) ∧
    ∀ o ∈ g.occurrences, g.confidenceMin.value.le o.confidence.value = true
  /-- Its range ends at their greatest confidence. -/
  greatest : (∃ o ∈ g.occurrences, o.confidence = g.confidenceMax) ∧
    ∀ o ∈ g.occurrences, o.confidence.value.le g.confidenceMax.value = true

/-- Groups are sorted by their severity, then by their greatest confidence, both downwards, and then
by their rule. -/
def sortKey (g : FindingGroup) : Int ×ₗ Int ×ₗ String :=
  toLex (-(g.severity.rank : Int), toLex (-g.confidenceMax.place, g.ruleId))

variable {source : Option Snippet.Source} {findings : List Finding} {f : Finding}
  {groups : List FindingGroup} {g : FindingGroup}

@[simp]
theorem ruleId_note (g : FindingGroup) (o : Occurrence) : (g.note o).ruleId = g.ruleId := rfl

@[simp]
theorem confidenceMin_note (g : FindingGroup) (o : Occurrence) :
    (g.note o).confidenceMin = g.confidenceMin.least o.confidence := rfl

@[simp]
theorem confidenceMax_note (g : FindingGroup) (o : Occurrence) :
    (g.note o).confidenceMax = g.confidenceMax.greatest o.confidence := rfl

@[simp]
theorem occurrences_note (g : FindingGroup) (o : Occurrence) :
    (g.note o).occurrences = g.occurrences ++ [o] := rfl

theorem Gathers.entries_eq (h : g.Gathers source findings) :
    g.entries = (findings.filter fun f => f.ruleId = g.ruleId).map Finding.entry := by
  rw [entries, h.occurrences, List.map_map]
  refine List.map_congr_left fun f hf => ?_
  have hrule : f.ruleId = g.ruleId := of_decide_eq_true (List.mem_filter.1 hf).2
  rw [Finding.entry, hrule]
  rfl

/-- A group is still made from the findings of its rule after a finding of another one. -/
theorem Gathers.append_other (h : g.Gathers source findings) (hrule : f.ruleId ≠ g.ruleId) :
    g.Gathers source (findings ++ [f]) where
  occurrences := by
    rw [List.filter_append, List.filter_singleton, decide_eq_false hrule, Bool.cond_false,
      List.append_nil]
    exact h.occurrences
  first := by
    obtain ⟨first, hfirst, htexts⟩ := h.first
    exact ⟨first, hfirst.append_right _, htexts⟩
  least := h.least
  greatest := h.greatest

/-- Noting the place of one more finding of its rule keeps a group made from the findings of its
rule. -/
theorem Gathers.note (h : g.Gathers source findings) (hrule : f.ruleId = g.ruleId) :
    (g.note (Report.placeOf source f)).Gathers source (findings ++ [f]) where
  occurrences := by
    rw [occurrences_note, ruleId_note, List.filter_append, List.map_append, List.filter_singleton,
      decide_eq_true hrule, h.occurrences]
    rfl
  first := by
    obtain ⟨first, hfirst, htexts⟩ := h.first
    exact ⟨first, hfirst.append_right _, htexts⟩
  least := by
    obtain ⟨⟨o, ho, hmin⟩, hall⟩ := h.least
    simp only [occurrences_note, confidenceMin_note, Confidence.le_iff, List.forall_mem_append,
      List.forall_mem_singleton] at hall ⊢
    rcases Confidence.least_cases g.confidenceMin (Report.placeOf source f).confidence with
      ⟨heq, hle⟩ | ⟨heq, hlt⟩
    · rw [heq]
      exact ⟨⟨o, List.mem_append_left _ ho, hmin⟩, hall, hle⟩
    · rw [heq]
      refine ⟨⟨_, List.mem_append_right _ (List.mem_singleton_self _), rfl⟩, ?_, le_rfl⟩
      exact fun o ho => hlt.le.trans (hall o ho)
  greatest := by
    obtain ⟨⟨o, ho, hmax⟩, hall⟩ := h.greatest
    simp only [occurrences_note, confidenceMax_note, Confidence.le_iff, List.forall_mem_append,
      List.forall_mem_singleton] at hall ⊢
    rcases Confidence.greatest_cases g.confidenceMax (Report.placeOf source f).confidence with
      ⟨heq, hle⟩ | ⟨heq, hlt⟩
    · rw [heq]
      exact ⟨⟨o, List.mem_append_left _ ho, hmax⟩, hall, hle⟩
    · rw [heq]
      refine ⟨⟨_, List.mem_append_right _ (List.mem_singleton_self _), rfl⟩, ?_, le_rfl⟩
      exact fun o ho => (hall o ho).trans hlt.le

/-- The group that a finding opens is made from the findings of its rule if it is the first one. -/
theorem gathers_opened (source : Option Snippet.Source)
    (hnew : f.ruleId ∉ findings.map Finding.ruleId) :
    ((opened f).note (Report.placeOf source f)).Gathers source (findings ++ [f]) := by
  have hother : ∀ f' ∈ findings, ¬f'.ruleId = f.ruleId := by
    intro f' hf' heq
    exact hnew (List.mem_map.2 ⟨f', hf', heq⟩)
  have hown : (findings ++ [f]).filter (fun f' => f'.ruleId = f.ruleId) = [f] := by
    simpa using hother
  -- the range is the confidence of the finding itself
  have hmin : ((opened f).note (Report.placeOf source f)).confidenceMin = f.confidence := ite_self _
  have hmax : ((opened f).note (Report.placeOf source f)).confidenceMax = f.confidence := ite_self _
  refine ⟨?_, ⟨f, ⟨rfl, findings, [], rfl, hother⟩, rfl, rfl, rfl, rfl, rfl⟩, ?_, ?_⟩
  · exact congrArg (List.map (Report.placeOf source)) hown.symm
  · rw [hmin]
    refine ⟨⟨_, List.mem_singleton_self _, rfl⟩, List.forall_mem_singleton.2 ?_⟩
    exact Confidence.le_iff.2 le_rfl
  · rw [hmax]
    refine ⟨⟨_, List.mem_singleton_self _, rfl⟩, List.forall_mem_singleton.2 ?_⟩
    exact Confidence.le_iff.2 le_rfl

/-- A finding is noted in the group of its rule, or opens one behind the others. -/
theorem noteIn_cases (groups : List FindingGroup) (f : Finding) (o : Occurrence) :
    (f.ruleId ∉ groups.map ruleId ∧ noteIn groups f o = groups ++ [(opened f).note o]) ∨
    ∃ before g after, groups = before ++ g :: after ∧ g.ruleId = f.ruleId ∧
      noteIn groups f o = before ++ g.note o :: after := by
  induction groups with
  | nil => exact .inl ⟨List.not_mem_nil, rfl⟩
  | cons g groups ih =>
    rw [noteIn]
    by_cases hrule : g.ruleId = f.ruleId
    · exact .inr ⟨[], g, groups, rfl, hrule, if_pos hrule⟩
    · rw [if_neg hrule]
      rcases ih with ⟨hnew, hnoted⟩ | ⟨before, g', after, rfl, hrule', hnoted⟩
      · refine .inl ⟨?_, by rw [hnoted, List.cons_append]⟩
        rw [List.map_cons, List.mem_cons, not_or]
        exact ⟨Ne.symm hrule, hnew⟩
      · exact .inr ⟨g :: before, g', after, rfl, hrule', by rw [hnoted, List.cons_append]⟩

/-- Groups tell the findings that have been passed. -/
structure Grouped (source : Option Snippet.Source) (findings : List Finding)
    (groups : List FindingGroup) : Prop where
  /-- No rule has two groups. -/
  nodup : (groups.map ruleId).Nodup
  /-- The rules with a group are those of the findings. -/
  rules : ∀ id, id ∈ groups.map ruleId ↔ id ∈ findings.map Finding.ruleId
  /-- Each group is made from the findings of its rule. -/
  gathers : ∀ g ∈ groups, g.Gathers source findings

theorem grouped_nil (source : Option Snippet.Source) : Grouped source [] [] :=
  ⟨List.nodup_nil, fun _ => Iff.rfl, List.forall_mem_nil _⟩

/-- One more finding in a step. -/
theorem Grouped.noteIn (h : Grouped source findings groups) (f : Finding) :
    Grouped source (findings ++ [f]) (noteIn groups f (Report.placeOf source f)) := by
  rcases noteIn_cases groups f (Report.placeOf source f) with
    ⟨hnew, hnoted⟩ | ⟨before, g, after, rfl, hrule, hnoted⟩
  · rw [hnoted]
    refine ⟨?_, fun id => ?_, List.forall_mem_append.2 ⟨fun g hg => ?_, ?_⟩⟩
    · rw [List.map_append, List.nodup_append_comm]
      exact List.nodup_cons.2 ⟨hnew, h.nodup⟩
    · rw [List.map_append, List.mem_append, h.rules id, List.map_append, List.mem_append]
      rfl
    · refine (h.gathers g hg).append_other fun hrule => ?_
      exact hnew (hrule ▸ List.mem_map_of_mem hg)
    · exact List.forall_mem_singleton.2 (gathers_opened source (mt (h.rules _).2 hnew))
  · have hrules : (before ++ g.note (Report.placeOf source f) :: after).map ruleId =
        (before ++ g :: after).map ruleId := by
      rw [List.map_append, List.map_append]
      rfl
    have hmem : f.ruleId ∈ findings.map Finding.ruleId := by
      rw [← h.rules, ← hrule]
      exact List.mem_map_of_mem (List.mem_append_right _ List.mem_cons_self)
    -- the other groups have other rules
    have hnodup := h.nodup
    rw [List.map_append, List.map_cons, List.nodup_middle, List.nodup_cons, List.mem_append,
      not_or] at hnodup
    have hother : ∀ g' : FindingGroup, g'.ruleId ≠ g.ruleId → g' ∈ before ++ g :: after →
        g'.Gathers source (findings ++ [f]) := fun g' hne hg' =>
      (h.gathers g' hg').append_other (hrule ▸ hne.symm)
    rw [hnoted]
    refine ⟨hrules ▸ h.nodup, fun id => ?_, ?_⟩
    · rw [hrules, h.rules, List.map_append, List.mem_append, List.map_singleton,
        List.mem_singleton]
      exact ⟨.inl, fun hid => hid.elim (fun hold => hold) fun hlast => hlast ▸ hmem⟩
    · rw [List.forall_mem_append, List.forall_mem_cons]
      refine ⟨fun g' hg' => ?_, ?_, fun g' hg' => ?_⟩
      · refine hother g' (fun heq => hnodup.1.1 (heq ▸ List.mem_map_of_mem hg')) ?_
        exact List.mem_append_left _ hg'
      · exact (h.gathers g (List.mem_append_right _ List.mem_cons_self)).note hrule.symm
      · refine hother g' (fun heq => hnodup.1.2 (heq ▸ List.mem_map_of_mem hg')) ?_
        exact List.mem_append_right _ (List.mem_cons_of_mem _ hg')

end FindingGroup

namespace Report

open FindingGroup (Grouped grouped_nil)

variable {source : Option Snippet.Source} {findings passed : List Finding}
  {gs : List FindingGroup} {g : FindingGroup}

/-! ### The pass over the findings -/

/-- A step notes the place of a finding, unless no file can have its path. -/
theorem run_groupStep (gs : List FindingGroup) (f : Finding) (r : Snippet.Reader) :
    (groupStep gs f).run r = if Snippet.refuses r.source f.file then .error .unnameable
      else .ok (FindingGroup.noteIn gs f (placeOf r.source f), (r.snippet f.file f.line).2) := by
  have hanswer := r.fst_snippet f.file f.line
  change (occurrence f r).bind _ = _
  rw [occurrence]
  cases hrefuses : Snippet.refuses r.source f.file with
  | true =>
    rw [hrefuses, if_pos rfl] at hanswer
    rw [← Prod.mk.eta (p := r.snippet f.file f.line), hanswer]
    rfl
  | false =>
    rw [hrefuses, if_neg Bool.false_ne_true] at hanswer
    rw [← Prod.mk.eta (p := r.snippet f.file f.line), hanswer]
    rfl

/-- A pass breaks off if no file can have the path of some finding. Otherwise its groups tell the
findings that it has passed. -/
theorem run_foldlM_groupStep (hgs : Grouped source passed gs) {r : Snippet.Reader}
    (hr : r.source = source) (findings : List Finding) :
    ((∃ f ∈ findings, Snippet.refuses source f.file = true) ∧
      (findings.foldlM groupStep gs).run r = .error .unnameable) ∨
    ((∀ f ∈ findings, Snippet.refuses source f.file = false) ∧
      ∃ gs' r', (findings.foldlM groupStep gs).run r = .ok (gs', r') ∧ r'.source = source ∧
        Grouped source (passed ++ findings) gs') := by
  induction findings generalizing passed gs r with
  | nil =>
    refine .inr ⟨List.forall_mem_nil _, gs, r, rfl, hr, ?_⟩
    rw [List.append_nil]
    exact hgs
  | cons f findings ih =>
    subst hr
    have hstep := run_groupStep gs f r
    have hrun : ((f :: findings).foldlM groupStep gs).run r =
        ((groupStep gs f).run r).bind fun p => (findings.foldlM groupStep p.1).run p.2 := rfl
    rw [hrun, hstep]
    cases hrefuses : Snippet.refuses r.source f.file with
    | true => exact .inl ⟨⟨f, List.mem_cons_self, hrefuses⟩, rfl⟩
    | false =>
      rw [if_neg Bool.false_ne_true]
      have hrest := ih (hgs.noteIn f) (r.source_snippet f.file f.line)
      rw [List.append_assoc, List.singleton_append] at hrest
      rcases hrest with ⟨⟨f', hf', hbad⟩, herror⟩ | ⟨hall, hok⟩
      · exact .inl ⟨⟨f', List.mem_cons_of_mem _ hf', hbad⟩, herror⟩
      · exact .inr ⟨List.forall_mem_cons.2 ⟨hrefuses, hall⟩, hok⟩

/-- The groups tell each finding once. -/
theorem entries_perm_of_grouped (h : Grouped source findings gs) :
    (gs.flatMap FindingGroup.entries).Perm (findings.map Finding.entry) := by
  have hparts : gs.flatMap FindingGroup.entries =
      ((gs.map FindingGroup.ruleId).flatMap fun ruleId =>
        findings.filter fun f => f.ruleId = ruleId).map Finding.entry := by
    rw [List.flatMap_map, List.map_flatMap]
    exact List.flatMap_congr fun g hg => (h.gathers g hg).entries_eq
  rw [hparts]
  refine (flatMap_filter_perm Finding.ruleId h.nodup ?_).map _
  intro f hf
  exact (h.rules _).2 (List.mem_map_of_mem hf)

/-! ### The order of groups -/

theorem le_iff_sortKey {g h : FindingGroup} : g.le h = true ↔ g.sortKey ≤ h.sortKey := by
  simp only [FindingGroup.sortKey, Prod.Lex.toLex_le_toLex, FindingGroup.le, Confidence.lt_iff]
  split_ifs with hrank hless hmore
  · simp only [decide_eq_true_eq]
    omega
  · simp only [true_iff]
    omega
  · simp only [false_iff]
    omega
  · have heq : -g.confidenceMax.place = -h.confidenceMax.place := by omega
    rw [not_not] at hrank
    simp [hrank, heq]

theorem pairwise_mergeSort_groups (hnodup : (gs.map FindingGroup.ruleId).Nodup) :
    (gs.mergeSort FindingGroup.le).Pairwise fun g h => g.sortKey < h.sortKey := by
  have hle : (gs.mergeSort FindingGroup.le).Pairwise fun g h => g.le h = true := by
    refine List.pairwise_mergeSort ?_ ?_ _
    · intro g h k hgh hhk
      exact le_iff_sortKey.2 (le_trans (le_iff_sortKey.1 hgh) (le_iff_sortKey.1 hhk))
    · intro g h
      rw [Bool.or_eq_true, le_iff_sortKey, le_iff_sortKey]
      exact le_total _ _
  have hperm := (List.mergeSort_perm gs FindingGroup.le).map FindingGroup.ruleId
  have hne := List.pairwise_map.1 (hperm.nodup_iff.2 hnodup)
  refine (hle.and hne).imp fun hboth => lt_of_le_of_ne (le_iff_sortKey.1 hboth.1) fun heq => ?_
  exact hboth.2 (congrArg (fun k => (ofLex (ofLex k).2).2) heq)

/-! ### What a report tells -/

/-- Groups account for findings. -/
structure Accounts (source : Option Snippet.Source) (findings : List Finding)
    (groups : List FindingGroup) : Prop where
  /-- They tell each finding once. -/
  entries : (groups.flatMap FindingGroup.entries).Perm (findings.map Finding.entry)
  /-- Each rule of the findings has one group, and there are no other groups. -/
  once : ∀ ruleId, (groups.map FindingGroup.ruleId).count ruleId =
    if ruleId ∈ findings.map Finding.ruleId then 1 else 0
  /-- Each group is made from the findings of its rule. -/
  gathers : ∀ g ∈ groups, g.Gathers source findings
  /-- They are in order. -/
  ordered : groups.Pairwise fun g h => g.sortKey < h.sortKey

/-- The groups of a pass account for the findings once they are sorted. -/
theorem accounts_mergeSort (h : Grouped source findings gs) :
    Accounts source findings (gs.mergeSort FindingGroup.le) := by
  have hperm := List.mergeSort_perm gs FindingGroup.le
  refine ⟨?_, fun ruleId => ?_, fun g hg => ?_, pairwise_mergeSort_groups h.nodup⟩
  · exact (hperm.flatMap_right _).trans (entries_perm_of_grouped h)
  · rw [(hperm.map FindingGroup.ruleId).count_eq, h.nodup.count]
    simp only [h.rules]
  · exact h.gathers g (hperm.mem_iff.1 hg)

/-- The findings rule by rule: there are none if no file can have the path of some finding, and
otherwise the groups account for the findings. -/
theorem run_groups {r : Snippet.Reader} (hr : r.source = source) (findings : List Finding) :
    ((∃ f ∈ findings, Snippet.refuses source f.file = true) ∧
      (groups findings).run r = .error .unnameable) ∨
    ((∀ f ∈ findings, Snippet.refuses source f.file = false) ∧
      ∃ gs r', (groups findings).run r = .ok (gs, r') ∧ r'.source = source ∧
        Accounts source findings gs) := by
  have hrun : (groups findings).run r = ((findings.foldlM groupStep []).run r).bind fun p =>
      .ok (p.1.mergeSort FindingGroup.le, p.2) := rfl
  rw [hrun]
  rcases run_foldlM_groupStep (grouped_nil source) hr findings with
    ⟨hbad, herror⟩ | ⟨hall, gs, r', hok, hr', hgrouped⟩
  · exact .inl ⟨hbad, by rw [herror]; rfl⟩
  · rw [List.nil_append] at hgrouped
    exact .inr ⟨hall, _, r', by rw [hok]; rfl, hr', accounts_mergeSort hgrouped⟩

/-- As many places are told as there are findings. -/
theorem Accounts.sum_length (h : Accounts source findings gs) :
    (gs.map fun g => g.occurrences.length).sum = findings.length := by
  have hlength := h.entries.length_eq
  simpa [List.length_flatMap, FindingGroup.entries] using hlength

/-- The pass over the issues counts those of each severity. -/
theorem foldl_countStep (count : Severity → Nat) (findings : List Finding) (s : Severity) :
    findings.foldl countStep count s =
      count s + (findings.filter fun f => f.severity = s).length := by
  induction findings generalizing count with
  | nil => rfl
  | cons f findings ih =>
    rw [List.foldl_cons, ih, countStep, List.filter_cons]
    by_cases h : f.severity = s
    · simp only [h, decide_true, if_true, List.length_cons]
      omega
    · simp only [Ne.symm h, h, decide_false, if_false, Bool.false_eq_true]

theorem count_summarize (findings : List Finding) (s : Severity) :
    (summarize findings).count s = (findings.filter fun f => f.severity = s).length := by
  have hcount := foldl_countStep (fun _ => 0) findings s
  rw [Nat.zero_add] at hcount
  exact hcount

/-- Every finding has one of the four severities. -/
theorem sum_count_summarize (findings : List Finding) :
    (Severity.all.map (summarize findings).count).sum = (summarize findings).total := by
  have hall : ∀ f ∈ findings, f.severity ∈ Severity.all := by
    intro f _
    cases f.severity <;> decide
  have hnodup : Severity.all.Nodup := by decide
  have hparts := flatMap_filter_perm Finding.severity hnodup hall
  change _ = findings.length
  rw [← hparts.length_eq, List.length_flatMap]
  exact congrArg List.sum (List.map_congr_left fun s _ => count_summarize findings s)

/-- The report of findings: there is none if no file can have the path of some finding; otherwise
its groups account for the issues and for the inventory. -/
theorem build_cases (about : ReportMeta) (source : Option Snippet.Source)
    (findings : List Finding) (ignored : List IgnoredFinding)
    (baseline : Option Baseline.Comparison) (scannedFiles : List String) :
    ((∃ f ∈ findings, Snippet.refuses source f.file = true) ∧
      build about source findings ignored baseline scannedFiles = .error .unnameable) ∨
    ((∀ f ∈ findings, Snippet.refuses source f.file = false) ∧ ∃ issues inventory,
      build about source findings ignored baseline scannedFiles =
        .ok ⟨about, summarize (findings.filter fun f => ¬f.InInventory), baseline, findings, issues,
          inventory, ignored, scannedFiles⟩ ∧
      Accounts source (findings.filter fun f => ¬f.InInventory) issues ∧
      Accounts source (findings.filter fun f => f.InInventory) inventory) := by
  have hissues : (findings.filter fun f => !f.isInformational) =
      findings.filter fun f => ¬f.InInventory := by
    simp only [Finding.isInformational_eq, decide_not]
  have hinventory : findings.filter Finding.isInformational =
      findings.filter fun f => f.InInventory :=
    List.filter_congr fun f _ => f.isInformational_eq
  rw [build, hissues, hinventory]
  rcases run_groups (r := .new source) rfl (findings.filter fun f => ¬f.InInventory) with
    ⟨⟨f, hf, hbad⟩, herror⟩ | ⟨hall, issues, r, hok, hr, hissues⟩
  · rw [herror]
    exact .inl ⟨⟨f, (List.mem_filter.1 hf).1, hbad⟩, rfl⟩
  · rw [hok]
    rcases run_groups hr (findings.filter fun f => f.InInventory) with
      ⟨⟨f, hf, hbad⟩, herror⟩ | ⟨hall', inventory, r', hok', -, hinventory⟩
    · refine .inl ⟨⟨f, (List.mem_filter.1 hf).1, hbad⟩, ?_⟩
      change ((groups _).run r).bind _ = _
      rw [herror]
      rfl
    · refine .inr ⟨fun f hf => ?_, issues, inventory, ?_, hissues, hinventory⟩
      · by_cases hin : f.InInventory
        · exact hall' f (List.mem_filter.2 ⟨hf, decide_eq_true hin⟩)
        · exact hall f (List.mem_filter.2 ⟨hf, decide_eq_true hin⟩)
      · change ((groups _).run r).bind _ = _
        rw [hok']
        rfl

/-- What a report tells of its findings as a whole, if there is one. -/
theorem of_build_eq_ok {about : ReportMeta} {ignored : List IgnoredFinding}
    {baseline : Option Baseline.Comparison} {scannedFiles : List String} {r : Report}
    (h : build about source findings ignored baseline scannedFiles = .ok r) :
    r.findings = findings ∧ r.baseline = baseline ∧ r.ignored = ignored ∧
      r.summary = summarize (findings.filter fun f => ¬f.InInventory) := by
  rcases build_cases about source findings ignored baseline scannedFiles with
    ⟨-, herror⟩ | ⟨-, issues, inventory, hok, -⟩
  · cases herror.symm.trans h
  · obtain rfl := Except.ok.inj (hok.symm.trans h)
    exact ⟨rfl, rfl, rfl, rfl⟩

/-- Without a source there are no paths to be refused. -/
theorem exists_build_eq_ok (about : ReportMeta) (findings : List Finding)
    (ignored : List IgnoredFinding) (baseline : Option Baseline.Comparison)
    (scannedFiles : List String) :
    ∃ r, build about none findings ignored baseline scannedFiles = .ok r := by
  rcases build_cases about none findings ignored baseline scannedFiles with
    ⟨⟨f, -, hrefused⟩, -⟩ | ⟨-, issues, inventory, hok, -⟩
  · cases hrefused
  · exact ⟨_, hok⟩

/-- **A report accounts for every finding once.** It is made exactly if the path of no finding holds
a null character; such a path is an error. The issues are then told in the groups of the issues and
the inventory in those of the inventory, and the numbers of issues agree with both. -/
theorem build_accounts (about : ReportMeta) (source : Option Snippet.Source)
    (findings : List Finding) (ignored : List IgnoredFinding)
    (baseline : Option Baseline.Comparison) (scannedFiles : List String) :
    let answer := build about source findings ignored baseline scannedFiles
    let issues := findings.filter fun f => ¬ f.InInventory
    ((∃ report, answer = .ok report ∧
        Accounts source issues report.issues ∧
        Accounts source (findings.filter fun f => f.InInventory) report.inventory ∧
        report.summary.total = (Severity.all.map report.summary.count).sum ∧
        report.summary.total = (report.issues.map fun g => g.occurrences.length).sum ∧
        ∀ s, report.summary.count s = (issues.filter fun f => f.severity = s).length) ↔
      ∀ f ∈ findings, Snippet.Openable source f.file) ∧
    (answer = .error .unnameable ↔ ¬∀ f ∈ findings, Snippet.Openable source f.file) := by
  intro answer issues
  simp only [← Snippet.refuses_eq_false_iff]
  rcases build_cases about source findings ignored baseline scannedFiles with
    ⟨⟨f, hf, hbad⟩, herror⟩ | ⟨hall, issueGroups, inventory, hok, hissues, hinventory⟩
  · have hnot : ¬∀ f ∈ findings, Snippet.refuses source f.file = false := fun hall =>
      Bool.false_ne_true ((hall f hf).symm.trans hbad)
    refine ⟨iff_of_false ?_ hnot, iff_of_true herror hnot⟩
    rintro ⟨report, hreport, -⟩
    cases herror.symm.trans hreport
  · refine ⟨iff_of_true ⟨_, hok, hissues, hinventory, ?_, ?_, ?_⟩ hall,
      iff_of_false ?_ (not_not_intro hall)⟩
    · exact (sum_count_summarize issues).symm
    · exact hissues.sum_length.symm
    · exact count_summarize issues
    · intro herror
      cases herror.symm.trans hok

end Report

end LlmAudit
