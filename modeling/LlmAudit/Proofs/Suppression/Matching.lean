import LlmAudit.Proofs.Suppression.Basic
import Mathlib.Data.List.Perm.Subperm
import Mathlib.Order.Bounds.Defs

/-!
# Suppression as a matching

Section 4.5 (Ignore-Annotation Resolver) of the specification says that "`k` directives suppress at
most `k` findings".

A run pairs findings with directives. An `Assignment` is any such pairing: each directive is used
once, and suits its finding in the table as it was given. The pairs that a run makes are an
assignment (`exists_assignment_of_run`), and no assignment is larger (`Assignment.size_le`). The
second holds because the findings are taken by place: what suits a finding also suits every later
one that shares a directive with it, so an assignment can be changed until it uses the directive
that the run takes, at the cost of one pair (`exists_exchange`).
-/

namespace LlmAudit

open Directive

/-- A place in a table. -/
structure Slot where
  /-- The file key. -/
  key : String
  /-- The number of directives before it under that key. -/
  index : Nat
  deriving DecidableEq

/-- The directive at a place. -/
def Directive.Table.at? (table : Table) (s : Slot) : Option Directive :=
  (table.get s.key)[s.index]?

/-- The directive at a place can suppress a finding: it stands under the key of the finding's file
and suits it. -/
def Slot.Fits (table : Table) (f : Finding) (s : Slot) : Prop :=
  s.key = fileKey f.file ∧ ∃ d, table.at? s = some d ∧ d.suits f = true

/-- A choice of directives for some findings. -/
structure Assignment (table : Table) (findings : List Finding) where
  /-- The findings that have a directive, and where it stands. -/
  pairs : List (Finding × Slot)
  /-- Each finding is used at most as often as it is given. -/
  subperm : (pairs.map Prod.fst).Subperm findings
  /-- No directive is used twice. -/
  nodup : (pairs.map Prod.snd).Nodup
  /-- Each directive can suppress its finding. -/
  fits : ∀ p ∈ pairs, p.2.Fits table p.1

/-- The number of findings that have a directive. -/
def Assignment.size {table : Table} {findings : List Finding} (a : Assignment table findings) :
    Nat :=
  a.pairs.length

/-! ### What one finding consumes -/

/-- From `table` to `table'` the directive `d` at `s` is used for `f`, and nothing else happens. -/
structure Spends (f : Finding) (d : Directive) (s : Slot) (table table' : Table) : Prop where
  /-- The place is under the key of the finding's file. -/
  key : s.key = fileKey f.file
  /-- The directive stands there. -/
  before : table.at? s = some d
  /-- It can suppress the finding. -/
  suits : d.suits f = true
  /-- Afterwards it is used. -/
  after : table'.at? s = some d.spent
  /-- No other place changes. -/
  elsewhere : ∀ s' ≠ s, table'.at? s' = table.at? s'

theorem Spends.fits {f : Finding} {d : Directive} {s : Slot} {table table' : Table}
    (h : Spends f d s table table') : s.Fits table f :=
  ⟨h.key, d, h.before, h.suits⟩

/-- A finding that is ignored uses the directive at one place. -/
theorem exists_spends_of_consumeFirst {table : Table} {f : Finding} {d : Directive}
    {ds : List Directive} (h : consumeFirst f (table.get (fileKey f.file)) = some (d, ds)) :
    ∃ s, Spends f d s table (table.set (fileKey f.file) ds) := by
  obtain ⟨xs, ys, hget, -, hd, rfl⟩ := consumeFirst_eq_some_iff.1 h
  refine ⟨⟨fileKey f.file, xs.length⟩, rfl, ?_, hd, ?_, ?_⟩
  · simp [Table.at?, hget]
  · simp [Table.at?]
  · rintro ⟨key, index⟩ hne
    by_cases hk : key = fileKey f.file
    · subst hk
      have hi : index ≠ xs.length := fun hi => hne (by rw [hi])
      rw [Table.at?, Table.at?, Table.get_set_self, hget]
      rcases Nat.lt_or_gt_of_ne hi with hlt | hgt
      · rw [List.getElem?_append_left hlt, List.getElem?_append_left hlt]
      · rw [List.getElem?_append_right hgt.le, List.getElem?_append_right hgt.le]
        obtain ⟨j, hj⟩ : ∃ j, index - xs.length = j + 1 := ⟨index - xs.length - 1, by omega⟩
        rw [hj, List.getElem?_cons_succ, List.getElem?_cons_succ]
    · rw [Table.at?, Table.at?, Table.get_set_of_ne table hk]

theorem mem_get_iff {table : Table} {key : String} {d : Directive} :
    d ∈ table.get key ↔ ∃ index, table.at? ⟨key, index⟩ = some d :=
  List.mem_iff_getElem?

/-- A run only spends directives: one that still suits some finding was there from the start. -/
theorem at?_of_at?_run {table : Table} {fs : List Finding} {s : Slot} {d : Directive} {f : Finding}
    (h : (suppressInOrder table fs).table.at? s = some d) (hd : d.suits f = true) :
    table.at? s = some d := by
  induction fs generalizing table with
  | nil => exact h
  | cons g fs ih =>
    cases hc : consumeFirst g (table.get (fileKey g.file)) with
    | none =>
      rw [suppressInOrder_cons_of_none hc] at h
      exact ih h
    | some found =>
      obtain ⟨m, ds⟩ := found
      rw [suppressInOrder_cons_of_some hc] at h
      obtain ⟨s', hs'⟩ := exists_spends_of_consumeFirst hc
      have hset := ih h
      by_cases hs : s = s'
      · rw [hs, hs'.after, Option.some.injEq] at hset
        rw [← hset, suits_spent] at hd
        cases hd
      · rw [← hs'.elsewhere s hs, hset]

/-- When a run ends, no directive that could still suppress an active finding is left. -/
theorem suits_eq_false_of_active {table : Table} {fs : List Finding} {f : Finding}
    (hf : f ∈ (suppressInOrder table fs).active) {d : Directive}
    (hd : d ∈ (suppressInOrder table fs).table.get (fileKey f.file)) : d.suits f = false := by
  induction fs generalizing table with
  | nil => simp [suppressInOrder] at hf
  | cons g fs ih =>
    cases hc : consumeFirst g (table.get (fileKey g.file)) with
    | none =>
      rw [suppressInOrder_cons_of_none hc] at hf hd
      rcases List.mem_cons.1 hf with rfl | hf
      · by_contra hsuits
        have hsuits : d.suits f = true := by simpa using hsuits
        obtain ⟨index, hat⟩ := mem_get_iff.1 hd
        have hmem := mem_get_iff.2 ⟨index, at?_of_at?_run hat hsuits⟩
        rw [consumeFirst_eq_none_iff.1 hc d hmem] at hsuits
        cases hsuits
      · exact ih hf hd
    | some found =>
      obtain ⟨m, ds⟩ := found
      rw [suppressInOrder_cons_of_some hc] at hf hd
      exact ih hf hd

/-! ### The run is an assignment -/

/-- A place that fits after a directive is spent is another place, and fitted before. -/
theorem Slot.Fits.of_spends {table table' : Table} {s s' : Slot} {d : Directive} {f g : Finding}
    (hs : Spends g d s table table') (h : s'.Fits table' f) : s' ≠ s ∧ s'.Fits table f := by
  obtain ⟨hkey, d', hat, hsuits⟩ := h
  have hne : s' ≠ s := by
    rintro rfl
    rw [hs.after, Option.some.injEq] at hat
    rw [← hat, suits_spent] at hsuits
    cases hsuits
  exact ⟨hne, hkey, d', (hs.elsewhere s' hne).symm.trans hat, hsuits⟩

theorem exists_assignment_of_run (table : Table) (fs : List Finding) :
    ∃ a : Assignment table fs, a.size = (suppressInOrder table fs).ignored.length := by
  induction fs generalizing table with
  | nil => exact ⟨⟨[], .refl _, by simp, by simp⟩, rfl⟩
  | cons f fs ih =>
    cases hc : consumeFirst f (table.get (fileKey f.file)) with
    | none =>
      obtain ⟨a, ha⟩ := ih table
      rw [suppressInOrder_cons_of_none hc]
      exact ⟨⟨a.pairs, a.subperm.cons_right f, a.nodup, a.fits⟩, ha⟩
    | some found =>
      obtain ⟨d, ds⟩ := found
      obtain ⟨a, ha⟩ := ih (table.set (fileKey f.file) ds)
      obtain ⟨s, hs⟩ := exists_spends_of_consumeFirst hc
      have hfits : ∀ p ∈ a.pairs, p.2 ≠ s ∧ p.2.Fits table p.1 :=
        fun p hp => (a.fits p hp).of_spends hs
      have hunused : s ∉ a.pairs.map Prod.snd := by
        intro hmem
        obtain ⟨p, hp, hps⟩ := List.mem_map.1 hmem
        exact (hfits p hp).1 hps
      rw [suppressInOrder_cons_of_some hc]
      refine ⟨⟨(f, s) :: a.pairs, ?_, ?_, ?_⟩, ?_⟩
      · exact (List.subperm_cons f).2 a.subperm
      · exact List.nodup_cons.2 ⟨hunused, a.nodup⟩
      · intro p hp
        rcases List.mem_cons.1 hp with rfl | hp
        · exact hs.fits
        · exact (hfits p hp).2
      · exact congrArg (· + 1) ha

/-! ### No assignment is larger -/

/-- The same pairs for a permutation of the findings. -/
def Assignment.ofPerm {table : Table} {fs gs : List Finding} (h : fs.Perm gs)
    (a : Assignment table fs) : Assignment table gs :=
  ⟨a.pairs, a.subperm.trans h.subperm, a.nodup, a.fits⟩

theorem subperm_of_not_mem {f : Finding} {l fs : List Finding} (h : l.Subperm (f :: fs))
    (hf : f ∉ l) : l.Subperm fs := by
  have := h.erase f
  rwa [List.erase_of_not_mem hf, List.erase_cons_head] at this

/-- What suits a finding suits a later one, if the two share a directive. -/
theorem Slot.Fits.later {table : Table} {f g : Finding} {s s' : Slot} (hs' : s'.Fits table f)
    (hf : s.Fits table f) (hg : s.Fits table g) (hle : f.placeLe g = true) : s'.Fits table g := by
  obtain ⟨hkey', d', hat', hsuits'⟩ := hs'
  obtain ⟨hkf, d, hat, hdf⟩ := hf
  obtain ⟨hkg, e, hat'', hdg⟩ := hg
  rw [hat, Option.some.injEq] at hat''
  subst hat''
  have hfile : fileKey f.file = fileKey g.file := hkf.symm.trans hkg
  have hline : f.line ≤ g.line := Finding.line_le_of_placeLe hle hfile
  rw [suits_iff] at hsuits' hdf hdg
  refine ⟨hkey'.trans hfile, d', hat', suits_iff.2 ⟨hsuits'.1, ?_, ?_⟩⟩
  · rw [hsuits'.2.1, ← hdf.2.1, hdg.2.1]
  · exact lt_of_lt_of_le hsuits'.2.2 hline

/-- An assignment that does not use the place `s` has at most one pair to give up: that of the
finding itself. -/
theorem exists_exchange_of_unused {table : Table} {f : Finding} {fs : List Finding} {s : Slot}
    (a : Assignment table (f :: fs)) (hunused : s ∉ a.pairs.map Prod.snd) :
    ∃ b : Assignment table fs, s ∉ b.pairs.map Prod.snd ∧ a.size ≤ b.size + 1 := by
  obtain ⟨pairs, hsub, hnodup, hfits⟩ := a
  by_cases hf : f ∈ pairs.map Prod.fst
  · obtain ⟨⟨f₀, s'⟩, hq, rfl⟩ := List.mem_map.1 hf
    obtain ⟨rest, hperm⟩ : ∃ rest, pairs.Perm ((f₀, s') :: rest) := ⟨_, List.perm_cons_erase hq⟩
    have hsub' : (rest.map Prod.fst).Subperm fs :=
      (List.subperm_cons f₀).1 ((hperm.map Prod.fst).symm.subperm.trans hsub)
    have hnodup' := (List.nodup_cons.1 ((hperm.map Prod.snd).nodup_iff.1 hnodup)).2
    refine ⟨⟨rest, hsub', hnodup', ?_⟩, ?_, hperm.length_eq.le⟩
    · exact fun p hp => hfits p (hperm.mem_iff.2 (List.mem_cons_of_mem _ hp))
    · exact fun hmem => hunused ((hperm.map Prod.snd).mem_iff.2 (List.mem_cons_of_mem _ hmem))
  · exact ⟨⟨pairs, subperm_of_not_mem hsub hf, hnodup, hfits⟩, hunused, Nat.le_succ _⟩

/-- An assignment that gives up a finding which comes first, and the place `s` that fits it, loses
one pair at most: if another finding uses the place, that one can have the place of the first. -/
theorem exists_exchange {table : Table} {f : Finding} {fs : List Finding}
    (hfirst : ∀ g ∈ fs, f.placeLe g = true) {s : Slot} (hs : s.Fits table f)
    (a : Assignment table (f :: fs)) :
    ∃ b : Assignment table fs, s ∉ b.pairs.map Prod.snd ∧ a.size ≤ b.size + 1 := by
  by_cases hused : s ∉ a.pairs.map Prod.snd
  · exact exists_exchange_of_unused a hused
  obtain ⟨pairs, hsub, hnodup, hfits⟩ := a
  obtain ⟨⟨g, s₀⟩, hp, rfl⟩ := List.mem_map.1 (not_not.1 hused)
  obtain ⟨rest, hperm⟩ : ∃ rest, pairs.Perm ((g, s₀) :: rest) := ⟨_, List.perm_cons_erase hp⟩
  have hsub' : (g :: rest.map Prod.fst).Subperm (f :: fs) :=
    (hperm.map Prod.fst).symm.subperm.trans hsub
  obtain ⟨hfree, hnodup'⟩ := List.nodup_cons.1 ((hperm.map Prod.snd).nodup_iff.1 hnodup)
  have hg : s₀.Fits table g := hfits _ hp
  have hrest : ∀ p ∈ rest, p.2.Fits table p.1 :=
    fun p hp => hfits p (hperm.mem_iff.2 (List.mem_cons_of_mem _ hp))
  have hlen : pairs.length = rest.length + 1 := hperm.length_eq
  by_cases hgf : g = f
  · -- the finding itself uses the place
    subst hgf
    exact ⟨⟨rest, (List.subperm_cons g).1 hsub', hnodup', hrest⟩, hfree, hlen.le⟩
  by_cases hf : f ∈ rest.map Prod.fst
  · -- another finding does, and takes the place of the first instead
    obtain ⟨⟨f₀, s'⟩, hq, rfl⟩ := List.mem_map.1 hf
    obtain ⟨others, hperm'⟩ : ∃ others, rest.Perm ((f₀, s') :: others) :=
      ⟨_, List.perm_cons_erase hq⟩
    have hmoved : (g :: others.map Prod.fst).Subperm fs := by
      refine (List.subperm_cons f₀).1 (List.Subperm.trans ?_ hsub')
      exact ((List.Perm.swap g f₀ _).trans ((hperm'.map Prod.fst).symm.cons g)).subperm
    have hslots : (s' :: others.map Prod.snd).Perm (rest.map Prod.snd) :=
      (hperm'.map Prod.snd).symm
    have hgfs : g ∈ fs := hmoved.subset (List.mem_cons_self ..)
    have hswap : s'.Fits table g := (hrest _ hq).later hs hg (hfirst g hgfs)
    refine ⟨⟨(g, s') :: others, hmoved, hslots.nodup_iff.2 hnodup', ?_⟩, ?_, ?_⟩
    · intro p hp
      rcases List.mem_cons.1 hp with rfl | hp
      · exact hswap
      · exact hrest p (hperm'.mem_iff.2 (List.mem_cons_of_mem _ hp))
    · exact fun hmem => hfree (hslots.mem_iff.1 hmem)
    · exact (hlen.trans (congrArg (· + 1) hperm'.length_eq)).le
  · -- another finding does, and the first has no place to give
    have hnot : f ∉ g :: rest.map Prod.fst := by
      intro hmem
      rcases List.mem_cons.1 hmem with h | h
      · exact hgf h.symm
      · exact hf h
    have hsub'' := (List.sublist_cons_self g _).subperm.trans (subperm_of_not_mem hsub' hnot)
    exact ⟨⟨rest, hsub'', hnodup', hrest⟩, hfree, hlen.le⟩

/-- No assignment of sorted findings is larger than what a run ignores. -/
theorem Assignment.size_le {table : Table} {fs : List Finding}
    (hsorted : fs.Pairwise fun f g => f.placeLe g = true) (a : Assignment table fs) :
    a.size ≤ (suppressInOrder table fs).ignored.length := by
  induction fs generalizing table with
  | nil =>
    have : a.pairs = [] := List.map_eq_nil_iff.1 (List.subperm_nil.1 a.subperm)
    simp [size, this]
  | cons f fs ih =>
    obtain ⟨hfirst, hsorted⟩ := List.pairwise_cons.1 hsorted
    cases hc : consumeFirst f (table.get (fileKey f.file)) with
    | none =>
      -- nothing fits the first finding, so the assignment leaves it out
      have hf : f ∉ a.pairs.map Prod.fst := by
        intro hmem
        obtain ⟨⟨f₀, s⟩, hp, rfl⟩ := List.mem_map.1 hmem
        obtain ⟨hkey, d, hat, hsuits⟩ := a.fits _ hp
        have hd : d ∈ table.get (fileKey f₀.file) :=
          mem_get_iff.2 ⟨s.index, by rw [← hkey]; exact hat⟩
        rw [consumeFirst_eq_none_iff.1 hc d hd] at hsuits
        cases hsuits
      rw [suppressInOrder_cons_of_none hc]
      exact ih hsorted ⟨a.pairs, subperm_of_not_mem a.subperm hf, a.nodup, a.fits⟩
    | some found =>
      obtain ⟨d, ds⟩ := found
      obtain ⟨s, hs⟩ := exists_spends_of_consumeFirst hc
      obtain ⟨b, hfree, hsize⟩ := exists_exchange hfirst hs.fits a
      -- without the place that is spent, the assignment is one of the table afterwards
      have hfits : ∀ p ∈ b.pairs, p.2.Fits (table.set (fileKey f.file) ds) p.1 := by
        intro p hp
        obtain ⟨hkey, d', hat, hsuits⟩ := b.fits p hp
        have hne : p.2 ≠ s := fun h => hfree (List.mem_map.2 ⟨p, hp, h⟩)
        exact ⟨hkey, d', (hs.elsewhere p.2 hne).trans hat, hsuits⟩
      have := ih hsorted ⟨b.pairs, b.subperm, b.nodup, hfits⟩
      rw [suppressInOrder_cons_of_some hc]
      exact hsize.trans (Nat.succ_le_succ this)

/-- **Suppression is optimal.** The number of ignored findings is the greatest size of an assignment
of findings to directives of the table as given; and when the run ends, no directive that suits an
active finding is left. -/
theorem ignored_length_isGreatest (table : Table) (findings : List Finding) :
    IsGreatest {n | ∃ a : Assignment table findings, a.size = n}
        (suppress table findings).ignored.length ∧
      ∀ f ∈ (suppress table findings).active,
        ∀ d ∈ (suppress table findings).table.get (fileKey f.file), d.suits f = false := by
  have hperm := Finding.sortByPlace_perm findings
  refine ⟨⟨?_, ?_⟩, fun f hf d hd => suits_eq_false_of_active hf hd⟩
  · obtain ⟨a, ha⟩ := exists_assignment_of_run table (Finding.sortByPlace findings)
    exact ⟨a.ofPerm hperm, ha⟩
  · rintro _ ⟨a, rfl⟩
    exact (a.ofPerm hperm.symm).size_le (Finding.sortByPlace_pairwise findings)

end LlmAudit
