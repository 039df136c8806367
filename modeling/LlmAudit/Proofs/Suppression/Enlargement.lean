import LlmAudit.Proofs.Suppression.Insertion
import LlmAudit.Proofs.Suppression.Lanes
import LlmAudit.Proofs.Suppression.Matching

/-!
# More directives

What happens to a run when a file gets more directives. No finding that was ignored becomes active
(`Covers.run`): step by step, the directives that the smaller table has left are some of those that
the larger one has left. A finding that was active stays so if none of the new directives suits it
(`Enlarged.mem_active`), since none of them then suits an earlier finding of its lane either. If a
new directive suits an active finding, one more finding is ignored, since an assignment can use it
(`Enlarged.ignored_lt`). So the new directives change nothing for the active findings exactly if
they suit none of them (`Enlarged.active_eq_iff`). Where they stand behind all others of their file,
nothing changes for the ignored findings either (`Appended.run`).
-/

namespace LlmAudit

open Directive

/-! ### Directives that are left -/

/-- The directives that are not consumed, in their order. -/
def Directive.fresh (ds : List Directive) : List Directive :=
  ds.filter fun d => !d.consumed

section

variable {f : Finding} {d : Directive} {ds ds' : List Directive}

theorem Directive.fresh_append (xs ys : List Directive) : fresh (xs ++ ys) = fresh xs ++ fresh ys :=
  List.filter_append ..

theorem Directive.fresh_cons_of_suits (h : d.suits f = true) : fresh (d :: ds) = d :: fresh ds :=
  List.filter_cons_of_pos (by simp [(suits_iff.1 h).1])

theorem consumeFirst_eq_none_iff_fresh :
    consumeFirst f ds = none ↔ ∀ d ∈ fresh ds, d.suits f = false := by
  rw [consumeFirst_eq_none_iff]
  refine ⟨fun h d hd => h d (List.mem_of_mem_filter hd), fun h d hd => ?_⟩
  by_contra hsuits
  have hsuits : d.suits f = true := by simpa using hsuits
  have hfresh : d ∈ fresh ds := List.mem_filter.2 ⟨hd, by simp [(suits_iff.1 hsuits).1]⟩
  exact Bool.false_ne_true ((h d hfresh).symm.trans hsuits)

/-- A finding that is ignored takes the first directive that suits it off those that are left. -/
theorem fresh_of_consumeFirst (h : consumeFirst f ds = some (d, ds')) :
    fresh ds' = (fresh ds).eraseP fun d => d.suits f := by
  obtain ⟨xs, ys, rfl, hxs, hd, rfl⟩ := consumeFirst_eq_some_iff.1 h
  have hspent : fresh (d.spent :: ys) = fresh ys := List.filter_cons_of_neg (by simp [spent])
  have hnone : ∀ x ∈ fresh xs, ¬ x.suits f = true :=
    fun x hx => by simp [hxs x (List.mem_of_mem_filter hx)]
  rw [fresh_append, fresh_append, hspent, fresh_cons_of_suits hd, List.eraseP_append_right _ hnone,
    List.eraseP_cons, hd]
  rfl

end

/-! ### Runs with more directives -/

/-- Under every key, the directives that one table has left are some of those that the other has
left, in their order. -/
def Covers (table table' : Table) : Prop :=
  ∀ key, (fresh (table.get key)).Sublist (fresh (table'.get key))

namespace Covers

variable {table table' : Table} {f : Finding} {d d' : Directive} {ds ds' : List Directive}

/-- A finding that finds a directive in the smaller table finds one in the larger table. -/
theorem consumeFirst_isSome (h : Covers table table')
    (hsome : consumeFirst f (table.get (fileKey f.file)) = some (d, ds)) :
    ∃ d' ds', consumeFirst f (table'.get (fileKey f.file)) = some (d', ds') := by
  cases hc : consumeFirst f (table'.get (fileKey f.file)) with
  | some found => exact ⟨found.1, found.2, rfl⟩
  | none =>
    have hnone : consumeFirst f (table.get (fileKey f.file)) = none :=
      consumeFirst_eq_none_iff_fresh.2 fun d hd =>
        consumeFirst_eq_none_iff_fresh.1 hc d ((h _).subset hd)
    rw [hnone] at hsome
    cases hsome

/-- Both tables after a finding that is ignored with either. -/
theorem set_both (h : Covers table table')
    (hsome : consumeFirst f (table.get (fileKey f.file)) = some (d, ds))
    (hsome' : consumeFirst f (table'.get (fileKey f.file)) = some (d', ds')) :
    Covers (table.set (fileKey f.file) ds) (table'.set (fileKey f.file) ds') := by
  intro key
  by_cases hkey : key = fileKey f.file
  · rw [hkey, Table.get_set_self, Table.get_set_self, fresh_of_consumeFirst hsome,
      fresh_of_consumeFirst hsome']
    exact (h _).eraseP
  · rw [Table.get_set_of_ne table hkey, Table.get_set_of_ne table' hkey]
    exact h key

/-- The larger table after a finding that only it has a directive for. -/
theorem set_right (h : Covers table table')
    (hnone : consumeFirst f (table.get (fileKey f.file)) = none)
    (hsome' : consumeFirst f (table'.get (fileKey f.file)) = some (d', ds')) :
    Covers table (table'.set (fileKey f.file) ds') := by
  intro key
  by_cases hkey : key = fileKey f.file
  · have hkept : (fresh (table.get (fileKey f.file))).eraseP (fun d => d.suits f) =
        fresh (table.get (fileKey f.file)) :=
      List.eraseP_of_forall_not fun d hd => by simp [consumeFirst_eq_none_iff_fresh.1 hnone d hd]
    rw [hkey, Table.get_set_self, fresh_of_consumeFirst hsome', ← hkept]
    exact (h _).eraseP
  · rw [Table.get_set_of_ne table' hkey]
    exact h key

/-- With more directives no further finding is active. -/
theorem run (h : Covers table table') (fs : List Finding) :
    (suppressInOrder table' fs).active.Sublist (suppressInOrder table fs).active := by
  induction fs generalizing table table' with
  | nil => exact List.Sublist.refl []
  | cons f fs ih =>
    cases hc : consumeFirst f (table.get (fileKey f.file)) with
    | some found =>
      obtain ⟨d, ds⟩ := found
      obtain ⟨d', ds', hc'⟩ := h.consumeFirst_isSome hc
      rw [suppressInOrder_cons_of_some hc, suppressInOrder_cons_of_some hc']
      exact ih (h.set_both hc hc')
    | none =>
      rw [suppressInOrder_cons_of_none hc]
      cases hc' : consumeFirst f (table'.get (fileKey f.file)) with
      | none =>
        rw [suppressInOrder_cons_of_none hc']
        exact (ih h).cons_cons f
      | some found' =>
        obtain ⟨d', ds'⟩ := found'
        rw [suppressInOrder_cons_of_some hc']
        exact (ih (h.set_right hc hc')).cons f

end Covers

/-! ### Places after new directives -/

/-- Where a place goes when `n` directives are put in before the index `i` of a key. -/
def Slot.moved (key : String) (i n : Nat) (s : Slot) : Slot :=
  if s.key = key ∧ i ≤ s.index then ⟨s.key, s.index + n⟩ else s

namespace Slot

variable {key : String} {i n : Nat}

theorem key_moved (s : Slot) : (s.moved key i n).key = s.key := by
  rw [moved]
  split <;> rfl

theorem moved_injective : Function.Injective (moved key i n) := by
  rintro ⟨k, a⟩ ⟨k', b⟩ h
  have hkey := congrArg Slot.key h
  rw [key_moved, key_moved] at hkey
  subst hkey
  simp only [moved] at h
  split at h <;> split at h <;> simp_all <;> omega

/-- No place goes to where the new directives are. -/
theorem moved_ne (s : Slot) {j : Nat} (hle : i ≤ j) (hlt : j < i + n) :
    s.moved key i n ≠ ⟨key, j⟩ := by
  intro h
  rw [moved] at h
  split at h
  · rename_i hmoved
    have hindex := congrArg Slot.index h
    dsimp only at hindex
    omega
  · rename_i hkept
    subst h
    exact hkept ⟨rfl, hle⟩

end Slot

/-! ### New directives in one file -/

/-- `table'` is `table` with some directives, next to each other, among those of `key`. -/
structure Enlarged (key : String) (extra : List Directive) (table table' : Table) : Prop where
  /-- Under the key, one list is the other with the directives in it. -/
  here : ∃ xs ys, table.get key = xs ++ ys ∧ table'.get key = xs ++ (extra ++ ys)
  /-- Under every other key the directives are the same. -/
  elsewhere : ∀ other, other ≠ key → table'.get other = table.get other

theorem length_active_add_ignored (table : Table) (fs : List Finding) :
    (suppressInOrder table fs).active.length + (suppressInOrder table fs).ignored.length =
      fs.length := by
  induction fs generalizing table with
  | nil => rfl
  | cons f fs ih =>
    cases hc : consumeFirst f (table.get (fileKey f.file)) with
    | none =>
      rw [suppressInOrder_cons_of_none hc]
      simp only [List.length_cons, ← ih table]
      omega
    | some found =>
      obtain ⟨d, ds⟩ := found
      rw [suppressInOrder_cons_of_some hc]
      simp only [List.length_cons, ← ih (table.set (fileKey f.file) ds)]
      omega

/-- A finding that is active finds no directive when its turn comes. -/
theorem exists_turn_of_mem_active {table : Table} {fs : List Finding} {f : Finding}
    (h : f ∈ (suppressInOrder table fs).active) :
    ∃ as bs, fs = as ++ f :: bs ∧
      consumeFirst f ((suppressInOrder table as).table.get (fileKey f.file)) = none := by
  induction fs generalizing table with
  | nil => exact absurd h List.not_mem_nil
  | cons g fs ih =>
    cases hc : consumeFirst g (table.get (fileKey g.file)) with
    | none =>
      rw [suppressInOrder_cons_of_none hc] at h
      rcases List.mem_cons.1 h with rfl | h
      · exact ⟨[], fs, rfl, hc⟩
      · obtain ⟨as, bs, rfl, hnone⟩ := ih h
        refine ⟨g :: as, bs, rfl, ?_⟩
        rwa [suppressInOrder_cons_of_none hc]
    | some found =>
      obtain ⟨d, ds⟩ := found
      rw [suppressInOrder_cons_of_some hc] at h
      obtain ⟨as, bs, rfl, hnone⟩ := ih h
      refine ⟨g :: as, bs, rfl, ?_⟩
      rwa [suppressInOrder_cons_of_some hc]

namespace Enlarged

variable {key : String} {extra : List Directive} {table table' : Table} {fs : List Finding}
  {f : Finding}

theorem covers (h : Enlarged key extra table table') : Covers table table' := by
  intro k
  by_cases hk : k = key
  · obtain ⟨xs, ys, hget, hget'⟩ := h.here
    rw [hk, hget, hget', fresh_append, fresh_append, fresh_append]
    exact (List.Sublist.refl _).append (List.sublist_append_right _ _)
  · rw [h.elsewhere k hk]

/-- The old directives are where their places have gone. -/
theorem at?_moved (h : Enlarged key extra table table') {xs ys : List Directive}
    (hget : table.get key = xs ++ ys) (hget' : table'.get key = xs ++ (extra ++ ys)) (s : Slot) :
    table'.at? (s.moved key xs.length extra.length) = table.at? s := by
  rw [Table.at?, Table.at?, Slot.key_moved, Slot.moved]
  by_cases hkey : s.key = key
  · rw [hkey, hget, hget']
    by_cases hle : xs.length ≤ s.index
    · rw [if_pos ⟨rfl, hle⟩, List.getElem?_append_right (by dsimp only; omega),
        List.getElem?_append_right (by dsimp only; omega), List.getElem?_append_right hle]
      congr 1
      dsimp only
      omega
    · rw [if_neg fun hmoved => hle hmoved.2, List.getElem?_append_left (by omega),
        List.getElem?_append_left (by omega)]
  · rw [if_neg fun hmoved => hkey hmoved.1, h.elsewhere _ hkey]

/-- A run over findings that no new directive suits leaves the same findings active. -/
theorem run (h : Enlarged key extra table table')
    (hfs : ∀ f ∈ fs, fileKey f.file = key → ∀ d ∈ extra, d.suits f = false) :
    (suppressInOrder table' fs).active = (suppressInOrder table fs).active := by
  induction extra generalizing table with
  | nil =>
    have hagree : AgreeOn (fun _ => true) table table' := by
      intro l _
      obtain ⟨xs, ys, hget, hget'⟩ := h.here
      by_cases hl : l.file = key
      · rw [Table.lane, Table.lane, hl, hget, hget', List.nil_append]
      · rw [Table.lane, Table.lane, h.elsewhere _ hl]
    simpa using (hagree.run fs).1
  | cons d extra ih =>
    obtain ⟨xs, ys, hget, hget'⟩ := h.here
    have hone : Inserted key d table (table.set key (xs ++ d :: ys)) := .of_split hget
    have hmore : Enlarged key extra (table.set key (xs ++ d :: ys)) table' := by
      refine ⟨⟨xs ++ [d], ys, by simp, by simp [hget']⟩, fun other hother => ?_⟩
      rw [h.elsewhere other hother, Table.get_set_of_ne table hother]
    rw [ih hmore fun f hf hkey e he => hfs f hf hkey e (List.mem_cons_of_mem d he)]
    exact (hone.run fun f hf hkey => hfs f hf hkey d List.mem_cons_self).1

/-- An active finding that no new directive suits stays active. -/
theorem mem_active (h : Enlarged key extra table table')
    (hsorted : fs.Pairwise fun f g => f.placeLe g = true)
    (hf : f ∈ (suppressInOrder table fs).active)
    (hsuits : fileKey f.file = key → ∀ d ∈ extra, d.suits f = false) :
    f ∈ (suppressInOrder table' fs).active := by
  -- the lane of the finding decides, and there only what comes up to it
  have hlane := ((AgreeOn.refl (fun l => decide (l = f.lane)) table).run fs).1
  have hlane' := ((AgreeOn.refl (fun l => decide (l = f.lane)) table').run fs).1
  have hown : f ∈ (suppressInOrder table (fs.filter fun g => decide (g.lane = f.lane))).active := by
    rw [hlane]
    exact List.mem_filter.2 ⟨hf, decide_eq_true rfl⟩
  suffices hown' : f ∈ (suppressInOrder table'
      (fs.filter fun g => decide (g.lane = f.lane))).active by
    rw [hlane'] at hown'
    exact List.mem_of_mem_filter hown'
  have hin : ∀ g ∈ fs.filter fun g => decide (g.lane = f.lane), g.lane = f.lane :=
    fun g hg => of_decide_eq_true (List.mem_filter.1 hg).2
  have hsorted' := hsorted.filter fun g => decide (g.lane = f.lane)
  obtain ⟨as, bs, hsplit, hturn⟩ := exists_turn_of_mem_active hown
  rw [hsplit] at hin hsorted' ⊢
  have hnone : ∀ g ∈ as ++ [f], fileKey g.file = key → ∀ d ∈ extra, d.suits g = false := by
    intro g hg hkey d hd
    have hgf : g.lane = f.lane ∧ g.line ≤ f.line := by
      rcases List.mem_append.1 hg with hg | hg
      · have hlane := hin g (List.mem_append_left _ hg)
        have hle := (List.pairwise_append.1 hsorted').2.2 g hg f List.mem_cons_self
        exact ⟨hlane, Finding.line_le_of_placeLe hle (congrArg Lane.file hlane)⟩
      · rw [List.mem_singleton.1 hg]
        exact ⟨rfl, le_refl _⟩
    by_contra hdg
    obtain ⟨hfresh, hrule, hline⟩ := suits_iff.1 (by simpa using hdg : d.suits g = true)
    have hkey' : fileKey f.file = key := (congrArg Lane.file hgf.1).symm.trans hkey
    have hrule' : d.ruleId = f.ruleId := hrule.trans (congrArg Lane.ruleId hgf.1)
    have hdf := suits_iff.2 ⟨hfresh, hrule', lt_of_lt_of_le hline hgf.2⟩
    exact Bool.false_ne_true ((hsuits hkey' d hd).symm.trans hdf)
  have hactive : f ∈ (suppressInOrder table (as ++ [f])).active := by
    rw [suppressInOrder_append, suppressInOrder_cons_of_none hturn]
    exact List.mem_append_right _ List.mem_cons_self
  rw [← h.run hnone] at hactive
  have happend : as ++ f :: bs = (as ++ [f]) ++ bs := by simp
  rw [happend, suppressInOrder_append]
  exact List.mem_append_left _ hactive

/-- An assignment can be extended by one more finding that a new directive suits. -/
theorem exists_assignment (h : Enlarged key extra table table') (a : Assignment table fs)
    (hkey : fileKey f.file = key) {d : Directive} (hd : d ∈ extra) (hsuits : d.suits f = true) :
    ∃ b : Assignment table' (f :: fs), b.size = a.size + 1 := by
  obtain ⟨xs, ys, hget, hget'⟩ := h.here
  obtain ⟨j, hj⟩ := List.mem_iff_getElem?.1 hd
  have hlt : j < extra.length := (List.getElem?_eq_some_iff.1 hj).1
  have hnew : table'.at? ⟨key, xs.length + j⟩ = some d := by
    rw [Table.at?, hget', List.getElem?_append_right (by dsimp only; omega),
      List.getElem?_append_left (by dsimp only; omega), ← hj]
    congr 1
    dsimp only
    omega
  let pairs := a.pairs.map fun p => (p.1, p.2.moved key xs.length extra.length)
  have hfst : pairs.map Prod.fst = a.pairs.map Prod.fst := by simp [pairs]
  have hsnd : pairs.map Prod.snd =
      (a.pairs.map Prod.snd).map (Slot.moved key xs.length extra.length) := by simp [pairs]
  refine ⟨⟨(f, ⟨key, xs.length + j⟩) :: pairs, ?_, ?_, ?_⟩, ?_⟩
  · rw [List.map_cons, hfst]
    exact (List.subperm_cons f).2 a.subperm
  · rw [List.map_cons, hsnd, List.nodup_cons]
    refine ⟨fun hmem => ?_, a.nodup.map Slot.moved_injective⟩
    obtain ⟨s, -, hs⟩ := List.mem_map.1 hmem
    exact s.moved_ne (by omega) (by omega) hs
  · intro p hp
    rcases List.mem_cons.1 hp with rfl | hp
    · exact ⟨hkey.symm, d, hnew, hsuits⟩
    · obtain ⟨q, hq, rfl⟩ := List.mem_map.1 hp
      obtain ⟨hfile, e, hat, he⟩ := a.fits q hq
      exact ⟨(Slot.key_moved q.2).trans hfile, e, (h.at?_moved hget hget' q.2).trans hat, he⟩
  · simp [Assignment.size, pairs]

/-- If a new directive suits an active finding, more findings are ignored. -/
theorem ignored_lt (h : Enlarged key extra table table')
    (hsorted : fs.Pairwise fun f g => f.placeLe g = true)
    (hf : f ∈ (suppressInOrder table fs).active) (hkey : fileKey f.file = key) {d : Directive}
    (hd : d ∈ extra) (hsuits : d.suits f = true) :
    (suppressInOrder table fs).ignored.length < (suppressInOrder table' fs).ignored.length := by
  obtain ⟨as, bs, rfl, hturn⟩ := exists_turn_of_mem_active hf
  -- the other findings alone have the same directives
  have hignored : (suppressInOrder table (as ++ f :: bs)).ignored =
      (suppressInOrder table (as ++ bs)).ignored := by
    rw [suppressInOrder_append, suppressInOrder_append, suppressInOrder_cons_of_none hturn]
  obtain ⟨a, ha⟩ := exists_assignment_of_run table (as ++ bs)
  obtain ⟨b, hb⟩ := h.exists_assignment a hkey hd hsuits
  have hsize : b.size ≤ _ := (b.ofPerm List.perm_middle.symm).size_le hsorted
  rw [hignored, ← ha]
  omega

/-- The active findings stay as they are exactly if the new directives suit none of them. -/
theorem active_eq_iff (h : Enlarged key extra table table')
    (hsorted : fs.Pairwise fun f g => f.placeLe g = true) (hnodup : fs.Nodup) :
    (suppressInOrder table' fs).active = (suppressInOrder table fs).active ↔
      ∀ f ∈ (suppressInOrder table fs).active, fileKey f.file = key →
        ∀ d ∈ extra, d.suits f = false := by
  constructor
  · intro heq f hf hkey d hd
    by_contra hsuits
    have hlt := h.ignored_lt hsorted hf hkey hd (by simpa using hsuits)
    have hsum := length_active_add_ignored table fs
    have hsum' := length_active_add_ignored table' fs
    rw [heq] at hsum'
    omega
  · intro hnone
    have hsub : (suppressInOrder table fs).active.Subperm (suppressInOrder table' fs).active :=
      (hnodup.sublist (active_sublist table fs)).subperm fun f hf =>
        h.mem_active hsorted hf (hnone f hf)
    exact (h.covers.run fs).eq_of_length_le hsub.length_le

end Enlarged

/-! ### New directives behind all others -/

/-- `table'` is `table` with some directives behind those of `key`. -/
structure Appended (key : String) (extra : List Directive) (table table' : Table) : Prop where
  /-- Under the key, the directives come last. -/
  here : table'.get key = table.get key ++ extra
  /-- Under every other key the directives are the same. -/
  elsewhere : ∀ other, other ≠ key → table'.get other = table.get other

namespace Appended

variable {key : String} {extra : List Directive} {table table' : Table} {fs : List Finding}
  {f : Finding} {d : Directive} {ds : List Directive}

/-- A finding that is ignored takes the same directive with the new ones behind. -/
theorem step (h : Appended key extra table table')
    (hsome : consumeFirst f (table.get (fileKey f.file)) = some (d, ds)) :
    ∃ ds', consumeFirst f (table'.get (fileKey f.file)) = some (d, ds') ∧
      Appended key extra (table.set (fileKey f.file) ds) (table'.set (fileKey f.file) ds') := by
  by_cases hkey : fileKey f.file = key
  · refine ⟨ds ++ extra, ?_, ⟨by simp [hkey], fun other hother => ?_⟩⟩
    · rw [hkey] at hsome
      rw [hkey, h.here, consumeFirst_append, hsome]
    · rw [hkey, Table.get_set_of_ne table hother, Table.get_set_of_ne table' hother,
        h.elsewhere other hother]
  · refine ⟨ds, by rwa [h.elsewhere _ hkey], ⟨?_, fun other hother => ?_⟩⟩
    · rw [Table.get_set_of_ne table (Ne.symm hkey), Table.get_set_of_ne table' (Ne.symm hkey),
        h.here]
    · by_cases hown : other = fileKey f.file
      · rw [hown, Table.get_set_self, Table.get_set_self]
      · rw [Table.get_set_of_ne table hown, Table.get_set_of_ne table' hown,
          h.elsewhere other hother]

/-- Directives behind all others that suit no active finding are not used, and change nothing. -/
theorem run (h : Appended key extra table table')
    (hnone : ∀ f ∈ (suppressInOrder table fs).active, fileKey f.file = key →
      ∀ d ∈ extra, d.suits f = false) :
    (suppressInOrder table' fs).ignored = (suppressInOrder table fs).ignored := by
  induction fs generalizing table table' with
  | nil => rfl
  | cons f fs ih =>
    cases hc : consumeFirst f (table.get (fileKey f.file)) with
    | some found =>
      obtain ⟨d, ds⟩ := found
      obtain ⟨ds', hc', hset⟩ := h.step hc
      rw [suppressInOrder_cons_of_some hc] at hnone ⊢
      rw [suppressInOrder_cons_of_some hc']
      exact congrArg (List.cons _) (ih hset hnone)
    | none =>
      rw [suppressInOrder_cons_of_none hc] at hnone ⊢
      rw [List.forall_mem_cons] at hnone
      have hc' : consumeFirst f (table'.get (fileKey f.file)) = none := by
        rw [consumeFirst_eq_none_iff] at hc ⊢
        by_cases hkey : fileKey f.file = key
        · rw [hkey] at hc
          rw [hkey, h.here, List.forall_mem_append]
          exact ⟨hc, hnone.1 hkey⟩
        · rwa [h.elsewhere _ hkey]
      rw [suppressInOrder_cons_of_none hc']
      exact ih h hnone.2

end Appended

end LlmAudit
