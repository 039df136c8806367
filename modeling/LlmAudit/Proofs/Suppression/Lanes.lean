import LlmAudit.Proofs.Finding.Dedupe
import LlmAudit.Proofs.Finding.Sorting

/-!
# Lanes

The findings of one rule in one file form a lane, and so do the directives for that rule in that
file. A finding looks at the directives of its own lane only (`consumeFirst_ofRule`) and leaves
those of all other lanes alone (`lane_set_of_ne`). Two runs whose tables agree on some lanes
therefore do the same with the findings of these lanes, whatever findings of other lanes come
between them (`AgreeOn.run`); joining and sorting do not mix lanes either
(`AgreeOn.suppress_dedupe`). The directives under a file key come from the files of that key alone
(`get_ofUnits`).
-/

namespace LlmAudit

open Directive

/-- A rule and the key of a file. -/
structure Lane where
  /-- The rule. -/
  ruleId : String
  /-- The key of the file. -/
  file : String
  deriving DecidableEq

/-- The lane of a finding. -/
def Finding.lane (f : Finding) : Lane :=
  ⟨f.ruleId, fileKey f.file⟩

/-- The directives for a rule, in their order. -/
def Directive.ofRule (ruleId : String) (ds : List Directive) : List Directive :=
  ds.filter fun d => d.ruleId == ruleId

/-- The directives of a lane, in their order. -/
def Directive.Table.lane (table : Table) (l : Lane) : List Directive :=
  ofRule l.ruleId (table.get l.file)

variable {f : Finding} {d : Directive} {ds ds' : List Directive} {table table' : Table} {l : Lane}

/-! ### One finding -/

/-- A finding does to the directives for its rule what it does among all directives. -/
theorem consumeFirst_ofRule (f : Finding) (ds : List Directive) :
    consumeFirst f (ofRule f.ruleId ds) =
      (consumeFirst f ds).map fun r => (r.1, ofRule f.ruleId r.2) := by
  induction ds with
  | nil => rfl
  | cons d ds ih =>
    by_cases hrule : d.ruleId = f.ruleId
    · by_cases hsuits : d.suits f = true
      · simp [ofRule, consumeFirst, hrule, hsuits]
      · rw [ofRule] at ih
        simp [ofRule, consumeFirst, hrule, hsuits, ih, Function.comp_def]
    · have hsuits : d.suits f = false := by
        simp [suits, hrule]
      rw [ofRule] at ih
      simp [ofRule, consumeFirst, hrule, hsuits, ih, Function.comp_def]

/-- A finding leaves the directives for other rules alone. -/
theorem ofRule_of_consumeFirst (h : consumeFirst f ds = some (d, ds')) {ruleId : String}
    (hne : ruleId ≠ f.ruleId) : ofRule ruleId ds' = ofRule ruleId ds := by
  obtain ⟨xs, ys, rfl, -, hsuits, rfl⟩ := consumeFirst_eq_some_iff.1 h
  have hrule : d.ruleId ≠ ruleId := by
    rw [(suits_iff.1 hsuits).2.1]
    exact hne.symm
  simp [ofRule, spent, hrule]

namespace Directive.Table

theorem lane_set_self (table : Table) (f : Finding) (ds : List Directive) :
    (table.set (fileKey f.file) ds).lane f.lane = ofRule f.ruleId ds := by
  simp [lane, Finding.lane]

/-- A finding leaves the directives of other lanes alone. -/
theorem lane_set_of_ne (h : consumeFirst f (table.get (fileKey f.file)) = some (d, ds))
    (hne : l ≠ f.lane) : (table.set (fileKey f.file) ds).lane l = table.lane l := by
  by_cases hfile : l.file = fileKey f.file
  · have hrule : l.ruleId ≠ f.ruleId := by
      intro hrule
      exact hne (by rw [Finding.lane, ← hrule, ← hfile])
    rw [lane, lane, hfile, get_set_self, ofRule_of_consumeFirst h hrule]
  · rw [lane, lane, get_set_of_ne table hfile]

end Directive.Table

/-! ### A run -/

/-- Two tables hold the same directives in some lanes. -/
def AgreeOn (p : Lane → Bool) (table table' : Table) : Prop :=
  ∀ l, p l = true → table.lane l = table'.lane l

namespace AgreeOn

variable {p : Lane → Bool}

theorem refl (p : Lane → Bool) (table : Table) : AgreeOn p table table := fun _ _ => rfl

/-- A finding of another lane does not matter. -/
theorem set_left (h : AgreeOn p table table') (hf : ¬ p f.lane = true)
    (hsome : consumeFirst f (table.get (fileKey f.file)) = some (d, ds)) :
    AgreeOn p (table.set (fileKey f.file) ds) table' := by
  intro l hl
  have hne : l ≠ f.lane := fun heq => hf (heq ▸ hl)
  rw [Table.lane_set_of_ne hsome hne, h l hl]

/-- A finding of one of the lanes has the same outcome in both tables, and they still agree. -/
theorem step (h : AgreeOn p table table') (hf : p f.lane = true) :
    (consumeFirst f (table.get (fileKey f.file)) = none ∧
      consumeFirst f (table'.get (fileKey f.file)) = none) ∨
    ∃ m ds ds', consumeFirst f (table.get (fileKey f.file)) = some (m, ds) ∧
      consumeFirst f (table'.get (fileKey f.file)) = some (m, ds') ∧
      AgreeOn p (table.set (fileKey f.file) ds) (table'.set (fileKey f.file) ds') := by
  have hlane := congrArg (consumeFirst f) (h f.lane hf)
  rw [Table.lane, Table.lane, Finding.lane, consumeFirst_ofRule, consumeFirst_ofRule] at hlane
  cases hc : consumeFirst f (table.get (fileKey f.file)) with
  | none =>
    rw [hc, Option.map_none, eq_comm, Option.map_eq_none_iff] at hlane
    exact Or.inl ⟨rfl, hlane⟩
  | some found =>
    obtain ⟨m, ds⟩ := found
    rw [hc, Option.map_some, eq_comm, Option.map_eq_some_iff] at hlane
    obtain ⟨⟨m', ds'⟩, hc', heq⟩ := hlane
    obtain ⟨rfl, hrest⟩ := Prod.mk.injEq .. ▸ heq
    refine Or.inr ⟨m', ds, ds', rfl, hc', fun l hl => ?_⟩
    by_cases hl' : l = f.lane
    · rw [hl', Table.lane_set_self, Table.lane_set_self, hrest]
    · rw [Table.lane_set_of_ne hc hl', Table.lane_set_of_ne hc' hl', h l hl]

/-- A run over the findings of some lanes alone does what a run over all findings does with them. -/
theorem run (h : AgreeOn p table table') (fs : List Finding) :
    (suppressInOrder table' (fs.filter fun f => p f.lane)).active =
        (suppressInOrder table fs).active.filter (fun f => p f.lane) ∧
      (suppressInOrder table' (fs.filter fun f => p f.lane)).ignored =
        (suppressInOrder table fs).ignored.filter fun i => p i.finding.lane := by
  induction fs generalizing table table' with
  | nil => exact ⟨rfl, rfl⟩
  | cons f fs ih =>
    by_cases hf : p f.lane = true
    · rw [List.filter_cons, if_pos hf]
      rcases h.step hf with ⟨hn, hn'⟩ | ⟨m, ds, ds', hs, hs', hset⟩
      · obtain ⟨ha, hi⟩ := ih h
        rw [suppressInOrder_cons_of_none hn, suppressInOrder_cons_of_none hn']
        exact ⟨by rw [List.filter_cons, if_pos hf, ha], hi⟩
      · obtain ⟨ha, hi⟩ := ih hset
        rw [suppressInOrder_cons_of_some hs, suppressInOrder_cons_of_some hs']
        exact ⟨ha, by rw [List.filter_cons, if_pos hf, hi]⟩
    · rw [List.filter_cons, if_neg hf]
      cases hc : consumeFirst f (table.get (fileKey f.file)) with
      | none =>
        obtain ⟨ha, hi⟩ := ih h
        rw [suppressInOrder_cons_of_none hc]
        exact ⟨by rw [List.filter_cons, if_neg hf, ha], hi⟩
      | some found =>
        obtain ⟨m, ds⟩ := found
        obtain ⟨ha, hi⟩ := ih (h.set_left hf hc)
        rw [suppressInOrder_cons_of_some hc]
        exact ⟨ha, by rw [List.filter_cons, if_neg hf, hi]⟩

/-- Joining, sorting and suppressing the findings of some lanes alone gives what it gives of them
among all findings. -/
theorem suppress_dedupe (h : AgreeOn p table table') (raw : List Finding) :
    (suppress table' (Finding.dedupe (raw.filter fun f => p f.lane))).active =
        (suppress table (Finding.dedupe raw)).active.filter (fun f => p f.lane) ∧
      (suppress table' (Finding.dedupe (raw.filter fun f => p f.lane))).ignored =
        (suppress table (Finding.dedupe raw)).ignored.filter fun i => p i.finding.lane := by
  have hkey : ∀ f g : Finding, f.key = g.key → p f.lane = p g.lane := by
    intro f g hfg
    have hlane : f.lane = g.lane := by
      rw [Finding.key, Finding.key, Finding.Key.mk.injEq] at hfg
      rw [Finding.lane, Finding.lane, hfg.1, hfg.2.1]
    rw [hlane]
  rw [suppress, suppress, Finding.dedupe_filter hkey, Finding.sortByPlace_filter]
  exact h.run _

end AgreeOn

/-! ### The directives of source files -/

namespace Directive.Table

theorem get_addUnit (table : Table) (unit : SourceUnit) (key : String) :
    (table.addUnit unit).get key =
      table.get key ++ if fileKey unit.path = key then Directive.parse unit.lines else [] := by
  rw [addUnit]
  split
  · rename_i hnone
    rw [hnone, ite_self, List.append_nil]
  · by_cases hkey : fileKey unit.path = key
    · rw [if_pos hkey, hkey, get_set_self]
    · rw [if_neg hkey, get_set_of_ne table (Ne.symm hkey), List.append_nil]

/-- Under a key stand the directives of the files of that key, file by file. -/
theorem get_ofUnits (units : List SourceUnit) (key : String) :
    (ofUnits units).get key =
      (units.filter fun u => fileKey u.path == key).flatMap fun u => Directive.parse u.lines := by
  have hfold : ∀ table : Table, (units.foldl addUnit table).get key = table.get key ++
      (units.filter fun u => fileKey u.path == key).flatMap fun u => Directive.parse u.lines := by
    induction units with
    | nil => exact fun table => (List.append_nil _).symm
    | cons unit units ih =>
      intro table
      rw [List.foldl_cons, ih, get_addUnit, List.filter_cons]
      by_cases hkey : fileKey unit.path = key
      · simp [hkey]
      · simp [hkey]
  exact hfold []

end Directive.Table

/-- The files of some keys have the same directives alone and among all files. -/
theorem AgreeOn.ofUnits_filter (p : String → Bool) (units : List SourceUnit) :
    AgreeOn (fun l => p l.file) (Table.ofUnits units)
      (Table.ofUnits (units.filter fun u => p (fileKey u.path))) := by
  intro l (hl : p l.file = true)
  have hsame :
      ((units.filter fun u => p (fileKey u.path)).filter fun u => fileKey u.path == l.file) =
      units.filter fun u => fileKey u.path == l.file := by
    rw [List.filter_filter]
    refine List.filter_congr fun u _ => ?_
    by_cases hkey : fileKey u.path = l.file
    · rw [hkey, hl, Bool.and_true]
    · rw [beq_false_of_ne hkey, Bool.false_and]
  rw [Table.lane, Table.lane, Table.get_ofUnits, Table.get_ofUnits, hsame]

end LlmAudit
