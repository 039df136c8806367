import LlmAudit.Proofs.Dependency.Edits
import LlmAudit.Proofs.Text.Loose
import Mathlib.Data.List.Pairwise

/-!
# One look-alike at most

The subject are the names in Section 15 of the specification that are "at edit distance 1 from a
trusted popular name".

Names that are three or more edits apart (`FarApart`) share no text that is one edit away from both:
through the text the names would be two edits apart (`FarApart.eq_of_edit`). For the same reason
none of the names is one edit away from another (`FarApart.not_edit`). A search through a table of
such names (`lookalikeIn?`) therefore finds a name exactly if it is one edit away
(`lookalikeIn?_eq_some_iff`). The answer depends neither on the order of the table nor on whether
the names of the table are passed over first.

The popular names are far apart (`farApart_popularNames`). A name that is added to them has to keep
them so.

## Main statements

* `lookalike?_exact` — the look-alike of a name is the one popular name that a single edit separates
  from its lower case.
-/

namespace LlmAudit

variable {s : List Point} {table : List String} {p q : String}

/-! ### Edits backwards -/

section Backwards

variable {α : Type}

/-- An edit is taken back by an edit. -/
theorem Edit.symm {a b : List α} (h : Edit a b) : Edit b a := by
  cases h with
  | insert s c t => exact delete s c t
  | delete s c t => exact insert s c t
  | exchange s t hne => exact exchange s t hne.symm

theorem Edits.symm {n : Nat} {a b : List α} (h : Edits n a b) : Edits n b a := by
  induction h with
  | refl a => exact refl a
  | @step n a b c _ hedit ih =>
    have hback : Edits (1 + n) c a := (one_iff.2 hedit.symm).trans ih
    rwa [Nat.add_comm] at hback

theorem editCount_comm [DecidableEq α] (a b : List α) : editCount a b = editCount b a :=
  Nat.le_antisymm ((editCount_isLeast a b).2 (editCount_isLeast b a).1.symm)
    ((editCount_isLeast b a).2 (editCount_isLeast a b).1.symm)

end Backwards

/-! ### Names that are far apart -/

/-- The code points of a name. -/
abbrev letters (p : String) : List Point := (LooseText.ofString p).points

/-- Any two names of a table are three or more edits apart. -/
def FarApart (table : List String) : Prop :=
  table.Pairwise fun p q => 3 ≤ editCount (letters p) (letters q)

instance (table : List String) : Decidable (FarApart table) :=
  inferInstanceAs (Decidable (table.Pairwise fun p q : String =>
    3 ≤ editCount (letters p) (letters q)))

/-- The popular names are far apart. -/
theorem farApart_popularNames : FarApart popularNames := by
  decide +kernel

namespace FarApart

theorem le_editCount (h : FarApart table) (hp : p ∈ table) (hq : q ∈ table) (hne : p ≠ q) :
    3 ≤ editCount (letters p) (letters q) := by
  have hsymm : Std.Symm fun p q : String => 3 ≤ editCount (letters p) (letters q) :=
    ⟨fun p q hfar => editCount_comm (letters p) (letters q) ▸ hfar⟩
  exact h.forall hp hq hne

theorem of_perm {table' : List String} (h : FarApart table) (hperm : table'.Perm table) :
    FarApart table' :=
  (hperm.pairwise_iff fun {p q} hfar => editCount_comm (letters p) (letters q) ▸ hfar).2 h

/-- No text is one edit away from two names. -/
theorem eq_of_edit (h : FarApart table) (hp : p ∈ table) (hq : q ∈ table) (hsp : Edit s (letters p))
    (hsq : Edit s (letters q)) : p = q := by
  by_contra hne
  have hjoin : Edits 2 (letters p) (letters q) := (Edits.one_iff.2 hsp.symm).step hsq
  have hnear : editCount (letters p) (letters q) ≤ 2 := (editCount_isLeast _ _).2 hjoin
  have hfar := h.le_editCount hp hq hne
  omega

/-- No name is one edit away from another. -/
theorem not_edit (h : FarApart table) (hp : p ∈ table) (hq : q ∈ table) :
    ¬ Edit (letters p) (letters q) := by
  intro hedit
  have hne : p ≠ q := fun heq => hedit.ne (congrArg letters heq)
  have hone : editCount (letters p) (letters q) = 1 := editCount_eq_one_iff.2 hedit
  have hfar := h.le_editCount hp hq hne
  omega

end FarApart

/-! ### Searching a table -/

/-- The first name of a table from which a name differs by one letter, whatever its case. The names
of the table itself are passed over first if `pass` says so. -/
def lookalikeIn? (pass : Bool) (table : List String) (name : LooseText) : Option String :=
  if pass && table.any fun p => name.lowered == .ofString p then none
  else table.find? fun p => nearEditCount name.lowered.points (letters p) == 1

theorem lookalike?_eq_lookalikeIn? (name : LooseText) :
    lookalike? name = lookalikeIn? true popularNames name := by
  simp only [lookalike?, lookalikeIn?, Bool.true_and]

theorem find?_edit_eq_some_iff (h : FarApart table) :
    (table.find? fun p => nearEditCount s (letters p) == 1) = some p ↔
      p ∈ table ∧ Edit s (letters p) := by
  have hedit : ∀ q : String, (nearEditCount s (letters q) == 1) = true ↔ Edit s (letters q) := by
    intro q
    rw [beq_iff_eq, nearEditCount_eq_iff_of_le_one (Nat.le_refl 1), editCount_eq_one_iff]
  constructor
  · intro hfind
    have hfound := List.find?_some hfind
    exact ⟨List.mem_of_find?_eq_some hfind, (hedit p).1 hfound⟩
  · rintro ⟨hp, hsp⟩
    -- the search stops somewhere, and it can stop at no other name
    have hsome : (table.find? fun p => nearEditCount s (letters p) == 1).isSome :=
      List.find?_isSome.2 ⟨p, hp, (hedit p).2 hsp⟩
    obtain ⟨q, hfind⟩ := Option.isSome_iff_exists.1 hsome
    have hfound := List.find?_some hfind
    rw [hfind, h.eq_of_edit (List.mem_of_find?_eq_some hfind) hp ((hedit q).1 hfound) hsp]

/-- In a table of names that are far apart the search finds the name that is one edit away. -/
theorem lookalikeIn?_eq_some_iff (h : FarApart table) (pass : Bool) (name : LooseText) :
    lookalikeIn? pass table name = some p ↔ p ∈ table ∧ Edit name.lowered.points (letters p) := by
  rw [lookalikeIn?]
  split
  · rename_i hpass
    rw [Bool.and_eq_true, List.any_eq_true] at hpass
    obtain ⟨-, q, hq, hname⟩ := hpass
    -- a name of the table would have been passed over by the search as well
    have hnone : ¬ (p ∈ table ∧ Edit name.lowered.points (letters p)) := by
      rintro ⟨hp, hedit⟩
      rw [eq_of_beq hname] at hedit
      exact h.not_edit hq hp hedit
    exact iff_of_false (Option.some_ne_none p).symm hnone
  · exact find?_edit_eq_some_iff h

/-- **The look-alike is exact.** The look-alike of a name is `p` exactly if `p` is a popular name
and a single edit separates the lower case of the name from it. No name has two such popular names,
so neither the order in which they are searched nor the passing over of popular names changes the
answer. -/
theorem lookalike?_exact (name : LooseText) :
    (∀ p, lookalike? name = some p ↔
      p ∈ popularNames ∧ Edit name.lowered.points (letters p)) ∧
    (∀ p ∈ popularNames, ∀ q ∈ popularNames, Edit name.lowered.points (letters p) →
      Edit name.lowered.points (letters q) → p = q) ∧
    ∀ (pass : Bool) (table : List String), table.Perm popularNames →
      lookalikeIn? pass table name = lookalike? name := by
  refine ⟨fun p => ?_, fun p hp q hq => ?_, fun pass table hperm => ?_⟩
  · rw [lookalike?_eq_lookalikeIn?, lookalikeIn?_eq_some_iff farApart_popularNames]
  · exact farApart_popularNames.eq_of_edit hp hq
  · have htable : FarApart table := farApart_popularNames.of_perm hperm
    refine Option.ext fun p => ?_
    rw [lookalike?_eq_lookalikeIn?, lookalikeIn?_eq_some_iff htable,
      lookalikeIn?_eq_some_iff farApart_popularNames, hperm.mem_iff]

/-- `Numpi` looks like `numpy`, also to a search from the end of the table that passes over none. -/
theorem lookalike?_exact_numpi :
    "numpy" ∈ popularNames ∧ Edit (LooseText.ofString "Numpi").lowered.points (letters "numpy") ∧
    popularNames.reverse.Perm popularNames ∧
    lookalike? (.ofString "Numpi") = some "numpy" ∧
    lookalikeIn? false popularNames.reverse (.ofString "Numpi") = some "numpy" := by
  have hmem : "numpy" ∈ popularNames := by decide
  have hname : (LooseText.ofString "Numpi").lowered.points =
        letters "nump" ++ .char 'i' :: [] ∧
      letters "numpy" = letters "nump" ++ .char 'y' :: [] := by
    decide +kernel
  have hedit : Edit (LooseText.ofString "Numpi").lowered.points (letters "numpy") := by
    rw [hname.1, hname.2]
    exact .exchange (letters "nump") [] (by decide)
  have hperm : popularNames.reverse.Perm popularNames := List.reverse_perm popularNames
  obtain ⟨hexact, -, horder⟩ := lookalike?_exact (.ofString "Numpi")
  have hlike : lookalike? (.ofString "Numpi") = some "numpy" := (hexact "numpy").2 ⟨hmem, hedit⟩
  exact ⟨hmem, hedit, hperm, hlike, (horder false popularNames.reverse hperm).trans hlike⟩

end LlmAudit
