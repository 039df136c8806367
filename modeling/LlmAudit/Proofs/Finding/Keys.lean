import LlmAudit.Finding.Key
import LlmAudit.Proofs.Text.Case
import LlmAudit.Proofs.Text.Loose
import Mathlib.Data.List.Forall2
import Mathlib.Data.List.Infix

/-!
# Keys of files

The subject is the normalized file of Section 4.4 (Deduplicator) of the specification.

A source file and its compiled twin have paths that differ in their extensions, and in their slashes
if they were written on different machines. The key of a path cuts off one extension
(`cutFinalExtension_append`). Since a word goes on in each of the extensions, whatever its letters,
the lower case of what comes before it is the same for all of them, also for a capital sigma at its
end (`exists_lower_append`). Twins therefore have one key (`fileKey_twins`).
-/

namespace LlmAudit

/-- Two spellings of a path that differ in their slashes only. -/
def SameButSlashes (s s' : String) : Prop :=
  List.Forall₂ (fun c d => c = d ∨ c = '/' ∧ d = '\\' ∨ c = '\\' ∧ d = '/') s.toList s'.toList

instance (s s' : String) : Decidable (SameButSlashes s s') :=
  inferInstanceAs (Decidable (List.Forall₂ _ _ _))

/-- One of the extensions that are cut off, in any mixture of upper and lower case. -/
def IsKeyExtension (e : String) : Prop :=
  e.toList.map Char.toLower ∈ keyExtensions

instance (e : String) : Decidable (IsKeyExtension e) :=
  inferInstanceAs (Decidable (_ ∈ keyExtensions))

/-- The key of a path of characters only. -/
theorem LooseText.fileKey_ofString (path : String) :
    (LooseText.ofString path).fileKey = .ofString (LlmAudit.fileKey path) := by
  refine LooseText.ext ?_
  rw [LooseText.fileKey, points_ofString, mapRuns_map_char, LlmAudit.fileKey, points_ofString,
    String.toList_ofList]
  rfl

/-! ### Slashes -/

theorem SameButSlashes.forwardSlashes_eq {s s' : String} (h : SameButSlashes s s') :
    forwardSlashes s.toList = forwardSlashes s'.toList := by
  rw [forwardSlashes, forwardSlashes, ← List.forall₂_eq_eq_eq, List.forall₂_map_left_iff,
    List.forall₂_map_right_iff]
  refine h.imp fun c d hcd => ?_
  rcases hcd with rfl | ⟨rfl, rfl⟩ | ⟨rfl, rfl⟩
  · rfl
  · decide
  · decide

theorem forwardSlashes_append (s t : List Char) :
    forwardSlashes (s ++ t) = forwardSlashes s ++ forwardSlashes t :=
  List.map_append

/-! ### Extensions -/

theorem keyExtensions_isolated :
    (keyExtensions.all fun x => keyExtensions.all fun y => !x.isSuffixOf y || x == y) = true := by
  decide +kernel

/-- No extension ends with another one. -/
theorem eq_of_suffix_of_mem {x y : List Char} (hx : x ∈ keyExtensions) (hy : y ∈ keyExtensions)
    (h : x <:+ y) : x = y := by
  have hpair := List.all_eq_true.1 (List.all_eq_true.1 keyExtensions_isolated x hx) y hy
  simpa [List.isSuffixOf_iff_suffix.2 h] using hpair

/-- Exactly the extension at the end is cut off, whatever comes before it. -/
theorem cutExtension_append {x : List Char} (hx : x ∈ keyExtensions) (w : List Char) :
    cutExtension (w ++ x) = w := by
  have hsuffix : x.isSuffixOf (w ++ x) = true :=
    List.isSuffixOf_iff_suffix.2 (List.suffix_append ..)
  unfold cutExtension
  split
  · rename_i y hfind
    have hmem := List.mem_of_find?_eq_some hfind
    have hfound : y.isSuffixOf (w ++ x) = true := by simpa using List.find?_some hfind
    have hy := List.isSuffixOf_iff_suffix.1 hfound
    -- both stand at the end, so one ends with the other
    have heq : y = x := by
      rcases List.suffix_or_suffix_of_suffix hy (List.suffix_append w x) with h | h
      · exact eq_of_suffix_of_mem hmem hx h
      · exact (eq_of_suffix_of_mem hx hmem h).symm
    rw [heq, List.length_append, Nat.add_sub_cancel, List.take_left]
  · rename_i hfind
    exact absurd hsuffix (List.find?_eq_none.1 hfind x hx)

theorem keyExtensions_shape :
    (keyExtensions.all fun x => x.head? == some '.' && !x.tail.isEmpty &&
      x.tail.all fun d => decide (0x61 ≤ d.toNat ∧ d.toNat ≤ 0x7A)) = true := by
  decide +kernel

/-- An extension is a dot with some ASCII letters behind. -/
theorem exists_eq_dot_cons {x : List Char} (hx : x ∈ keyExtensions) :
    ∃ c rest, x = '.' :: c :: rest ∧ ∀ d ∈ c :: rest, Text.IsAsciiLetter d := by
  have hshape := List.all_eq_true.1 keyExtensions_shape x hx
  simp only [Bool.and_eq_true, beq_iff_eq, List.head?_eq_some_iff] at hshape
  obtain ⟨⟨⟨tail, rfl⟩, hne⟩, hletters⟩ := hshape
  cases tail with
  | nil => cases hne
  | cons c rest =>
    exact ⟨c, rest, rfl, fun d hd => .inr (of_decide_eq_true (List.all_eq_true.1 hletters d hd))⟩

theorem eq_dot_or_letter {x : List Char} (hx : x ∈ keyExtensions) {d : Char} (hd : d ∈ x) :
    d = '.' ∨ Text.IsAsciiLetter d := by
  obtain ⟨c, rest, rfl, hletters⟩ := exists_eq_dot_cons hx
  exact (List.mem_cons.1 hd).imp_right (hletters d)

theorem cutFinalExtension_append {x : List Char} (hx : x ∈ keyExtensions) (w : List Char) :
    cutFinalExtension (w ++ x) = w := by
  have hlast : (w ++ x).getLast? ≠ some '\n' := by
    obtain ⟨c, rest, heq, -⟩ := exists_eq_dot_cons hx
    rw [List.getLast?_append_of_ne_nil w (heq ▸ List.cons_ne_nil _ _)]
    intro hfeed
    exact absurd (eq_dot_or_letter hx (List.mem_of_getLast? hfeed)) (by decide)
  rw [cutFinalExtension, if_neg hlast, cutExtension_append hx]

/-! ### Extensions in any case -/

namespace IsKeyExtension

variable {e : String}

theorem toLower_eq_dot_or_letter (h : IsKeyExtension e) {c : Char} (hc : c ∈ e.toList) :
    c.toLower = '.' ∨ Text.IsAsciiLetter c.toLower :=
  eq_dot_or_letter h (List.mem_map_of_mem hc)

theorem toNat_lt (h : IsKeyExtension e) {c : Char} (hc : c ∈ e.toList) : c.toNat < 0x80 := by
  rcases Text.toLower_cases c with heq | ⟨-, hhigh, -⟩
  · have hlower := h.toLower_eq_dot_or_letter hc
    rw [heq] at hlower
    rcases hlower with rfl | hletter
    · decide
    · rw [Text.IsAsciiLetter] at hletter
      omega
  · omega

theorem lowerFrom_eq (h : IsKeyExtension e) (before : List Char) :
    Text.lowerFrom before e.toList = e.toList.map Char.toLower :=
  Text.lowerFrom_of_ascii (fun _ hc => h.toNat_lt hc) before

theorem startsInWord_eq (h : IsKeyExtension e) : Text.startsInWord e.toList = true := by
  obtain ⟨c, rest, heq, hletters⟩ := exists_eq_dot_cons h
  rw [← Text.startsInWord_map_toLower, heq]
  exact Text.startsInWord_dot_cons (hletters c List.mem_cons_self) rest

theorem forwardSlashes_eq (h : IsKeyExtension e) : forwardSlashes e.toList = e.toList := by
  conv_rhs => rw [← List.map_id e.toList]
  refine List.map_congr_left fun c hc => if_neg ?_
  rintro rfl
  exact absurd (h.toLower_eq_dot_or_letter hc) (by decide)

end IsKeyExtension

variable {s s' e e' : String}

/-- The lower case of what comes before an extension is the same for all extensions. -/
theorem exists_lower_append (he : IsKeyExtension e) (he' : IsKeyExtension e') (s : List Char) :
    ∃ w, Text.lower (s ++ e.toList) = w ++ e.toList.map Char.toLower ∧
      Text.lower (s ++ e'.toList) = w ++ e'.toList.map Char.toLower := by
  obtain ⟨w, hw, hw'⟩ :=
    Text.exists_lowerFrom_append (he.startsInWord_eq.trans he'.startsInWord_eq.symm) [] s
  rw [he.lowerFrom_eq] at hw
  rw [he'.lowerFrom_eq] at hw'
  exact ⟨w, hw, hw'⟩

theorem fileKey_append {w : List Char} (he : IsKeyExtension e)
    (h : Text.lower (forwardSlashes s.toList ++ e.toList) = w ++ e.toList.map Char.toLower) :
    fileKey (s ++ e) = String.ofList w := by
  rw [fileKey, String.toList_append, forwardSlashes_append, he.forwardSlashes_eq, h,
    cutFinalExtension_append he]

/-- Twins share one key: two paths whose stems differ in slashes only have the same key, whatever
their extensions. The key lacks nothing but the extension. -/
theorem fileKey_twins (hs : SameButSlashes s s') (he : IsKeyExtension e)
    (he' : IsKeyExtension e') :
    fileKey (s ++ e) = fileKey (s' ++ e') ∧
      fileKey (s ++ e) ++ Text.lowered e =
        Text.lowered (String.ofList (forwardSlashes (s ++ e).toList)) := by
  obtain ⟨w, hw, hw'⟩ := exists_lower_append he he' (forwardSlashes s.toList)
  have hkey := fileKey_append he hw
  rw [hs.forwardSlashes_eq] at hw'
  refine ⟨hkey.trans (fileKey_append he' hw').symm, ?_⟩
  rw [hkey, Text.lowered, Text.lowered, String.toList_ofList, String.toList_append,
    forwardSlashes_append, he.forwardSlashes_eq, hw, Text.lower, he.lowerFrom_eq,
    String.ofList_append]

/-- Of a stem that ends in an extension itself, only the last one is cut off. -/
theorem fileKey_twins_nested :
    SameButSlashes "src\\App.ts" "src/App.ts" ∧ IsKeyExtension ".TSX" ∧ IsKeyExtension ".js" ∧
      fileKey ("src\\App.ts" ++ ".TSX") = fileKey ("src/App.ts" ++ ".js") ∧
        fileKey ("src\\App.ts" ++ ".TSX") = "src/app.ts" := by
  have hs : SameButSlashes "src\\App.ts" "src/App.ts" := by decide
  have htsx : IsKeyExtension ".TSX" := by decide
  have hjs : IsKeyExtension ".js" := by decide
  exact ⟨hs, htsx, hjs, (fileKey_twins hs htsx hjs).1, by decide +kernel⟩

end LlmAudit
