import LlmAudit.Proofs.Terminal.Printing
import LlmAudit.Terminal.Page

/-!
# Pages

Printing a page stops at the first line that cannot be printed (`Malformed`). So a page is printed
as a whole exactly if there is no such line (`printPage_snd_eq_none_iff`), and a line of it is
printed (`Prints`) only if no line before it stops the page (`Prints.wellFormed`).
-/

namespace LlmAudit

variable {emoji : Emoji} {line : Line} {lines before after : List Line} {out : List Char}

/-- Some line cannot be printed. -/
def Malformed (emoji : Emoji) (lines : List Line) : Prop :=
  ∃ line ∈ lines, ∃ e, line.printed emoji = .error e

theorem malformed_append :
    Malformed emoji (before ++ after) ↔ Malformed emoji before ∨ Malformed emoji after := by
  simp [Malformed, or_and_right, exists_or]

theorem malformed_singleton : Malformed emoji [line] ↔ ∃ e, line.printed emoji = .error e := by
  simp [Malformed]

theorem malformed_cons_iff :
    Malformed emoji (line :: lines) ↔
      (∃ e, line.printed emoji = .error e) ∨ Malformed emoji lines := by
  simp [Malformed]

theorem malformed_map_iff {α : Type} {g : α → Line} {items : List α} :
    Malformed emoji (items.map g) ↔ ∃ a ∈ items, Malformed emoji [g a] := by
  simp [Malformed]

/-- A line is not malformed exactly if something is printed for it. -/
theorem not_malformed_iff : ¬ Malformed emoji [line] ↔ ∃ out, line.printed emoji = .ok out := by
  rw [malformed_singleton]
  cases line.printed emoji with
  | error e => exact iff_of_false (not_not_intro ⟨e, rfl⟩) (by rintro ⟨out, hout⟩; cases hout)
  | ok out => exact iff_of_true (by rintro ⟨e, he⟩; cases he) ⟨out, rfl⟩

/-- A page is printed as a whole exactly if all its lines are well-formed. -/
theorem printPage_snd_eq_none_iff : (printPage emoji lines).2 = none ↔ ¬ Malformed emoji lines := by
  induction lines with
  | nil => simp [printPage, Malformed]
  | cons line rest ih =>
    cases h : line.printed emoji with
    | error e => simp [printPage, Malformed, h]
    | ok s => simpa [printPage, Malformed, h] using ih

theorem printPage_append (h : ¬ Malformed emoji before) (lines : List Line) :
    (printPage emoji (before ++ lines)).1 =
      (printPage emoji before).1 ++ (printPage emoji lines).1 := by
  induction before with
  | nil => rfl
  | cons line before ih =>
    rw [malformed_cons_iff, not_or] at h
    cases hline : line.printed emoji with
    | error e => exact absurd ⟨e, hline⟩ h.1
    | ok out => simp [printPage, hline, ih h.2]

/-- A line of a page is printed as told: no line before it stops the page, and what is printed for
it stands between what is printed for the lines before it and for those behind it. -/
def Prints (emoji : Emoji) (page : List Line) (line : Line) (out : List Char) : Prop :=
  ∃ before after, page = before ++ line :: after ∧ (printPage emoji before).2 = none ∧
    (printPage emoji page).1 =
      (printPage emoji before).1 ++ (out ++ (printPage emoji after).1)

theorem prints_of_printed (h : ¬ Malformed emoji before) (hline : line.printed emoji = .ok out)
    (after : List Line) : Prints emoji (before ++ line :: after) line out := by
  refine ⟨before, after, rfl, printPage_snd_eq_none_iff.2 h, ?_⟩
  rw [printPage_append h]
  simp only [printPage, hline]

/-- A line that is printed stands on the page, behind all lines that stand before its first place
there; these do not stop the page. -/
theorem Prints.wellFormed (h : Prints emoji (before ++ lines) line out) (hnot : line ∉ before) :
    ¬ Malformed emoji before ∧ line ∈ lines := by
  obtain ⟨start, after, hpage, hnone, -⟩ := h
  rw [printPage_snd_eq_none_iff] at hnone
  rcases List.append_eq_append_iff.1 hpage with ⟨more, rfl, hlines⟩ | ⟨more, rfl, hlines⟩
  · rw [malformed_append, not_or] at hnone
    exact ⟨hnone.1, hlines ▸ List.mem_append_right _ List.mem_cons_self⟩
  · cases more with
    | nil =>
      rw [List.append_nil]
      rw [List.nil_append] at hlines
      exact ⟨hnone, hlines ▸ List.mem_cons_self⟩
    | cons l more =>
      obtain ⟨rfl, -⟩ := List.cons.inj hlines
      exact absurd (List.mem_append_right _ List.mem_cons_self) hnot

end LlmAudit
