import LlmAudit.Text.Loose

/-!
# Names that look alike

This module formalizes a part of the dependency guard of Section 15 of the specification: the names
"at edit distance 1 from a trusted popular name".

The number of letters by which two names differ, and the popular package that a name may be mistaken
for: the one from which it differs by a single letter.

## Main definitions

* `editCount` — the least number of letters put in, taken out or exchanged between two texts.
* `nearEditCount` — the same where the lengths are close, else two.
* `lookalike?` — the popular name that a name may be mistaken for.
-/

namespace LlmAudit

section Edits

variable {α : Type} [DecidableEq α]

/-- The further entries of a row: `row` holds the entries above, from the one before on, and `left`
is the entry before. -/
def editRowFrom (c : α) (left : Nat) : List α → List Nat → List Nat
  | d :: ds, corner :: above :: row =>
    let entry := min (min (above + 1) (left + 1)) (corner + if c = d then 0 else 1)
    entry :: editRowFrom c entry ds (above :: row)
  | _, _ => []

/-- The row of edit counts after one more character, given the row before. -/
def editRow (c : α) (b : List α) (row : List Nat) : List Nat :=
  match row with
  | [] => []
  | first :: _ => (first + 1) :: editRowFrom c (first + 1) b row

/-- The least number of letters that have to be put in, taken out or exchanged to turn `a` into
`b`. Each row holds the counts from a front part of `a` to all front parts of `b`. -/
def editCount (a b : List α) : Nat :=
  let first := List.range (b.length + 1)
  ((a.foldl (fun row c => editRow c b row) first).getLast?).getD 0

/-- The edit count of texts whose lengths differ by at most one; else two, which it is not below. -/
def nearEditCount (a b : List α) : Nat :=
  if a = b then 0
  else if a.length + 1 < b.length ∨ b.length + 1 < a.length then 2
  else editCount a b

end Edits

/-- The names of popular packages. -/
def popularNames : List String :=
  ["openai", "anthropic", "langchain", "llamaindex", "transformers", "requests", "numpy", "pandas",
    "torch", "fastapi", "django", "flask"]

/-- The popular name from which a name differs by one letter, whatever its case. -/
def lookalike? (name : LooseText) : Option String :=
  let s := name.lowered
  if popularNames.any fun p => s == .ofString p then none
  else popularNames.find? fun p => nearEditCount s.points (LooseText.ofString p).points == 1

end LlmAudit
