/-!
# Searching texts

Whether a text occurs in another, at its front or at its end, and cutting a text at a separator.
-/

namespace LlmAudit.Text

/-- Whether `part` occurs somewhere in the text. -/
def occursIn (part : List Char) : List Char → Bool
  | [] => part.isEmpty
  | c :: rest => part.isPrefixOf (c :: rest) || occursIn part rest

/-- Whether `part` occurs somewhere in the string. -/
def contains (s part : String) : Bool :=
  occursIn part.toList s.toList

/-- Whether one of the words occurs somewhere in the string. -/
def containsAny (s : String) (words : List String) : Bool :=
  let cs := s.toList
  words.any fun w => occursIn w.toList cs

theorem occursIn_iff {part s : List Char} : occursIn part s = true ↔ part <:+: s := by
  induction s with
  | nil => rw [occursIn, List.isEmpty_iff, List.infix_nil]
  | cons c s ih =>
    rw [occursIn, Bool.or_eq_true, List.isPrefixOf_iff_prefix, ih, List.infix_cons_iff]

theorem containsAny_iff {s : String} {words : List String} :
    containsAny s words = true ↔ ∃ w ∈ words, w.toList <:+: s.toList := by
  simp only [containsAny, List.any_eq_true, occursIn_iff]

/-- Whether the string starts with `part`. -/
def startsWith (s part : String) : Bool :=
  part.toList.isPrefixOf s.toList

/-- Whether the string ends with `part`. -/
def endsWith (s part : String) : Bool :=
  part.toList.isSuffixOf s.toList

/-- The pieces of a text between the separators; a text without one is a single piece. -/
def splitAt (separator : Char) : List Char → List (List Char)
  | [] => [[]]
  | c :: rest =>
    if c = separator then [] :: splitAt separator rest
    else
      match splitAt separator rest with
      | [] => [[c]]
      | piece :: pieces => (c :: piece) :: pieces

/-- The pieces of a string between the separators. -/
def splitOn (separator : Char) (s : String) : List String :=
  (splitAt separator s.toList).map String.ofList

/-- The texts one after the other, with `separator` between neighbours. -/
def join (separator : String) (parts : List String) : String :=
  separator.intercalate parts

/-- Whether `a` comes before or at `b` in the order by code points. -/
def ordered (a b : String) : Bool :=
  decide (a ≤ b)

end LlmAudit.Text
