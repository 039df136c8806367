import LlmAudit.Text.Words

/-!
# Codes for pictures

A name between two colons, with no blank in it, is a code for a picture if the terminal knows the
name, in any case. Behind the name may stand that the picture is wanted as a picture or as a text; a
selector behind the picture says so. A code that is not known stays as it is, and its second colon
starts no further code.

Which names a terminal knows is not fixed here. No picture holds a colon.

## Main definitions

* `Emoji` — the pictures that a terminal knows.
* `Emoji.replace` — a text with pictures for the codes in it.
-/

namespace LlmAudit

/-- The pictures that a terminal knows. -/
structure Emoji where
  /-- The picture of a name in lower case. -/
  picture? : String → Option (List Char)
  /-- No picture holds a colon. -/
  colonless : ∀ name picture, picture? name = some picture → ':' ∉ picture

namespace Emoji

/-- No pictures at all. -/
def none : Emoji := ⟨fun _ => .none, fun _ _ h => (Option.some_ne_none _ h.symm).elim⟩

/-- What may stand behind a name, and the selector that it asks for. -/
def variants : List (LooseText × Char) :=
  [(.ofString "-emoji", Char.ofNat 0xFE0F), (.ofString "-text", Char.ofNat 0xFE0E)]

/-- The name in a code, and the selector behind its picture. -/
def nameOf (code : List Point) : LooseText × List Char :=
  match variants.find? fun v => v.1.points.isSuffixOf code with
  | some v => (⟨code.take (code.length - v.1.points.length)⟩, [v.2])
  | .none => (⟨code⟩, [])

/-- The picture of a code, which stands between two colons. -/
def pictureOf? (e : Emoji) (code : List Point) : Option (List Char) :=
  let (name, selector) := nameOf code
  (name.lowered.text?.bind e.picture?).map (· ++ selector)

/-- What is shown for a code: its picture, or the code itself. -/
def shownCode (e : Emoji) (code : List Point) : List Point :=
  match e.pictureOf? code with
  | some picture => picture.map .char
  | .none => .char ':' :: (code ++ [.char ':'])

/-- A text with pictures for the codes in it; `code` is the reverse of what stands behind a colon
that may start one. -/
def replaceFrom (e : Emoji) : (code : Option (List Point)) → List Point → List Point
  | .none, [] => []
  | some code, [] => .char ':' :: code.reverse
  | .none, p :: rest =>
    if p = .char ':' then replaceFrom e (some []) rest else p :: replaceFrom e .none rest
  | some code, p :: rest =>
    if p = .char ':' then e.shownCode code.reverse ++ replaceFrom e .none rest
    else if p.isBlank then .char ':' :: (code.reverse ++ p :: replaceFrom e .none rest)
    else replaceFrom e (some (p :: code)) rest

/-- A text with pictures for the codes in it. -/
def replace (e : Emoji) (s : List Point) : List Point :=
  e.replaceFrom .none s

end Emoji

end LlmAudit
