import LlmAudit.Terminal.Emoji
import LlmAudit.Terminal.Literal
import LlmAudit.Terminal.Style
import LlmAudit.Terminal.Width
import LlmAudit.Text.Blank

/-!
# Markup of terminal text

Text for a terminal is written with tags in brackets that turn styles on and off. On a terminal
without styles the tags leave nothing behind. A backslash before a bracket keeps it as text, and
backslashes before a tag stand for half their number. A closing tag takes back the last tag of its
name, or the last tag at all if it has no name; if there is none, the markup is malformed.

A tag covers the text from its place to the tag that takes it back. What a tag asks for is looked up
when text that it covers is printed. In the text between the tags, codes stand for pictures. A
terminal takes characters only, so a text that shows half a pair cannot be printed.

## Main definitions

* `Markup.pieces` — the texts and the tags of a markup.
* `Markup.spans` — what a markup shows, and the tags that cover it.
* `Markup.printed` — what is printed for a markup.
-/

namespace LlmAudit.Markup

/-- A piece of a markup. -/
inductive Piece where
  /-- Text. -/
  | text (s : List Point)
  /-- A tag: what stands before an equals sign, and what stands after it. -/
  | tag (name : List Point) (parameters : Option (List Point))
  deriving DecidableEq

/-- Whether a tag starts with a code point. -/
def startsTag : Point → Bool
  | .char c => decide ('a' ≤ c ∧ c ≤ 'z') || c == '#' || c == '/' || c == '@'
  | .half _ => false

/-- What a tag at the front of a text holds, and the text after it. -/
def tagAt? (s : List Point) : Option (List Point × List Point) :=
  match s with
  | .char '[' :: p :: rest =>
    if startsTag p then
      let inner := rest.takeWhile fun d => d != .char '[' && d != .char ']'
      match rest.drop inner.length with
      | .char ']' :: after => some (p :: inner, after)
      | _ => none
    else none
  | _ => none

/-- The tag that holds a text. -/
def tagOf (inner : List Point) : Piece :=
  let name := inner.takeWhile (· != .char '=')
  match inner.drop name.length with
  | _ :: parameters => .tag name (some parameters)
  | [] => .tag name none

/-- A text as pieces: none if it is empty. -/
def textPiece (s : List Point) : List Piece :=
  if s.isEmpty then [] else [.text s]

/-- The pieces of a markup, of which `before` is the reverse of the text so far. The bound is on the
number of steps. -/
def piecesFrom (fuel : Nat) (before : List Point) (s : List Point) : List Piece :=
  match fuel, s with
  | 0, _ => textPiece (before.reverse ++ s)
  | _, [] => textPiece before.reverse
  | fuel + 1, p :: rest =>
    let slashes := (p :: rest).takeWhile (· == .char '\\')
    match tagAt? ((p :: rest).drop slashes.length) with
    | some (inner, after) =>
      textPiece before.reverse ++ textPiece (slashes.take (slashes.length / 2)) ++
        (if slashes.length % 2 = 1 then .text (.char '[' :: inner ++ [.char ']'])
          else tagOf inner) :: piecesFrom fuel [] after
    | none =>
      if slashes.isEmpty then piecesFrom fuel (p :: before) rest
      else piecesFrom fuel (slashes ++ before) ((p :: rest).drop slashes.length)

/-- The pieces of a markup. -/
def pieces (s : List Point) : List Piece :=
  piecesFrom s.length [] s

/-- A text in which a backslash before a bracket is dropped. -/
def unescape : List Point → List Point
  | .char '\\' :: .char '[' :: rest => .char '[' :: unescape rest
  | p :: rest => p :: unescape rest
  | [] => []

/-- The controls that leave nothing behind. -/
def isDropped (p : Point) : Bool :=
  [0x07, 0x08, 0x0B, 0x0C, 0x0D].contains p.toNat

/-- A text without the controls that leave nothing behind, and with pictures for its codes. -/
def pictured (emoji : Emoji) (s : List Point) : List Point :=
  (emoji.replace s).filter fun p => !isDropped p

/-- What a text shows. -/
def shown (emoji : Emoji) (s : List Point) : List Point :=
  pictured emoji (unescape s)

/-! ### Opening and closing -/

/-- Why a line cannot be printed. -/
inductive Error where
  /-- A closing tag names none that is open. -/
  | notOpen (name : LooseText)
  /-- A closing tag without a name finds none open. -/
  | nothingOpen
  /-- A tag for a handler has arguments that cannot be read. -/
  | badHandler
  /-- A colour holds a number that cannot be read. -/
  | badNumber (fault : Based.Fault)
  /-- A whole number to be shown has too many digits. -/
  | tooManyDigits
  /-- The text to be shown holds half a pair. -/
  | unencodable
  deriving DecidableEq

/-- A tag that is open. -/
structure OpenTag where
  /-- The normal form of its name. -/
  name : LooseText
  /-- What stands after an equals sign. -/
  parameters : Option LooseText
  /-- The number of code points shown before it. -/
  start : Nat
  deriving DecidableEq

/-- The open tags without the last one of a name, and that one. -/
def close? (name : LooseText) : List OpenTag → Option (OpenTag × List OpenTag)
  | [] => none
  | t :: rest =>
    if t.name = name then some (t, rest)
    else (close? name rest).map fun (found, others) => (found, t :: others)

/-- The arguments of a handler after its name, which is made of words and points: none are written,
or they stand in parentheses on one line. -/
def argumentsAfterName? (parameters : List Char) : Option (List Char) :=
  let rest := parameters.dropWhile fun c => Text.isWordChar c || c == '.'
  if rest.isEmpty then some ['(', ')']
  else if rest.head? = some '(' ∧ 2 ≤ rest.length ∧ rest.getLast? = some ')' ∧ '\n' ∉ rest then
    some rest
  else none

/-- Whether what stands after the equals sign of a tag for a handler can be read: a name with or
without literal arguments, or a literal. Half a pair cannot stand in it. -/
def isHandler (parameters : LooseText) : Bool :=
  parameters.chars?.any fun cs =>
    let s := Text.strip cs
    isLiteral ((argumentsAfterName? s).getD s)

/-- Whether a tag is one for a handler. -/
def OpenTag.isForHandler (t : OpenTag) : Bool :=
  t.name.startsWith "@"

/-- Whether an open tag can be closed. -/
def closes (t : OpenTag) : Bool :=
  match t.parameters with
  | none => true
  | some p => !t.isForHandler || p = .empty || isHandler p

/-- The tag that a closing tag takes back, and the tags that stay open. -/
def takeBack (stack : List OpenTag) (closing : LooseText) :
    Except Error (OpenTag × List OpenTag) :=
  if closing = .empty then
    match stack with
    | t :: others => .ok (t, others)
    | [] => .error .nothingOpen
  else
    match Style.normalForm closing with
    | .error fault => .error (.badNumber fault)
    | .ok name =>
      match close? name stack with
      | some found => .ok found
      | none => .error (.notOpen closing)

/-- A stretch of the text shown, and the words of the style that it is to have. -/
structure Span where
  /-- The number of code points before it. -/
  start : Nat
  /-- The number of code points before its end. -/
  stop : Nat
  /-- The words. -/
  words : LooseText
  deriving DecidableEq

/-- What an open tag covers up to a place. -/
def OpenTag.span (t : OpenTag) (stop : Nat) : Span :=
  ⟨t.start, stop,
    match t.parameters with
    | some p => t.name ++ .ofString " " ++ p
    | none => t.name⟩

/-- What a markup has shown so far. -/
structure Shown where
  /-- The text. -/
  text : List Point
  /-- The open tags, last one first. -/
  stack : List OpenTag
  /-- The stretches whose tags are closed. -/
  spans : List Span

/-- What is shown after a tag. -/
def afterTag (shown : Shown) (name : List Point) (parameters : Option (List Point)) :
    Except Error Shown :=
  match name with
  | .char '/' :: closing =>
    match takeBack shown.stack (LooseText.mk closing).strip with
    | .error e => .error e
    | .ok (t, others) =>
      if closes t then
        let closed := if t.isForHandler then [] else [t.span shown.text.length]
        .ok { shown with stack := others, spans := shown.spans ++ closed }
      else .error .badHandler
  | _ =>
    match Style.normalForm ⟨name⟩ with
    | .error fault => .error (.badNumber fault)
    | .ok name =>
      let opened : OpenTag := ⟨name, parameters.map LooseText.mk, shown.text.length⟩
      .ok { shown with stack := opened :: shown.stack }

/-- What is shown after further pieces. -/
def showFrom (emoji : Emoji) (before : Shown) : List Piece → Except Error Shown
  | [] => .ok before
  | .text s :: rest => showFrom emoji { before with text := before.text ++ shown emoji s } rest
  | .tag name parameters :: rest =>
    match afterTag before name parameters with
    | .ok after => showFrom emoji after rest
    | .error e => .error e

/-- What a markup shows, and the tags that cover it. -/
def spans (emoji : Emoji) (t : LooseText) : Except Error (List Point × List Span) :=
  match showFrom emoji ⟨[], [], []⟩ (pieces t.points) with
  | .error e => .error e
  | .ok shown =>
    .ok (shown.text, shown.spans ++ shown.stack.map fun t => t.span shown.text.length)

/-! ### Printing -/

/-- Whether the style of a stretch is looked up: if a text has lines or tabs, only for a stretch
that covers something on one of them. -/
def isLookedUp (text : List Point) (span : Span) : Bool :=
  let covered := (text.take span.stop).drop span.start
  !(text.contains (.char '\n') || text.contains (.char '\t')) || covered.any (· != .char '\n')

/-- The fault of the first stretch whose style holds a number that cannot be read. -/
def styleFault? (text : List Point) (spans : List Span) : Option Based.Fault :=
  spans.findSome? fun span =>
    if isLookedUp text span then
      match Style.parse span.words with
      | .error (.number fault) => some fault
      | _ => none
    else none

/-- What is printed for a text: its lines, each of them ended. -/
def printedLines (s : List Char) : List Char :=
  (Text.splitAt '\n' s).flatMap fun line => Columns.expandTabs line ++ ['\n']

/-- What is printed for code points, which must all be characters. -/
def printedPoints (s : List Point) : Except Error (List Char) :=
  match (LooseText.mk s).chars? with
  | some cs => .ok (printedLines cs)
  | none => .error .unencodable

/-- What is printed for a text without tags. -/
def printedText (emoji : Emoji) (t : LooseText) : Except Error (List Char) :=
  printedPoints (pictured emoji t.points)

/-- What is printed for a markup. -/
def printed (emoji : Emoji) (t : LooseText) : Except Error (List Char) :=
  match spans emoji t with
  | .error e => .error e
  | .ok (text, spans) =>
    match styleFault? text spans with
    | some fault => .error (.badNumber fault)
    | none => printedPoints text

end LlmAudit.Markup
