import LlmAudit.Terminal.Markup

/-!
# Pages of terminal text

What a command prints, one line of markup or text after the other. Printing stops at the first line
whose markup is malformed, that shows a whole number with too many digits or that shows half a pair;
what comes before it is printed.
-/

namespace LlmAudit

/-- Something that is printed. -/
inductive Line where
  /-- A text with tags. -/
  | markup (t : LooseText)
  /-- A text without tags. -/
  | text (t : LooseText)
  /-- A line that shows a whole number with too many digits. -/
  | overlong
  deriving DecidableEq

/-- A text with tags that shows whole numbers. -/
def Line.numbered (numbers : List Int) (t : LooseText) : Line :=
  if numbers.all isWritable then .markup t else .overlong

/-- What is printed for a line. -/
def Line.printed (emoji : Emoji) : Line → Except Markup.Error (List Char)
  | .markup t => Markup.printed emoji t
  | .text t => Markup.printedText emoji t
  | .overlong => .error .tooManyDigits

/-- What is printed for some lines, and the error that stops it. -/
def printPage (emoji : Emoji) : List Line → List Char × Option Markup.Error
  | [] => ([], none)
  | l :: rest =>
    match l.printed emoji with
    | .error e => ([], some e)
    | .ok s =>
      let (more, e) := printPage emoji rest
      (s ++ more, e)

end LlmAudit
