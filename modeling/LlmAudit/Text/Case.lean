import LlmAudit.Text.CaseTable

/-!
# Letter case

Lower and upper case of whole texts. A letter goes to the lower- or upper-case letter that the case
tables give, some to several characters: `ß` in upper case is `SS`, and `İ` in lower case is an `i`
with a combining dot. A capital sigma at the end of a word becomes the final sigma.
-/

namespace LlmAudit.Text

/-- A letter that has a case. -/
def isCased (c : Char) : Bool :=
  inIntervals casedLetters c.toNat

/-- A character that stands between letters without ending a word. -/
def isCaseIgnorable (c : Char) : Bool :=
  inIntervals caseIgnorable c.toNat

/-- The single lower-case letter of a letter; `İ` goes to a plain `i`. -/
def lowerLetter (c : Char) : Char :=
  if c.toNat < 0x80 then c.toLower
  else if c.toNat = 0x130 then 'i'
  else Char.ofNat (CaseRun.apply lowerRuns c.toNat)

/-- The lower-case form of a letter, whatever stands around it. -/
def lowerChar (c : Char) : List Char :=
  if c.toNat = 0x130 then ['i', Char.ofNat 0x307] else [lowerLetter c]

/-- The upper-case form of a letter. -/
def upperChar (c : Char) : List Char :=
  if c.toNat < 0x80 then [c.toUpper]
  else
    match upperExpansions.find? fun e => e.1 == c.toNat with
    | some e => e.2.map Char.ofNat
    | none => [Char.ofNat (CaseRun.apply upperRuns c.toNat)]

/-- Whether a cased letter comes first once the characters that stand between letters are skipped.
-/
def startsInWord : List Char → Bool
  | [] => false
  | c :: rest => if isCaseIgnorable c then startsInWord rest else isCased c

/-- Lower case of the rest of a text; `before` is what stands before it, last character first. A
capital sigma ends a word if a cased letter comes before it and none after it. -/
def lowerFrom (before : List Char) : List Char → List Char
  | [] => []
  | c :: rest =>
    if c.toNat = 0x3A3 then
      Char.ofNat (if startsInWord before && !startsInWord rest then 0x3C2 else 0x3C3) ::
        lowerFrom (c :: before) rest
    else lowerChar c ++ lowerFrom (c :: before) rest

/-- A text in lower case. -/
def lower (s : List Char) : List Char :=
  lowerFrom [] s

/-- A text in upper case. -/
def upper (s : List Char) : List Char :=
  s.flatMap upperChar

/-- A string in lower case. -/
def lowered (s : String) : String :=
  String.ofList (lower s.toList)

/-- A string in upper case. -/
def uppered (s : String) : String :=
  String.ofList (upper s.toList)

end LlmAudit.Text
