import LlmAudit.Number.Based
import LlmAudit.Text.Search
import LlmAudit.Text.Words

/-!
# Styles of terminal text

A style is written as words: attributes such as `bold`, a colour, a background after `on`, and an
address after `link`. Two ways to write a style are the same if their normal forms are: the
attributes in a fixed order and under their full names, then the colour, the background and the
address. Words that write no style are their own normal form, in lower case. Half a pair may stand
in such words and in an address, and nowhere else in a style.

## Main definitions

* `Style.parse` — the style that words write.
* `Style.normalForm` — the normal form of words.
-/

namespace LlmAudit

/-- The names of the colours of a terminal. -/
def colourNames : List String :=
  ["black", "red", "green", "yellow", "blue", "magenta", "cyan", "white", "bright_black",
    "bright_red", "bright_green", "bright_yellow", "bright_blue", "bright_magenta", "bright_cyan",
    "bright_white", "grey0", "gray0", "navy_blue", "dark_blue", "blue3", "blue1", "dark_green",
    "deep_sky_blue4", "dodger_blue3", "dodger_blue2", "green4", "spring_green4", "turquoise4",
    "deep_sky_blue3", "dodger_blue1", "green3", "spring_green3", "dark_cyan", "light_sea_green",
    "deep_sky_blue2", "deep_sky_blue1", "spring_green2", "cyan3", "dark_turquoise", "turquoise2",
    "green1", "spring_green1", "medium_spring_green", "cyan2", "cyan1", "dark_red", "deep_pink4",
    "purple4", "purple3", "blue_violet", "orange4", "grey37", "gray37", "medium_purple4",
    "slate_blue3", "royal_blue1", "chartreuse4", "dark_sea_green4", "pale_turquoise4",
    "steel_blue", "steel_blue3", "cornflower_blue", "chartreuse3", "cadet_blue", "sky_blue3",
    "steel_blue1", "pale_green3", "sea_green3", "aquamarine3", "medium_turquoise", "chartreuse2",
    "sea_green2", "sea_green1", "aquamarine1", "dark_slate_gray2", "dark_magenta", "dark_violet",
    "purple", "light_pink4", "plum4", "medium_purple3", "slate_blue1", "yellow4", "wheat4",
    "grey53", "gray53", "light_slate_grey", "light_slate_gray", "medium_purple",
    "light_slate_blue", "dark_olive_green3", "dark_sea_green", "light_sky_blue3", "sky_blue2",
    "dark_sea_green3", "dark_slate_gray3", "sky_blue1", "chartreuse1", "light_green",
    "pale_green1", "dark_slate_gray1", "red3", "medium_violet_red", "magenta3", "dark_orange3",
    "indian_red", "hot_pink3", "medium_orchid3", "medium_orchid", "medium_purple2",
    "dark_goldenrod", "light_salmon3", "rosy_brown", "grey63", "gray63", "medium_purple1",
    "gold3", "dark_khaki", "navajo_white3", "grey69", "gray69", "light_steel_blue3",
    "light_steel_blue", "yellow3", "dark_sea_green2", "light_cyan3", "light_sky_blue1",
    "green_yellow", "dark_olive_green2", "dark_sea_green1", "pale_turquoise1", "deep_pink3",
    "magenta2", "hot_pink2", "orchid", "medium_orchid1", "orange3", "light_pink3", "pink3",
    "plum3", "violet", "light_goldenrod3", "tan", "misty_rose3", "thistle3", "plum2", "khaki3",
    "light_goldenrod2", "light_yellow3", "grey84", "gray84", "light_steel_blue1", "yellow2",
    "dark_olive_green1", "honeydew2", "light_cyan1", "red1", "deep_pink2", "deep_pink1",
    "magenta1", "orange_red1", "indian_red1", "hot_pink", "dark_orange", "salmon1", "light_coral",
    "pale_violet_red1", "orchid2", "orchid1", "orange1", "sandy_brown", "light_salmon1",
    "light_pink1", "pink1", "plum1", "gold1", "navajo_white1", "misty_rose1", "thistle1",
    "yellow1", "light_goldenrod1", "khaki1", "wheat1", "cornsilk1", "grey100", "gray100", "grey3",
    "gray3", "grey7", "gray7", "grey11", "gray11", "grey15", "gray15", "grey19", "gray19",
    "grey23", "gray23", "grey27", "gray27", "grey30", "gray30", "grey35", "gray35", "grey39",
    "gray39", "grey42", "gray42", "grey46", "gray46", "grey50", "gray50", "grey54", "gray54",
    "grey58", "gray58", "grey62", "gray62", "grey66", "gray66", "grey70", "gray70", "grey74",
    "gray74", "grey78", "gray78", "grey82", "gray82", "grey85", "gray85", "grey89", "gray89",
    "grey93", "gray93"]

/-- Whether a text is a number up to 255 of at most so many digits. -/
def isByteNumber (most : Nat) (s : List Char) : Bool :=
  let value := s.foldl (fun n c => n * 10 + (c.toNat - '0'.toNat)) 0
  !s.isEmpty && decide (s.length ≤ most) && s.all Char.isDigit && decide (value ≤ 255)

/-- What stands between the parentheses after a word at the front of a text. -/
def insideCall? (word : String) (s : List Char) : Option (List Char) :=
  let front := word.toList ++ ['(']
  if front.isPrefixOf s ∧ s.getLast? = some ')' then some (s.drop front.length).dropLast else none

namespace Style

/-- Why words write no style. -/
inductive Fault where
  /-- A word means nothing at its place. -/
  | unknown
  /-- A part of a colour is no number at all. -/
  | number (fault : Based.Fault)
  deriving DecidableEq

/-- A test that words must pass. -/
def need (holds : Bool) : Except Fault Unit :=
  if holds then .ok () else .error .unknown

/-- A part of a colour, which is a number of any size at first. -/
def readPart (s : List Char) : Except Fault Int :=
  match Based.read 10 s with
  | .ok n => .ok n
  | .error fault => .error (.number fault)

/-- The test of the three parts of a colour: digits of any script, each part up to 255. -/
def checkParts (s : List Char) : Except Fault Unit :=
  let isPart (c : Char) : Bool := c == ',' || (Text.digitValue? c).isSome
  match Text.splitAt ',' s with
  | [red, green, blue] =>
    if !s.isEmpty && s.all isPart then do
      let parts ← [red, green, blue].mapM readPart
      need (parts.all fun n => decide (n ≤ 255))
    else .error .unknown
  | _ => .error .unknown

/-- The test of a word in lower case that is to be a colour: a name, six hexadecimal digits, a
number or three parts. -/
def checkColour (word : String) : Except Fault Unit :=
  let s := word.toList
  let isHex (c : Char) : Bool := c.isDigit || decide ('a' ≤ c ∧ c ≤ 'f')
  if word = "default" ∨ colourNames.contains word then .ok ()
  else
    match s with
    | '#' :: digits => need (decide (digits.length = 6) && digits.all isHex)
    | _ =>
      match insideCall? "color" s, insideCall? "rgb" s with
      | some number, _ => need (isByteNumber 3 number)
      | none, some parts => checkParts parts
      | none, none => .error .unknown

/-- The attributes in their fixed order. -/
def attributeOrder : List String :=
  ["bold", "dim", "italic", "underline", "blink", "blink2", "reverse", "conceal", "strike",
    "underline2", "frame", "encircle", "overline"]

/-- The short names of attributes. -/
def shortNames : List (String × String) :=
  [("d", "dim"), ("b", "bold"), ("i", "italic"), ("u", "underline"), ("r", "reverse"),
    ("c", "conceal"), ("s", "strike"), ("uu", "underline2"), ("o", "overline")]

/-- The full name of an attribute. -/
def attribute? (word : String) : Option String :=
  match shortNames.find? fun n => n.1 == word with
  | some n => some n.2
  | none => if attributeOrder.contains word then some word else none

end Style

/-- A style. -/
structure Style where
  /-- The attributes that are set on or off; a later entry wins. -/
  attributes : List (String × Bool)
  /-- The colour. -/
  colour : Option String
  /-- The background. -/
  background : Option String
  /-- The address. -/
  link : Option LooseText

namespace Style

/-- The style without anything. -/
def none : Style :=
  ⟨[], .none, .none, .none⟩

/-- What the word before asks for. -/
inductive Expecting where
  /-- Nothing. -/
  | anything
  /-- A background. -/
  | background
  /-- An attribute to set off. -/
  | attribute
  /-- An address. -/
  | address

/-- The style with an attribute set on or off. -/
def withAttribute (style : Style) (name : String) (on : Bool) : Style :=
  { style with attributes := style.attributes ++ [(name, on)] }

/-- The style after one more word of characters, and what that word asks for. -/
def addString (style : Style) (expecting : Expecting) (word : String) :
    Except Fault (Style × Expecting) :=
  let lower := Text.lowered word
  match expecting with
  | .background =>
    (checkColour lower).map fun _ => ({ style with background := some lower }, .anything)
  | .attribute =>
    match attribute? word with
    | some a => .ok (style.withAttribute a false, .anything)
    | .none => .error .unknown
  | .address => .ok ({ style with link := some word }, .anything)
  | .anything =>
    if lower = "on" then .ok (style, .background)
    else if lower = "not" then .ok (style, .attribute)
    else if lower = "link" then .ok (style, .address)
    else
      match attribute? lower with
      | some a => .ok (style.withAttribute a true, .anything)
      | .none => (checkColour lower).map fun _ => ({ style with colour := some lower }, .anything)

/-- The style after one more word, and what that word asks for. A word with half a pair can only be
an address. -/
def addWord (style : Style) (expecting : Expecting) (word : LooseText) :
    Except Fault (Style × Expecting) :=
  match word.text?, expecting with
  | some s, _ => addString style expecting s
  | .none, .address => .ok ({ style with link := some word }, .anything)
  | .none, _ => .error .unknown

/-- The style of further words, beside what is set already; the last one asks for nothing. -/
def parseWords (style : Style) (expecting : Expecting) : List LooseText → Except Fault Style
  | [] =>
    match expecting with
    | .anything => .ok style
    | _ => .error .unknown
  | word :: rest =>
    match addWord style expecting word with
    | .ok (style', expecting') => parseWords style' expecting' rest
    | .error fault => .error fault

/-- The style that words write. -/
def parse (t : LooseText) : Except Fault Style :=
  if t.words = [.ofString "none"] then .ok none else parseWords none .anything t.words

/-- An attribute of a style as it is written. -/
def attributeWord? (style : Style) (name : String) : Option String :=
  (style.attributes.reverse.find? fun a => a.1 == name).map fun a =>
    if a.2 then name else "not " ++ name

/-- The words of a style in normal form. -/
def render (style : Style) : LooseText :=
  let words := attributeOrder.filterMap (attributeWord? style) ++ style.colour.toList ++
    (match style.background with
      | some c => ["on", c]
      | .none => [])
  match style.link with
  | some l => .ofString (" ".intercalate (words ++ ["link", ""])) ++ l
  | .none => if words.isEmpty then .ofString "none" else .ofString (" ".intercalate words)

/-- The normal form of words, or the number among them that cannot be read. -/
def normalForm (t : LooseText) : Except Based.Fault LooseText :=
  match parse t with
  | .ok style => .ok style.render
  | .error .unknown => .ok t.strip.lowered
  | .error (.number fault) => .error fault

end Style

end LlmAudit
