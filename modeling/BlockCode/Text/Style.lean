import BlockCode.Fault
import BlockCode.Number.Reading
import BlockCode.Text.LowerCase

namespace BlockCode.Text

/-- The colours that have a name of their own. -/
def colourNames : List String :=
  ["black", "red", "green", "yellow", "blue", "magenta", "cyan", "white", "bright_black",
    "bright_red", "bright_green", "bright_yellow", "bright_blue", "bright_magenta", "bright_cyan",
    "bright_white", "grey0", "gray0", "navy_blue", "dark_blue", "blue3", "blue1", "dark_green",
    "deep_sky_blue4", "dodger_blue3", "dodger_blue2", "green4", "spring_green4", "turquoise4",
    "deep_sky_blue3", "dodger_blue1", "green3", "spring_green3", "dark_cyan", "light_sea_green",
    "deep_sky_blue2", "deep_sky_blue1", "spring_green2", "cyan3", "dark_turquoise", "turquoise2",
    "green1", "spring_green1", "medium_spring_green", "cyan2", "cyan1", "dark_red", "deep_pink4",
    "purple4", "purple3", "blue_violet", "orange4", "grey37", "gray37", "medium_purple4",
    "slate_blue3", "royal_blue1", "chartreuse4", "dark_sea_green4", "pale_turquoise4", "steel_blue",
    "steel_blue3", "cornflower_blue", "chartreuse3", "cadet_blue", "sky_blue3", "steel_blue1",
    "pale_green3", "sea_green3", "aquamarine3", "medium_turquoise", "chartreuse2", "sea_green2",
    "sea_green1", "aquamarine1", "dark_slate_gray2", "dark_magenta", "dark_violet", "purple",
    "light_pink4", "plum4", "medium_purple3", "slate_blue1", "yellow4", "wheat4", "grey53",
    "gray53", "light_slate_grey", "light_slate_gray", "medium_purple", "light_slate_blue",
    "dark_olive_green3", "dark_sea_green", "light_sky_blue3", "sky_blue2", "dark_sea_green3",
    "dark_slate_gray3", "sky_blue1", "chartreuse1", "light_green", "pale_green1",
    "dark_slate_gray1", "red3", "medium_violet_red", "magenta3", "dark_orange3", "indian_red",
    "hot_pink3", "medium_orchid3", "medium_orchid", "medium_purple2", "dark_goldenrod",
    "light_salmon3", "rosy_brown", "grey63", "gray63", "medium_purple1", "gold3", "dark_khaki",
    "navajo_white3", "grey69", "gray69", "light_steel_blue3", "light_steel_blue", "yellow3",
    "dark_sea_green2", "light_cyan3", "light_sky_blue1", "green_yellow", "dark_olive_green2",
    "dark_sea_green1", "pale_turquoise1", "deep_pink3", "magenta2", "hot_pink2", "orchid",
    "medium_orchid1", "orange3", "light_pink3", "pink3", "plum3", "violet", "light_goldenrod3",
    "tan", "misty_rose3", "thistle3", "plum2", "khaki3", "light_goldenrod2", "light_yellow3",
    "grey84", "gray84", "light_steel_blue1", "yellow2", "dark_olive_green1", "honeydew2",
    "light_cyan1", "red1", "deep_pink2", "deep_pink1", "magenta1", "orange_red1", "indian_red1",
    "hot_pink", "dark_orange", "salmon1", "light_coral", "pale_violet_red1", "orchid2", "orchid1",
    "orange1", "sandy_brown", "light_salmon1", "light_pink1", "pink1", "plum1", "gold1",
    "navajo_white1", "misty_rose1", "thistle1", "yellow1", "light_goldenrod1", "khaki1", "wheat1",
    "cornsilk1", "grey100", "gray100", "grey3", "gray3", "grey7", "gray7", "grey11", "gray11",
    "grey15", "gray15", "grey19", "gray19", "grey23", "gray23", "grey27", "gray27", "grey30",
    "gray30", "grey35", "gray35", "grey39", "gray39", "grey42", "gray42", "grey46", "gray46",
    "grey50", "gray50", "grey54", "gray54", "grey58", "gray58", "grey62", "gray62", "grey66",
    "gray66", "grey70", "gray70", "grey74", "gray74", "grey78", "gray78", "grey82", "gray82",
    "grey85", "gray85", "grey89", "gray89", "grey93", "gray93"]

namespace Style

/-- Attributes in the order in which they are spelled out. -/
def attributes : List String :=
  ["bold", "dim", "italic", "underline", "blink", "blink2", "reverse", "conceal", "strike",
    "underline2", "frame", "encircle", "overline"]

def shortNames : List (String × String) :=
  [("b", "bold"), ("d", "dim"), ("i", "italic"), ("u", "underline"), ("r", "reverse"),
    ("c", "conceal"), ("s", "strike"), ("uu", "underline2"), ("o", "overline")]

def attribute? (word : String) : Option String :=
  if word ∈ attributes then some word else shortNames.lookup word

def isLowerHex (c : Char) : Bool :=
  c.isDigit || ('a' ≤ c && c ≤ 'f')

/-- A list cut at every comma. -/
def splitCommas : List Char → List (List Char)
  | [] => [[]]
  | c :: cs =>
    match splitCommas cs with
    | part :: rest => if c = ',' then [] :: part :: rest else (c :: part) :: rest
    | [] => [[c]]

/-- The number that digits of any script spell. No digits at all, or too many, are a fault. -/
def shade (cs : List Char) : Except Fault Nat :=
  if cs.isEmpty then .error (.unreadableInteger "")
  else if Reading.mostDigits < cs.length then .error (.tooManyDigits cs.length)
  else .ok (Reading.digitsFrom 0 0 cs).1

/-- The inside of `name(…)`. -/
def between? (name : String) (cs : List Char) : Option (List Char) :=
  let lead := name.toList ++ ['(']
  if lead.isPrefixOf cs && cs.getLast? = some ')' then some (cs.drop lead.length).dropLast
  else none

/-- Whether the inside of `rgb(…)` gives three shades. The digits of a shade may be missing or too
many only where the commas are right. -/
def areShades (cs : List Char) : Except Fault Bool := do
  let parts := splitCommas cs
  if cs.all (fun c => isDigit c || c == ',') && parts.length == 3 then
    let shades ← parts.mapM shade
    return shades.all (· ≤ 255)
  else return false

def isShadeNumber (cs : List Char) : Bool :=
  !cs.isEmpty && cs.length ≤ 3 && cs.all Char.isDigit && (Reading.digitsFrom 0 0 cs).1 ≤ 255

/-- Whether a word in lower case spells a colour: by name, by six hexadecimal digits, by its number,
or by its three shades. -/
def isColour (word : String) : Except Fault Bool :=
  let cs := word.toList
  match between? "rgb" cs with
  | some shades => areShades shades
  | none =>
    .ok (word = "default" || word ∈ colourNames ||
      (cs.head? = some '#' && cs.length == 7 && cs.tail.all isLowerHex) ||
      (between? "color" cs).any isShadeNumber)

end Style

/-- What a style sets. Of several words for one attribute the last counts. -/
structure Style where
  marks : List (String × Bool) := []
  colour : Option String := none
  background : Option String := none
  link : Option String := none

namespace Style

def splitWords : List Char → List (List Char)
  | [] => []
  | c :: cs =>
    if isBlank c then splitWords cs
    else
      match cs, splitWords cs with
      | next :: _, word :: rest => if isBlank next then [c] :: word :: rest else (c :: word) :: rest
      | _, rest => [c] :: rest

def readWords (style : Style) : List String → Except Fault (Option Style)
  | [] => .ok (some style)
  | word :: rest =>
    let key := lower word
    if key = "on" then
      match rest with
      | [] => .ok none
      | colour :: rest => do
        if ← isColour (lower colour) then
          readWords { style with background := some (lower colour) } rest
        else return none
    else if key = "not" then
      match rest with
      | [] => .ok none
      | name :: rest =>
        match attribute? name with
        | some mark => readWords { style with marks := (mark, false) :: style.marks } rest
        | none => .ok none
    else if key = "link" then
      match rest with
      | [] => .ok none
      | target :: rest => readWords { style with link := some target } rest
    else
      match attribute? key with
      | some mark => readWords { style with marks := (mark, true) :: style.marks } rest
      | none => do
        if ← isColour key then readWords { style with colour := some key } rest else return none

/-- The style that a text spells out, if it spells one. -/
def read (definition : String) : Except Fault (Option Style) :=
  if trimmed definition = "none" then .ok (some {})
  else readWords {} ((splitWords definition.toList).map String.ofList)

def markWords (style : Style) (mark : String) : List String :=
  match style.marks.lookup mark with
  | some true => [mark]
  | some false => ["not", mark]
  | none => []

/-- Attributes first, then the colour, the background and the link. -/
def spelling (style : Style) : String :=
  let words :=
    attributes.flatMap style.markWords ++ style.colour.toList ++
      (style.background.toList.flatMap fun colour => ["on", colour]) ++
      (style.link.toList.flatMap fun target => ["link", target])
  if words.isEmpty then "none" else " ".intercalate words

/-- The one spelling of a style; what is no style is only put in lower case. -/
def normal (definition : String) : Except Fault String := do
  match ← read definition with
  | some style => return style.spelling
  | none => return lower (trimmed definition)

end Style

end BlockCode.Text
