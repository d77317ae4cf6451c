import BlockCode.Text.Character
import BlockCode.Text.Emoji.Flags
import BlockCode.Text.Emoji.SignsFromM
import BlockCode.Text.Emoji.SignsToL
import BlockCode.Text.LowerCase

namespace BlockCode.Text.Emoji

/-- What the lines of a table, made of entries `name=code`, have for a name. -/
def code? (table : List String) (name : String) : Option String :=
  (table.flatMap fun line => line.splitOn " ").findSome? fun entry =>
    match entry.splitOn "=" with
    | [listed, code] => if listed = name then some code else none
    | _ => none

/-- Whether a code has the mark of names with further forms. -/
def hasForms (code : String) : Bool :=
  code.toList.getLast? = some '+'

def hexDigit (c : Char) : Nat :=
  if c.isDigit then c.toNat - 48 else c.toNat - 87

/-- The characters of a sign, whose numbers have hyphens between them. -/
def signOf (code : String) : List Char :=
  (code.splitOn "-").map fun number =>
    Char.ofNat ((number.toList.filter (· ≠ '+')).foldl (fun n c => 16 * n + hexDigit c) 0)

/-- A flag is written with the letters of its land. -/
def flagOf (code : String) : List Char :=
  (code.toList.filter (· ≠ '+')).map fun c => Char.ofNat (0x1f1e6 + (c.toNat - 97))

def listed? (name : String) : Option (List Char) :=
  (code? signsToL name <|> code? signsFromM name).map signOf <|> (code? flags name).map flagOf

def forFlag : String := "flag_for_"

def flagFor? (name : String) : Option (List Char) :=
  if forFlag.toList.isPrefixOf name.toList then
    ((code? flags (String.ofList (name.toList.drop forFlag.length))).filter hasForms).map flagOf
  else none

/-- What stands before an ending. -/
def before? (ending : String) (cs : List Char) : Option (List Char) :=
  if ending.toList.isSuffixOf cs then some (cs.take (cs.length - ending.length)) else none

/-- The colours of skin, with the characters that give them. -/
def tones : List (String × Char) :=
  [("_light_skin_tone", Char.ofNat 0x1f3fb), ("_medium-light_skin_tone", Char.ofNat 0x1f3fc),
    ("_medium_skin_tone", Char.ofNat 0x1f3fd), ("_medium-dark_skin_tone", Char.ofNat 0x1f3fe),
    ("_dark_skin_tone", Char.ofNat 0x1f3ff)]

def asText : Char := Char.ofNat 0xfe0e

def asPicture : Char := Char.ofNat 0xfe0f

/-- The colour stands behind the first character, in place of its look. -/
def tinted (tone : Char) : List Char → List Char
  | [] => []
  | c :: cs => c :: tone :: cs.dropWhile (· == asPicture)

def toned? (name : String) : Option (List Char) :=
  tones.findSome? fun (ending, tone) => do
    let base ← before? ending name.toList
    let code ← code? signsToL (String.ofList base) <|> code? signsFromM (String.ofList base)
    if hasForms code then some (tinted tone (signOf code)) else none

def sign? (name : String) : Option (List Char) :=
  listed? name <|> flagFor? name <|> toned? name

/-- A name without the ending that asks for a look, and the character for that look. -/
def splitLook (name : List Char) : List Char × List Char :=
  match before? "-emoji" name, before? "-text" name with
  | some base, _ => (base, [asPicture])
  | none, some base => (base, [asText])
  | none, none => (name, [])

/-- What a name between colons stands for; one that is not known stays as it is. -/
def meaning (name : List Char) : List Char :=
  let (base, look) := splitLook name
  match sign? (lower (String.ofList base)) with
  | some sign => sign ++ look
  | none => ':' :: (name ++ [':'])

/-- What stands before the next colon, if there is no blank in it. -/
def named? : List Char → Option (List Char)
  | [] => none
  | c :: cs =>
    if c = ':' then some [] else if isBlank c then none else (named? cs).map (c :: ·)

/-- Copies a text with signs for their names, after skipping its first `skip` characters. -/
def replaceFrom : Nat → List Char → List Char
  | _, [] => []
  | skip + 1, _ :: cs => replaceFrom skip cs
  | 0, c :: cs =>
    match (if c = ':' then named? cs else none) with
    | some name => meaning name ++ replaceFrom (name.length + 1) cs
    | none => c :: replaceFrom 0 cs

/-- A colon ends at most one name. -/
def replace (cs : List Char) : List Char :=
  replaceFrom 0 cs

end BlockCode.Text.Emoji
