import BlockCode.Text.Word
import BlockCode.Value
import BlockCode.Fault

namespace BlockCode.Name

def punctuation : List Char :=
  [' ', ';', ',', '/', '?', ':', '@', '&', '=', '+', '$', '-', '.', '!', '~', '*', '\'', '(', ')',
    '#']

def upperHexDigit (n : Nat) : Char :=
  if n < 10 then Char.ofNat (48 + n) else Char.ofNat (55 + n)

def byteImage (b : UInt8) : List Char :=
  ['_', upperHexDigit (b.toNat / 16), upperHexDigit (b.toNat % 16)]

/-- Word characters stay, blanks and common punctuation become an underscore, and anything else an
underscore and two hexadecimal digits for each of its bytes. -/
def charImage (c : Char) : List Char :=
  if Text.isAsciiWord c then [c]
  else if c ∈ punctuation then ['_']
  else (String.utf8EncodeChar c).flatMap byteImage

def unnamed : List Char :=
  ['u', 'n', 'n', 'a', 'm', 'e', 'd']

/-- An identifier does not start with a digit. -/
def leadLetter (cs : List Char) : List Char :=
  if cs.head?.any Char.isDigit then 'm' :: 'y' :: '_' :: cs else cs

def identifierChars (cs : List Char) : List Char :=
  if cs.isEmpty then unnamed else leadLetter (cs.flatMap charImage)

def identifier (name : String) : String :=
  String.ofList (identifierChars name.toList)

/-- The identifier for a value used as a name. A value that is not set has no name; any other has to
be a text. -/
def identifierOf : Value → Except Fault String
  | .text s => .ok (identifier s)
  | v => if v.isSet then .error .notAName else .ok (identifier "")

end BlockCode.Name
