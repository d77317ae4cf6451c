import BlockCode.Number.Reading
import BlockCode.Value

namespace BlockCode.Json

def isBlank (c : Char) : Bool :=
  c == ' ' || c == '\t' || c == '\n' || c == '\r'

def skipBlanks (cs : List Char) : List Char :=
  cs.dropWhile isBlank

def hexValue? (c : Char) : Option Nat :=
  if '0' ≤ c && c ≤ '9' then some (c.toNat - 48)
  else if 'a' ≤ c && c ≤ 'f' then some (c.toNat - 87)
  else if 'A' ≤ c && c ≤ 'F' then some (c.toNat - 55)
  else none

/-- A number of four hexadecimal digits. -/
def unit? : List Char → Option (Nat × List Char)
  | a :: b :: c :: d :: rest => do
    let n ← [a, b, c, d].foldlM (fun n c => do return 16 * n + (← hexValue? c)) 0
    return (n, rest)
  | _ => none

/-- A character by its number; one beyond the first plane takes two units. -/
def numbered? (cs : List Char) : Option (Char × List Char) := do
  let (high, rest) ← unit? cs
  if 0xd800 ≤ high && high < 0xdc00 then
    match rest with
    | '\\' :: 'u' :: rest =>
      let (low, rest) ← unit? rest
      if 0xdc00 ≤ low && low < 0xe000 then
        return (Char.ofNat (0x10000 + (high - 0xd800) * 0x400 + (low - 0xdc00)), rest)
      else none
    | _ => none
  else if 0xdc00 ≤ high && high < 0xe000 then none
  else return (Char.ofNat high, rest)

/-- The character of an escape, from behind its backslash. -/
def escaped? : List Char → Option (Char × List Char)
  | [] => none
  | 'n' :: rest => some ('\n', rest)
  | 't' :: rest => some ('\t', rest)
  | 'r' :: rest => some ('\r', rest)
  | 'b' :: rest => some (Char.ofNat 8, rest)
  | 'f' :: rest => some (Char.ofNat 12, rest)
  | 'u' :: rest => numbered? rest
  | c :: rest => some (c, rest)

/-- A text from behind its opening quote, of which the characters so far are given, latest first.
`fuel` bounds the steps, of which each takes a character. -/
def text? : Nat → List Char → List Char → Option (String × List Char)
  | 0, _, _ => none
  | _ + 1, _, [] => none
  | fuel + 1, reversed, c :: cs =>
    if c = '"' then some (String.ofList reversed.reverse, cs)
    else if c = '\\' then
      match escaped? cs with
      | some (d, rest) => text? fuel (d :: reversed) rest
      | none => none
    else text? fuel (c :: reversed) cs

def isNumberPart (c : Char) : Bool :=
  c.isDigit || c == '-' || c == '+' || c == '.' || c == 'e' || c == 'E'

def number? (cs : List Char) : Option (Value × List Char) := do
  let token := cs.takeWhile isNumberPart
  let rest := cs.dropWhile isNumberPart
  let spelling := String.ofList token
  if token.any fun c => c == '.' || c == 'e' || c == 'E' then
    return (.real (← Reading.real? spelling), rest)
  else return (.int (← (Reading.integer Reading.mostDigits spelling).toOption), rest)

def words : List (String × Value) :=
  [("true", .bool true), ("false", .bool false), ("null", .null), ("NaN", .real .nan),
    ("Infinity", .real (.infinite false)), ("-Infinity", .real (.infinite true))]

/-- A value that has a name. -/
def word? (cs : List Char) : Option (Value × List Char) :=
  words.findSome? fun (name, v) =>
    if name.toList.isPrefixOf cs then some (v, cs.drop name.length) else none

mutual

/-- A value. The fuel of these readers bounds their steps, of which each takes a character or leads
on to one that does. -/
def value? : Nat → List Char → Option (Value × List Char)
  | 0, _ => none
  | fuel + 1, cs =>
    match skipBlanks cs with
    | '"' :: rest => (text? (rest.length + 1) [] rest).map fun r => (.text r.1, r.2)
    | '[' :: rest =>
      match skipBlanks rest with
      | ']' :: rest => some (.list [], rest)
      | rest => (items? fuel rest).map fun r => (.list r.1, r.2)
    | '\x7b' :: rest =>
      match skipBlanks rest with
      | '\x7d' :: rest => some (.map [], rest)
      | rest => (entries? fuel rest).map fun r => (.map r.1, r.2)
    | rest => (word? rest).or (number? rest)

def items? : Nat → List Char → Option (List Value × List Char)
  | 0, _ => none
  | fuel + 1, cs => do
    let (v, rest) ← value? fuel cs
    match skipBlanks rest with
    | ',' :: rest =>
      let (items, rest) ← items? fuel rest
      return (v :: items, rest)
    | ']' :: rest => return ([v], rest)
    | _ => none

def entries? : Nat → List Char → Option (List (String × Value) × List Char)
  | 0, _ => none
  | fuel + 1, cs => do
    match skipBlanks cs with
    | '"' :: rest =>
      let (key, rest) ← text? (rest.length + 1) [] rest
      match skipBlanks rest with
      | ':' :: rest =>
        let (v, rest) ← value? fuel rest
        match skipBlanks rest with
        | ',' :: rest =>
          let (entries, rest) ← entries? fuel rest
          return ((key, v) :: entries, rest)
        | '\x7d' :: rest => return ([(key, v)], rest)
        | _ => none
      | _ => none
    | _ => none

end

/-- The order of keys is kept, integers are told from other numbers, and the numbers without a finite
value have names. -/
def parse? (s : String) : Option Value :=
  let cs := s.toList
  match value? (2 * cs.length + 2) cs with
  | some (v, rest) => if (skipBlanks rest).isEmpty then some v else none
  | none => none

def writeChar (c : Char) : List Char :=
  if c = '"' then ['\\', '"']
  else if c = '\\' then ['\\', '\\']
  else if c = '\n' then ['\\', 'n']
  else if c.toNat < 0x20 || c.toNat = 0x7f then '\\' :: 'u' :: Text.hexDigits 4 c.toNat
  else [c]

def writeText (s : String) : String :=
  "\"" ++ String.ofList (s.toList.flatMap writeChar) ++ "\""

def writeReal : Binary64 → String
  | .nan => "NaN"
  | .infinite negative => if negative then "-Infinity" else "Infinity"
  | x => x.text

mutual

def write : Value → String
  | .null => "null"
  | .bool b => if b then "true" else "false"
  | .int n => toString n
  | .real x => writeReal x
  | .text s => writeText s
  | .list items => "[" ++ ", ".intercalate (writeItems items) ++ "]"
  | .map entries => "\x7b" ++ ", ".intercalate (writeEntries entries) ++ "\x7d"
  | .moment spelling => writeText spelling

def writeItems : List Value → List String
  | [] => []
  | v :: rest => write v :: writeItems rest

def writeEntries : List (String × Value) → List String
  | [] => []
  | (key, v) :: rest => (writeText key ++ ": " ++ write v) :: writeEntries rest

end

end BlockCode.Json
