import BlockCode.Text.Printable

namespace BlockCode.Text

def hexDigit (n : Nat) : Char :=
  if n < 10 then Char.ofNat (48 + n) else Char.ofNat (87 + n)

/-- The last `width` hexadecimal digits of `n`. -/
def hexDigits : Nat → Nat → List Char
  | 0, _ => []
  | width + 1, n => hexDigits width (n / 16) ++ [hexDigit (n % 16)]

def showChar (quote c : Char) : List Char :=
  if c = quote ∨ c = '\\' then ['\\', c]
  else if c = '\n' then ['\\', 'n']
  else if c = '\r' then ['\\', 'r']
  else if c = '\t' then ['\\', 't']
  else if isPrintable c then [c]
  else if c.toNat < 0x100 then '\\' :: 'x' :: hexDigits 2 c.toNat
  else if c.toNat < 0x10000 then '\\' :: 'u' :: hexDigits 4 c.toNat
  else '\\' :: 'U' :: hexDigits 8 c.toNat

/-- Single quotes, unless the text has a single quote and no double quote. -/
def quoteFor (cs : List Char) : Char :=
  if '\'' ∈ cs ∧ '"' ∉ cs then '"' else '\''

def shown (s : String) : String :=
  let cs := s.toList
  let quote := quoteFor cs
  String.ofList (quote :: (cs.flatMap (showChar quote) ++ [quote]))

def escapeLiteral : List Char → List Char
  | [] => []
  | c :: cs =>
    if c = '\\' then '\\' :: '\\' :: escapeLiteral cs
    else if c = '\n' then '\\' :: 'n' :: escapeLiteral cs
    else if c = '"' then '\\' :: '"' :: escapeLiteral cs
    else c :: escapeLiteral cs

def literalChars (cs : List Char) : List Char :=
  '"' :: (escapeLiteral cs ++ ['"'])

/-- A literal stands between double quotes. A backslash, a newline and a double quote are written as a
backslash and a letter or sign. -/
def literal (text : String) : String :=
  String.ofList (literalChars text.toList)

end BlockCode.Text
