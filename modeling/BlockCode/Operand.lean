import BlockCode.Text.Character
import BlockCode.Text.Word

namespace BlockCode.Operand

def dropMinus : List Char → List Char
  | '-' :: cs => cs
  | cs => cs

/-- Digits, and behind them a point and further digits or nothing at all. -/
def isPlainDecimal (cs : List Char) : Bool :=
  let rest := cs.dropWhile Text.isDigit
  cs.head?.any Text.isDigit &&
    match rest with
    | [] => true
    | '.' :: fraction => !fraction.isEmpty && fraction.all Text.isDigit
    | _ => false

/-- A numeric literal, with white space around it or not. -/
def isNumber (code : String) : Bool :=
  isPlainDecimal (dropMinus (Text.trim code.toList))

/-- A name of word characters that starts with a letter or underscore; a final newline is allowed.
-/
def isName (code : String) : Bool :=
  let cs := code.toList
  let cs := if cs.getLast? = some '\n' then cs.dropLast else cs
  match cs with
  | [] => false
  | c :: rest => (c.isAlpha || c == '_') && rest.all Text.isWord

/-- Code that may be repeated in a program without evaluating anything twice. -/
def isSimple (code : String) : Bool :=
  isName code || isNumber code

end BlockCode.Operand
