import BlockCode.Number.Reading
import BlockCode.Toml.Moment
import BlockCode.Value

namespace BlockCode.Toml

/-- Why a document is not read: it breaks the rules, or a decimal integer has too many digits. -/
inductive Refusal where
  | malformed
  | tooManyDigits (count : Nat)
  deriving DecidableEq

def Refusal.ofFlaw : Reading.IntegerFlaw → Refusal
  | .unreadable => .malformed
  | .tooManyDigits count => .tooManyDigits count

def orMalformed {α : Type} : Option α → Except Refusal α
  | some a => .ok a
  | none => .error .malformed

def isSpace (c : Char) : Bool :=
  c == ' ' || c == '\t'

def skipSpaces (cs : List Char) : List Char :=
  cs.dropWhile isSpace

/-- Control characters stand nowhere but tabs, and newlines where lines may end. -/
def isControl (c : Char) : Bool :=
  (c.val < 0x20 && c != '\t') || c.val == 0x7f

/-- Skips a comment up to the end of its line. -/
def comment? (cs : List Char) : Option (List Char) :=
  match cs with
  | '#' :: rest =>
    let text := rest.takeWhile (· != '\n')
    if text.any isControl then none else some (rest.dropWhile (· != '\n'))
  | _ => some cs

/-- Skips blanks, line ends and comments between the items of an array. -/
def skipGaps : Nat → List Char → Option (List Char)
  | 0, _ => none
  | fuel + 1, cs =>
    match cs.dropWhile fun c => isSpace c || c == '\n' with
    | '#' :: rest => do skipGaps fuel (← comment? ('#' :: rest))
    | rest => some rest

def isBareKey (c : Char) : Bool :=
  c.isAlphanum || c == '-' || c == '_'

/-- The rest behind a leading text. -/
def strip? : List Char → List Char → Option (List Char)
  | [], cs => some cs
  | _ :: _, [] => none
  | p :: ps, c :: cs => if p = c then strip? ps cs else none

def hexDigit? (c : Char) : Option Nat :=
  if '0' ≤ c && c ≤ '9' then some (c.toNat - 48)
  else if 'a' ≤ c && c ≤ 'f' then some (c.toNat - 87)
  else if 'A' ≤ c && c ≤ 'F' then some (c.toNat - 55)
  else none

/-- A character given by `count` hexadecimal digits; surrogates are none. -/
def codePoint? (count value : Nat) (cs : List Char) : Option (Char × List Char) :=
  match count, cs with
  | 0, cs =>
    if h : value.isValidChar then some (Char.ofNatAux value h, cs) else none
  | _ + 1, [] => none
  | count + 1, c :: rest => do codePoint? count (16 * value + (← hexDigit? c)) rest

/-- The character of an escape and the rest. -/
def escape? : List Char → Option (Char × List Char)
  | 'b' :: cs => some (Char.ofNat 8, cs)
  | 't' :: cs => some ('\t', cs)
  | 'n' :: cs => some ('\n', cs)
  | 'f' :: cs => some (Char.ofNat 12, cs)
  | 'r' :: cs => some ('\r', cs)
  | '"' :: cs => some ('"', cs)
  | '\\' :: cs => some ('\\', cs)
  | 'u' :: cs => codePoint? 4 0 cs
  | 'U' :: cs => codePoint? 8 0 cs
  | _ => none

/-- Skips a line end and all blanks behind it, where a backslash asks for it. -/
def lineJoin? (cs : List Char) : Option (List Char) :=
  match skipSpaces cs with
  | '\n' :: rest => some (rest.dropWhile fun c => isSpace c || c == '\n')
  | _ => none

/-- The inside of a text in double quotes, and the rest behind its end. -/
def basicText? (multiline : Bool) : Nat → List Char → Option (List Char × List Char)
  | 0, _ => none
  | fuel + 1, cs =>
    match cs with
    | [] => none
    | '"' :: rest =>
      if !multiline then some ([], rest)
      else
        match rest with
        | '"' :: '"' :: after => some ([], after)
        | _ => do
          let (text, after) ← basicText? multiline fuel rest
          return ('"' :: text, after)
    | '\\' :: rest =>
      let joined := if multiline && rest.head?.any (fun c => isSpace c || c == '\n') then
          lineJoin? rest
        else none
      match joined with
      | some after => basicText? multiline fuel after
      | none => do
        let (c, after) ← escape? rest
        let (text, after) ← basicText? multiline fuel after
        return (c :: text, after)
    | c :: rest =>
      if isControl c && !(multiline && c == '\n') then none
      else do
        let (text, after) ← basicText? multiline fuel rest
        return (c :: text, after)

/-- The inside of a text in single quotes, which has no escapes. -/
def literalText? (multiline : Bool) : List Char → Option (List Char × List Char)
  | [] => none
  | c :: rest =>
    if c = '\'' ∧ !multiline then some ([], rest)
    else if c = '\'' ∧ rest.take 2 = ['\'', '\''] then some ([], rest.drop 2)
    else if isControl c && !(multiline && c == '\n') then none
    else (literalText? multiline rest).map fun r => (c :: r.1, r.2)

/-- Up to two further quotes at the end of a multi-line text belong to it. -/
def extraQuotes (quote : Char) (text rest : List Char) : List Char × List Char :=
  match rest with
  | c :: d :: after =>
    if c = quote ∧ d = quote then (text ++ [quote, quote], after)
    else if c = quote then (text ++ [quote], d :: after)
    else (text, rest)
  | [c] => if c = quote then (text ++ [quote], []) else (text, rest)
  | [] => (text, rest)

def dropNewline : List Char → List Char
  | '\n' :: cs => cs
  | cs => cs

/-- A text of any kind. -/
def text? (cs : List Char) : Option (String × List Char) :=
  let fuel := cs.length + 1
  let found : Option (List Char × List Char) :=
    match cs with
    | '"' :: '"' :: '"' :: rest =>
      (basicText? true fuel (dropNewline rest)).map fun r => extraQuotes '"' r.1 r.2
    | '"' :: rest => basicText? false fuel rest
    | '\'' :: '\'' :: '\'' :: rest =>
      (literalText? true (dropNewline rest)).map fun r => extraQuotes '\'' r.1 r.2
    | '\'' :: rest => literalText? false rest
    | _ => none
  found.map fun r => (String.ofList r.1, r.2)

/-- One part of a dotted key. -/
def keyPart? (cs : List Char) : Option (String × List Char) :=
  match cs with
  | '"' :: rest => (basicText? false (cs.length + 1) rest).map fun r => (String.ofList r.1, r.2)
  | '\'' :: rest => (literalText? false rest).map fun r => (String.ofList r.1, r.2)
  | _ =>
    let word := cs.takeWhile isBareKey
    if word.isEmpty then none else some (String.ofList word, cs.dropWhile isBareKey)

/-- A dotted key and the rest behind the blanks after it. -/
def key? : Nat → List Char → Option (List String × List Char)
  | 0, _ => none
  | fuel + 1, cs => do
    let (part, rest) ← keyPart? cs
    match skipSpaces rest with
    | '.' :: more =>
      let (parts, rest) ← key? fuel (skipSpaces more)
      return (part :: parts, rest)
    | rest => return ([part], rest)

/-- Digits of a class with single underscores between them. The flag tells whether a digit stands
just before. -/
def digitsOf (isDigit : Char → Bool) : Bool → List Char → List Char × List Char
  | _, [] => ([], [])
  | behindDigit, c :: cs =>
    if isDigit c then
      let more := digitsOf isDigit true cs
      (c :: more.1, more.2)
    else if behindDigit && c == '_' && cs.head?.any isDigit then digitsOf isDigit false cs
    else ([], c :: cs)

def digitRun (isDigit : Char → Bool) (cs : List Char) : List Char × List Char :=
  digitsOf isDigit false cs

def natOf (base : Nat) (digits : List Char) : Nat :=
  digits.foldl (fun n c => base * n + (hexDigit? c).getD 0) 0

/-- An integer in base two, eight or sixteen. -/
def basedInteger? (cs : List Char) : Option (Value × List Char) :=
  let read (base : Nat) (isDigit : Char → Bool) (rest : List Char) :=
    let run := digitRun isDigit rest
    if run.1.isEmpty then none else some (Value.int (Int.ofNat (natOf base run.1)), run.2)
  match cs with
  | '0' :: 'x' :: rest => read 16 (fun c => (hexDigit? c).isSome) rest
  | '0' :: 'o' :: rest => read 8 (fun c => '0' ≤ c && c ≤ '7') rest
  | '0' :: 'b' :: rest => read 2 (fun c => c == '0' || c == '1') rest
  | _ => none

/-- The integer part of a decimal number: zero alone, or digits that do not start with it. -/
def wholePart (cs : List Char) : List Char × List Char :=
  match cs with
  | '0' :: rest => (['0'], rest)
  | _ => digitRun Char.isDigit cs

/-- A fraction or an exponent: its lead, its digits, and the rest. -/
def fractionPart (cs : List Char) : List Char × List Char :=
  match cs with
  | '.' :: rest =>
    let run := digitRun Char.isDigit rest
    if run.1.isEmpty then ([], cs) else ('.' :: run.1, run.2)
  | _ => ([], cs)

def exponentPart (cs : List Char) : List Char × List Char :=
  match cs with
  | c :: rest =>
    if c = 'e' ∨ c = 'E' then
      let sign := rest.take 1 |>.filter fun d => d == '+' || d == '-'
      let run := digitRun Char.isDigit (rest.drop sign.length)
      if run.1.isEmpty then ([], cs) else ('e' :: (sign ++ run.1), run.2)
    else ([], cs)
  | [] => ([], cs)

def decimal (cs : List Char) : Except Refusal (Value × List Char) :=
  let sign := cs.take 1 |>.filter fun d => d == '+' || d == '-'
  let whole := wholePart (cs.drop sign.length)
  let fraction := fractionPart whole.2
  let exponent := exponentPart fraction.2
  let token := String.ofList (sign ++ whole.1 ++ fraction.1 ++ exponent.1)
  if whole.1.isEmpty then .error .malformed
  else if fraction.1.isEmpty && exponent.1.isEmpty then
    do
      let n ← (Reading.integer Reading.mostDigits token).mapError Refusal.ofFlaw
      return (.int n, exponent.2)
  else do return (.real (← orMalformed (Reading.real? token)), exponent.2)

/-- Infinity or not a number, by name. -/
def namedReal? (cs : List Char) : Option (Value × List Char) :=
  let sign := cs.take 1 |>.filter fun d => d == '+' || d == '-'
  let rest := cs.drop sign.length
  match strip? ['i', 'n', 'f'] rest, strip? ['n', 'a', 'n'] rest with
  | some after, _ => some (.real (.infinite (sign == ['-'])), after)
  | none, some after => some (.real .nan, after)
  | none, none => none

def truth? (cs : List Char) : Option (Value × List Char) :=
  match strip? ['t', 'r', 'u', 'e'] cs, strip? ['f', 'a', 'l', 's', 'e'] cs with
  | some after, _ => some (.bool true, after)
  | none, some after => some (.bool false, after)
  | none, none => none

/-- A value that holds no other values. -/
def scalar (cs : List Char) : Except Refusal (Value × List Char) :=
  match cs with
  | '"' :: _ => orMalformed ((text? cs).map fun r => (.text r.1, r.2))
  | '\'' :: _ => orMalformed ((text? cs).map fun r => (.text r.1, r.2))
  | _ =>
    match truth? cs with
    | some found => .ok found
    | none =>
      match moment? cs with
      | some (moment, rest) =>
        if moment.isPossible then .ok (.moment moment.spelling, rest) else .error .malformed
      | none =>
        match basedInteger? cs <|> namedReal? cs with
        | some found => .ok found
        | none => decimal cs

end BlockCode.Toml
