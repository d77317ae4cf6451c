import BlockCode.Number.Reading
import BlockCode.Text.CharacterName

namespace BlockCode.Text.Constant

inductive Number where
  | integer (n : Nat)
  | real
  | imaginary
  deriving DecidableEq

inductive Token where
  | number (n : Number)
  /-- A text of characters or, if so marked, of bytes. -/
  | quoted (bytes : Bool)
  | word (name : String)
  | dots
  | sign (c : Char)
  /-- The end of a line outside all brackets. -/
  | lineEnd
  deriving DecidableEq

/-- Every kind of line end as a newline. -/
def plainLines : List Char → List Char
  | [] => []
  | c :: cs =>
    if c = '\r' then
      if cs.head? = some '\n' then plainLines cs else '\n' :: plainLines cs
    else c :: plainLines cs

def isSpace (c : Char) : Bool :=
  c == ' ' || c == '\t' || c.toNat == 12

/-- A character that may start a word; those beyond ASCII are taken for letters. -/
def startsWord (c : Char) : Bool :=
  c.isAlpha || c == '_' || 128 ≤ c.toNat

/-- A character that may continue a word or a number. -/
def continuesWord (c : Char) : Bool :=
  startsWord c || c.isDigit

/-- Letters in other styles that count as plain ones, for the one word in which they matter. -/
def styledLetters : List (Char × List Nat) :=
  [('s', [0x17f, 0x2e2, 0x209b, 0xff53, 0x1d42c, 0x1d460, 0x1d494, 0x1d4c8, 0x1d4fc, 0x1d530,
      0x1d564, 0x1d598, 0x1d5cc, 0x1d600, 0x1d634, 0x1d668, 0x1d69c]),
    ('e', [0x1d49, 0x2091, 0x212f, 0x2147, 0xff45, 0x1d41e, 0x1d452, 0x1d486, 0x1d4ee, 0x1d522,
      0x1d556, 0x1d58a, 0x1d5be, 0x1d5f2, 0x1d626, 0x1d65a, 0x1d68e]),
    ('t', [0x1d57, 0x209c, 0xff54, 0x1d42d, 0x1d461, 0x1d495, 0x1d4c9, 0x1d4fd, 0x1d531, 0x1d565,
      0x1d599, 0x1d5cd, 0x1d601, 0x1d635, 0x1d669, 0x1d69d])]

def plainLetter (c : Char) : Char :=
  match styledLetters.find? fun entry => entry.2.contains c.toNat with
  | some (letter, _) => letter
  | none => c

/-- Whether a word names the call that makes an empty set. -/
def namesSet (word : String) : Bool :=
  word.toList.map plainLetter == ['s', 'e', 't']

def hexValue? (c : Char) : Option Nat :=
  if '0' ≤ c && c ≤ '9' then some (c.toNat - 48)
  else if 'a' ≤ c && c ≤ 'f' then some (c.toNat - 87)
  else if 'A' ≤ c && c ≤ 'F' then some (c.toNat - 55)
  else none

/-- What follows `count` hexadecimal digits that spell a number up to `greatest`. -/
def afterHex? (greatest count : Nat) (cs : List Char) : Option (List Char) :=
  let digits := cs.take count
  if digits.length = count ∧ digits.all fun c => (hexValue? c).isSome then
    let n := digits.foldl (fun n c => 16 * n + (hexValue? c).getD 0) 0
    if n ≤ greatest then some (cs.drop count) else none
  else none

/-- What follows the name of a character in braces. -/
def afterName? : List Char → Option (List Char)
  | '\x7b' :: cs =>
    let name := cs.takeWhile (· ≠ '\x7d')
    if name.length < cs.length ∧ CharacterName.isName name then some (cs.drop (name.length + 1))
    else none
  | _ => none

/-- What follows an escape, from behind its backslash. Those that give a character by its number or
its name have to be complete. -/
def afterEscape? (bytes : Bool) : List Char → Option (List Char)
  | [] => none
  | 'x' :: cs => afterHex? 255 2 cs
  | c :: cs =>
    if bytes then if c.toNat < 128 then some cs else none
    else if c = 'u' then afterHex? 0xffff 4 cs
    else if c = 'U' then afterHex? 0x10ffff 8 cs
    else if c = 'N' then afterName? cs
    else some cs

/-- How a text is quoted. -/
structure Quoting where
  quote : Char
  triple : Bool
  bytes : Bool
  raw : Bool

/-- What follows a text in quotes, from behind the opening quotes. `fuel` bounds the steps, of which
each takes a character. -/
def afterQuoted? (q : Quoting) : Nat → List Char → Option (List Char)
  | 0, _ => none
  | _ + 1, [] => none
  | fuel + 1, c :: cs =>
    if c = '\\' then
      match (if q.raw then cs.tail? else afterEscape? q.bytes cs) with
      | some rest =>
        if q.bytes && cs.head?.any (fun d => 128 ≤ d.toNat) then none
        else afterQuoted? q fuel rest
      | none => none
    else if c = q.quote ∧ !q.triple then some cs
    else if c = q.quote ∧ cs.take 2 = [c, c] then some (cs.drop 2)
    else if (c = '\n' ∧ !q.triple) ∨ (q.bytes ∧ 128 ≤ c.toNat) then none
    else afterQuoted? q fuel cs

/-- The letters that may stand before a quote: whether they ask for bytes, and whether escapes keep
their backslash. -/
def leads : List (String × Bool × Bool) :=
  [("", false, false), ("r", false, true), ("u", false, false), ("b", true, false),
    ("br", true, true), ("rb", true, true)]

/-- A text in quotes, after the given letters. -/
def quoted? (letters cs : List Char) : Option (Token × List Char) := do
  let (bytes, raw) ← leads.lookup (String.ofList (letters.map Char.toLower))
  match cs with
  | [] => none
  | c :: rest =>
    let triple := rest.take 2 = [c, c]
    let inside := if triple then rest.drop 2 else rest
    let after ← afterQuoted? { quote := c, triple, bytes, raw } (inside.length + 1) inside
    return (.quoted bytes, after)

/-- The digits of a class at the start, with single underscores between them, and the rest. -/
def digitRun (isDigit : Char → Bool) : List Char → List Char × List Char
  | [] => ([], [])
  | c :: cs =>
    if isDigit c then
      let more := digitRun isDigit cs
      (c :: more.1, more.2)
    else if c = '_' ∧ cs.head?.any isDigit then digitRun isDigit cs
    else ([], c :: cs)

/-- Digits that do not start with an underscore. -/
def digits (cs : List Char) : List Char × List Char :=
  if cs.head?.any Char.isDigit then digitRun Char.isDigit cs else ([], cs)

/-- What follows an exponent, if there is one. -/
def afterExponent? (cs : List Char) : Option (List Char) :=
  match cs with
  | [] => none
  | e :: rest =>
    let rest := if rest.head? = some '-' ∨ rest.head? = some '+' then rest.tail else rest
    if (e = 'e' ∨ e = 'E') ∧ rest.head?.any Char.isDigit then some (digits rest).2 else none

/-- An integer from its digits: zeros in front of others are refused, and so are too many digits. -/
def integer? (ds : List Char) : Option Number :=
  if ds.all (· == '0') then some (.integer 0)
  else if ds.head? = some '0' ∨ Reading.mostDigits < ds.length then none
  else some (.integer (ds.foldl (fun n c => 10 * n + (c.toNat - '0'.toNat)) 0))

def decimal? (cs : List Char) : Option (Number × List Char) :=
  let whole := digits cs
  let (pointed, rest) :=
    match whole.2 with
    | '.' :: rest => (true, (digits rest).2)
    | rest => (false, rest)
  let exponent := afterExponent? rest
  let rest := exponent.getD rest
  match rest with
  | c :: after =>
    if c = 'j' ∨ c = 'J' then some (.imaginary, after)
    else if pointed || exponent.isSome then some (.real, rest)
    else (integer? whole.1).map fun n => (n, rest)
  | [] =>
    if pointed || exponent.isSome then some (.real, rest)
    else (integer? whole.1).map fun n => (n, rest)

/-- An integer in base two, eight or sixteen, from behind its leading letter. -/
def based? (base : Nat) (cs : List Char) : Option (Number × List Char) :=
  let run := digitRun (fun c => (hexValue? c).any (· < base)) cs
  if run.1.isEmpty then none
  else some (.integer (run.1.foldl (fun n c => base * n + (hexValue? c).getD 0) 0), run.2)

/-- A number, which no word may follow at once. -/
def number? (cs : List Char) : Option (Token × List Char) := do
  let base? : Option Nat :=
    match cs with
    | '0' :: c :: _ => [('x', 16), ('o', 8), ('b', 2)].lookup c.toLower
    | _ => none
  let (n, rest) ←
    match base? with
    | some base => based? base (cs.drop 2)
    | none => decimal? cs
  if rest.head?.any continuesWord then none else return (.number n, rest)

/-- Skips blanks at the start of a line, with the column that they lead to. A line that goes on
below starts where the blanks before the first such break end, if there are any. -/
def margin (column broken : Nat) : List Char → Nat × List Char
  | [] => (column, [])
  | ' ' :: cs => margin (column + 1) broken cs
  | '\t' :: cs => margin (column + 1) broken cs
  | '\x0c' :: cs => margin 0 broken cs
  | '\\' :: '\n' :: cs => margin column (if broken = 0 then column else broken) cs
  | cs => (if broken = 0 then column else broken, cs)

/-- Whether something stands at the start of a line but not in its first column. -/
def isIndented (cs : List Char) : Bool :=
  let (column, rest) := margin 0 0 cs
  column ≠ 0 && rest.head?.any fun c => c ≠ '#' && c ≠ '\n'

/-- Brackets cannot be nested any deeper. -/
def deepest : Nat := 200

/-- A token that is no bracket and no line end. -/
def simpleToken? (cs : List Char) : Option (Token × List Char) :=
  match cs with
  | [] => none
  | c :: rest =>
    if c = '\'' ∨ c = '"' then quoted? [] cs
    else if startsWord c then
      let word := cs.takeWhile continuesWord
      let after := cs.dropWhile continuesWord
      if after.head? = some '\'' ∨ after.head? = some '"' then quoted? word after
      else some (.word (String.ofList word), after)
    else if c = '.' ∧ rest.take 2 = ['.', '.'] then some (.dots, rest.drop 2)
    else if c.isDigit ∨ (c = '.' ∧ rest.head?.any Char.isDigit) then number? cs
    else if c ∈ ['+', '-', ',', ':'] then some (.sign c, rest)
    else none

/-- The tokens of a text, `depth` brackets deep. Line ends count outside brackets only. `fuel`
bounds the steps, of which each takes a character. -/
def tokens? (depth : Nat) : Nat → List Char → Option (List Token)
  | 0, _ => none
  | _ + 1, [] => some []
  | fuel + 1, c :: cs =>
    if isSpace c then tokens? depth fuel cs
    else if c = '#' then tokens? depth fuel (cs.dropWhile (· ≠ '\n'))
    else if c = '\\' then
      match cs with
      | '\n' :: d :: rest => tokens? depth fuel (d :: rest)
      | _ => none
    else if c = '\n' then
      if 0 < depth then tokens? depth fuel cs
      else if isIndented cs then none
      else (tokens? depth fuel cs).map (.lineEnd :: ·)
    else if c = '(' ∨ c = '\x7b' then
      if depth < deepest then (tokens? (depth + 1) fuel cs).map (.sign c :: ·) else none
    else if c = ')' ∨ c = '\x7d' then (tokens? (depth - 1) fuel cs).map (.sign c :: ·)
    else
      match simpleToken? (c :: cs) with
      | some (token, rest) => (tokens? depth fuel rest).map (token :: ·)
      | none => none

/-- What an expression is, as far as it matters for the expressions around it. -/
inductive Node where
  | number (n : Number)
  /-- A number with a sign of its own. -/
  | signed (n : Number)
  /-- The name of the call that makes an empty set. -/
  | setName
  /-- Any other constant; sets hold only those that are fixed. -/
  | constant (fixed : Bool)
  deriving DecidableEq

def Node.isFixed : Node → Bool
  | .constant fixed => fixed
  | _ => true

/-- The number of a node with or without a sign. -/
def Node.number? : Node → Option Number
  | .number n => some n
  | .signed n => some n
  | _ => none

/-- Texts that follow each other are one, if they are of one kind. -/
def afterTexts? (bytes : Bool) : List Token → Option (List Token)
  | .quoted other :: rest => if other = bytes then afterTexts? bytes rest else none
  | rest => some rest

/-- An imaginary part may be added to a number that fits the range. -/
def sum? (left right : Node) : Option Node :=
  match left.number?, right with
  | some (.integer n), .number .imaginary =>
    (Binary64.ofInt? (Int.ofNat n)).map fun _ => .constant true
  | some .real, .number .imaginary => some (.constant true)
  | _, _ => none

namespace Weight

/-- What can be read at all weighs no more than this. -/
def greatest : Nat := 6000

/-- What an atom weighs more than the expression it stands in. -/
def atom : Nat := 22

/-- By how much a text exceeds an atom. -/
def text : Nat := 2

/-- By how much the call that makes an empty set exceeds an atom. -/
def call : Nat := 24

/-- The first expression outside all brackets. -/
def first : Nat := 3

/-- Behind a comma outside all brackets. -/
def further : Nat := 5

/-- The first item in parentheses. -/
def inGroup : Nat := 28

/-- The first item in braces. -/
def inBraces : Nat := 29

/-- The second item in parentheses. -/
def second : Nat := 30

/-- The items in parentheses after the second. -/
def later : Nat := 31

/-- Behind a comma in braces. -/
def laterInBraces : Nat := 30

end Weight

/-- What the next item of a group weighs, and those after it. -/
structure Places where
  next : Nat
  later : Nat

/-- Whether an atom of an expression of this weight can be read. -/
def isLight (weight : Nat) : Bool :=
  weight + Weight.atom ≤ Weight.greatest

mutual

/-- A number with a sign, a sum, or an atom, in an expression of the given weight. The fuel of these
readers bounds their steps, of which each takes a token or leads on to the next one. -/
def expression? : Nat → Nat → List Token → Option (Node × List Token)
  | 0, _, _ => none
  | fuel + 1, weight, tokens => do
    let (left, rest) ← factor? fuel weight tokens
    match rest with
    | .sign c :: more =>
      if c = '+' ∨ c = '-' then
        let (right, rest) ← factor? fuel weight more
        return (← sum? left right, rest)
      else return (left, rest)
    | _ => return (left, rest)

def factor? : Nat → Nat → List Token → Option (Node × List Token)
  | 0, _, _ => none
  | fuel + 1, weight, tokens => do
    match tokens with
    | .sign c :: more =>
      if c = '+' ∨ c = '-' then
        match ← atom? fuel (weight + 1) more with
        | (.number n, rest) => return (.signed n, rest)
        | _ => none
      else primary? fuel weight tokens
    | _ => primary? fuel weight tokens

/-- An atom, or the call that makes an empty set. -/
def primary? : Nat → Nat → List Token → Option (Node × List Token)
  | 0, _, _ => none
  | fuel + 1, weight, tokens => do
    match ← atom? fuel weight tokens with
    | (.setName, .sign '(' :: .sign ')' :: rest) =>
      if isLight (weight + Weight.call) then return (.constant false, rest) else none
    | found => return found

def atom? : Nat → Nat → List Token → Option (Node × List Token)
  | 0, _, _ => none
  | fuel + 1, weight, tokens =>
    if !isLight weight then none else
    match tokens with
    | .number n :: rest => some (.number n, rest)
    | .quoted bytes :: rest =>
      if isLight (weight + Weight.text) then
        (afterTexts? bytes rest).map fun rest => (.constant true, rest)
      else none
    | .dots :: rest => some (.constant true, rest)
    | .word name :: rest =>
      if name = "True" ∨ name = "False" ∨ name = "None" then some (.constant true, rest)
      else if namesSet name then some (.setName, rest)
      else none
    | .sign '(' :: .sign ')' :: rest =>
      if isLight (weight + Weight.inGroup) then some (.constant true, rest) else none
    | .sign '(' :: rest => do
      let (first, rest) ← expression? fuel (weight + Weight.inGroup) rest
      match rest with
      | .sign ')' :: rest => return (first, rest)
      | rest =>
        let places := ⟨weight + Weight.second, weight + Weight.later⟩
        let (nodes, rest) ← items? fuel places first rest
        match rest with
        | .sign ')' :: rest => return (.constant (nodes.all Node.isFixed), rest)
        | _ => none
    | .sign '\x7b' :: .sign '\x7d' :: rest =>
      if isLight (weight + Weight.inBraces) then some (.constant false, rest) else none
    | .sign '\x7b' :: rest => do
      let (first, rest) ← expression? fuel (weight + Weight.inBraces) rest
      match rest with
      | .sign ':' :: _ => entries? fuel weight (weight + Weight.inBraces) first rest
      | rest =>
        let place := weight + Weight.laterInBraces
        let (nodes, rest) ← items? fuel ⟨place, place⟩ first rest
        match rest with
        | .sign '\x7d' :: rest =>
          if nodes.all Node.isFixed then return (.constant false, rest) else none
        | _ => none
    | _ => none

/-- The items of a group from behind its first one, which is given, up to where the commas end. -/
def items? : Nat → Places → Node → List Token → Option (List Node × List Token)
  | 0, _, _, _ => none
  | fuel + 1, places, node, tokens => do
    if node = .setName then none
    match tokens with
    | .sign ',' :: rest =>
      if !isLight places.next then none
      match rest with
      | [] => return ([node], rest)
      | .sign ')' :: _ => return ([node], rest)
      | .sign '\x7d' :: _ => return ([node], rest)
      | .lineEnd :: _ => return ([node], rest)
      | _ =>
        let (next, rest) ← expression? fuel places.next rest
        let (nodes, rest) ← items? fuel ⟨places.later, places.later⟩ next rest
        return (node :: nodes, rest)
    | _ => return ([node], tokens)

/-- The entries of a map from behind a key, which is given. The map stands in an expression of the
first weight, and the entry has the second. -/
def entries? : Nat → Nat → Nat → Node → List Token → Option (Node × List Token)
  | 0, _, _, _, _ => none
  | fuel + 1, weight, place, key, tokens => do
    if key = .setName ∨ !key.isFixed then none
    match tokens with
    | .sign ':' :: rest =>
      let (value, rest) ← expression? fuel place rest
      if value = .setName then none
      match rest with
      | .sign '\x7d' :: rest => return (.constant false, rest)
      | .sign ',' :: rest =>
        let place := weight + Weight.laterInBraces
        if !isLight place then none
        match rest with
        | .sign '\x7d' :: rest => return (.constant false, rest)
        | rest =>
          let (key, rest) ← expression? fuel place rest
          entries? fuel weight place key rest
      | _ => none
    | _ => none

end

/-- Whether tokens spell a constant, or several with commas between them. -/
def spellConstant (tokens : List Token) : Bool :=
  let tokens := tokens.dropWhile (· = .lineEnd)
  let fuel := 5 * tokens.length + 5
  let found := do
    let (first, rest) ← expression? fuel Weight.first tokens
    let (_, rest) ← items? fuel ⟨Weight.further, Weight.further⟩ first rest
    return rest
  found.any fun rest => rest.all (· = .lineEnd)

end Constant

/-- Whether a text spells a constant. The null character stands nowhere in one. -/
def isConstant (cs : List Char) : Bool :=
  let cs := Constant.plainLines cs
  !cs.contains '\x00' && !Constant.isIndented cs &&
    (Constant.tokens? 0 (cs.length + 1) cs).any Constant.spellConstant

end BlockCode.Text
