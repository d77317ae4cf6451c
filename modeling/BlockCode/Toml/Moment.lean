namespace BlockCode.Toml

structure Date where
  year : Nat
  month : Nat
  day : Nat
  deriving DecidableEq, Repr

namespace Date

def isLeap (year : Nat) : Bool :=
  year % 4 == 0 && (year % 100 != 0 || year % 400 == 0)

def monthLength (year month : Nat) : Nat :=
  if month = 2 then if isLeap year then 29 else 28
  else if month ∈ [4, 6, 9, 11] then 30
  else 31

/-- Whether the calendar has the date. There is no year zero. -/
def isPossible (d : Date) : Bool :=
  1 ≤ d.year && 1 ≤ d.month && d.month ≤ 12 && 1 ≤ d.day && d.day ≤ monthLength d.year d.month

end Date

/-- A date, a time of day, or both, with the spelling of the whole. -/
structure Moment where
  date : Option Date
  spelling : String

/-- Whether there is such a moment; a time of day alone is checked as it is read. -/
def Moment.isPossible (m : Moment) : Bool :=
  m.date.all Date.isPossible

/-- A number of `count` digits, and the rest. -/
def figures? (count : Nat) (cs : List Char) : Option (Nat × List Char) :=
  let digits := cs.take count
  if digits.length = count ∧ digits.all Char.isDigit then
    some (digits.foldl (fun n c => 10 * n + (c.toNat - '0'.toNat)) 0, cs.drop count)
  else none

/-- A number of two digits within bounds, and the rest. -/
def figurePair? (least greatest : Nat) (cs : List Char) : Option (Nat × List Char) := do
  let (n, rest) ← figures? 2 cs
  if least ≤ n ∧ n ≤ greatest then return (n, rest) else none

/-- The rest behind one of the given characters. -/
def oneOf? (options : List Char) : List Char → Option (List Char)
  | [] => none
  | c :: cs => if c ∈ options then some cs else none

def date? (cs : List Char) : Option (Date × List Char) := do
  let (year, cs) ← figures? 4 cs
  let cs ← oneOf? ['-'] cs
  let (month, cs) ← figurePair? 1 12 cs
  let cs ← oneOf? ['-'] cs
  let (day, cs) ← figurePair? 1 31 cs
  return (⟨year, month, day⟩, cs)

/-- What follows a fraction of a second, if there is one. -/
def afterFraction : List Char → List Char
  | '.' :: c :: cs => if c.isDigit then cs.dropWhile Char.isDigit else '.' :: c :: cs
  | cs => cs

/-- What follows a time of day. -/
def afterTime? (cs : List Char) : Option (List Char) := do
  let (_, cs) ← figurePair? 0 23 cs
  let cs ← oneOf? [':'] cs
  let (_, cs) ← figurePair? 0 59 cs
  let cs ← oneOf? [':'] cs
  let (_, cs) ← figurePair? 0 59 cs
  return afterFraction cs

/-- What follows an offset given by its sign, hours and minutes. -/
def afterHours? (cs : List Char) : Option (List Char) := do
  let cs ← oneOf? ['+', '-'] cs
  let (_, cs) ← figurePair? 0 23 cs
  let cs ← oneOf? [':'] cs
  let (_, cs) ← figurePair? 0 59 cs
  return cs

/-- What follows an offset from world time, if there is one. -/
def afterOffset (cs : List Char) : List Char :=
  (oneOf? ['Z', 'z'] cs <|> afterHours? cs).getD cs

/-- What follows a time of day behind a date, if there is one. -/
def afterClock (cs : List Char) : List Char :=
  match oneOf? ['T', 't', ' '] cs >>= afterTime? with
  | some rest => afterOffset rest
  | none => cs

/-- A date or a time at the start, and the rest. -/
def moment? (cs : List Char) : Option (Moment × List Char) :=
  let spelled (rest : List Char) := String.ofList (cs.take (cs.length - rest.length))
  match date? cs with
  | some (date, rest) =>
    let rest := afterClock rest
    some (⟨some date, spelled rest⟩, rest)
  | none => (afterTime? cs).map fun rest => (⟨none, spelled rest⟩, rest)

end BlockCode.Toml
