import BlockCode.Issue
import BlockCode.Number.Reading

namespace BlockCode.Spelling

def isPositiveDigit (c : Char) : Bool :=
  '1' ≤ c && c ≤ '9'

/-- What follows zeros and underscores, the latest of which is `last`. It stays in front of a point
or if nothing else is there. -/
def afterZeros (last : Char) : List Char → Option (List Char)
  | [] => some [last]
  | c :: cs =>
    if c = '0' ∨ c = '_' then afterZeros c cs
    else if c = '.' then some (last :: c :: cs)
    else if isPositiveDigit c ∨ c = '-' then some (c :: cs)
    else none

/-- Passes over zeros at the start; `none` if no number can start so. -/
def dropZeros : List Char → Option (List Char)
  | [] => none
  | c :: cs =>
    if c = '0' then afterZeros c cs
    else if isPositiveDigit c ∨ c = '-' then some (c :: cs)
    else none

/-- Cuts off a fraction that has digits, all of them zero. -/
def dropFraction (cs : List Char) : List Char :=
  match cs.dropWhile (· ≠ '.') with
  | _ :: zero :: zeros => if (zero :: zeros).all (· == '0') then cs.takeWhile (· ≠ '.') else cs
  | _ => cs

/-- Whether each underscore stands between two other characters, where `last` is an underscore just
before or at the start. -/
def areApart : Bool → List Char → Bool
  | last, [] => !last
  | last, c :: cs => if c = '_' then !last && areApart true cs else areApart false cs

/-- What is left of an integer behind its sign. -/
def cleanMagnitude? (cs : List Char) : Option (List Char) := do
  let cs := dropFraction (← dropZeros cs)
  if areApart true cs then some (cs.filter (· ≠ '_')) else none

/-- A text without what is passed over; no minus sign may follow a plus sign. -/
def clean? (cs : List Char) : Option (List Char) :=
  match Reading.dropMargins cs with
  | '+' :: '-' :: _ => none
  | '+' :: cs => cleanMagnitude? cs
  | '-' :: cs => (cleanMagnitude? cs).map ('-' :: ·)
  | cs => cleanMagnitude? cs

def digitsValue (cs : List Char) : Nat :=
  cs.foldl (fun n d => 10 * n + (d.toNat - '0'.toNat)) 0

/-- Digits without a zero in front of others. Too many are refused whatever follows them. -/
def plainMagnitude (cs : List Char) : Except IssueCause Nat :=
  match cs with
  | ['0'] => .ok 0
  | first :: _ =>
    let digits := cs.takeWhile Char.isDigit
    if !isPositiveDigit first then .error .unreadableInteger
    else if Reading.mostDigits < digits.length then .error .oversizedInteger
    else if digits.length < cs.length then .error .unreadableInteger
    else .ok (digitsValue digits)
  | [] => .error .unreadableInteger

def plain : List Char → Except IssueCause Int
  | '-' :: cs => (fun n => -Int.ofNat n) <$> plainMagnitude cs
  | cs => Int.ofNat <$> plainMagnitude cs

/-- An integer as it stands or after cleaning. Only as it stands it is refused for its size. -/
def integer (s : String) : Except IssueCause Int :=
  match plain s.toList with
  | .error .unreadableInteger =>
    match clean? s.toList with
    | none => .error .unreadableInteger
    | some cs => (plain cs).mapError fun _ => .unreadableInteger
  | result => result

end BlockCode.Spelling
