import BlockCode.Number.Binary64
import BlockCode.Text.Character

namespace BlockCode.Reading

/-- The greatest count of digits that an integer may be spelled with. -/
def mostDigits : Nat := 4300

/-- White space that may surround a number; the four information separators may not. -/
def isMargin (c : Char) : Bool :=
  Text.isBlank c && !(0x1c ≤ c.toNat && c.toNat ≤ 0x1f)

def dropMargins (cs : List Char) : List Char :=
  ((cs.dropWhile isMargin).reverse.dropWhile isMargin).reverse

/-- A sign at the start, `true` for minus, and the rest. -/
def sign : List Char → Bool × List Char
  | '-' :: cs => (true, cs)
  | '+' :: cs => (false, cs)
  | cs => (false, cs)

/-- The digits at the start, read on from `value`, with their count and the rest. An underscore
between two digits is passed over. -/
def digitsFrom (value count : Nat) : List Char → Nat × Nat × List Char
  | [] => (value, count, [])
  | c :: cs =>
    match Text.digitValue? c with
    | some d => digitsFrom (10 * value + d) (count + 1) cs
    | none =>
      if c = '_' ∧ 0 < count ∧ cs.head?.any Text.isDigit then digitsFrom value count cs
      else (value, count, c :: cs)

/-- An exponent at the start, and the rest: zero if there is none, `none` if it has no digits. -/
def exponent? : List Char → Option (Int × List Char)
  | [] => some (0, [])
  | c :: cs =>
    if c = 'e' ∨ c = 'E' then
      let s := sign cs
      let d := digitsFrom 0 0 s.2
      if d.2.1 = 0 then none else some (if s.1 then -Int.ofNat d.1 else Int.ofNat d.1, d.2.2)
    else some (0, c :: cs)

/-- A fraction at the start, read on from `value`: the value, the count of its digits, the rest. -/
def fraction (value : Nat) : List Char → Nat × Nat × List Char
  | '.' :: cs => digitsFrom value 0 cs
  | cs => (value, 0, cs)

def unsignedReal? (negative : Bool) (cs : List Char) : Option Binary64 :=
  let whole := digitsFrom 0 0 cs
  let part := fraction whole.1 whole.2.2
  if whole.2.1 + part.2.1 = 0 then none
  else
    match exponent? part.2.2 with
    | some (e, []) => some (.ofDecimal negative part.1 (e - Int.ofNat part.2.1))
    | _ => none

/-- White space around a number is ignored, digits of every script count, and an underscore may stand
between two digits. -/
def real? (s : String) : Option Binary64 :=
  let (negative, cs) := sign (dropMargins s.toList)
  let word := String.ofList (cs.map Char.toLower)
  if word = "inf" ∨ word = "infinity" then some (.infinite negative)
  else if word = "nan" then some .nan
  else unsignedReal? negative cs

/-- A text that is no integer, or one of too many digits. -/
inductive IntegerFlaw where
  | unreadable
  | tooManyDigits (count : Nat)
  deriving DecidableEq

/-- An integer of at most `limit` digits. Their count is looked at before what follows them, but
after the underscores among them. -/
def integer (limit : Nat) (s : String) : Except IntegerFlaw Int :=
  let (negative, cs) := sign (dropMargins s.toList)
  let (value, count, rest) := digitsFrom 0 0 cs
  if count = 0 ∨ rest.head? = some '_' then .error .unreadable
  else if limit < count then .error (.tooManyDigits count)
  else if rest ≠ [] then .error .unreadable
  else .ok (if negative then -Int.ofNat value else Int.ofNat value)

end BlockCode.Reading
