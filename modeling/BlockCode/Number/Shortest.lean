import BlockCode.Number.Binary64

namespace BlockCode.Binary64

/-- `m * 2 ^ e` as a quotient of naturals. -/
def ratio (m : Nat) (e : Int) : Nat × Nat :=
  if 0 ≤ e then (m * twoPow e.toNat, 1) else (m, twoPow (-e).toNat)

/-- `num / den / 10 ^ k` as a quotient of naturals. -/
def tenths (num den : Nat) (k : Int) : Nat × Nat :=
  if 0 ≤ k then (num, den * tenPow k.toNat) else (num * tenPow (-k).toNat, den)

/-- The place `p` with `10 ^ (p - 1) ≤ num / den < 10 ^ p`. -/
def decimalPlace (num den : Nat) : Int :=
  let p := Int.ofNat (Nat.toDigits 10 num).length - Int.ofNat (Nat.toDigits 10 den).length
  let s := tenths num den p
  if s.2 ≤ s.1 then p + 1 else p

/-- The better of the two neighbours of `m * 2 ^ e` among the multiples of `10 ^ k`, if one of them
reads back as that number. An exact tie goes to the even neighbour. -/
def neighbour? (m : Nat) (e k : Int) : Option Nat :=
  let r := ratio m e
  let s := tenths r.1 r.2 k
  let low := s.1 / s.2
  let rest := s.1 % s.2
  let target := Binary64.finite false m e
  let lowHits := ofDecimal false low k = target
  let highHits := ofDecimal false (low + 1) k = target
  let lowNearer := 2 * rest < s.2 ∨ (2 * rest = s.2 ∧ low % 2 = 0)
  if lowHits ∧ (lowNearer ∨ ¬ highHits) then some low
  else if highHits then some (low + 1)
  else none

/-- Digits and exponent of the shortest decimal of a number other than zero. -/
def shortest (m : Nat) (e : Int) : Nat × Int :=
  let r := ratio m e
  let p := decimalPlace r.1 r.2
  let found := (List.range 17).findSome? fun n =>
    let k := p - Int.ofNat (n + 1)
    (neighbour? m e k).map fun d => (d, k)
  found.getD (0, 0)

def zeroText (n : Nat) : List Char :=
  List.replicate n '0'

/-- A decimal exponent with its sign and at least two digits. -/
def exponentText (x : Int) : List Char :=
  let ds := Nat.toDigits 10 x.natAbs
  'e' :: (if x < 0 then '-' else '+') :: (zeroText (2 - ds.length) ++ ds)

/-- Lays out the digits with the point behind the first `point` of them. Numbers below `0.0001` and
from `10 ^ 16` on are written with an exponent, and all others keep a digit behind the point. -/
def layDigits (ds : List Char) (point : Int) : List Char :=
  if point ≤ -4 ∨ 16 < point then
    let fraction := ds.drop 1
    ds.take 1 ++ (if fraction.isEmpty then [] else '.' :: fraction) ++ exponentText (point - 1)
  else if point ≤ 0 then
    '0' :: '.' :: (zeroText (-point).toNat ++ ds)
  else
    let whole := point.toNat
    if ds.length ≤ whole then ds ++ zeroText (whole - ds.length) ++ ['.', '0']
    else ds.take whole ++ '.' :: ds.drop whole

def dropZeros (ds : List Char) : List Char :=
  (ds.reverse.dropWhile (· == '0')).reverse

def finiteText (m : Nat) (e : Int) : List Char :=
  if m = 0 then ['0', '.', '0']
  else
    let d := shortest m e
    let ds := Nat.toDigits 10 d.1
    layDigits (dropZeros ds) (Int.ofNat ds.length + d.2)

def text : Binary64 → String
  | .nan => "nan"
  | .infinite s => if s then "-inf" else "inf"
  | .finite s m e => String.ofList (if s then '-' :: finiteText m e else finiteText m e)

end BlockCode.Binary64
