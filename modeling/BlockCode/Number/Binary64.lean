namespace BlockCode

/-- Not a number, an infinity, or `± significand * 2 ^ exponent`. Rounding yields a significand of
53 bits, or a smaller one at the least exponent. -/
inductive Binary64 where
  | nan
  | infinite (negative : Bool)
  | finite (negative : Bool) (significand : Nat) (exponent : Int)
  deriving DecidableEq, Repr, Inhabited

namespace Binary64

def leastExponent : Int := -1074

def greatestExponent : Int := 971

def twoPow (n : Nat) : Nat := Nat.pow 2 n

def tenPow (n : Nat) : Nat := Nat.pow 10 n

def zero : Binary64 :=
  .finite false 0 leastExponent

/-- The integer nearest to `num / den`; a half goes to the even neighbour. -/
def nearest (num den : Nat) : Nat :=
  let q := num / den
  let r := num % den
  if 2 * r < den then q
  else if den < 2 * r then q + 1
  else if q % 2 = 0 then q else q + 1

/-- `num / den / 2 ^ e` as a quotient of naturals. -/
def shifted (num den : Nat) (e : Int) : Nat × Nat :=
  if 0 ≤ e then (num, den * twoPow e.toNat) else (num * twoPow (-e).toNat, den)

/-- The exponent at which `num / den` has an integral part of 53 bits, or the least one. -/
def placeOf (num den : Nat) : Int :=
  let e := Int.ofNat num.log2 - Int.ofNat den.log2 - 52
  let s := shifted num den e
  max leastExponent (if s.1 / s.2 < twoPow 52 then e - 1 else e)

/-- The number nearest to `num / den`, an infinity beyond the greatest. -/
def ofRatio (negative : Bool) (num den : Nat) : Binary64 :=
  if num = 0 then .finite negative 0 leastExponent
  else
    let e := placeOf num den
    let s := shifted num den e
    let m := nearest s.1 s.2
    let (m, e) := if m = twoPow 53 then (twoPow 52, e + 1) else (m, e)
    if greatestExponent < e then .infinite negative else .finite negative m e

/-- The number nearest to `± digits * 10 ^ exponent`. Exponents far outside the range are settled
by the count of digits alone. -/
def ofDecimal (negative : Bool) (digits : Nat) (exponent : Int) : Binary64 :=
  let size := Int.ofNat (Nat.toDigits 10 digits).length + exponent
  if digits = 0 ∨ size < -400 then .finite negative 0 leastExponent
  else if 400 < size then .infinite negative
  else if 0 ≤ exponent then ofRatio negative (digits * tenPow exponent.toNat) 1
  else ofRatio negative digits (tenPow (-exponent).toNat)

/-- The number nearest to an integer; `none` beyond the greatest number. -/
def ofInt? (n : Int) : Option Binary64 :=
  match ofRatio (n < 0) n.natAbs 1 with
  | .finite s m e => some (.finite s m e)
  | _ => none

/-- The integer `± m * 2 ^ (x - e)`, for an exponent `e` not above `x`. -/
def atExponent (negative : Bool) (m : Nat) (x e : Int) : Int :=
  let v := Int.ofNat (m * twoPow (x - e).toNat)
  if negative then -v else v

def lt : Binary64 → Binary64 → Bool
  | .nan, _ => false
  | _, .nan => false
  | .infinite a, .infinite b => a && !b
  | .infinite a, .finite .. => a
  | .finite .., .infinite b => !b
  | .finite s m x, .finite t n y =>
    atExponent s m x (min x y) < atExponent t n y (min x y)

def le : Binary64 → Binary64 → Bool
  | .nan, _ => false
  | _, .nan => false
  | .infinite a, .infinite b => a || !b
  | .infinite a, .finite .. => a
  | .finite .., .infinite b => !b
  | .finite s m x, .finite t n y =>
    atExponent s m x (min x y) ≤ atExponent t n y (min x y)

def isZero : Binary64 → Bool
  | .finite _ m _ => m == 0
  | _ => false

def isNegative (x : Binary64) : Bool :=
  x.lt zero

def abs : Binary64 → Binary64
  | .nan => .nan
  | .infinite _ => .infinite false
  | .finite _ m e => .finite false m e

def neg : Binary64 → Binary64
  | .nan => .nan
  | .infinite s => .infinite !s
  | .finite s m e => .finite (!s) m e

/-- The exact difference, rounded once. -/
def sub : Binary64 → Binary64 → Binary64
  | .nan, _ => .nan
  | _, .nan => .nan
  | .infinite a, .infinite b => if a = b then .nan else .infinite a
  | .infinite a, .finite .. => .infinite a
  | .finite .., .infinite b => .infinite !b
  | .finite s m x, .finite t n y =>
    let e := min x y
    let d := atExponent s m x e - atExponent t n y e
    if d = 0 then .finite (s && !t) 0 leastExponent
    else if 0 ≤ e then ofRatio (d < 0) (d.natAbs * twoPow e.toNat) 1
    else ofRatio (d < 0) d.natAbs (twoPow (-e).toNat)

/-- The part before the point, toward zero; `none` unless the number is finite. -/
def truncate? : Binary64 → Option Int
  | .finite s m e =>
    let n := Int.ofNat (if 0 ≤ e then m * twoPow e.toNat else m / twoPow (-e).toNat)
    some (if s then -n else n)
  | _ => none

def isInteger : Binary64 → Bool
  | .finite _ m e => 0 ≤ e || m % twoPow (-e).toNat == 0
  | _ => false

end Binary64

end BlockCode
