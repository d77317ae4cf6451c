import BlockCode.Fault
import BlockCode.Number.Reading

namespace BlockCode.Value

def toReal : Value → Except Fault Binary64
  | .bool b => .ok (Binary64.ofRatio false (if b then 1 else 0) 1)
  | .int n =>
    match Binary64.ofInt? n with
    | some x => .ok x
    | none => .error .beyondRange
  | .real x => .ok x
  | .text s =>
    match Reading.real? s with
    | some x => .ok x
    | none => .error (.unreadableReal s)
  | _ => .error .notANumber

/-- Fractions are cut off; text has to spell an integer, and not one beyond all measure. -/
def toInteger : Value → Except Fault Int
  | .bool b => .ok (if b then 1 else 0)
  | .int n => .ok n
  | .real x =>
    match x, x.truncate? with
    | _, some n => .ok n
    | .nan, none => .error .notIntegral
    | _, none => .error .beyondRange
  | .text s =>
    match Reading.integer Reading.mostDigits s with
    | .ok n => .ok n
    | .error .unreadable => .error (.unreadableInteger s)
    | .error (.tooManyDigits count) => .error (.tooManyDigits count)
  | _ => .error .notANumber

/-- The items: those of a list, the keys of a map, the characters of a text. -/
def items : Value → Except Fault (List Value)
  | .list items => .ok items
  | .map entries => .ok (entries.map fun e => .text e.1)
  | .text s => .ok (s.toList.map fun c => .text (String.ofList [c]))
  | _ => .error .notASequence

def writtenItems (v : Value) : Except Fault (List String) := do
  return (← v.items).map written

/-- An entry of a map; only maps have entries. -/
def entryOr (v : Value) (name : String) (default : Value) : Except Fault Value :=
  match v with
  | .map entries => .ok ((entries.lookup name).getD default)
  | _ => .error .notATable

def asText : Value → Except Fault String
  | .text s => .ok s
  | _ => .error .notAText

/-- The items, which have to be texts. -/
def textItems (v : Value) : Except Fault (List String) := do
  (← v.items).mapM asText

/-- A value as a number without rounding; truth values count as one and zero. -/
def asNumber? : Value → Option Binary64
  | .bool b => some (.finite false (if b then 1 else 0) 0)
  | .int n => some (.finite (n < 0) n.natAbs 0)
  | .real x => some x
  | _ => none

mutual

/-- Whether two values are equal. Numbers are compared by their size, maps whatever the order of
their entries. -/
def isSame : Value → Value → Bool
  | .null, .null => true
  | .text s, .text t => s == t
  | .moment s, .moment t => s == t
  | .list vs, .list ws => areSame vs ws
  | .map entries, .map others => entries.length == others.length && areWithin entries others
  | v, w =>
    match v.asNumber?, w.asNumber? with
    | some x, some y => x.le y && y.le x
    | _, _ => false

def areSame : List Value → List Value → Bool
  | [], [] => true
  | v :: vs, w :: ws => isSame v w && areSame vs ws
  | _, _ => false

/-- Whether every entry stands among the others too. -/
def areWithin : List (String × Value) → List (String × Value) → Bool
  | [], _ => true
  | (key, v) :: rest, others =>
    (match others.lookup key with
      | some w => isSame v w
      | none => false) && areWithin rest others

end

mutual

/-- Numbers are in order among themselves, and so are texts. Lists are in the order of the first two
items that differ, or else in that of their lengths. -/
def isBelow : Value → Value → Except Fault Bool
  | .text s, .text t => .ok (s < t)
  | .list vs, .list ws => areBelow vs ws
  | v, w =>
    match v.asNumber?, w.asNumber? with
    | some x, some y => .ok (x.lt y)
    | _, _ => .error .notANumber

def areBelow : List Value → List Value → Except Fault Bool
  | _, [] => .ok false
  | [], _ :: _ => .ok true
  | v :: vs, w :: ws => if isSame v w then areBelow vs ws else isBelow v w

end

/-- Puts a value in its place among others in ascending order. -/
def insert (v : Value) : List Value → Except Fault (List Value)
  | [] => .ok [v]
  | w :: rest => do
    if ← v.isBelow w then return v :: w :: rest else return w :: (← insert v rest)

/-- The values in ascending order, if they have one. -/
def sorted : List Value → Except Fault (List Value)
  | [] => .ok []
  | v :: rest => do insert v (← sorted rest)

end BlockCode.Value
