import BlockCode.Entries
import BlockCode.Log
import BlockCode.Name.Identifier

namespace BlockCode

inductive NameType where
  | var
  | procedure
  deriving DecidableEq, Repr

namespace NameType

def label : NameType → String
  | .var => "VARIABLE"
  | .procedure => "PROCEDURE"

def ofLabel? : Value → Option NameType
  | .text "VARIABLE" => some .var
  | .text "PROCEDURE" => some .procedure
  | _ => none

end NameType

/-- The identifiers among which a new one has to differ. -/
inductive Pool where
  | shared
  | own (type : NameType)
  deriving DecidableEq, Repr

/-- Each name keeps one identifier per type, and no identifier is handed out twice in a pool or taken
from the reserved words. -/
structure Allocator where
  reserved : List String := []
  sharedPool : Bool := false
  variablePrefix : String := ""
  maxAttempts : Value := .int 10000
  known : List ((Key × NameType) × String) := []
  used : List (Pool × String) := []

namespace Allocator

/-- An identifier handed out: the name it was made from, and the one chosen for it. -/
structure Grant where
  base : String
  chosen : String
  deriving DecidableEq, Repr

def Grant.records (g : Grant) : List LogRecord :=
  if g.chosen = g.base then []
  else [⟨.debug, "Renamed '" ++ g.base ++ "' to '" ++ g.chosen ++ "' to avoid a collision"⟩]

/-- Forgets every identifier; the reserved words stay. -/
def reset (a : Allocator) : Allocator :=
  { a with known := [], used := [] }

def pool (a : Allocator) (type : NameType) : Pool :=
  if a.sharedPool then .shared else .own type

def lead (a : Allocator) : NameType → String
  | .var => a.variablePrefix
  | .procedure => ""

def isTaken (a : Allocator) (pool : Pool) (identifier : String) : Bool :=
  decide ((pool, identifier) ∈ a.used) || decide (identifier ∈ a.reserved)

def numbered (base : String) (k : Nat) : String :=
  base ++ toString k

/-- The first free suffix among `count` of them from `k` on. -/
def seek (a : Allocator) (pool : Pool) (base : String) (k : Nat) : Nat → Option String
  | 0 => none
  | count + 1 =>
    if a.isTaken pool (numbered base k) then seek a pool base (k + 1) count
    else some (numbered base k)

/-- The greatest suffix that may be tried. An infinite bound is never reached, since among more
suffixes than there are identifiers taken one is free. -/
def lastSuffix (a : Allocator) : Except Fault Nat :=
  match a.maxAttempts with
  | .int n => .ok n.toNat
  | .bool b => .ok (if b then 1 else 0)
  | .real x =>
    match x.truncate? with
    | some n => .ok n.toNat
    | none => .ok (if x.isNegative then 0 else a.used.length + a.reserved.length + 2)
  | _ => .error .notANumber

/-- The base itself or its least free suffix from two to the greatest allowed. -/
def choose (a : Allocator) (pool : Pool) (base : String) : Except Fault String :=
  if a.isTaken pool base then do
    match a.seek pool base 2 ((← a.lastSuffix) - 1) with
    | some chosen => return chosen
    | none => throw (.namesExhausted base a.maxAttempts)
  else .ok base

def allot (a : Allocator) (pool : Pool) (base : String) : Except Fault (Grant × Allocator) := do
  let chosen ← a.choose pool base
  return (⟨base, chosen⟩, { a with used := (pool, chosen) :: a.used })

/-- A fresh identifier, without its lead. -/
def distinct (a : Allocator) (name : Value) (type : NameType) :
    Except Fault (Grant × Allocator) := do
  let base ← Name.identifierOf name
  a.allot (a.pool type) base

/-- The identifier a name has, or a fresh one that it keeps from now on; without its lead. -/
def get (a : Allocator) (name : Value) (type : NameType) :
    Except Fault (Grant × Allocator) := do
  let key ← name.key
  match Entries.get? (key, type) a.known with
  | some chosen => return (⟨chosen, chosen⟩, a)
  | none =>
    let (grant, next) ← a.distinct name type
    return (grant, { next with known := Entries.put (key, type) grant.chosen next.known })

def isUsed (a : Allocator) (identifier : Value) (pool : Pool) : Except Fault Bool :=
  match identifier with
  | .text s => .ok (decide ((pool, s) ∈ a.used))
  | v => if v.isKey then .ok false else .error .notAKey

/-- A request that gives the type by its label, which is refused if it is none of the two. -/
def getLabelled (a : Allocator) (name : Value) (label : Value) :
    Except Fault (String × List LogRecord × Allocator) :=
  match NameType.ofLabel? label with
  | none => .error (.unknownNameType label)
  | some type => do
    let (grant, next) ← a.get name type
    return (a.lead type ++ grant.chosen, grant.records, next)

/-- The answer, the records, and the allocator afterwards, which a refusal may have changed. -/
def distinctLabelled (a : Allocator) (name : Value) (label : Value) :
    Except Fault String × List LogRecord × Allocator :=
  match NameType.ofLabel? label with
  | some type =>
    match a.distinct name type with
    | .ok (grant, next) => (.ok (a.lead type ++ grant.chosen), grant.records, next)
    | .error fault => (.error fault, [], a)
  | none =>
    match Name.identifierOf name with
    | .error fault => (.error fault, [], a)
    | .ok base =>
      if a.sharedPool then
        match a.allot .shared base with
        | .ok (grant, next) => (.error (.unknownNameType label), grant.records, next)
        | .error fault => (.error fault, [], a)
      else (.error (.unknownNameType label), [], a)

def isUsedLabelled (a : Allocator) (identifier : Value) (label : Value) : Except Fault Bool :=
  if a.sharedPool then a.isUsed identifier .shared
  else
    match NameType.ofLabel? label with
    | some type => a.isUsed identifier (.own type)
    | none => .error (.unknownNameType label)

end Allocator

end BlockCode
