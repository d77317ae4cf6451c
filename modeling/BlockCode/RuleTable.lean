import BlockCode.Entries

namespace BlockCode

/-- A table of rules `ρ` for kinds `κ`. -/
inductive RuleTable (κ ρ : Type) where
  | mk (name : String) (own : List (κ × ρ)) (parents : List (RuleTable κ ρ))

namespace RuleTable

variable {κ ρ : Type}

section Lookup

variable [DecidableEq κ]

mutual

def lookup (kind : κ) : RuleTable κ ρ → Option ρ
  | .mk _ own parents =>
    match Entries.get? kind own with
    | some rule => some rule
    | none => lookupFirst kind parents

def lookupFirst (kind : κ) : List (RuleTable κ ρ) → Option ρ
  | [] => none
  | table :: rest =>
    match lookup kind table with
    | some rule => some rule
    | none => lookupFirst kind rest

end

def contains (table : RuleTable κ ρ) (kind : κ) : Bool :=
  (table.lookup kind).isSome

end Lookup

mutual

/-- The kinds of the table and its parents in the order of the search, with repetitions. -/
def allKinds : RuleTable κ ρ → List κ
  | .mk _ own parents => own.map Prod.fst ++ allKindsOf parents

def allKindsOf : List (RuleTable κ ρ) → List κ
  | [] => []
  | table :: rest => allKinds table ++ allKindsOf rest

end

end RuleTable

namespace Listing

/-- Puts a word into a strictly ascending list, by code points; a word that is there stays alone. -/
def insert (word : String) : List String → List String
  | [] => [word]
  | first :: rest =>
    if word < first then word :: first :: rest
    else if word = first then first :: rest
    else first :: insert word rest

/-- The words in ascending order, each once. -/
def sorted (words : List String) : List String :=
  words.foldr insert []

end Listing

def RuleTable.kinds {ρ : Type} (table : RuleTable String ρ) : List String :=
  Listing.sorted table.allKinds

/-- A table that is still being filled, with the positions of its parents. -/
structure RuleRow (κ ρ : Type) where
  name : String
  own : List (κ × ρ)
  parents : List Nat

/-- Tables that are still being filled, the latest first. A table is known by its position, counted
from the earliest, and its parents were added before it; so a rule registered later reaches every
table above. -/
abbrev RuleCatalog (κ ρ : Type) := List (RuleRow κ ρ)

namespace RuleCatalog

variable {κ ρ : Type}

/-- The new table gets the position `length`. -/
def add (catalog : RuleCatalog κ ρ) (name : String) (parents : List Nat) : RuleCatalog κ ρ :=
  ⟨name, [], parents⟩ :: catalog

def register [DecidableEq κ] (position : Nat) (kinds : List κ) (rule : ρ) :
    RuleCatalog κ ρ → RuleCatalog κ ρ
  | [] => []
  | row :: earlier =>
    if position = earlier.length then
      { row with own := kinds.foldl (fun own kind => Entries.put kind rule own) row.own } :: earlier
    else row :: register position kinds rule earlier

/-- The table at a position as it stands, with its parents filled in. -/
def table : RuleCatalog κ ρ → Nat → RuleTable κ ρ
  | [], _ => .mk "" [] []
  | row :: earlier, position =>
    if position = earlier.length then .mk row.name row.own (row.parents.map (table earlier))
    else table earlier position

end RuleCatalog

end BlockCode
