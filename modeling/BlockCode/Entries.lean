import BlockCode.Fault

namespace BlockCode

/-- Values as tables tell them apart. Numbers that are equal are one key, whatever form they have, and
collections cannot be keys. -/
inductive Key where
  | null
  | text (s : String)
  | whole (n : Int)
  | fraction (x : Binary64)
  | moment (spelling : String)
  deriving DecidableEq, Repr

/-- Truth values count as one and zero. -/
def Value.key : Value → Except Fault Key
  | .null => .ok .null
  | .bool b => .ok (.whole (if b then 1 else 0))
  | .int n => .ok (.whole n)
  | .real x =>
    match x.truncate? with
    | some n => .ok (if x.isInteger then .whole n else .fraction x)
    | none => .ok (.fraction x)
  | .text s => .ok (.text s)
  | .moment spelling => .ok (.moment spelling)
  | .list _ => .error .notAKey
  | .map _ => .error .notAKey

namespace Entries

variable {κ : Type} {α : Type} [DecidableEq κ]

/-- A known key keeps its place and takes the new value; a new key goes to the end. -/
def put (key : κ) (value : α) : List (κ × α) → List (κ × α)
  | [] => [(key, value)]
  | entry :: rest =>
    if entry.1 = key then (key, value) :: rest else entry :: put key value rest

def get? (key : κ) : List (κ × α) → Option α
  | [] => none
  | entry :: rest => if entry.1 = key then some entry.2 else get? key rest

def has (key : κ) (entries : List (κ × α)) : Bool :=
  (get? key entries).isSome

end Entries

section Lookup

variable {α : Type} {table : List (String × α)} {found : α}

theorem mem_of_lookup {key : String} (h : table.lookup key = some found) : (key, found) ∈ table := by
  obtain ⟨before, behind, rfl, -⟩ := List.lookup_eq_some_iff.1 h
  exact List.mem_append_right _ List.mem_cons_self

/-- What a word selects stands in the table. -/
theorem exists_mem_of_lookup {word : Option String} (h : word.bind (table.lookup ·) = some found) :
    ∃ key, (key, found) ∈ table := by
  obtain ⟨key, -, hkey⟩ := Option.bind_eq_some_iff.1 h
  exact ⟨key, mem_of_lookup hkey⟩

end Lookup

end BlockCode
