import BlockCode.Proofs.Name.Allocation
import BlockCode.RuleTable
import Mathlib.Data.List.Basic

namespace BlockCode

variable {κ ρ : Type}

/-- What was done so far with `n` tables. -/
inductive RuleHistory (κ ρ : Type) : Nat → Type where
  | start : RuleHistory κ ρ 0
  | table {n : Nat} (earlier : RuleHistory κ ρ n) (name : String) (parents : List (Fin n)) :
      RuleHistory κ ρ (n + 1)
  | register {n : Nat} (earlier : RuleHistory κ ρ n) (position : Fin n) (kinds : List κ) (rule : ρ) :
      RuleHistory κ ρ n

namespace RuleHistory

variable [DecidableEq κ] {n : Nat}

def catalog {n : Nat} : RuleHistory κ ρ n → RuleCatalog κ ρ
  | .start => []
  | .table earlier name parents => earlier.catalog.add name (parents.map Fin.val)
  | .register earlier position kinds rule => earlier.catalog.register position kinds rule

/-- The parents that the table at a position was made with. -/
def parents {n : Nat} (position : Nat) : RuleHistory κ ρ n → List Nat
  | .start => []
  | @table _ _ count earlier _ parents =>
    if position = count then parents.map Fin.val else earlier.parents position
  | .register earlier _ _ _ => earlier.parents position

/-- The last rule that was registered for a kind in the table at a position. -/
def lastRule {n : Nat} (kind : κ) (position : Nat) : RuleHistory κ ρ n → Option ρ
  | .start => none
  | .table earlier _ _ => earlier.lastRule kind position
  | .register earlier place kinds rule =>
    if place.val = position ∧ kind ∈ kinds then some rule else earlier.lastRule kind position

end RuleHistory

mutual

/-- The tables that are visited from a position, in order: the table itself, then all that are visited
from its parents. -/
inductive Visits (parents : Nat → List Nat) : Nat → List Nat → Prop where
  | table {position : Nat} {order : List Nat} :
      VisitsAll parents (parents position) order → Visits parents position (position :: order)

/-- The tables that are visited from one position after the other. -/
inductive VisitsAll (parents : Nat → List Nat) : List Nat → List Nat → Prop where
  | nil : VisitsAll parents [] []
  | cons {position : Nat} {rest order more : List Nat} :
      Visits parents position order → VisitsAll parents rest more →
      VisitsAll parents (position :: rest) (order ++ more)

end

namespace RuleCatalog

/-- The table at a position as it is being filled. -/
def row? : RuleCatalog κ ρ → Nat → Option (RuleRow κ ρ)
  | [], _ => none
  | row :: earlier, position => if position = earlier.length then some row else row? earlier position

/-- Every table has its parents among the earlier ones. -/
def Grounded : RuleCatalog κ ρ → Prop
  | [] => True
  | row :: earlier => (∀ parent ∈ row.parents, parent < earlier.length) ∧ Grounded earlier

section Rows

variable {c : RuleCatalog κ ρ} {position : Nat} {row : RuleRow κ ρ}

theorem lt_of_row? (h : c.row? position = some row) : position < c.length := by
  induction c with
  | nil => cases h
  | cons first earlier ih =>
    rw [row?] at h
    rw [List.length_cons]
    split_ifs at h with hp
    · omega
    · have := ih h
      omega

theorem Grounded.parents_lt (hc : Grounded c) (h : c.row? position = some row) :
    ∀ parent ∈ row.parents, parent < position := by
  induction c with
  | nil => cases h
  | cons first earlier ih =>
    rw [row?] at h
    split_ifs at h with hp
    · cases h
      rw [hp]
      exact hc.1
    · exact ih hc.2 h

theorem table_cons_of_lt {first : RuleRow κ ρ} (h : position < c.length) :
    table (first :: c) position = table c position := by
  rw [table, if_neg (by omega)]

/-- The table at a position, with its parents filled in. -/
theorem Grounded.table_eq (hc : Grounded c) (h : c.row? position = some row) :
    c.table position = .mk row.name row.own (row.parents.map c.table) := by
  induction c with
  | nil => cases h
  | cons first earlier ih =>
    have hlt := hc.parents_lt h
    have hpos := lt_of_row? h
    rw [List.length_cons] at hpos
    have hsame : ∀ parent ∈ row.parents, table earlier parent = table (first :: earlier) parent := by
      intro parent hparent
      have := hlt parent hparent
      exact (table_cons_of_lt (by omega)).symm
    rw [row?] at h
    rw [table]
    split_ifs at h ⊢ with hp
    · cases h
      rw [List.map_congr_left hsame]
    · rw [ih hc.2 h, List.map_congr_left hsame]

end Rows

section Register

variable [DecidableEq κ] (place : Nat) (kinds : List κ) (rule : ρ)

theorem length_register (c : RuleCatalog κ ρ) : (c.register place kinds rule).length = c.length := by
  induction c with
  | nil => rfl
  | cons row earlier ih =>
    rw [register]
    split_ifs
    · rfl
    · rw [List.length_cons, List.length_cons, ih]

theorem Grounded.register {c : RuleCatalog κ ρ} (hc : Grounded c) :
    Grounded (c.register place kinds rule) := by
  induction c with
  | nil => exact hc
  | cons row earlier ih =>
    rw [RuleCatalog.register]
    split_ifs
    · exact hc
    · refine ⟨?_, ih hc.2⟩
      rw [length_register]
      exact hc.1

/-- Only the row at the place changes, and only in its own rules. -/
theorem row?_register (c : RuleCatalog κ ρ) (position : Nat) :
    (c.register place kinds rule).row? position = (c.row? position).map fun row =>
      if position = place then
        { row with own := kinds.foldl (fun own kind => Entries.put kind rule own) row.own }
      else row := by
  induction c with
  | nil => rfl
  | cons row earlier ih =>
    by_cases hplace : place = earlier.length
    · by_cases hp : position = earlier.length
      · simp [register, row?, hplace, hp]
      · simp [register, row?, hplace, hp]
    · by_cases hp : position = earlier.length
      · have hne : ¬ earlier.length = place := fun h => hplace h.symm
        simp [register, row?, length_register, hplace, hp, hne]
      · simp [register, row?, length_register, hplace, hp, ih]

theorem get?_foldl_put (kind : κ) (own : List (κ × ρ)) :
    Entries.get? kind (kinds.foldl (fun own kind => Entries.put kind rule own) own) =
      if kind ∈ kinds then some rule else Entries.get? kind own := by
  induction kinds generalizing own with
  | nil => simp
  | cons first rest ih =>
    rw [List.foldl_cons, ih, Entries.get?_put]
    by_cases hrest : kind ∈ rest
    · simp [hrest]
    · by_cases hfirst : first = kind
      · simp [hfirst]
      · simp [hrest, hfirst, Ne.symm hfirst]

end Register

end RuleCatalog

namespace RuleHistory

open RuleCatalog

variable [DecidableEq κ] {n : Nat}

theorem length_catalog (h : RuleHistory κ ρ n) : h.catalog.length = n := by
  induction h with
  | start => rfl
  | table earlier name parents ih => simp [catalog, add, ih]
  | register earlier position kinds rule ih => rw [catalog, length_register, ih]

theorem catalog_grounded (h : RuleHistory κ ρ n) : Grounded h.catalog := by
  induction h with
  | start => trivial
  | table earlier name parents ih =>
    refine ⟨?_, ih⟩
    intro parent hparent
    obtain ⟨i, -, rfl⟩ := List.mem_map.1 hparent
    rw [length_catalog]
    exact i.isLt
  | register earlier position kinds rule ih => exact ih.register position kinds rule

/-- Nothing is registered for a table that is not there yet. -/
theorem lastRule_of_le (h : RuleHistory κ ρ n) (kind : κ) {position : Nat} (hp : n ≤ position) :
    h.lastRule kind position = none := by
  induction h with
  | start => rfl
  | table earlier name parents ih => exact ih (by omega)
  | register earlier place kinds rule ih =>
    have hne : place.val ≠ position := by
      have := place.isLt
      omega
    simp [lastRule, hne, ih hp]

/-- The row at a position has the parents that its table was made with, and for every kind the rule
that was registered last. -/
theorem row?_catalog (h : RuleHistory κ ρ n) {position : Nat} (hp : position < n) :
    ∃ row, h.catalog.row? position = some row ∧ row.parents = h.parents position ∧
      ∀ kind, Entries.get? kind row.own = h.lastRule kind position := by
  induction h with
  | start => omega
  | @table count earlier name parents ih =>
    by_cases hlast : position = count
    · refine ⟨⟨name, [], parents.map Fin.val⟩, ?_, ?_, fun kind => ?_⟩
      · simp [catalog, add, row?, length_catalog, hlast]
      · simp [RuleHistory.parents, hlast]
      · simp [lastRule, Entries.get?, earlier.lastRule_of_le kind (Nat.le_of_eq hlast.symm)]
    · obtain ⟨row, hrow, hparents, hown⟩ := ih (by omega)
      refine ⟨row, ?_, ?_, hown⟩
      · simp [catalog, add, row?, length_catalog, hlast, hrow]
      · simp [RuleHistory.parents, hlast, hparents]
  | register earlier place kinds rule ih =>
    obtain ⟨row, hrow, hparents, hown⟩ := ih hp
    rw [catalog, row?_register, hrow]
    by_cases hplace : position = place.val
    · subst hplace
      refine ⟨_, rfl, ?_, fun kind => ?_⟩
      · simp [RuleHistory.parents, hparents]
      · simp [lastRule, get?_foldl_put, hown]
    · refine ⟨_, rfl, ?_, fun kind => ?_⟩
      · simp [hplace, RuleHistory.parents, hparents]
      · simp [hplace, lastRule, Ne.symm hplace, hown]

/-- A rule is looked up in the tables that are visited, one after the other. -/
theorem lookup_visits (h : RuleHistory κ ρ n) (position : Nat) (hp : position < n) :
    ∃ order, Visits (h.parents ·) position order ∧ ∀ kind,
      (h.catalog.table position).lookup kind = order.findSome? (h.lastRule kind ·) := by
  induction position using Nat.strongRecOn with
  | ind position ih =>
    obtain ⟨row, hrow, hparents, hown⟩ := h.row?_catalog hp
    have hlt := h.catalog_grounded.parents_lt hrow
    have hall : ∀ positions : List Nat, (∀ parent ∈ positions, parent < position) →
        ∃ order, VisitsAll (h.parents ·) positions order ∧ ∀ kind,
          RuleTable.lookupFirst kind (positions.map h.catalog.table) =
            order.findSome? (h.lastRule kind ·) := by
      intro positions hpositions
      induction positions with
      | nil => exact ⟨[], .nil, fun _ => rfl⟩
      | cons first rest ihrest =>
        rw [List.forall_mem_cons] at hpositions
        obtain ⟨order, hvisits, hfirst⟩ := ih first hpositions.1 (by omega)
        obtain ⟨more, hmore, hrest⟩ := ihrest hpositions.2
        refine ⟨order ++ more, .cons hvisits hmore, fun kind => ?_⟩
        rw [List.map_cons, RuleTable.lookupFirst, hfirst, hrest, List.findSome?_append]
        cases order.findSome? (h.lastRule kind ·) <;> rfl
    obtain ⟨order, hvisits, hlookup⟩ := hall row.parents hlt
    rw [hparents] at hvisits
    refine ⟨position :: order, .table hvisits, fun kind => ?_⟩
    rw [h.catalog_grounded.table_eq hrow, RuleTable.lookup, hown, hlookup, List.findSome?_cons]
    rfl

end RuleHistory

namespace Listing

variable {word first : String} {words : List String}

theorem mem_insert {other : String} : other ∈ insert word words ↔ other = word ∨ other ∈ words := by
  induction words with
  | nil => simp [insert]
  | cons first rest ih =>
    rw [insert]
    split_ifs with hlt heq
    · simp
    · simp [heq]
    · simp only [List.mem_cons, ih]
      tauto

theorem pairwise_insert (h : words.Pairwise (· < ·)) : (insert word words).Pairwise (· < ·) := by
  induction words with
  | nil => simp [insert]
  | cons first rest ih =>
    obtain ⟨hfirst, hrest⟩ := List.pairwise_cons.1 h
    rw [insert]
    split_ifs with hlt heq
    · refine List.pairwise_cons.2 ⟨?_, h⟩
      intro other hother
      rcases List.mem_cons.1 hother with rfl | hother
      · exact hlt
      · exact String.lt_trans hlt (hfirst other hother)
    · exact h
    · have hgt : first < word := by
        rw [← String.not_le]
        intro hle
        exact heq (String.le_antisymm hle (String.not_lt.1 hlt))
      refine List.pairwise_cons.2 ⟨?_, ih hrest⟩
      intro other hother
      rcases mem_insert.1 hother with rfl | hother
      · exact hgt
      · exact hfirst other hother

theorem mem_sorted : word ∈ sorted words ↔ word ∈ words := by
  induction words with
  | nil => rfl
  | cons first rest ih =>
    have hcons : sorted (first :: rest) = insert first (sorted rest) := rfl
    rw [hcons, mem_insert, ih, List.mem_cons]

theorem pairwise_sorted (words : List String) : (sorted words).Pairwise (· < ·) := by
  induction words with
  | nil => exact .nil
  | cons first rest ih => exact pairwise_insert ih

end Listing

namespace RuleTable

variable [DecidableEq κ]

theorem isSome_get?_iff {kind : κ} {own : List (κ × ρ)} :
    (Entries.get? kind own).isSome ↔ kind ∈ own.map Prod.fst := by
  induction own with
  | nil => simp [Entries.get?]
  | cons entry rest ih =>
    rw [Entries.get?]
    by_cases he : entry.1 = kind
    · simp [he]
    · simp [he, Ne.symm he, ih]

mutual

/-- The kinds of a table and its parents are those for which a rule is found. -/
theorem mem_allKinds (kind : κ) : ∀ table : RuleTable κ ρ,
    kind ∈ table.allKinds ↔ (table.lookup kind).isSome
  | .mk name own parents => by
    have hown : (Entries.get? kind own).isSome ↔ kind ∈ own.map Prod.fst := isSome_get?_iff
    have hparents := mem_allKindsOf kind parents
    rw [allKinds, lookup, List.mem_append, ← hown, hparents]
    cases Entries.get? kind own <;> simp

theorem mem_allKindsOf (kind : κ) : ∀ tables : List (RuleTable κ ρ),
    kind ∈ allKindsOf tables ↔ (lookupFirst kind tables).isSome
  | [] => by simp [allKindsOf, lookupFirst]
  | table :: rest => by
    have hfirst := mem_allKinds kind table
    have hrest := mem_allKindsOf kind rest
    rw [allKindsOf, lookupFirst, List.mem_append, hfirst, hrest]
    cases lookup kind table <;> simp

end

theorem mem_kinds {table : RuleTable String ρ} {kind : String} :
    kind ∈ table.kinds ↔ (table.lookup kind).isSome := by
  rw [kinds, Listing.mem_sorted, mem_allKinds]

end RuleTable

end BlockCode
