import BlockCode.KindTable
import BlockCode.Proofs.Rule.Tables
import Mathlib.Data.List.Sort

namespace BlockCode

variable {ρ : Type}

/-- A text as a kind among values, with its rule. -/
def asKind (e : String × ρ) : Key × Value × ρ :=
  (.text e.1, .text e.1, e.2)

namespace Entries

theorem get?_asKind (kind : String) (own : List (String × ρ)) :
    get? (Key.text kind) (own.map asKind) = (get? kind own).map (Value.text kind, ·) := by
  induction own with
  | nil => rfl
  | cons entry rest ih =>
    rw [List.map_cons, get?, get?, ih]
    by_cases he : entry.1 = kind
    · simp [asKind, he]
    · simp [asKind, he]

theorem put_asKind (kind : String) (rule : ρ) (own : List (String × ρ)) :
    put (Key.text kind) (Value.text kind, rule) (own.map asKind) =
      (put kind rule own).map asKind := by
  induction own with
  | nil => rfl
  | cons entry rest ih =>
    rw [List.map_cons, put, put, ih]
    by_cases he : entry.1 = kind
    · simp [asKind, he]
    · simp [asKind, he]

end Entries

def RuleRow.asKinds (row : RuleRow String ρ) : RuleRow Key (Value × ρ) :=
  ⟨row.name, row.own.map asKind, row.parents⟩

namespace RuleTable

mutual

/-- A table of texts among the tables of kinds. -/
def asKinds : RuleTable String ρ → KindTable ρ
  | .mk name own parents => .mk name (own.map asKind) (allAsKinds parents)

def allAsKinds : List (RuleTable String ρ) → List (KindTable ρ)
  | [] => []
  | table :: rest => asKinds table :: allAsKinds rest

end

theorem allAsKinds_eq (tables : List (RuleTable String ρ)) :
    allAsKinds tables = tables.map asKinds := by
  induction tables with
  | nil => rfl
  | cons table rest ih => rw [allAsKinds, ih, List.map_cons]

mutual

theorem lookup_asKinds (kind : String) : ∀ table : RuleTable String ρ,
    table.asKinds.lookup (.text kind) = (table.lookup kind).map (Value.text kind, ·)
  | .mk name own parents => by
    have hparents := lookupFirst_allAsKinds kind parents
    rw [asKinds, lookup, lookup, Entries.get?_asKind, hparents]
    cases Entries.get? kind own <;> rfl

theorem lookupFirst_allAsKinds (kind : String) : ∀ tables : List (RuleTable String ρ),
    lookupFirst (.text kind) (allAsKinds tables) =
      (lookupFirst kind tables).map (Value.text kind, ·)
  | [] => rfl
  | table :: rest => by
    have hfirst := lookup_asKinds kind table
    have hrest := lookupFirst_allAsKinds kind rest
    rw [allAsKinds, lookupFirst, lookupFirst, hfirst, hrest]
    cases lookup kind table <;> rfl

end

theorem find?_asKinds (table : RuleTable String ρ) (kind : String) :
    KindTable.find? table.asKinds (.text kind) = .ok (table.lookup kind) := by
  have hfound := table.lookup_asKinds kind
  change Except.ok ((table.asKinds.lookup (.text kind)).map Prod.snd) = _
  rw [hfound, Option.map_map]
  cases table.lookup kind <;> rfl

mutual

theorem allSpellings_asKinds : ∀ table : RuleTable String ρ,
    KindTable.allSpellings table.asKinds = table.allKinds.map fun kind => (.text kind, .text kind)
  | .mk name own parents => by
    have hparents := allSpellingsOf_allAsKinds parents
    rw [asKinds, KindTable.allSpellings, allKinds, hparents, List.map_append, List.map_map,
      List.map_map]
    rfl

theorem allSpellingsOf_allAsKinds : ∀ tables : List (RuleTable String ρ),
    KindTable.allSpellingsOf (allAsKinds tables) =
      (allKindsOf tables).map fun kind => (.text kind, .text kind)
  | [] => rfl
  | table :: rest => by
    have hfirst := allSpellings_asKinds table
    have hrest := allSpellingsOf_allAsKinds rest
    rw [allAsKinds, KindTable.allSpellingsOf, allKindsOf, hfirst, hrest, List.map_append]

end

end RuleTable

namespace Listing

theorem sorted_eq_of_mem_iff {words others : List String}
    (h : ∀ word, word ∈ words ↔ word ∈ others) : sorted words = sorted others := by
  refine (pairwise_sorted words).eq_of_mem_iff (pairwise_sorted others) ?_
  intro word
  rw [mem_sorted, mem_sorted, h]

end Listing

namespace Value

/-- A word that is not there yet goes to its place among the texts. -/
theorem insert_texts {word : String} {words : List String} (h : word ∉ words) :
    insert (.text word) (words.map .text) = .ok ((Listing.insert word words).map .text) := by
  induction words with
  | nil => rfl
  | cons first rest ih =>
    rw [List.mem_cons, not_or] at h
    have hbelow : isBelow (.text word) (.text first) = .ok (decide (word < first)) := by
      rw [isBelow]
    rw [List.map_cons, insert, hbelow, Listing.insert, if_neg h.1]
    change (if decide (word < first) = true then _ else _) = _
    by_cases hlt : word < first
    · simp [hlt]
      rfl
    · rw [ih h.2]
      simp [hlt]

theorem sorted_texts {words : List String} (h : words.Nodup) :
    sorted (words.map .text) = .ok ((Listing.sorted words).map .text) := by
  induction words with
  | nil => rfl
  | cons first rest ih =>
    rw [List.nodup_cons] at h
    rw [List.map_cons, sorted, ih h.2]
    refine insert_texts ?_
    rw [Listing.mem_sorted]
    exact h.1

end Value

namespace KindTable

/-- Kinds as they are collected: each with its spelling. -/
def collected (words : List String) : List (Key × Value) :=
  words.map fun word => (.text word, .text word)

theorem collected_cons (first : String) (rest : List String) :
    collected (first :: rest) = (.text first, .text first) :: collected rest :=
  rfl

theorem has_collected (word : String) (words : List String) :
    Entries.has (.text word) (collected words) = decide (word ∈ words) := by
  induction words with
  | nil => rfl
  | cons first rest ih =>
    unfold Entries.has at ih ⊢
    rw [collected_cons, Entries.get?]
    by_cases hf : first = word
    · simp [hf]
    · simpa [hf, Ne.symm hf] using ih

theorem put_collected {word : String} {words : List String} (h : word ∉ words) :
    Entries.put (.text word) (.text word) (collected words) = collected (words ++ [word]) := by
  induction words with
  | nil => rfl
  | cons first rest ih =>
    rw [List.mem_cons, not_or] at h
    rw [collected_cons, Entries.put]
    have hne : ¬ Key.text first = Key.text word := fun heq => h.1 (Key.text.inj heq).symm
    rw [if_neg hne]
    exact congrArg _ (ih h.2)

/-- Collecting leaves out what is there already. -/
theorem foldl_collected (words : List String) {known : List String} (hknown : known.Nodup) :
    ∃ all : List String, all.Nodup ∧ (∀ word, word ∈ all ↔ word ∈ known ∨ word ∈ words) ∧
      (collected words).foldl (fun entries e =>
        if Entries.has e.1 entries then entries else Entries.put e.1 e.2 entries)
        (collected known) = collected all := by
  induction words generalizing known with
  | nil => exact ⟨known, hknown, by simp, rfl⟩
  | cons first rest ih =>
    rw [collected_cons, List.foldl_cons, has_collected]
    by_cases hfirst : first ∈ known
    · obtain ⟨all, hall, hmem, hfold⟩ := ih hknown
      refine ⟨all, hall, fun word => ?_, ?_⟩
      · rw [hmem, List.mem_cons]
        constructor
        · tauto
        · rintro (h | rfl | h)
          · exact .inl h
          · exact .inl hfirst
          · exact .inr h
      · rw [if_pos (decide_eq_true hfirst)]
        exact hfold
    · have hnodup : (known ++ [first]).Nodup := by
        rw [List.nodup_append]
        refine ⟨hknown, List.nodup_singleton first, ?_⟩
        intro word hword other hother heq
        rw [List.mem_singleton.1 hother] at heq
        exact hfirst (heq ▸ hword)
      obtain ⟨all, hall, hmem, hfold⟩ := ih hnodup
      refine ⟨all, hall, fun word => ?_, ?_⟩
      · rw [hmem, List.mem_append, List.mem_singleton, List.mem_cons, or_assoc]
      · rw [if_neg (by simpa using hfirst), put_collected hfirst]
        exact hfold

end KindTable

theorem RuleTable.kindValues_asKinds (table : RuleTable String ρ) :
    KindTable.kindValues table.asKinds = .ok (table.kinds.map .text) := by
  obtain ⟨all, hall, hmem, hfold⟩ := KindTable.foldl_collected table.allKinds List.nodup_nil
  have hsame : Listing.sorted all = table.kinds := by
    refine Listing.sorted_eq_of_mem_iff fun word => ?_
    simp [hmem]
  have hvalues : (KindTable.collected all).map Prod.snd = all.map Value.text := by
    simp [KindTable.collected]
  rw [KindTable.kindValues, allSpellings_asKinds]
  change Value.sorted (((KindTable.collected table.allKinds).foldl _
    (KindTable.collected [])).map Prod.snd) = _
  rw [hfold, hvalues, Value.sorted_texts hall, hsame]

namespace RuleCatalog

/-- A catalog of texts among the catalogs of kinds. -/
def asKinds (c : RuleCatalog String ρ) : KindCatalog ρ :=
  c.map RuleRow.asKinds

theorem table_asKinds (c : RuleCatalog String ρ) (position : Nat) :
    c.asKinds.table position = (c.table position).asKinds := by
  induction c generalizing position with
  | nil => rfl
  | cons row earlier ih =>
    have hlength : (asKinds earlier).length = earlier.length := List.length_map _
    have hparents : row.parents.map (table (asKinds earlier)) =
        RuleTable.allAsKinds (row.parents.map (table earlier)) := by
      rw [RuleTable.allAsKinds_eq, List.map_map]
      exact List.map_congr_left fun parent _ => ih parent
    change table (row.asKinds :: asKinds earlier) position = (table (row :: earlier) position).asKinds
    rw [table, table, hlength]
    split_ifs
    · rw [RuleTable.asKinds, ← hparents]
      rfl
    · exact ih position

theorem register_asKinds (position : Nat) (kind : String) (rule : ρ) (c : RuleCatalog String ρ) :
    c.asKinds.register position [.text kind] (.text kind, rule) =
      (c.register position [kind] rule).asKinds := by
  induction c with
  | nil => rfl
  | cons row earlier ih =>
    have hlength : (asKinds earlier).length = earlier.length := List.length_map _
    change register position [.text kind] (.text kind, rule) (row.asKinds :: asKinds earlier) = _
    rw [register, register, hlength]
    split_ifs
    · simp [asKinds, RuleRow.asKinds, Entries.put_asKind]
    · rw [ih]
      rfl

theorem register_nil (position : Nat) (rule : ρ) (c : RuleCatalog String ρ) :
    c.register position [] rule = c := by
  induction c with
  | nil => rfl
  | cons row earlier ih =>
    rw [register, ih]
    split_ifs <;> rfl

theorem register_cons (position : Nat) (kind : String) (kinds : List String) (rule : ρ)
    (c : RuleCatalog String ρ) :
    c.register position (kind :: kinds) rule =
      (c.register position [kind] rule).register position kinds rule := by
  induction c with
  | nil => rfl
  | cons row earlier ih =>
    rw [register, register]
    split_ifs with hp
    · rw [register, if_pos hp]
      rfl
    · rw [register, length_register, if_neg hp, ih]

end RuleCatalog

namespace KindCatalog

open RuleCatalog

theorem own_asKinds (table : RuleTable String ρ) (kind : String) :
    ((Entries.get? (.text kind) (KindTable.own table.asKinds)).map Prod.fst).getD (.text kind) =
      .text kind := by
  obtain ⟨name, own, parents⟩ := table
  change ((Entries.get? (.text kind) (own.map asKind)).map Prod.fst).getD _ = _
  rw [Entries.get?_asKind]
  cases Entries.get? kind own <;> rfl

theorem registerKind_text (position : Nat) (rule : ρ) (c : RuleCatalog String ρ) (kind : String) :
    registerKind position rule c.asKinds (.text kind) =
      .ok (c.register position [kind] rule).asKinds := by
  have hspelling := own_asKinds (c.table position) kind
  rw [← table_asKinds] at hspelling
  change Except.ok (c.asKinds.register position [.text kind] (_, rule)) = _
  rw [hspelling, register_asKinds]

/-- Registering texts does not fail. -/
theorem registerKinds_texts (position : Nat) (rule : ρ) (c : RuleCatalog String ρ)
    (kinds : List String) :
    registerKinds position rule c.asKinds (kinds.map .text) =
      ((c.register position kinds rule).asKinds, .ok ()) := by
  induction kinds generalizing c with
  | nil => rw [register_nil]; rfl
  | cons kind kinds ih =>
    rw [List.map_cons, registerKinds, registerKind_text, register_cons position kind kinds]
    exact ih _

end KindCatalog

namespace RuleHistory

variable {n : Nat}

/-- The same, done with tables whose kinds are values. -/
def kindCatalog {n : Nat} : RuleHistory String ρ n → KindCatalog ρ
  | .start => []
  | .table earlier name parents => earlier.kindCatalog.add name (parents.map Fin.val)
  | .register earlier position kinds rule =>
    (KindCatalog.registerKinds position rule earlier.kindCatalog (kinds.map .text)).1

theorem kindCatalog_eq (h : RuleHistory String ρ n) : h.kindCatalog = h.catalog.asKinds := by
  induction h with
  | start => rfl
  | table earlier name parents ih =>
    rw [kindCatalog, ih]
    rfl
  | register earlier position kinds rule ih =>
    rw [kindCatalog, ih, KindCatalog.registerKinds_texts]
    rfl

/-- Looking up, listing and asking for a kind agree, however tables were made and filled: a rule is
the one registered last in the first table with one, and just those kinds are listed, in order. Where
kinds may be values, texts find the same rules and are listed alike. -/
theorem tables_agree (h : RuleHistory String ρ n) (position : Fin n) (kind : String) :
    let table := h.catalog.table position
    let kindTable := h.kindCatalog.table position
    (∃ order, Visits (h.parents ·) position order ∧
      table.lookup kind = order.findSome? (h.lastRule kind ·)) ∧
    (kind ∈ table.kinds ↔ table.lookup kind ≠ none) ∧
    (table.contains kind = true ↔ table.lookup kind ≠ none) ∧
    table.kinds.Pairwise (· < ·) ∧
    KindTable.find? kindTable (.text kind) = .ok (table.lookup kind) ∧
    KindTable.kindValues kindTable = .ok (table.kinds.map .text) := by
  intro table kindTable
  obtain ⟨order, hvisits, hlookup⟩ := h.lookup_visits position position.isLt
  have hkinds : kindTable = table.asKinds := by
    have htable := RuleCatalog.table_asKinds h.catalog position
    rwa [← kindCatalog_eq] at htable
  refine ⟨⟨order, hvisits, hlookup kind⟩, ?_, ?_, Listing.pairwise_sorted _, ?_, ?_⟩
  · rw [RuleTable.mem_kinds, Option.isSome_iff_ne_none]
  · rw [RuleTable.contains, Option.isSome_iff_ne_none]
  · rw [hkinds, RuleTable.find?_asKinds]
  · rw [hkinds, RuleTable.kindValues_asKinds]

end RuleHistory

end BlockCode
