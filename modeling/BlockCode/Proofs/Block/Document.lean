import BlockCode.Block.Snapshot
import Mathlib.Data.List.Forall2

namespace BlockCode

theorem map_eq_map_of_forall₂ {α β γ : Type} {R : α → β → Prop} {l : List α} {m : List β} {f : α → γ}
    {g : β → γ} (h : List.Forall₂ R l m) (hfg : ∀ a b, R a b → f a = g b) : l.map f = m.map g := by
  rw [← List.forall₂_eq_eq_eq, List.forall₂_map_left_iff, List.forall₂_map_right_iff]
  exact h.imp hfg

namespace Checked

variable {α β : Type}

theorem seq_eq_good {f : Checked (α → β)} {x : Checked α} {b : β} (h : f <*> x = .good b) :
    ∃ g a, f = .good g ∧ x = .good a ∧ g a = b := by
  cases f with
  | bad i more => cases x <;> cases h
  | good g =>
    cases x with
    | bad i more => cases h
    | good a =>
      cases h
      exact ⟨g, a, rfl, rfl, rfl⟩

theorem map_eq_good {f : α → β} {x : Checked α} {b : β} (h : f <$> x = .good b) :
    ∃ a, x = .good a ∧ f a = b := by
  cases x with
  | bad i more => cases h
  | good a =>
    cases h
    exact ⟨a, rfl, rfl⟩

end Checked

namespace Check

variable {α β : Type}

theorem field_eq_good {entries : List (String × α)} {name : String} {default b : β}
    {check : α → Checked β} (h : field entries name default check = .good b) :
    (entries.lookup name = none ∧ b = default) ∨
      ∃ a, entries.lookup name = some a ∧ check a = .good b := by
  unfold field at h
  split at h
  · next a ha => exact .inr ⟨a, ha, h⟩
  · next hnone =>
    cases h
    exact .inl ⟨hnone, rfl⟩

theorem items_eq_good {check : Path → Value → Checked α} {path : Path} {start : Nat}
    {values : List Value} {as : List α} (h : items check path start values = .good as) :
    List.Forall₂ (fun v a => ∃ place, check place v = .good a) values as := by
  induction values generalizing start as with
  | nil =>
    cases h
    exact .nil
  | cons v values ih =>
    obtain ⟨f, rest, hf, hrest, rfl⟩ := Checked.seq_eq_good h
    obtain ⟨a, ha, rfl⟩ := Checked.map_eq_good hf
    exact .cons ⟨_, ha⟩ (ih hrest)

end Check

namespace Draft

mutual

/-- The heads of a draft and of all drafts below it: value sockets, statement sockets, then the next
block, and every head before those below it. -/
def heads : Draft → List DraftHead
  | .mk head inputs statements next =>
    head :: (socketHeads inputs ++ socketHeads statements ++ linkHeads next)

def socketHeads : List (String × Option Draft) → List DraftHead
  | [] => []
  | (_, plug) :: rest => linkHeads plug ++ socketHeads rest

def linkHeads : Option Draft → List DraftHead
  | none => []
  | some draft => heads draft

end

end Draft

namespace Snapshot

mutual

/-- The tables of a block and of all blocks below it: value sockets, statement sockets, then the next
block, and every table before those below it. -/
def tables : Value → List (List (String × Value))
  | .map entries =>
    entries :: (socketTablesAt "inputs" entries ++ socketTablesAt "statements" entries ++
      tablesAt "next" entries)
  | _ => []

def tablesAt (key : String) : List (String × Value) → List (List (String × Value))
  | [] => []
  | (name, v) :: rest => if key == name then tables v else tablesAt key rest

/-- The tables of all blocks in the sockets under a key. -/
def socketTablesAt (key : String) : List (String × Value) → List (List (String × Value))
  | [] => []
  | (name, v) :: rest => if key == name then socketTables v else socketTablesAt key rest

def socketTables : Value → List (List (String × Value))
  | .map sockets => plugTables sockets
  | _ => []

def plugTables : List (String × Value) → List (List (String × Value))
  | [] => []
  | (_, v) :: rest => tables v ++ plugTables rest

end

/-- The tables of all blocks of a document. -/
def blockTables : Value → List (List (String × Value))
  | .map entries =>
    match entries.lookup "blocks" with
    | some (.list items) => items.flatMap tables
    | _ => []
  | _ => []

/-- The variables that a document lists. -/
def listedNames : Value → List String
  | .map entries =>
    match entries.lookup "variables" with
    | some (.list items) => items.map Value.written
    | _ => []
  | _ => []

/-- The identifier that a table gives; null is none. -/
def givenId (entries : List (String × Value)) : Option String :=
  match entries.lookup "id" with
  | some (.text id) => some id
  | _ => none

/-- The table under a key of a table, which is empty if there is none. -/
def tableAt (key : String) (entries : List (String × Value)) : List (String × Value) :=
  match entries.lookup key with
  | some (.map inner) => inner
  | _ => []

/-- The head has what the table says. -/
structure Reads (entries : List (String × Value)) (head : DraftHead) : Prop where
  id : head.id = givenId entries
  fields : head.fields = tableAt "fields" entries
  mutation : head.mutation = tableAt "mutation" entries

section Lookup

variable {key : String} {entries : List (String × Value)}

theorem lookup_readers (key : String) (entries : List (String × Value)) :
    (readers entries).lookup key = (entries.lookup key).map reader := by
  induction entries with
  | nil => rfl
  | cons entry rest ih =>
    obtain ⟨name, v⟩ := entry
    rw [readers, List.lookup_cons, List.lookup_cons, ih]
    cases key == name <;> rfl

theorem tablesAt_eq (key : String) (entries : List (String × Value)) :
    tablesAt key entries = ((entries.lookup key).map tables).getD [] := by
  induction entries with
  | nil => rfl
  | cons entry rest ih =>
    obtain ⟨name, v⟩ := entry
    rw [tablesAt, List.lookup_cons, ih]
    cases key == name <;> rfl

theorem socketTablesAt_eq (key : String) (entries : List (String × Value)) :
    socketTablesAt key entries = ((entries.lookup key).map socketTables).getD [] := by
  induction entries with
  | nil => rfl
  | cons entry rest ih =>
    obtain ⟨name, v⟩ := entry
    rw [socketTablesAt, List.lookup_cons, ih]
    cases key == name <;> rfl

end Lookup

theorem reader_raw (v : Value) : (reader v).raw = v := by
  cases v <;> rfl

/-- A field that is read from a table is there, or it has its default. -/
theorem field_readers {β : Type} {entries : List (String × Value)} {name : String} {default b : β}
    {check : Reader → Checked β} (h : Check.field (readers entries) name default check = .good b) :
    (entries.lookup name = none ∧ b = default) ∨
      ∃ v, entries.lookup name = some v ∧ check (reader v) = .good b := by
  rcases Check.field_eq_good h with ⟨hnone, rfl⟩ | ⟨r, hr, hb⟩
  · rw [lookup_readers, Option.map_eq_none_iff] at hnone
    exact .inl ⟨hnone, rfl⟩
  · rw [lookup_readers, Option.map_eq_some_iff] at hr
    obtain ⟨v, hv, rfl⟩ := hr
    exact .inr ⟨v, hv, hb⟩

theorem id_of_field {entries : List (String × Value)} {place : Path} {id : Option String}
    (h : Check.field (readers entries) "id" none
      (fun r => Check.optional Check.text place r.raw) = .good id) : id = givenId entries := by
  unfold givenId
  rcases field_readers h with ⟨hnone, rfl⟩ | ⟨v, hv, hid⟩
  · rw [hnone]
  · rw [reader_raw] at hid
    rw [hv]
    cases v with
    | null => cases hid; rfl
    | text s => cases hid; rfl
    | _ => cases hid

theorem table_of_field {entries : List (String × Value)} {name : String} {place : Path}
    {inner : List (String × Value)}
    (h : Check.field (readers entries) name [] (fun r => Check.table place r.raw) = .good inner) :
    inner = tableAt name entries := by
  unfold tableAt
  rcases field_readers h with ⟨hnone, rfl⟩ | ⟨v, hv, hinner⟩
  · rw [hnone]
  · rw [reader_raw] at hinner
    rw [hv]
    cases v with
    | map inner => cases hinner; rfl
    | _ => cases hinner

/-- Whatever is read from a value comes from its tables. -/
structure IsRead (v : Value) : Prop where
  block : ∀ {path : Path} {draft : Draft}, (reader v).block path = .good draft →
    List.Forall₂ Reads (tables v) draft.heads
  sockets : ∀ {path : Path} {m : List (String × Option Draft)}, (reader v).sockets path = .good m →
    List.Forall₂ Reads (socketTables v) (Draft.socketHeads m)

theorem IsRead.plug {v : Value} (h : IsRead v) {path : Path} {plug : Option Draft}
    (hplug : (reader v).plug path = .good plug) :
    List.Forall₂ Reads (tables v) (Draft.linkHeads plug) := by
  unfold Reader.plug at hplug
  split at hplug
  · next hnull =>
    rw [reader_raw] at hnull
    subst hnull
    cases hplug
    exact .nil
  · obtain ⟨draft, hdraft, rfl⟩ := Checked.map_eq_good hplug
    exact h.block hdraft

section Table

variable {entries : List (String × Value)} (h : ∀ entry ∈ entries, IsRead entry.2)
include h

theorem reads_link {name : String} {place : Path} {plug : Option Draft}
    (hplug : Check.field (readers entries) name none (fun r => r.plug place) = .good plug) :
    List.Forall₂ Reads (tablesAt name entries) (Draft.linkHeads plug) := by
  rw [tablesAt_eq]
  rcases field_readers hplug with ⟨hnone, rfl⟩ | ⟨v, hv, hplug⟩
  · rw [hnone]
    exact .nil
  · rw [hv]
    exact (h _ (mem_of_lookup hv)).plug hplug

theorem reads_sockets {name : String} {place : Path} {m : List (String × Option Draft)}
    (hm : Check.field (readers entries) name [] (fun r => r.sockets place) = .good m) :
    List.Forall₂ Reads (socketTablesAt name entries) (Draft.socketHeads m) := by
  rw [socketTablesAt_eq]
  rcases field_readers hm with ⟨hnone, rfl⟩ | ⟨v, hv, hm⟩
  · rw [hnone]
    exact .nil
  · rw [hv]
    exact (h _ (mem_of_lookup hv)).sockets hm

theorem reads_plugs {path : Path} {m : List (String × Option Draft)}
    (hm : readSockets path (readers entries) = .good m) :
    List.Forall₂ Reads (plugTables entries) (Draft.socketHeads m) := by
  induction entries generalizing m with
  | nil =>
    cases hm
    exact .nil
  | cons entry rest ih =>
    rw [List.forall_mem_cons] at h
    obtain ⟨f, others, hf, hothers, rfl⟩ := Checked.seq_eq_good hm
    obtain ⟨plug, hplug, rfl⟩ := Checked.map_eq_good hf
    exact List.rel_append (h.1.plug hplug) (ih h.2 hothers)

theorem reads_table {path : Path} {draft : Draft}
    (hdraft : readBlock (readers entries) path = .good draft) :
    List.Forall₂ Reads (tables (.map entries)) draft.heads := by
  -- The checks stand side by side, the last one outermost.
  obtain ⟨_, mutation, h₉, hmutation, rfl⟩ := Checked.seq_eq_good hdraft
  obtain ⟨_, disabled, h₈, -, rfl⟩ := Checked.seq_eq_good h₉
  obtain ⟨_, output, h₇, -, rfl⟩ := Checked.seq_eq_good h₈
  obtain ⟨_, comment, h₆, -, rfl⟩ := Checked.seq_eq_good h₇
  obtain ⟨_, next, h₅, hnext, rfl⟩ := Checked.seq_eq_good h₆
  obtain ⟨_, statements, h₄, hstatements, rfl⟩ := Checked.seq_eq_good h₅
  obtain ⟨_, inputs, h₃, hinputs, rfl⟩ := Checked.seq_eq_good h₄
  obtain ⟨_, fields, h₂, hfields, rfl⟩ := Checked.seq_eq_good h₃
  obtain ⟨_, id, h₁, hid, rfl⟩ := Checked.seq_eq_good h₂
  obtain ⟨kind, -, rfl⟩ := Checked.map_eq_good h₁
  have hhead : Reads entries { kind, id, fields, comment, output, disabled, mutation } :=
    ⟨id_of_field hid, table_of_field hfields, table_of_field hmutation⟩
  exact .cons hhead (List.rel_append (List.rel_append (reads_sockets h hinputs)
    (reads_sockets h hstatements)) (reads_link h hnext))

theorem isRead_map : IsRead (.map entries) where
  block := reads_table h
  sockets := reads_plugs h

end Table

mutual

theorem isRead : ∀ v : Value, IsRead v
  | .map entries => isRead_map (isRead_entries entries)
  | .null => ⟨(by rintro _ _ ⟨⟩), by rintro _ _ ⟨⟩⟩
  | .bool _ => ⟨(by rintro _ _ ⟨⟩), by rintro _ _ ⟨⟩⟩
  | .int _ => ⟨(by rintro _ _ ⟨⟩), by rintro _ _ ⟨⟩⟩
  | .real _ => ⟨(by rintro _ _ ⟨⟩), by rintro _ _ ⟨⟩⟩
  | .text _ => ⟨(by rintro _ _ ⟨⟩), by rintro _ _ ⟨⟩⟩
  | .list _ => ⟨(by rintro _ _ ⟨⟩), by rintro _ _ ⟨⟩⟩
  | .moment _ => ⟨(by rintro _ _ ⟨⟩), by rintro _ _ ⟨⟩⟩

theorem isRead_entries : ∀ entries : List (String × Value), ∀ entry ∈ entries, IsRead entry.2
  | [] => by simp
  | (_, v) :: rest => List.forall_mem_cons.2 ⟨isRead v, isRead_entries rest⟩

end

theorem reads_blocks {path : Path} {items : List Value} {drafts : List Draft}
    (h : readBlocks path (.list items) = .good drafts) :
    List.Forall₂ Reads (items.flatMap tables) (drafts.flatMap Draft.heads) := by
  refine List.rel_flatMap (Check.items_eq_good h) ?_
  rintro v draft ⟨place, hdraft⟩
  exact (isRead v).block hdraft

theorem written_of_readVariables {path : Path} {items : List Value} {listed : Option (List String)}
    (h : readVariables path (.list items) = .good listed) :
    listed = some (items.map Value.written) := by
  obtain ⟨names, hnames, rfl⟩ := Checked.map_eq_good h
  have hwritten : List.Forall₂ Eq (items.map Value.written) names := by
    refine List.forall₂_map_left_iff.2 ((Check.items_eq_good hnames).imp ?_)
    rintro v name ⟨place, hname⟩
    cases v with
    | text s => cases hname; rfl
    | _ => cases hname
  rw [List.forall₂_eq_eq_eq] at hwritten
  rw [hwritten]

/-- The drafts of a document are those of its tables, in order, and its variables are those that it
lists. -/
theorem reads_contents {document : Value} {drafts : List Draft} {listed : Option (List String)}
    (h : contents document = .good (drafts, listed)) :
    List.Forall₂ Reads (blockTables document) (drafts.flatMap Draft.heads) ∧
      listed.getD [] = listedNames document := by
  cases document with
  | map entries =>
    obtain ⟨_, _, hmade, hlisted, hpair⟩ := Checked.seq_eq_good h
    obtain ⟨_, hblocks, rfl⟩ := Checked.map_eq_good hmade
    cases hpair
    constructor
    · rw [blockTables]
      rcases Check.field_eq_good hblocks with ⟨hnone, rfl⟩ | ⟨v, hv, hblocks⟩
      · rw [hnone]
        exact .nil
      · rw [hv]
        cases v with
        | list items => exact reads_blocks hblocks
        | _ => cases hblocks
    · rw [listedNames]
      rcases Check.field_eq_good hlisted with ⟨hnone, rfl⟩ | ⟨v, hv, hlisted⟩
      · rw [hnone]
        rfl
      · rw [hv]
        cases v with
        | null => cases hlisted; rfl
        | list items => rw [written_of_readVariables hlisted]; rfl
        | _ => cases hlisted
  | _ => cases h

/-- What drafts and listed variables are made into. -/
theorem build_eq_ok {drafts : List Draft} {listed : Option (List String)} {n next : Nat}
    {ws : Workspace} (h : build drafts listed n = (.ok ws, next)) :
    ∃ found, Draft.toBlocks n drafts = (ws.top, next) ∧ variablesOf ws.top = .ok found ∧
      ws.variableNames = (joinVariables (listed.getD []) found).map Value.text := by
  unfold build at h
  dsimp only at h
  split at h
  · cases h
  · next found hfound =>
    cases h
    exact ⟨found, rfl, hfound, rfl⟩

/-- A document that passes its check is made into what its drafts are made into. -/
theorem load_eq_ok {document : Value} {n next : Nat} {ws : Workspace}
    (h : load document n = (.ok ws, next)) :
    ∃ drafts listed, contents document = .good (drafts, listed) ∧
      build drafts listed n = (.ok ws, next) := by
  unfold load at h
  split at h
  · cases h
  · next drafts listed hcontents => exact ⟨drafts, listed, hcontents, h⟩

end Snapshot

end BlockCode
