import BlockCode.Dialect.DivGames
import BlockCode.Proofs.Name.Growth
import BlockCode.Proofs.Run.Requests
import BlockCode.Proofs.Text.Replacement

namespace BlockCode

namespace Entries

variable {κ α : Type} [DecidableEq κ] {m : List (κ × α)} {key : κ} {value : α}

theorem keys_put (key : κ) (value : α) (m : List (κ × α)) :
    (put key value m).map Prod.fst =
      if key ∈ m.map Prod.fst then m.map Prod.fst else m.map Prod.fst ++ [key] := by
  induction m with
  | nil => simp [put]
  | cons entry rest ih =>
    rw [put]
    by_cases he : entry.1 = key
    · simp [he]
    · rw [if_neg he, List.map_cons, ih]
      by_cases hk : key ∈ rest.map Prod.fst
      · simp [hk]
      · simp [hk, Ne.symm he]

theorem get?_of_mem (hm : (m.map Prod.fst).Nodup) (h : (key, value) ∈ m) :
    get? key m = some value := by
  induction m with
  | nil => cases h
  | cons entry rest ih =>
    rw [List.map_cons, List.nodup_cons] at hm
    rcases List.mem_cons.1 h with rfl | hrest
    · simp [get?]
    · have hne : entry.1 ≠ key := by
        intro he
        exact hm.1 (he ▸ List.mem_map_of_mem hrest)
      rw [get?, if_neg hne]
      exact ih hm.2 hrest

end Entries

theorem eraseDups_concat {α : Type} [DecidableEq α] (l : List α) (a : α) :
    (l ++ [a]).eraseDups = if a ∈ l then l.eraseDups else l.eraseDups ++ [a] := by
  rw [List.eraseDups_append]
  by_cases ha : a ∈ l
  · simp [List.removeAll, ha]
  · simp [List.removeAll, ha, List.eraseDups_cons]

/-- Whatever the label, a request for a distinct identifier forgets nothing; one for a procedure, if
it is answered, takes an identifier that was free. -/
theorem Allocator.distinctLabelled_spec (a : Allocator) (name label : Value) :
    a.Extends (a.distinctLabelled name label).2.2 ∧
      (a.distinctLabelled name label).2.2.known = a.known ∧
      ∀ x, (a.distinctLabelled name label).1 = .ok x → NameType.ofLabel? label = some .procedure →
        (a.pool .procedure, x) ∉ a.used ∧
          (a.pool .procedure, x) ∈ (a.distinctLabelled name label).2.2.used := by
  unfold distinctLabelled
  cases hl : NameType.ofLabel? label with
  | some type =>
    dsimp only
    cases hd : a.distinct name type with
    | error fault => exact ⟨.refl a, rfl, fun x hx => nomatch hx⟩
    | ok result =>
      obtain ⟨g, next⟩ := result
      obtain ⟨-, hfree, hnext⟩ := distinct_eq_ok hd
      refine ⟨extends_of_distinct hd, by rw [hnext], fun x hx htype => ?_⟩
      cases htype
      cases hx
      rw [lead, String.empty_append, hnext]
      exact ⟨(isTaken_eq_false.1 hfree).1, List.mem_cons_self⟩
  | none =>
    dsimp only
    cases Name.identifierOf name with
    | error fault => exact ⟨.refl a, rfl, fun x hx => nomatch hx⟩
    | ok base =>
      dsimp only
      split
      · cases ha : a.allot .shared base with
        | error fault => exact ⟨.refl a, rfl, fun x hx => nomatch hx⟩
        | ok result =>
          obtain ⟨g, next⟩ := result
          obtain ⟨-, -, rfl⟩ := allot_eq_ok ha
          exact ⟨⟨rfl, fun _ hmem => List.mem_cons_of_mem _ hmem, fun hx => hx⟩, rfl,
            fun x hx => nomatch hx⟩
      · exact ⟨.refl a, rfl, fun x hx => nomatch hx⟩

namespace Context

variable {c c' : Context} {key : Value} {template : List String} {x : String}
  {records : List LogRecord}

/-- Either the helper has its name and nothing changes, or it gets a fresh one, and its text. -/
theorem provide_eq_ok (h : c.provide key template = .ok (x, records, c')) :
    ∃ id, key.key = .ok id ∧
      ((Entries.get? id c.helpers.names = some x ∧ c' = c) ∨
        (Entries.get? id c.helpers.names = none ∧
          ∃ g names, c.names.distinct key .procedure = .ok (g, names) ∧ x = g.chosen ∧
            c' = ⟨names, { c.helpers with
              names := Entries.put id x c.helpers.names
              texts := Entries.put id (c.helpers.instantiate template x) c.helpers.texts }⟩)) := by
  obtain ⟨⟨⟨name, isNew⟩, earlier, next⟩, hname, h⟩ := exists_of_bind h
  obtain ⟨id, hid, ⟨hget, hold, rfl⟩ | ⟨hget, g, names, hd, hnew, rfl⟩⟩ := helperName_eq_ok hname
  · obtain rfl : isNew = false := hold
    cases h
    exact ⟨id, hid, .inl ⟨hget, rfl⟩⟩
  · cases hnew
    obtain ⟨next, hdefine, h⟩ := exists_of_bind h
    obtain ⟨id', hid', hdefine⟩ := exists_of_bind hdefine
    cases hid.symm.trans hid'
    cases hdefine
    cases h
    exact ⟨id, hid, .inr ⟨hget, g, names, hd, rfl, rfl⟩⟩

theorem provide_of_known {id : Key} (hid : key.key = .ok id)
    (h : Entries.get? id c.helpers.names = some x) : c.provide key template = .ok (x, [], c) := by
  simp only [provide, helperName, HelperRegistry.functionName?, hid, h, bind, Except.bind, pure,
    Except.pure]
  rfl

end Context

/-- What may be asked of the identifiers and the definitions of a run. -/
inductive Call where
  | provide (key : Value) (template : List String)
  | define (key : Value) (code : String)
  | named (name : Value) (type : NameType)
  | fresh (name label : Value)

namespace Call

def perform : Call → Gen String
  | .provide key template => Gen.provide key template
  | .define key code => do
    Gen.define key code
    return ""
  | .named name type => Gen.nameOf type name
  | .fresh name label => Gen.distinctLabelled name label

/-- The answer to a call, and the context afterwards. -/
def answer (c : Context) : Call → Except Fault String × Context
  | .provide key template =>
    match c.provide key template with
    | .ok (x, _, next) => (.ok x, next)
    | .error fault => (.error fault, c)
  | .define key code =>
    match c.define key code with
    | .ok next => (.ok "", next)
    | .error fault => (.error fault, c)
  | .named name type =>
    match c.names.get name type with
    | .ok (g, names) => (.ok (c.names.lead type ++ g.chosen), { c with names })
    | .error fault => (.error fault, c)
  | .fresh name label =>
    ((c.names.distinctLabelled name label).1,
      { c with names := (c.names.distinctLabelled name label).2.2 })

theorem exec_perform {s : Setting} {r : Run} {c : Context} (hr : r.context = some c) (call : Call) :
    (Gen.exec call.perform s r).1 = (call.answer c).1 ∧
      (Gen.exec call.perform s r).2.context = some (call.answer c).2 := by
  cases call with
  | provide key template =>
    rw [perform, answer, Gen.provide, Gen.exec_step, hr]
    dsimp only
    cases c.provide key template with
    | error fault => exact ⟨rfl, hr⟩
    | ok result => exact ⟨rfl, rfl⟩
  | define key code =>
    rw [perform, answer, Gen.exec_bind, Gen.define, Gen.exec_step, hr]
    dsimp only
    cases c.define key code with
    | error fault => exact ⟨rfl, hr⟩
    | ok result => exact ⟨rfl, rfl⟩
  | named name type =>
    rw [perform, answer, Gen.exec_nameOf hr]
    cases c.names.get name type with
    | error fault => exact ⟨rfl, hr⟩
    | ok result => exact ⟨rfl, rfl⟩
  | fresh name label =>
    rw [perform, Gen.exec_distinctLabelled hr]
    exact ⟨rfl, rfl⟩

end Call

/-- A call and the answer to it. -/
structure Answered where
  call : Call
  answer : Except Fault String

namespace Answered

/-- What a call has provided: a helper by its key, with its template and its name. -/
def provided? : Answered → Option (Key × List String × String)
  | ⟨.provide key template, .ok x⟩ => key.key.toOption.map (·, template, x)
  | _ => none

/-- What a call has defined: a text by its key. -/
def defined? : Answered → Option (Key × String)
  | ⟨.define key code, .ok _⟩ => key.key.toOption.map (·, code)
  | _ => none

/-- The key that a call has provided or defined. -/
def key? (e : Answered) : Option Key :=
  (e.provided?.map Prod.fst).or (e.defined?.map Prod.fst)

/-- The identifier of a procedure that a call was answered with, if it was for one. -/
def procedure? : Answered → Option String
  | ⟨.named _ .procedure, .ok x⟩ => some x
  | ⟨.fresh _ label, .ok x⟩ => if NameType.ofLabel? label = some .procedure then some x else none
  | _ => none

end Answered

/-- The template and the name of a helper at its first successful request. -/
def firstProvided (key : Key) (entries : List Answered) : Option (List String × String) :=
  entries.findSome? fun e => e.provided?.bind fun found =>
    if found.1 = key then some found.2 else none

/-- The text that a key was defined with last. -/
def lastDefined (key : Key) (entries : List Answered) : Option String :=
  entries.reverse.findSome? fun e => e.defined?.bind fun found =>
    if found.1 = key then some found.2 else none

/-- Calls with their answers so far, and the run after them. -/
structure Ledger where
  entries : List Answered
  run : Run

def Ledger.next (s : Setting) (l : Ledger) (call : Call) : Ledger :=
  ⟨l.entries ++ [⟨call, (Gen.exec call.perform s l.run).1⟩], (Gen.exec call.perform s l.run).2⟩

/-- All calls one after the other, whether they are answered or refused. -/
def ledger (s : Setting) (start : Context) (calls : List Call) : Ledger :=
  calls.foldl (Ledger.next s) ⟨[], { context := some start }⟩

section Entries

variable {key : Key} {entries : List Answered} {e : Answered}

theorem firstProvided_concat (key : Key) (entries : List Answered) (e : Answered) :
    firstProvided key (entries ++ [e]) =
      (firstProvided key entries).or
        (e.provided?.bind fun found => if found.1 = key then some found.2 else none) := by
  rw [firstProvided, List.findSome?_append]
  simp only [List.findSome?_cons, List.findSome?_nil, firstProvided]
  cases e.provided?.bind fun found => if found.1 = key then some found.2 else none <;> rfl

theorem firstProvided_of_none (h : e.provided? = none) :
    firstProvided key (entries ++ [e]) = firstProvided key entries := by
  rw [firstProvided_concat, h, Option.bind_none, Option.or_none]

theorem lastDefined_concat (key : Key) (entries : List Answered) (e : Answered) :
    lastDefined key (entries ++ [e]) =
      (e.defined?.bind fun found => if found.1 = key then some found.2 else none).or
        (lastDefined key entries) := by
  rw [lastDefined, List.reverse_append, List.reverse_singleton, List.singleton_append,
    List.findSome?_cons]
  cases e.defined?.bind fun found => if found.1 = key then some found.2 else none <;> rfl

theorem lastDefined_of_none (h : e.defined? = none) :
    lastDefined key (entries ++ [e]) = lastDefined key entries := by
  rw [lastDefined_concat, h, Option.bind_none, Option.none_or]

theorem key_mem_of_firstProvided {found : List String × String}
    (h : firstProvided key entries = some found) : key ∈ entries.filterMap Answered.key? := by
  obtain ⟨e, he, hfound⟩ := List.exists_of_findSome?_eq_some h
  obtain ⟨provided, hp, hkey⟩ := Option.bind_eq_some_iff.1 hfound
  split at hkey
  · next hk =>
    refine List.mem_filterMap.2 ⟨e, he, ?_⟩
    rw [Answered.key?, hp, Option.map_some, Option.some_or, hk]
  · cases hkey

end Entries

/-- The identifier is in use for a procedure that is no helper. -/
def Context.HoldsProcedure (c : Context) (x : String) : Prop :=
  (c.names.pool .procedure, x) ∈ c.names.used ∧ ∀ key, Entries.get? key c.helpers.names ≠ some x

theorem Context.HoldsProcedure.mono {c c' : Context} {x : String} (h : c.HoldsProcedure x)
    (hgrows : c.names.Extends c'.names) (hhelpers : c'.helpers = c.helpers) :
    c'.HoldsProcedure x := by
  refine ⟨?_, fun key => ?_⟩
  · rw [hgrows.pool_eq]
    exact hgrows.used _ h.1
  · rw [hhelpers]
    exact h.2 key

/-- No key is both provided and defined. -/
def Apart (entries : List Answered) : Prop :=
  ∀ key found, firstProvided key entries = some found → lastDefined key entries = none

theorem Apart.of_concat {entries : List Answered} {e : Answered} (h : Apart (entries ++ [e])) :
    Apart entries := by
  intro key found hfound
  have hlast := h key found (by rw [firstProvided_concat, hfound, Option.some_or])
  rw [lastDefined_concat, Option.or_eq_none_iff] at hlast
  exact hlast.2

/-- What the calls so far say about the context. -/
structure Kept (start : Context) (entries : List Answered) (c : Context) : Prop where
  placeholder_eq : c.helpers.placeholder = start.helpers.placeholder
  grows : start.names.Extends c.names
  names_eq : ∀ key, Entries.get? key c.helpers.names = (firstProvided key entries).map Prod.snd
  provided : ∀ e ∈ entries, ∀ key template x, e.provided? = some (key, template, x) →
    Entries.get? key c.helpers.names = some x
  keys_eq : c.helpers.texts.map Prod.fst = (entries.filterMap Answered.key?).eraseDups
  nodup : (c.helpers.texts.map Prod.fst).Nodup
  texts_eq : Apart entries → ∀ key, Entries.get? key c.helpers.texts =
    match firstProvided key entries with
    | some (template, x) => some (start.helpers.instantiate template x)
    | none => lastDefined key entries
  held : ∀ {key x}, Entries.get? key c.helpers.names = some x →
    (c.names.pool .procedure, x) ∈ c.names.used ∧ x ∉ c.names.reserved
  distinct : ∀ {key other x}, Entries.get? key c.helpers.names = some x →
    Entries.get? other c.helpers.names = some x → key = other
  known : ∀ {key x}, Entries.get? (key, .procedure) c.names.known = some x → c.HoldsProcedure x
  procedures : ∀ e ∈ entries, ∀ x, e.procedure? = some x → c.HoldsProcedure x

namespace Kept

variable {start c c' : Context} {entries : List Answered} {e : Answered} (h : Kept start entries c)
include h

theorem not_helper_of_free {x : String} (hx : (c.names.pool .procedure, x) ∉ c.names.used) (key : Key) :
    Entries.get? key c.helpers.names ≠ some x := by
  intro hkey
  exact hx (h.held hkey).1

theorem provided_concat
    (he : ∀ key template x, e.provided? = some (key, template, x) →
      Entries.get? key c.helpers.names = some x) :
    ∀ e' ∈ entries ++ [e], ∀ key template x, e'.provided? = some (key, template, x) →
      Entries.get? key c.helpers.names = some x :=
  List.forall_mem_append.2 ⟨h.provided, List.forall_mem_singleton.2 he⟩

theorem procedures_concat (hmono : ∀ x, c.HoldsProcedure x → c'.HoldsProcedure x)
    (he : ∀ x, e.procedure? = some x → c'.HoldsProcedure x) :
    ∀ e' ∈ entries ++ [e], ∀ x, e'.procedure? = some x → c'.HoldsProcedure x :=
  List.forall_mem_append.2 ⟨fun e' he' x hx => hmono x (h.procedures e' he' x hx),
    List.forall_mem_singleton.2 he⟩

/-- A call that neither provides nor defines anything. -/
theorem other (hprovided : e.provided? = none) (hdefined : e.defined? = none)
    (hgrows : c.names.Extends c'.names) (hhelpers : c'.helpers = c.helpers)
    (hknown : ∀ {key x}, Entries.get? (key, .procedure) c'.names.known = some x →
      c'.HoldsProcedure x)
    (hprocedure : ∀ x, e.procedure? = some x → c'.HoldsProcedure x) :
    Kept start (entries ++ [e]) c' where
  placeholder_eq := by rw [hhelpers, h.placeholder_eq]
  grows := h.grows.trans hgrows
  names_eq := fun key => by rw [hhelpers, firstProvided_of_none hprovided, h.names_eq]
  provided := by
    rw [hhelpers]
    refine h.provided_concat fun key template x hx => ?_
    rw [hprovided] at hx
    cases hx
  keys_eq := by
    have hkey : e.key? = none := by rw [Answered.key?, hprovided, hdefined]; rfl
    rw [hhelpers, h.keys_eq, List.filterMap_append, List.filterMap_cons_none hkey,
      List.filterMap_nil, List.append_nil]
  nodup := by rw [hhelpers]; exact h.nodup
  texts_eq := fun hapart key => by
    rw [hhelpers, firstProvided_of_none hprovided, lastDefined_of_none hdefined,
      h.texts_eq hapart.of_concat]
  held := fun hx => by
    rw [hhelpers] at hx
    rw [hgrows.pool_eq, hgrows.reserved_eq]
    exact ⟨hgrows.used _ (h.held hx).1, (h.held hx).2⟩
  distinct := fun hx hy => by
    rw [hhelpers] at hx hy
    exact h.distinct hx hy
  known := hknown
  procedures := h.procedures_concat (fun _ hx => hx.mono hgrows hhelpers) hprocedure

/-- A call that fails without a trace. -/
theorem refused {call : Call} {fault : Fault} : Kept start (entries ++ [⟨call, .error fault⟩]) c := by
  have hprocedure : ∀ x, (⟨call, .error fault⟩ : Answered).procedure? ≠ some x := by
    intro x hx
    cases call with
    | named name type => cases type <;> cases hx
    | _ => cases hx
  refine h.other ?_ ?_ (.refl _) rfl h.known fun x hx => (hprocedure x hx).elim
  · cases call <;> rfl
  · cases call <;> rfl

theorem named (name : Value) (type : NameType) :
    Kept start (entries ++ [⟨.named name type, ((Call.named name type).answer c).1⟩])
      ((Call.named name type).answer c).2 := by
  rw [Call.answer]
  cases hg : c.names.get name type with
  | error fault => exact h.refused
  | ok result =>
    obtain ⟨g, next⟩ := result
    have hgrows := Allocator.extends_of_get hg
    obtain ⟨key, hkey, hcase⟩ := Allocator.get_eq_ok hg
    -- What is known of procedures afterwards was known before, or is the fresh identifier.
    have hknown : ∀ {other x}, Entries.get? (other, .procedure) next.known = some x →
        Context.HoldsProcedure { c with names := next } x := by
      intro other x hx
      rcases hcase with ⟨-, rfl⟩ | ⟨-, mid, hd, rfl⟩
      · exact h.known hx
      · obtain ⟨-, hfree, rfl⟩ := Allocator.distinct_eq_ok hd
        rw [Entries.get?_put] at hx
        split at hx
        · next he =>
          cases he
          cases hx
          exact ⟨List.mem_cons_self, h.not_helper_of_free (Allocator.isTaken_eq_false.1 hfree).1⟩
        · exact (h.known hx).mono hgrows rfl
    refine h.other rfl rfl hgrows rfl hknown fun x hx => ?_
    cases type with
    | var => cases hx
    | procedure =>
      cases hx
      rw [Allocator.lead, String.empty_append]
      exact hknown (Allocator.get?_known_of_get hkey hg).1

theorem fresh (name label : Value) :
    Kept start (entries ++ [⟨.fresh name label, ((Call.fresh name label).answer c).1⟩])
      ((Call.fresh name label).answer c).2 := by
  obtain ⟨hgrows, hsame, hfresh⟩ := c.names.distinctLabelled_spec name label
  refine h.other rfl rfl hgrows rfl ?_ ?_
  · intro key x hx
    rw [Call.answer] at hx ⊢
    rw [hsame] at hx
    exact (h.known hx).mono hgrows rfl
  · intro x hx
    rw [Call.answer] at hx ⊢
    cases hanswer : (c.names.distinctLabelled name label).1 with
    | error fault =>
      rw [hanswer] at hx
      cases hx
    | ok y =>
      rw [hanswer, Answered.procedure?] at hx
      split at hx
      · next htype =>
        cases hx
        obtain ⟨hfree, hused⟩ := hfresh x hanswer htype
        refine ⟨?_, h.not_helper_of_free hfree⟩
        rw [hgrows.pool_eq]
        exact hused
      · cases hx

/-- A text that is put under its key stands in the place of the first request for that key. -/
theorem keys_put {id : Key} (hkey : e.key? = some id) (text : String) :
    (Entries.put id text c.helpers.texts).map Prod.fst =
        ((entries ++ [e]).filterMap Answered.key?).eraseDups ∧
      ((Entries.put id text c.helpers.texts).map Prod.fst).Nodup := by
  have hmem : id ∈ c.helpers.texts.map Prod.fst ↔ id ∈ entries.filterMap Answered.key? := by
    rw [h.keys_eq, List.mem_eraseDups]
  have hlist : (entries ++ [e]).filterMap Answered.key? =
      entries.filterMap Answered.key? ++ [id] := by
    rw [List.filterMap_append, List.filterMap_cons_some hkey, List.filterMap_nil]
  rw [Entries.keys_put, hlist, eraseDups_concat]
  by_cases hid : id ∈ c.helpers.texts.map Prod.fst
  · rw [if_pos hid, if_pos (hmem.1 hid)]
    exact ⟨h.keys_eq, h.nodup⟩
  · rw [if_neg hid, if_neg (mt hmem.2 hid), h.keys_eq]
    refine ⟨rfl, List.nodup_append.2 ⟨h.keys_eq ▸ h.nodup, by simp, ?_⟩⟩
    rintro a ha b hb rfl
    rw [List.mem_singleton.1 hb, ← h.keys_eq] at ha
    exact hid ha

theorem define (key : Value) (code : String) :
    Kept start (entries ++ [⟨.define key code, ((Call.define key code).answer c).1⟩])
      ((Call.define key code).answer c).2 := by
  rw [Call.answer]
  cases hd : c.define key code with
  | error fault => exact h.refused
  | ok next =>
    obtain ⟨id, hid, hnext⟩ := exists_of_bind hd
    cases hnext
    have hdefined : Answered.defined? ⟨.define key code, .ok ""⟩ = some (id, code) := by
      rw [Answered.defined?, hid]
      rfl
    have hkey : Answered.key? ⟨.define key code, .ok ""⟩ = some id := by
      rw [Answered.key?, hdefined]
      rfl
    obtain ⟨hkeys, hnodup⟩ := h.keys_put hkey code
    refine ⟨h.placeholder_eq, h.grows, ?_, ?_, hkeys, hnodup, ?_, h.held, h.distinct, h.known, ?_⟩
    · intro other
      rw [firstProvided_of_none rfl]
      exact h.names_eq other
    · exact h.provided_concat fun other template x hx => nomatch hx
    · intro hapart other
      have hold := h.texts_eq hapart.of_concat other
      have hlast : lastDefined id (entries ++ [⟨.define key code, .ok ""⟩]) = some code := by
        rw [lastDefined_concat, hdefined, Option.bind_some, if_pos rfl, Option.some_or]
      rw [HelperRegistry.define, Entries.get?_put]
      by_cases ho : id = other
      · -- A key that is defined is not provided, neither before nor here.
        subst ho
        cases hfirst : firstProvided id (entries ++ [⟨.define key code, .ok ""⟩]) with
        | some found => rw [hapart id found hfirst] at hlast; cases hlast
        | none => rw [if_pos rfl, hlast]
      · rw [if_neg ho, firstProvided_of_none rfl, lastDefined_concat, hdefined, Option.bind_some,
          if_neg ho, Option.none_or]
        exact hold
    · exact h.procedures_concat (fun _ hx => hx) fun x hx => nomatch hx

section Provide

variable {key : Value} {id : Key} (hid : key.key = .ok id)
include hid

/-- A helper that is known: the call changes nothing. -/
theorem provide_again {x : String} (hknown : Entries.get? id c.helpers.names = some x)
    (template : List String) : Kept start (entries ++ [⟨.provide key template, .ok x⟩]) c := by
  obtain ⟨found, hfound, rfl⟩ : ∃ found, firstProvided id entries = some found ∧ found.2 = x := by
    rw [h.names_eq, Option.map_eq_some_iff] at hknown
    exact hknown
  have hprovided : Answered.provided? ⟨.provide key template, .ok found.2⟩ =
      some (id, template, found.2) := by
    rw [Answered.provided?, hid]
    rfl
  have hkey : Answered.key? ⟨.provide key template, .ok found.2⟩ = some id := by
    rw [Answered.key?, hprovided]
    rfl
  have hfirst : ∀ other, firstProvided other (entries ++ [⟨.provide key template, .ok found.2⟩]) =
      firstProvided other entries := by
    intro other
    rw [firstProvided_concat, hprovided, Option.bind_some]
    by_cases ho : id = other
    · rw [← ho, hfound, Option.some_or]
    · rw [if_neg ho, Option.or_none]
  refine ⟨h.placeholder_eq, h.grows, ?_, ?_, ?_, h.nodup, ?_, h.held, h.distinct, h.known, ?_⟩
  · intro other
    rw [hfirst]
    exact h.names_eq other
  · refine h.provided_concat fun other t x hx => ?_
    rw [hprovided] at hx
    cases hx
    exact hknown
  · rw [List.filterMap_append, List.filterMap_cons_some hkey, List.filterMap_nil,
      eraseDups_concat, if_pos (key_mem_of_firstProvided hfound)]
    exact h.keys_eq
  · intro hapart other
    rw [hfirst, lastDefined_of_none rfl]
    exact h.texts_eq hapart.of_concat other
  · exact h.procedures_concat (fun _ hy => hy) fun y hy => nomatch hy

/-- A helper that is new: its name is free, so nothing has it yet. -/
theorem provide_first (hnone : Entries.get? id c.helpers.names = none) {g : Allocator.Grant}
    {names : Allocator} (hd : c.names.distinct key .procedure = .ok (g, names))
    (template : List String) :
    Kept start (entries ++ [⟨.provide key template, .ok g.chosen⟩])
      ⟨names, { c.helpers with
        names := Entries.put id g.chosen c.helpers.names
        texts := Entries.put id (c.helpers.instantiate template g.chosen) c.helpers.texts }⟩ := by
  have hprovided : Answered.provided? ⟨.provide key template, .ok g.chosen⟩ =
      some (id, template, g.chosen) := by
    rw [Answered.provided?, hid]
    rfl
  have hkey : Answered.key? ⟨.provide key template, .ok g.chosen⟩ = some id := by
    rw [Answered.key?, hprovided]
    rfl
  have hbefore : firstProvided id entries = none := by
    rw [h.names_eq, Option.map_eq_none_iff] at hnone
    exact hnone
  have hfirst : ∀ other, firstProvided other (entries ++ [⟨.provide key template, .ok g.chosen⟩]) =
      if id = other then some (template, g.chosen) else firstProvided other entries := by
    intro other
    rw [firstProvided_concat, hprovided, Option.bind_some]
    by_cases ho : id = other
    · rw [if_pos ho, if_pos ho, ← ho, hbefore, Option.none_or]
    · rw [if_neg ho, if_neg ho, Option.or_none]
  obtain ⟨hkeys, hnodup⟩ := h.keys_put hkey (c.helpers.instantiate template g.chosen)
  have hgrows := Allocator.extends_of_distinct hd
  obtain ⟨-, hfree, hnames⟩ := Allocator.distinct_eq_ok hd
  rw [Allocator.isTaken_eq_false] at hfree
  -- What is held by another procedure differs from a name that was free.
  have hmono : ∀ y, c.HoldsProcedure y → Context.HoldsProcedure
      ⟨names, { c.helpers with
        names := Entries.put id g.chosen c.helpers.names
        texts := Entries.put id (c.helpers.instantiate template g.chosen) c.helpers.texts }⟩ y := by
    intro y hy
    refine ⟨by rw [hgrows.pool_eq]; exact hgrows.used _ hy.1, fun other => ?_⟩
    rw [Entries.get?_put]
    split
    · intro he
      cases he
      exact hfree.1 hy.1
    · exact hy.2 other
  refine ⟨h.placeholder_eq, h.grows.trans hgrows, ?_, ?_, hkeys, hnodup, ?_, ?_, ?_, ?_, ?_⟩
  · intro other
    rw [Entries.get?_put, hfirst, apply_ite (Option.map Prod.snd), ← h.names_eq]
    rfl
  · intro e' he' other t x hx
    rw [Entries.get?_put]
    rcases List.mem_append.1 he' with he' | he'
    · have hold := h.provided e' he' other t x hx
      split
      · next ho => rw [← ho, hnone] at hold; cases hold
      · exact hold
    · rw [List.mem_singleton.1 he', hprovided] at hx
      cases hx
      rw [if_pos rfl]
  · intro hapart other
    have hold := h.texts_eq hapart.of_concat other
    rw [Entries.get?_put, hfirst, lastDefined_of_none rfl]
    split
    · rw [HelperRegistry.instantiate, h.placeholder_eq]
      rfl
    · exact hold
  · intro other x hx
    rw [Entries.get?_put] at hx
    rw [hgrows.pool_eq, hgrows.reserved_eq]
    split at hx
    · cases hx
      rw [hnames]
      exact ⟨List.mem_cons_self, hfree.2⟩
    · exact ⟨hgrows.used _ (h.held hx).1, (h.held hx).2⟩
  · intro one other x hone hother
    rw [Entries.get?_put] at hone hother
    split at hone <;> split at hother
    · next h1 h2 => exact h1.symm.trans h2
    · cases hone
      exact (h.not_helper_of_free hfree.1 other hother).elim
    · cases hother
      exact (h.not_helper_of_free hfree.1 one hone).elim
    · exact h.distinct hone hother
  · intro other x hx
    rw [hnames] at hx
    exact hmono x (h.known hx)
  · refine h.procedures_concat hmono fun y hy => ?_
    cases hy

end Provide

theorem provide (key : Value) (template : List String) :
    Kept start (entries ++ [⟨.provide key template, ((Call.provide key template).answer c).1⟩])
      ((Call.provide key template).answer c).2 := by
  rw [Call.answer]
  cases hp : c.provide key template with
  | error fault => exact h.refused
  | ok result =>
    obtain ⟨x, records, next⟩ := result
    obtain ⟨id, hid, ⟨hknown, rfl⟩ | ⟨hnone, g, names, hd, rfl, rfl⟩⟩ := Context.provide_eq_ok hp
    · exact h.provide_again hid hknown template
    · exact h.provide_first hid hnone hd template

/-- Every call keeps what the calls say about the context. -/
theorem next (call : Call) :
    Kept start (entries ++ [⟨call, (call.answer c).1⟩]) (call.answer c).2 := by
  cases call with
  | provide key template => exact h.provide key template
  | define key code => exact h.define key code
  | named name type => exact h.named name type
  | fresh name label => exact h.fresh name label

end Kept

theorem kept_start (start : Context) (hk : start.names.known = []) (ht : start.helpers.texts = [])
    (hn : start.helpers.names = []) : Kept start [] start where
  placeholder_eq := rfl
  grows := .refl _
  names_eq := fun key => by rw [hn]; rfl
  provided := fun _ he => nomatch he
  keys_eq := by rw [ht]; rfl
  nodup := by rw [ht]; exact List.nodup_nil
  texts_eq := fun _ key => by rw [ht]; rfl
  held := fun hx => by rw [hn] at hx; cases hx
  distinct := fun hx => by rw [hn] at hx; cases hx
  known := fun hx => by rw [hk] at hx; cases hx
  procedures := fun _ he => nomatch he

/-- A helper that was provided is provided again under the same name. -/
def Answered.Repeats (earlier later : Answered) : Prop :=
  ∀ id template x, earlier.provided? = some (id, template, x) →
    ∀ key other, later.call = .provide key other → key.key = .ok id → later.answer = .ok x

theorem Kept.repeats {start c : Context} {entries : List Answered} (h : Kept start entries c)
    (call : Call) : ∀ e ∈ entries, e.Repeats ⟨call, (call.answer c).1⟩ := by
  rintro e he id template x hx key other rfl hid
  have hknown := h.provided e he id template x hx
  change (Call.answer c (.provide key other)).1 = .ok x
  rw [Call.answer, Context.provide_of_known hid hknown]

/-- What a ledger says about its run. -/
structure Recorded (start : Context) (l : Ledger) : Prop where
  kept : ∃ c, l.run.context = some c ∧ Kept start l.entries c
  repeats : l.entries.Pairwise Answered.Repeats

theorem Recorded.next {s : Setting} {start : Context} {l : Ledger} (h : Recorded start l)
    (call : Call) : Recorded start (l.next s call) := by
  obtain ⟨c, hc, hkept⟩ := h.kept
  obtain ⟨hanswer, hcontext⟩ := call.exec_perform (s := s) hc
  unfold Ledger.next
  rw [hanswer]
  refine ⟨⟨_, hcontext, hkept.next call⟩, List.pairwise_append.2 ⟨h.repeats, ?_, ?_⟩⟩
  · exact List.pairwise_singleton _ _
  · intro e he e' he'
    rw [List.mem_singleton.1 he']
    exact hkept.repeats call e he

theorem recorded_ledger (s : Setting) {start : Context} (hk : start.names.known = [])
    (ht : start.helpers.texts = []) (hn : start.helpers.names = []) (calls : List Call) :
    Recorded start (ledger s start calls) := by
  have hstart : Recorded start ⟨[], { context := some start }⟩ :=
    ⟨⟨start, rfl, kept_start start hk ht hn⟩, List.Pairwise.nil⟩
  unfold ledger
  generalize (⟨[], { context := some start }⟩ : Ledger) = l at hstart ⊢
  induction calls generalizing l with
  | nil => exact hstart
  | cons call calls ih => exact ih _ (hstart.next call)

/-- No key is asked for in both ways. -/
def Call.Separate (calls : List Call) : Prop :=
  ∀ key template other code id, .provide key template ∈ calls → .define other code ∈ calls →
    key.key = .ok id → other.key ≠ .ok id

theorem ledger_calls (s : Setting) (start : Context) (calls : List Call) :
    (ledger s start calls).entries.map Answered.call = calls := by
  have hnext : ∀ (calls : List Call) (l : Ledger),
      (calls.foldl (Ledger.next s) l).entries.map Answered.call =
        l.entries.map Answered.call ++ calls := by
    intro calls
    induction calls with
    | nil => intro l; rw [List.append_nil]; rfl
    | cons call calls ih =>
      intro l
      rw [List.foldl_cons, ih, Ledger.next, List.map_append, List.append_assoc]
      rfl
  exact hnext calls _

theorem Answered.provided?_eq_some {e : Answered} {id : Key} {template : List String} {x : String}
    (h : e.provided? = some (id, template, x)) :
    ∃ key, e.call = .provide key template ∧ key.key = .ok id := by
  unfold provided? at h
  split at h
  · next key template' y =>
    cases hid : key.key with
    | error fault => rw [hid] at h; cases h
    | ok id' =>
      rw [hid] at h
      cases h
      exact ⟨key, rfl, hid⟩
  · cases h

theorem Answered.defined?_eq_some {e : Answered} {id : Key} {code : String}
    (h : e.defined? = some (id, code)) : ∃ key, e.call = .define key code ∧ key.key = .ok id := by
  unfold defined? at h
  split at h
  · next key code' y =>
    cases hid : key.key with
    | error fault => rw [hid] at h; cases h
    | ok id' =>
      rw [hid] at h
      cases h
      exact ⟨key, rfl, hid⟩
  · cases h

theorem apart_of_separate {entries : List Answered}
    (h : Call.Separate (entries.map Answered.call)) : Apart entries := by
  intro id found hfound
  rw [lastDefined, List.findSome?_eq_none_iff]
  intro e he
  obtain ⟨e', he', hfound⟩ := List.exists_of_findSome?_eq_some hfound
  obtain ⟨⟨id', template, x⟩, hprovided, hid'⟩ := Option.bind_eq_some_iff.1 hfound
  obtain ⟨key, hcall, hkey⟩ := Answered.provided?_eq_some hprovided
  cases hdefined : e.defined? with
  | none => rfl
  | some result =>
    obtain ⟨other, code⟩ := result
    obtain ⟨key', hcall', hkey'⟩ := Answered.defined?_eq_some hdefined
    rw [Option.bind_some]
    refine if_neg ?_
    rintro rfl
    split at hid'
    · next hsame =>
      subst hsame
      refine h key template key' code _ ?_ ?_ hkey hkey'
      · exact List.mem_map.2 ⟨e', he', hcall⟩
      · exact List.mem_map.2 ⟨e, List.mem_reverse.1 he, hcall'⟩
    · cases hid'

section Definitions

variable {start c : Context} {entries : List Answered}

/-- A text stands for what was asked of its key: the template of the first request, or the code of
the last definition. -/
theorem Kept.text (h : Kept start entries c) (hapart : Apart entries) {key : Key} {text : String}
    (hmem : (key, text) ∈ c.helpers.texts) :
    match firstProvided key entries with
    | some (template, x) =>
      Text.IsReplaced ("\n".intercalate template) start.helpers.placeholder x text
    | none => lastDefined key entries = some text := by
  have htext := h.texts_eq hapart key
  rw [Entries.get?_of_mem h.nodup hmem] at htext
  cases hfirst : firstProvided key entries with
  | none =>
    rw [hfirst] at htext
    exact htext.symm
  | some found =>
    rw [hfirst, Option.some.injEq] at htext
    exact Text.isReplaced_iff.2 htext

/-- The name of a helper is not reserved, and nothing else in the run has it. -/
theorem Kept.name (h : Kept start entries c) {key : Key} {template : List String} {x : String}
    (hfirst : firstProvided key entries = some (template, x)) :
    x ∉ start.names.reserved ∧
      (∀ other found, firstProvided other entries = some found → key ≠ other → x ≠ found.2) ∧
      ∀ e ∈ entries, e.procedure? ≠ some x := by
  have hname : Entries.get? key c.helpers.names = some x := by rw [h.names_eq, hfirst]; rfl
  refine ⟨?_, ?_, ?_⟩
  · rw [← h.grows.reserved_eq]
    exact (h.held hname).2
  · rintro other found hother hne rfl
    exact hne (h.distinct hname (by rw [h.names_eq, hother]; rfl))
  · intro e he hx
    exact (h.procedures e he x hx).2 key hname

end Definitions

/-- A helper that is refused leaves no trace. -/
theorem Gen.exec_provide_of_error {s : Setting} {r : Run} {key : Value} {template : List String}
    {fault : Fault} (h : (exec (provide key template) s r).1 = .error fault) :
    (exec (provide key template) s r).2 = r := by
  rw [provide, exec_step] at h ⊢
  cases hr : r.context with
  | none => rfl
  | some c =>
    rw [hr] at h
    dsimp only at h ⊢
    cases hp : c.provide key template with
    | error fault => rfl
    | ok result => rw [hp] at h; cases h

/-- Whatever is asked of a fresh context, and whether it is answered or refused: a helper keeps the
name of its first successful request; there is one definition for each key that was provided or
defined, in the order of the first successful requests; the definition of a helper is its first
template with every placeholder, from the left, replaced by its name, and any other definition is
the code that was given last; the name of a helper is neither reserved nor that of another helper or
of a procedure; and a helper that is refused changes nothing. -/
theorem ledger_keeps_helpers (s : Setting) (names : Allocator) (helpers : HelperRegistry)
    (calls : List Call) (hseparate : Call.Separate calls) :
    let l := ledger s ⟨names.reset, helpers.reset⟩ calls
    l.entries.Pairwise Answered.Repeats ∧
    (∃ texts : List (Key × String),
      (Gen.exec Gen.definitions s l.run).1 = .ok (texts.map Prod.snd) ∧
      texts.map Prod.fst = (l.entries.filterMap Answered.key?).eraseDups ∧
      ∀ key text, (key, text) ∈ texts →
        match firstProvided key l.entries with
        | some (template, x) =>
          Text.IsReplaced ("\n".intercalate template) helpers.placeholder x text
        | none => lastDefined key l.entries = some text) ∧
    (∀ key template x, firstProvided key l.entries = some (template, x) →
      x ∉ names.reserved ∧
      (∀ other found, firstProvided other l.entries = some found → key ≠ other → x ≠ found.2) ∧
      ∀ e ∈ l.entries, e.procedure? ≠ some x) ∧
    ∀ r key template fault, (Gen.exec (Gen.provide key template) s r).1 = .error fault →
      (Gen.exec (Gen.provide key template) s r).2 = r := by
  intro l
  obtain ⟨⟨c, hc, hkept⟩, hrepeats⟩ : Recorded ⟨names.reset, helpers.reset⟩ l :=
    recorded_ledger s rfl rfl rfl calls
  have hapart : Apart l.entries :=
    apart_of_separate ((ledger_calls s ⟨names.reset, helpers.reset⟩ calls).symm ▸ hseparate)
  refine ⟨hrepeats, ⟨c.helpers.texts, ?_, hkept.keys_eq, ?_⟩, ?_, ?_⟩
  · rw [Gen.definitions, Gen.exec_bind, Gen.exec_context, hc]
    rfl
  · intro key text hmem
    exact hkept.text hapart hmem
  · intro key template x hfirst
    exact hkept.name hfirst
  · intro r key template fault hfault
    exact Gen.exec_provide_of_error hfault

/-- A helper that is asked for twice, between a procedure that wants its name, a definition that is
given twice and a request that is refused. -/
def swapCalls : List Call :=
  [.named "swap" .procedure, .provide "swap" ["SUB %name%", "END"], .define "main" "RUN",
    .provide (.list []) ["SUB %name%"], .provide "swap" ["REM"], .define "main" "STOP"]

theorem swapCalls_separate : Call.Separate swapCalls := by
  intro key template other code id hprovide hdefine hid hother
  simp only [swapCalls, List.mem_cons, reduceCtorEq, Call.provide.injEq, Call.define.injEq,
    List.not_mem_nil, or_false, false_or] at hprovide hdefine
  rcases hprovide with ⟨rfl, -⟩ | ⟨rfl, -⟩ | ⟨rfl, -⟩ <;> rcases hdefine with ⟨rfl, -⟩ | ⟨rfl, -⟩ <;>
    cases hid <;> simp [Value.key] at hother

def swapLedger : Ledger :=
  ledger ⟨Dialect.divConventions, {}⟩ ⟨{}, { placeholder := "%name%" }⟩ swapCalls

theorem swapCalls_keep_helpers :
    Call.Separate swapCalls ∧ swapLedger.entries.Pairwise Answered.Repeats ∧
      (Gen.exec Gen.definitions ⟨Dialect.divConventions, {}⟩ swapLedger.run).1 =
        .ok ["SUB swap2\nEND", "STOP"] := by
  refine ⟨swapCalls_separate, ?_, ?_⟩
  · exact (ledger_keeps_helpers ⟨Dialect.divConventions, {}⟩ {} { placeholder := "%name%" } swapCalls
      swapCalls_separate).1
  · rfl

end BlockCode
