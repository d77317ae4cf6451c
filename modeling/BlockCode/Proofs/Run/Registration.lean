import BlockCode.Proofs.Block.Document
import BlockCode.Proofs.Name.Growth
import BlockCode.Proofs.Run.Spelling
import BlockCode.Proofs.Run.Trees

namespace BlockCode

namespace Allocator

variable {a b c next : Allocator} {name : Value} {type : NameType} {g : Grant} {i : String}

/-- Gives all names identifiers of variables, one after the other. -/
def register (a : Allocator) : List Value → Except Fault Allocator
  | [] => .ok a
  | name :: rest => do
    let (_, next) ← a.get name .var
    next.register rest

/-- The name has the identifier, which is in use. -/
def Registers (a : Allocator) (name : Value) (i : String) : Prop :=
  ∃ key chosen, name.key = .ok key ∧ Entries.get? (key, .var) a.known = some chosen ∧
    i = a.lead .var ++ chosen ∧ (a.pool .var, chosen) ∈ a.used

theorem Registers.mono (hi : a.Registers name i) (h : a.Extends b) : b.Registers name i := by
  obtain ⟨key, chosen, hkey, hknown, rfl, hused⟩ := hi
  refine ⟨key, chosen, hkey, h.known hknown, by rw [h.lead_eq], ?_⟩
  rw [h.pool_eq]
  exact h.used _ hused

theorem registers_of_get (ha : a.Accounts) (h : a.get name .var = .ok (g, next)) :
    next.Registers name (a.lead .var ++ g.chosen) := by
  obtain ⟨key, hkey, -⟩ := get_eq_ok h
  refine ⟨key, g.chosen, hkey, (get?_known_of_get hkey h).1, ?_, mem_used_of_get ha h⟩
  rw [(extends_of_get h).lead_eq]

theorem get_of_registers (hi : a.Registers name i) :
    ∃ chosen, i = a.lead .var ++ chosen ∧ a.get name .var = .ok (⟨chosen, chosen⟩, a) := by
  obtain ⟨key, chosen, hkey, hknown, rfl, -⟩ := hi
  exact ⟨chosen, rfl, get_of_known hkey hknown⟩

/-- Behind the first allocator, no variable with a name of its own has got or lost an identifier. -/
structure Settles (a b : Allocator) : Prop where
  grows : a.Extends b
  known_eq : ∀ x, x ≠ "" →
    Entries.get? (.text x, .var) b.known = Entries.get? (.text x, .var) a.known

namespace Settles

theorem refl (a : Allocator) : a.Settles a :=
  ⟨.refl a, fun _ _ => rfl⟩

theorem distinct (h : a.Settles b) (hd : b.distinct name type = .ok (g, next)) :
    a.Settles next := by
  refine ⟨h.grows.trans (extends_of_distinct hd), ?_⟩
  obtain ⟨-, -, rfl⟩ := distinct_eq_ok hd
  exact h.known_eq

/-- Only a variable that has an identifier may be asked for. -/
theorem get (h : a.Settles b)
    (hname : type = .var → ∀ x, name = .text x → x ≠ "" → ∃ i, a.Registers (.text x) i)
    (hg : b.get name type = .ok (g, next)) : a.Settles next := by
  refine ⟨h.grows.trans (extends_of_get hg), fun x hx => ?_⟩
  obtain ⟨key, hkey, ⟨-, rfl⟩ | ⟨hnone, mid, hd, rfl⟩⟩ := get_eq_ok hg
  · exact h.known_eq x hx
  rw [Entries.get?_put]
  split
  · next he =>
    -- A new identifier for a name that has one would change it.
    cases he
    obtain rfl := Value.eq_text_of_key hkey
    obtain ⟨i, hi⟩ := hname rfl x rfl hx
    obtain ⟨_, chosen, hkey', hknown, -⟩ := hi.mono h.grows
    cases hkey'
    rw [hnone] at hknown
    cases hknown
  · exact (h.distinct hd).known_eq x hx

end Settles

end Allocator

namespace Context

variable {a : Allocator} {c c' : Context} {key : Value}

theorem names_define {code : String} (h : c.define key code = .ok c') : c'.names = c.names := by
  obtain ⟨id, -, h⟩ := exists_of_bind h
  cases h
  rfl

theorem settles_helperName (hc : a.Settles c.names) {x : HelperName × List LogRecord × Context}
    (h : c.helperName key = .ok x) : a.Settles x.2.2.names := by
  obtain ⟨id, -, ⟨-, -, hsame⟩ | ⟨-, g, names, hd, -, hnext⟩⟩ := helperName_eq_ok h
  · rw [hsame]
    exact hc
  · rw [hnext]
    exact hc.distinct hd

theorem settles_provide (hc : a.Settles c.names) {template : List String}
    {x : String × List LogRecord × Context} (h : c.provide key template = .ok x) :
    a.Settles x.2.2.names := by
  obtain ⟨result, hn, h⟩ := exists_of_bind h
  have hnext := settles_helperName hc hn
  dsimp only at h
  split at h
  · obtain ⟨next, hd, h⟩ := exists_of_bind h
    cases h
    dsimp only
    rw [names_define hd]
    exact hnext
  · cases h
    exact hnext

end Context

/-- The identifier that a variable has once all names are registered, and nothing else is. -/
def Setting.identifierOf (s : Setting) (names : List Value) (x : String) : Except Fault String := do
  let a ← s.newContext.names.register names
  let (grant, _) ← a.get (.text x) .var
  return a.lead .var ++ grant.chosen

namespace Gen

variable {s : Setting}

/-- A request of which something is known before and after. -/
theorem step_keeps {α : Type} {I : Context → Prop}
    {f : Context → Except Fault (α × List LogRecord × Context)}
    (hf : ∀ c, I c → ∀ x, f c = .ok x → I x.2.2) :
    Relates (fun r q => r = q ∧ ∃ c, r.context = some c ∧ I c) (fun f g => f = g ∧ True) Eq s s
      (step f) (step f) := by
  refine (Relates.same (Q := fun _ => True) fun r hr => ⟨?_, fun _ _ => trivial, fun _ _ => trivial⟩).imp
    fun _ _ hab => hab.1
  obtain ⟨c, hc, hI⟩ := hr
  rw [exec_step, hc]
  dsimp only
  cases hx : f c with
  | error fault => exact ⟨c, hc, hI⟩
  | ok result => exact ⟨result.2.2, rfl, hf c hI result hx⟩

/-- Registering the names of a workspace, as a run does at its start. -/
theorem exec_register (names : List Value) {r q : Run} {c : Context} {declared : List String}
    (hr : r.context = some c) (hc : c.names.Accounts)
    (h : exec (names.mapM variableName) s r = (.ok declared, q)) :
    ∃ a, c.names.register names = .ok a ∧ q.context = some { c with names := a } ∧
      c.names.Extends a ∧ List.Forall₂ a.Registers names declared := by
  induction names generalizing r c declared with
  | nil =>
    cases h
    exact ⟨c.names, rfl, hr, .refl _, .nil⟩
  | cons name rest ih =>
    rw [List.mapM_cons, exec_bind, variableName, exec_nameOf hr] at h
    cases hg : c.names.get name .var with
    | error fault => simp [hg] at h
    | ok result =>
      obtain ⟨g, next⟩ := result
      simp only [hg, exec_bind] at h
      rcases hx : exec (rest.mapM variableName) s
        { r with context := some { c with names := next }, log := r.log ++ g.records } with
        ⟨fault | more, q'⟩ <;> simp only [hx] at h
      · cases h
      · cases h
        obtain ⟨a, ha, hq, hgrows, hmore⟩ := ih rfl (hc.get hg) hx
        refine ⟨a, ?_, hq, (Allocator.extends_of_get hg).trans hgrows, .cons ?_ hmore⟩
        · simp only [Allocator.register, hg, bind, Except.bind]
          exact ha
        · exact (Allocator.registers_of_get hc hg).mono hgrows

/-- What holds of a request once the names are registered: a variable with a name of its own is one
of the names and has the identifier that was settled for it, and a temporary is none of these. -/
def Request.IsSettled (s : Setting) (names : List Value) (declared : List String) : Request → Prop
  | .named (.text x) answer => x ≠ "" → ∃ i, (.text x, i) ∈ names.zip declared ∧ answer = .ok i ∧
      s.identifierOf names x = .ok i
  | .temporary _ (.ok i) => i ∉ declared
  | _ => True

end Gen

theorem mem_zip_of_forall₂ {α β : Type} {R : α → β → Prop} {l : List α} {m : List β}
    (h : List.Forall₂ R l m) {a : α} (ha : a ∈ l) : ∃ b, (a, b) ∈ l.zip m ∧ R a b := by
  induction h with
  | nil => cases ha
  | @cons a' b' l m hab _ ih =>
    rcases List.mem_cons.1 ha with rfl | ha
    · exact ⟨b', List.mem_cons_self, hab⟩
    · obtain ⟨b, hmem, hb⟩ := ih ha
      exact ⟨b, List.mem_cons_of_mem _ hmem, hb⟩

/-- A run whose names are registered, with the allocator as it was then. -/
structure Registered (s : Setting) (names : List Value) (declared : List String) (a : Allocator) :
    Prop where
  register : s.newContext.names.register names = .ok a
  registers : List.Forall₂ a.Registers names declared

namespace Registered

variable {s : Setting} {names : List Value} {declared : List String} {a : Allocator}
  (h : Registered s names declared a)
include h

theorem settled_named {c : Context} (hc : a.Settles c.names) {r : Run} (hr : r.context = some c)
    {name : Value} (hname : ∀ x, name = .text x → x ≠ "" → .text x ∈ names) :
    (Gen.Request.named name (Gen.exec (Gen.variableName name) s r).1).IsSettled s names
      declared := by
  cases name with
  | text x =>
    intro hx
    obtain ⟨i, hmem, hi⟩ := mem_zip_of_forall₂ h.registers (hname x rfl hx)
    refine ⟨i, hmem, ?_, ?_⟩
    · obtain ⟨chosen, rfl, hget⟩ := Allocator.get_of_registers (hi.mono hc.grows)
      rw [Gen.variableName, Gen.exec_nameOf hr, hget]
    · obtain ⟨chosen, rfl, hget⟩ := Allocator.get_of_registers hi
      simp only [Setting.identifierOf, h.register, hget, bind, Except.bind, pure, Except.pure]
  | _ => trivial

theorem settled_temporary {c : Context} (hc : a.Settles c.names) {r : Run}
    (hr : r.context = some c) (name : Value) :
    (Gen.Request.temporary name (Gen.exec (Gen.temporary name) s r).1).IsSettled s names
      declared := by
  rw [Gen.exec_temporary hr]
  cases hd : c.names.distinct name .var with
  | error fault => trivial
  | ok result =>
    intro hmem
    obtain ⟨other, hzip, hi⟩ := mem_zip_of_forall₂ h.registers.flip hmem
    obtain ⟨key, chosen, -, -, hlead, hused⟩ := hi
    obtain ⟨-, hfree, -⟩ := Allocator.distinct_eq_ok hd
    rw [hc.grows.lead_eq, String.append_right_inj] at hlead
    rw [Allocator.isTaken_eq_false, hc.grows.pool_eq, hlead] at hfree
    exact hfree.1 (hc.grows.used _ hused)

/-- Only registered variables are asked for, and then nothing happens to them. -/
def watch : Watch s where
  run := fun r => ∃ c, r.context = some c ∧ a.Settles c.names
  fault := fun _ => True
  request := some (·.IsSettled s names declared)
  asks := fun name => ∀ x, name = .text x → x ≠ "" → .text x ∈ names
  fault_of_fits := fun _ => trivial
  nameOf := by
    intro type name hname
    have hregistered : type = .var → ∀ x, name = .text x → x ≠ "" → ∃ i, a.Registers (.text x) i := by
      intro htype x hx hne
      obtain ⟨i, -, hi⟩ := mem_zip_of_forall₂ h.registers (hname htype x hx hne)
      exact ⟨i, hi⟩
    refine ⟨Gen.step_keeps fun c hc x hx => ?_, ?_⟩
    · obtain ⟨result, hg, hx⟩ := exists_of_bind hx
      cases hx
      exact hc.get hregistered hg
    · rintro _ ⟨⟩ r _ ⟨rfl, c, hr, hc⟩
      cases type with
      | procedure => exact (Gen.Asks.procedureName name r).silent
      | var =>
        refine ⟨_, .named name r, ?_⟩
        rw [List.forall_mem_singleton]
        exact h.settled_named hc hr (hname rfl)
  temporary := by
    intro name
    refine ⟨Gen.step_keeps fun c hc x hx => ?_, ?_⟩
    · obtain ⟨result, hd, hx⟩ := exists_of_bind hx
      cases hx
      exact hc.distinct hd
    · rintro _ ⟨⟩ r _ ⟨rfl, c, hr, hc⟩
      refine ⟨_, .temporary name r, ?_⟩
      rw [List.forall_mem_singleton]
      exact h.settled_temporary hc hr name
  provide := by
    intro key template
    refine ⟨Gen.step_keeps fun c hc x hx => Context.settles_provide hc hx, ?_⟩
    exact fun _ _ r _ _ => (Gen.Asks.provide key template r).silent
  define := by
    intro key code
    refine ⟨Gen.step_keeps fun c hc x hx => ?_, fun _ _ r _ _ => (Gen.Asks.define key code r).silent⟩
    obtain ⟨next, hd, hx⟩ := exists_of_bind hx
    cases hx
    dsimp only
    rw [Context.names_define hd]
    exact hc

end Registered

namespace Workspace

/-- The workspace holds every variable that its blocks refer to. -/
def Covers (ws : Workspace) : Prop :=
  ∀ q ∈ ws.blocks, ∃ names, q.block.head.variableNames = .ok names ∧
    ∀ x ∈ names, .text x ∈ ws.variableNames

/-- The ways to make a workspace from blocks. -/
def IsBuilt (ws : Workspace) : Prop :=
  (∃ blocks, Workspace.ofBlocks blocks = .ok ws) ∨
    ∃ drafts listed n next, Snapshot.build drafts listed n = (.ok ws, next)

/-- A workspace that is read from a document is made from its drafts. -/
theorem isBuilt_of_load {document : Value} {n next : Nat} {ws : Workspace}
    (h : Snapshot.load document n = (.ok ws, next)) : ws.IsBuilt := by
  obtain ⟨drafts, listed, -, hbuild⟩ := Snapshot.load_eq_ok h
  exact .inr ⟨drafts, listed, n, next, hbuild⟩

/-- The variables that are found in blocks are those that the blocks refer to. -/
theorem covers_of_variablesOf {top : List Block} {found : List String}
    (h : variablesOf top = .ok found) {names : List Value} (hnames : ∀ x ∈ found, .text x ∈ names) :
    Covers { top, variableNames := names } := by
  obtain ⟨lists, hlists, h⟩ := exists_of_bind h
  cases h
  intro q hq
  obtain ⟨list, hmem, hlist⟩ := mem_zip_of_forall₂ (forall₂_of_mapM hlists) hq
  refine ⟨list, hlist, fun x hx => hnames x ?_⟩
  exact List.mem_eraseDups.2 (List.mem_flatten.2 ⟨list, (List.of_mem_zip hmem).2, hx⟩)

theorem IsBuilt.covers {ws : Workspace} (h : ws.IsBuilt) : ws.Covers := by
  rcases h with ⟨blocks, h⟩ | ⟨drafts, listed, n, next, h⟩
  · obtain ⟨found, hfound, h⟩ := exists_of_bind h
    cases h
    exact covers_of_variablesOf hfound fun x hx => List.mem_map_of_mem hx
  · obtain ⟨found, -, hfound, hnames⟩ := Snapshot.build_eq_ok h
    refine covers_of_variablesOf hfound fun x hx => ?_
    rw [hnames]
    refine List.mem_map_of_mem ?_
    rw [Snapshot.joinVariables, List.mem_append, List.mem_filter]
    by_cases hgiven : x ∈ listed.getD []
    · exact .inl hgiven
    · exact .inr ⟨hx, by simpa using hgiven⟩

end Workspace

/-- What a block of a covered workspace may ask for. -/
theorem Registered.admits {s : Setting} {ws : Workspace} {declared : List String} {a : Allocator}
    {rules : Rulebook} (h : Registered s ws.variableNames declared a) (hws : ws.Covers)
    {q : Block.Placed} (hq : q ∈ ws.blocks) : h.watch.pairing.Admits rules q.block := by
  obtain ⟨names, hnames, hcovered⟩ := hws q hq
  obtain ⟨var, hvar, hrest⟩ := exists_of_bind hnames
  obtain ⟨arguments, harguments, hlist⟩ := exists_of_bind hrest
  cases hlist
  refine ⟨?_, ?_, .inl fun _ => ⟨rfl, trivial⟩⟩
  · rintro name hname x rfl hx
    cases hvar.symm.trans hname
    refine hcovered x (List.mem_append_left _ ?_)
    have hset : (Value.text x).isSet = true := by simpa [Value.isSet] using hx
    rw [if_pos hset]
    exact List.mem_singleton.2 rfl
  · rintro list hlist name hname _ ⟨⟩ -
    cases harguments.symm.trans hlist
    exact hcovered name (List.mem_append_right _ hname)

namespace Generator

/-- Once a run has started, every variable with a name of its own that a rule asks for, at whatever
depth, is one of the workspace's, and the answer is the identifier declared for it at the start, which
the setting and the variables of the workspace determine. No temporary is one of the declared
identifiers, and after the run every such name has the identifier that it had at the start. -/
theorem variables_registered_first (language : Language) (config : Config) (ws : Workspace)
    (hws : ws.IsBuilt) (earlier started : Run)
    (hstart : Gen.exec (Gen.start ws) (setting ⟨language.dialect, config⟩) earlier =
      (.ok (), started)) :
    (∃ asked,
      Gen.Asks (setting ⟨language.dialect, config⟩)
        (ws.top.mapM (Gen.topCode language.dialect.rules)) started asked ∧
      ∀ request ∈ asked, request.IsSettled (setting ⟨language.dialect, config⟩) ws.variableNames
        started.declared) ∧
      ∀ x, x ≠ "" →
        (Gen.exec (ws.top.mapM (Gen.topCode language.dialect.rules))
          (setting ⟨language.dialect, config⟩) started).2.spelling? x = started.spelling? x := by
  let s := setting ⟨language.dialect, config⟩
  obtain ⟨declared, run, hnames, rfl⟩ : ∃ declared run,
      Gen.exec (ws.variableNames.mapM Gen.variableName) s
        { earlier with context := some s.newContext } = (.ok declared, run) ∧
      started = { run with declared } := by
    rw [Gen.exec_start] at hstart
    rcases hx : Gen.exec (ws.variableNames.mapM Gen.variableName) s
      { earlier with context := some s.newContext } with ⟨fault | declared, run⟩ <;>
      simp only [s, hx] at hstart
    · cases hstart
    · cases hstart
      exact ⟨declared, run, rfl, rfl⟩
  obtain ⟨a, hregister, hcontext, -, hregisters⟩ :=
    Gen.exec_register ws.variableNames rfl (Allocator.accounts_of_unknown rfl) hnames
  have hreg : Registered s ws.variableNames declared a := ⟨hregister, hregisters⟩
  have hrules : language.dialect.rules.Pairs true := Rulebook.dialect_pairs fun _ => rfl
  have hadmits : ∀ q ∈ ws.blocks, hreg.watch.pairing.Admits language.dialect.rules q.block :=
    fun q hq => hreg.admits hws.covers hq
  have hparts := Workspace.topCodes_pairs (hreg.watch.even true) hrules hadmits
  have hrun : hreg.watch.pairing.runs { run with declared } { run with declared } :=
    ⟨rfl, { s.newContext with names := a }, hcontext, .refl a⟩
  refine ⟨hparts.asks _ rfl _ _ hrun, fun x hx => ?_⟩
  obtain ⟨-, c, hc, hsettles⟩ := (hparts.relates _ _ hrun).2
  rw [Run.spelling?, Run.spelling?, hc, hcontext]
  exact hsettles.known_eq x hx

/-- A program that counts by a variable up to a sum, so that temporaries are needed as well. -/
def countingProgram : Workspace :=
  { top := [.mk { kind := "controls_for", fields := .map [("VAR", "i")], id := "a" }
      [("TO", some (.mk { kind := "variables_get", fields := .map [("VAR", "n")], id := "b" } [] []
        none))] [] none]
    variableNames := [.text "i", .text "n"] }

theorem countingProgram_registered :
    countingProgram.IsBuilt ∧
      ∃ asked,
        Gen.Asks (setting ⟨Language.divGames.dialect, {}⟩)
          (countingProgram.top.mapM (Gen.topCode Language.divGames.dialect.rules))
          (Gen.exec (Gen.start countingProgram) (setting ⟨Language.divGames.dialect, {}⟩) {}).2 asked ∧
        ∀ request ∈ asked, request.IsSettled (setting ⟨Language.divGames.dialect, {}⟩)
          [.text "i", .text "n"] ["i", "n"] := by
  have hbuilt : countingProgram.IsBuilt := .inl ⟨countingProgram.top, rfl⟩
  exact ⟨hbuilt, (variables_registered_first .divGames {} countingProgram hbuilt {} _ rfl).1⟩

end Generator

end BlockCode
