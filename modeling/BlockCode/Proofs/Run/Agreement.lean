import BlockCode.Generation.Program
import Mathlib.Data.List.Forall2
import Mathlib.Data.Option.Basic

namespace BlockCode

section Except

variable {α β : Type}

theorem exists_of_bind {x : Except Fault α} {f : α → Except Fault β} {b : β}
    (h : x >>= f = .ok b) : ∃ a, x = .ok a ∧ f a = .ok b := by
  cases x with
  | error fault => cases h
  | ok a => exact ⟨a, rfl, h⟩

theorem forall₂_of_mapM {f : α → Except Fault β} :
    ∀ {l : List α} {m : List β}, l.mapM f = .ok m → List.Forall₂ (fun a b => f a = .ok b) l m
  | [], _, h => by
    cases h
    exact .nil
  | a :: l, m, h => by
    rw [List.mapM_cons] at h
    obtain ⟨b, hb, h⟩ := exists_of_bind h
    obtain ⟨bs, hbs, h⟩ := exists_of_bind h
    cases h
    exact .cons hb (forall₂_of_mapM hbs)

theorem exists_mapM {f : α → Except Fault β} :
    ∀ {l : List α}, (∀ a ∈ l, ∃ b, f a = .ok b) → ∃ m, l.mapM f = .ok m
  | [], _ => ⟨[], rfl⟩
  | a :: l, h => by
    rw [List.forall_mem_cons] at h
    obtain ⟨b, hb⟩ := h.1
    obtain ⟨bs, hbs⟩ := exists_mapM h.2
    exact ⟨b :: bs, by rw [List.mapM_cons, hb, hbs]; rfl⟩

end Except

namespace Gen

variable {α β : Type}

/-- The answer of an action and the run afterwards. -/
def exec (act : Gen α) (s : Setting) (r : Run) : Except Fault α × Run :=
  (act.run s).run.run r

variable (s : Setting) (r : Run)

@[simp] theorem exec_pure (a : α) : exec (pure a) s r = (.ok a, r) := rfl

@[simp] theorem exec_read : exec read s r = (.ok s, r) := rfl

@[simp] theorem exec_get : exec get s r = (.ok r, r) := rfl

@[simp] theorem exec_modify (f : Run → Run) : exec (modify f) s r = (.ok (), f r) := rfl

theorem exec_bind (act : Gen α) (f : α → Gen β) :
    exec (act >>= f) s r =
      match exec act s r with
      | (.ok a, r') => exec (f a) s r'
      | (.error fault, r') => (.error fault, r') := by
  unfold exec ReaderT.run ExceptT.run StateT.run
  simp only [bind, ReaderT.bind, ExceptT.bind, ExceptT.mk, StateT.bind, ExceptT.bindCont]
  cases act s r with
  | mk answer r' => cases answer <;> rfl

theorem exec_tryCatch (act : Gen α) (handle : Fault → Gen α) :
    exec (tryCatch act handle) s r =
      match exec act s r with
      | (.ok a, r') => (.ok a, r')
      | (.error fault, r') => exec (handle fault) s r' := by
  unfold exec ReaderT.run ExceptT.run StateT.run
  simp only [tryCatch, tryCatchThe, MonadExceptOf.tryCatch, ExceptT.tryCatch, ExceptT.mk, bind,
    StateT.bind]
  cases act s r with
  | mk answer r' => cases answer <;> rfl

theorem exec_ofExcept (answer : Except Fault α) : exec (ofExcept answer) s r = (answer, r) := by
  cases answer <;> rfl

theorem exec_context :
    exec context s r =
      match r.context with
      | some c => (.ok c, r)
      | none => (.error (.noActiveRun s.conventions.generator), r) := by
  unfold context
  rw [exec_bind, exec_get]
  dsimp only
  cases r.context <;> rfl

theorem exec_step (f : Context → Except Fault (α × List LogRecord × Context)) :
    exec (step f) s r =
      match r.context with
      | none => (.error (.noActiveRun s.conventions.generator), r)
      | some c =>
        match f c with
        | .error fault => (.error fault, r)
        | .ok (answer, records, next) =>
          (.ok answer, { r with context := some next, log := r.log ++ records }) := by
  unfold step
  rw [exec_bind, exec_context]
  cases r.context with
  | none => rfl
  | some c =>
    simp only [exec_bind, exec_ofExcept]
    cases f c with
    | error fault => rfl
    | ok result => rfl

/-- Both answers are faults in the relation `F`, or both are values in the relation `Q`. -/
def Answers (F : Fault → Fault → Prop) (Q : α → β → Prop) : Except Fault α → Except Fault β → Prop
  | .ok a, .ok b => Q a b
  | .error fault, .error other => F fault other
  | _, _ => False

theorem Answers.eq {x y : Except Fault α} (h : Answers Eq Eq x y) : x = y := by
  cases x <;> cases y
  · exact congrArg Except.error h
  · exact h.elim
  · exact h.elim
  · exact congrArg Except.ok h

theorem Answers.imp {F : Fault → Fault → Prop} {Q S : α → β → Prop} (h : ∀ a b, Q a b → S a b)
    {x : Except Fault α} {y : Except Fault β} (hxy : Answers F Q x y) : Answers F S x y := by
  cases x <;> cases y
  · exact hxy
  · exact hxy
  · exact hxy
  · exact h _ _ hxy

theorem Answers.andThen {γ δ : Type} {F : Fault → Fault → Prop} {Q : α → β → Prop}
    {S : γ → δ → Prop} {x : Except Fault α} {y : Except Fault β} {f : α → Except Fault γ}
    {g : β → Except Fault δ} (hxy : Answers F Q x y)
    (hf : ∀ a b, Q a b → Answers F S (f a) (g b)) : Answers F S (x >>= f) (y >>= g) := by
  cases x <;> cases y
  · exact hxy
  · exact hxy.elim
  · exact hxy.elim
  · exact hf _ _ hxy

/-- From runs in the relation `P` the actions come to answers in the relations `F` and `Q` and to
runs in the relation `P`. -/
def Relates (P : Run → Run → Prop) (F : Fault → Fault → Prop) (Q : α → β → Prop) (s t : Setting)
    (x : Gen α) (y : Gen β) : Prop :=
  ∀ r q, P r q → Answers F Q (exec x s r).1 (exec y t q).1 ∧ P (exec x s r).2 (exec y t q).2

/-- Whether an action ever gives the value. -/
def CanGive (x : Gen α) (a : α) : Prop :=
  ∃ s r, (exec x s r).1 = .ok a

theorem CanGive.ofExcept {x : Except Fault α} {a : α} (h : CanGive (Gen.ofExcept x) a) :
    x = .ok a := by
  obtain ⟨s, r, h⟩ := h
  rwa [exec_ofExcept] at h

theorem CanGive.of_bind {x : Gen α} {f : α → Gen β} {b : β} (h : CanGive (x >>= f) b) :
    ∃ a, CanGive x a ∧ CanGive (f a) b := by
  obtain ⟨s, r, h⟩ := h
  rw [exec_bind] at h
  rcases hx : exec x s r with ⟨fault | a, r'⟩ <;> rw [hx] at h
  · cases h
  · exact ⟨a, ⟨s, r, by rw [hx]⟩, s, r', h⟩

theorem CanGive.of_pure {a b : α} (h : CanGive (Pure.pure a) b) : a = b := by
  obtain ⟨s, r, h⟩ := h
  exact Except.ok.inj h

theorem CanGive.length_mapM {ι : Type} {f : ι → Gen α} : ∀ {l : List ι} {as : List α},
    CanGive (l.mapM f) as → as.length = l.length
  | [], as, h => by
    rw [List.mapM_nil] at h
    rw [← h.of_pure]
    rfl
  | i :: l, as, h => by
    rw [List.mapM_cons] at h
    obtain ⟨a, -, h⟩ := h.of_bind
    obtain ⟨rest, hrest, h⟩ := h.of_bind
    rw [← h.of_pure, List.length_cons, List.length_cons, hrest.length_mapM]

namespace Relates

variable {γ δ : Type} {P : Run → Run → Prop} {F : Fault → Fault → Prop} {Q : α → β → Prop}
  {s t : Setting}

theorem pure {a : α} {b : β} (h : Q a b) : Relates P F Q s t (Pure.pure a) (Pure.pure b) :=
  fun _ _ hr => ⟨h, hr⟩

theorem throw {fault other : Fault} (h : F fault other) :
    Relates P F Q s t (MonadExcept.throw fault) (MonadExcept.throw other) :=
  fun _ _ hr => ⟨h, hr⟩

theorem bind {S : γ → δ → Prop} {x : Gen α} {y : Gen β} {f : α → Gen γ} {g : β → Gen δ}
    (hx : Relates P F Q s t x y) (hf : ∀ a b, Q a b → Relates P F S s t (f a) (g b)) :
    Relates P F S s t (x >>= f) (y >>= g) := by
  intro r q hr
  obtain ⟨hq, hp⟩ := hx r q hr
  rw [exec_bind, exec_bind]
  rcases hxr : exec x s r with ⟨fault | a, r'⟩ <;> rcases hyq : exec y t q with ⟨other | b, q'⟩ <;>
    simp only [hxr, hyq, Answers] at hq hp ⊢
  · exact ⟨hq, hp⟩
  · exact hf a b hq r' q' hp

theorem read_bind {f : Setting → Gen α} {g : Setting → Gen β}
    (h : Relates P F Q s t (f s) (g t)) : Relates P F Q s t (read >>= f) (read >>= g) :=
  fun r q hr => h r q hr

theorem imp {S : α → β → Prop} {x : Gen α} {y : Gen β} (h : ∀ a b, Q a b → S a b)
    (hx : Relates P F Q s t x y) : Relates P F S s t x y :=
  fun r q hr => ⟨(hx r q hr).1.imp h, (hx r q hr).2⟩

/-- What actions give is something they can give. -/
theorem given {x : Gen α} {y : Gen β} (hx : Relates P F Q s t x y) :
    Relates P F (fun a b => Q a b ∧ CanGive x a ∧ CanGive y b) s t x y := by
  intro r q hr
  obtain ⟨hq, hp⟩ := hx r q hr
  refine ⟨?_, hp⟩
  cases hxr : (exec x s r).1 <;> cases hyq : (exec y t q).1 <;>
    simp only [hxr, hyq, Answers] at hq ⊢
  · exact hq
  · exact ⟨hq, ⟨s, r, hxr⟩, t, q, hyq⟩

theorem ofExcept {x : Except Fault α} {y : Except Fault β} (h : Answers F Q x y) :
    Relates P F Q s t (Gen.ofExcept x) (Gen.ofExcept y) := by
  intro r q hr
  rw [exec_ofExcept, exec_ofExcept]
  exact ⟨h, hr⟩

theorem mapM {ι κ : Type} {l : List ι} {m : List κ} {f : ι → Gen α} {g : κ → Gen β}
    (h : List.Forall₂ (fun i j => Relates P F Q s t (f i) (g j)) l m) :
    Relates P F (List.Forall₂ Q) s t (l.mapM f) (m.mapM g) := by
  induction h with
  | nil => exact pure .nil
  | cons hij _ ih =>
    rw [List.mapM_cons, List.mapM_cons]
    exact hij.bind fun a b hab => ih.bind fun as bs habs => pure (.cons hab habs)

/-- Two loops over the same list. -/
theorem mapM_same {ι : Type} (l : List ι) {f : ι → Gen α} {g : ι → Gen β}
    (h : ∀ i, Relates P F Q s t (f i) (g i)) :
    Relates P F (List.Forall₂ Q) s t (l.mapM f) (l.mapM g) :=
  mapM (List.forall₂_same.2 fun i _ => h i)

end Relates

end Gen

theorem same_of_forall₂ {α : Type} {p : α → Prop} {as bs : List α}
    (h : List.Forall₂ (fun a b => a = b ∧ p a) as bs) : as = bs ∧ ∀ a ∈ as, p a := by
  induction h with
  | nil => simp
  | cons hab _ ih =>
    obtain ⟨rfl, ha⟩ := hab
    obtain ⟨rfl, has⟩ := ih
    exact ⟨rfl, List.forall_mem_cons.2 ⟨ha, has⟩⟩

/-- Either the helper has its name and nothing changes, or it gets a fresh one. -/
theorem Context.helperName_eq_ok {c c' : Context} {key : Value} {answer : Context.HelperName}
    {records : List LogRecord} (h : c.helperName key = .ok (answer, records, c')) :
    ∃ id, key.key = .ok id ∧
      ((Entries.get? id c.helpers.names = some answer.name ∧ answer.isNew = false ∧ c' = c) ∨
        (Entries.get? id c.helpers.names = none ∧
          ∃ g names, c.names.distinct key .procedure = .ok (g, names) ∧ answer = ⟨g.chosen, true⟩ ∧
            c' = ⟨names, { c.helpers with names := Entries.put id g.chosen c.helpers.names }⟩)) := by
  obtain ⟨id, hid, h⟩ := exists_of_bind h
  refine ⟨id, hid, ?_⟩
  unfold HelperRegistry.functionName? at h
  cases hget : Entries.get? id c.helpers.names with
  | some known =>
    rw [hget] at h
    cases h
    exact .inl ⟨rfl, rfl, rfl⟩
  | none =>
    rw [hget] at h
    obtain ⟨⟨g, names⟩, hd, h⟩ := exists_of_bind h
    cases h
    exact .inr ⟨rfl, g, names, hd, rfl, rfl⟩

/-- What every request of a run keeps: facts about the identifiers and definitions built up so far.
-/
structure Context.Kept (I : Context → Prop) : Prop where
  get : ∀ {c name type g names}, I c → c.names.get name type = .ok (g, names) → I { c with names }
  distinct : ∀ {c name type g names}, I c → c.names.distinct name type = .ok (g, names) →
    I { c with names }
  helperName : ∀ {c key answer records c'}, I c → c.helperName key = .ok (answer, records, c') →
    I c'
  define : ∀ {c key code c'}, I c → c.define key code = .ok c' → I c'

theorem Context.Kept.trivial : Context.Kept fun _ => True :=
  ⟨fun _ _ => True.intro, fun _ _ => True.intro, fun _ _ => True.intro, fun _ _ => True.intro⟩

/-- Contexts with the same identifiers, whose definitions have the same keys and are in the relation
`T`; of the first of them `I` holds. -/
structure Context.Matches (T : String → String → Prop) (I : Context → Prop) (c d : Context) :
    Prop where
  names_eq : c.names = d.names
  placeholder_eq : c.helpers.placeholder = d.helpers.placeholder
  helperNames_eq : c.helpers.names = d.helpers.names
  texts : List.Forall₂ (fun p q => p.1 = q.1 ∧ T p.2 q.2) c.helpers.texts d.helpers.texts
  kept : I c

theorem Context.Matches.eq {I : Context → Prop} {c d : Context} (h : Context.Matches Eq I c d) :
    c = d := by
  have ht : c.helpers.texts = d.helpers.texts := by
    have hp : List.Forall₂ Eq c.helpers.texts d.helpers.texts :=
      h.texts.imp fun p q hpq => Prod.ext hpq.1 hpq.2
    exact List.forall₂_eq_eq_eq ▸ hp
  obtain ⟨names, placeholder, texts, helperNames⟩ := c
  obtain ⟨names', placeholder', texts', helperNames'⟩ := d
  obtain ⟨hn, hp, hh, -, -⟩ := h
  simp only at ht hn hp hh
  subst ht hn hp hh
  rfl

theorem Context.Matches.refl {I : Context → Prop} {c : Context} (h : I c) :
    Context.Matches Eq I c c :=
  ⟨rfl, rfl, rfl, List.forall₂_same.2 fun _ _ => ⟨rfl, rfl⟩, h⟩

theorem Entries.put_forall₂ {κ α β : Type} [DecidableEq κ] {R : α → β → Prop} {m : List (κ × α)}
    {n : List (κ × β)} (h : List.Forall₂ (fun p q => p.1 = q.1 ∧ R p.2 q.2) m n) (key : κ) {a : α}
    {b : β} (hab : R a b) :
    List.Forall₂ (fun p q => p.1 = q.1 ∧ R p.2 q.2) (put key a m) (put key b n) := by
  induction h with
  | nil => exact .cons ⟨rfl, hab⟩ .nil
  | @cons p q m n hpq hmn ih =>
    rw [put, put, hpq.1]
    split
    · exact .cons ⟨rfl, hab⟩ hmn
    · exact .cons hpq ih

namespace Context

variable {T : String → String → Prop} {I : Context → Prop} {F : Fault → Fault → Prop}
  {x y : Context}

theorem Matches.define (h : Matches T I x y) (hI : Kept I) (hF : ∀ fault, F fault fault) (key : Value)
    {a b : String} (hab : T a b) : Gen.Answers F (Matches T I) (x.define key a) (y.define key b) := by
  have hkept : ∀ z, x.define key a = .ok z → I z := fun z hz => hI.define h.kept hz
  unfold Context.define at hkept ⊢
  cases hk : key.key with
  | error fault => exact hF fault
  | ok id =>
    rw [hk] at hkept
    exact ⟨h.names_eq, h.placeholder_eq, h.helperNames_eq, Entries.put_forall₂ h.texts id hab,
      hkept _ rfl⟩

theorem Matches.helperName (h : Matches T I x y) (hI : Kept I) (hF : ∀ fault, F fault fault)
    (key : Value) :
    Gen.Answers F (fun p q => p.1 = q.1 ∧ Matches T I p.2.2 q.2.2) (x.helperName key)
      (y.helperName key) := by
  have hkept : ∀ p, x.helperName key = .ok p → I p.2.2 := fun p hp => hI.helperName h.kept hp
  unfold Context.helperName at hkept ⊢
  cases hk : key.key with
  | error fault => exact hF fault
  | ok id =>
    simp only [hk, bind, Except.bind, HelperRegistry.functionName?, ← h.helperNames_eq,
      ← h.names_eq] at hkept ⊢
    cases hn : Entries.get? id x.helpers.names with
    | some name => exact ⟨rfl, h⟩
    | none =>
      simp only [hn] at hkept ⊢
      cases hd : x.names.distinct key .procedure with
      | error fault => exact hF fault
      | ok result =>
        simp only [hd] at hkept
        exact ⟨rfl, rfl, h.placeholder_eq, rfl, h.texts, hkept _ rfl⟩

theorem Matches.provide (h : Matches T I x y) (hI : Kept I) (hF : ∀ fault, F fault fault)
    (hT : ∀ a, T a a) (key : Value) (template : List String) :
    Gen.Answers F (fun p q => p.1 = q.1 ∧ Matches T I p.2.2 q.2.2) (x.provide key template)
      (y.provide key template) := by
  refine (h.helperName hI hF key).andThen ?_
  rintro ⟨answer, records, x'⟩ ⟨_, records', y'⟩ ⟨rfl, hmid⟩
  dsimp only
  split
  · refine (hmid.define hI hF key ?_).andThen fun _ _ hnext => ⟨rfl, hnext⟩
    rw [HelperRegistry.instantiate, HelperRegistry.instantiate, hmid.placeholder_eq]
    exact hT _
  · exact ⟨rfl, hmid⟩

end Context

/-- Runs with matching contexts and with declared identifiers in the relation `D`. -/
structure Run.Matches (T : String → String → Prop) (I : Context → Prop)
    (D : List String → List String → Prop) (r q : Run) : Prop where
  context : Option.Rel (Context.Matches T I) r.context q.context
  declared : D r.declared q.declared

namespace Gen

variable {α β : Type} {T : String → String → Prop} {F : Fault → Fault → Prop} {Q : α → β → Prop}
  {I : Context → Prop} {D : List String → List String → Prop} {s t : Setting}

namespace Relates

theorem report (records more : List LogRecord) :
    Relates (Run.Matches T I D) F Eq s t (Gen.report records) (Gen.report more) :=
  fun _ _ hr => ⟨rfl, hr.context, hr.declared⟩

theorem setContext {c d : Context} (h : Context.Matches T I c d) :
    Relates (Run.Matches T I D) F Eq s t (Gen.setContext c) (Gen.setContext d) :=
  fun _ _ hr => ⟨rfl, .some h, hr.declared⟩

section Requests

variable (hF : F (.noActiveRun s.conventions.generator) (.noActiveRun t.conventions.generator))
include hF

theorem context : Relates (Run.Matches T I D) F (Context.Matches T I) s t Gen.context
    Gen.context := by
  intro r q hr
  rw [exec_context, exec_context]
  have hc := hr.context
  generalize r.context = x at hc ⊢
  generalize q.context = y at hc ⊢
  cases hc with
  | none => exact ⟨hF, hr⟩
  | some h => exact ⟨h, hr⟩

theorem step {f : Context → Except Fault (α × List LogRecord × Context)}
    {g : Context → Except Fault (β × List LogRecord × Context)}
    (h : ∀ c d, Context.Matches T I c d →
      Answers F (fun x y => Q x.1 y.1 ∧ Context.Matches T I x.2.2 y.2.2) (f c) (g d)) :
    Relates (Run.Matches T I D) F Q s t (Gen.step f) (Gen.step g) := by
  refine (context hF).bind fun c d hcd => (ofExcept (h c d hcd)).bind ?_
  rintro ⟨a, records, c'⟩ ⟨b, more, d'⟩ ⟨hab, hnext⟩
  exact (setContext hnext).bind fun _ _ _ => (report _ _).bind fun _ _ _ => pure hab

variable (hrefl : ∀ fault, F fault fault) (hI : Context.Kept I)
include hrefl hI

/-- Identifiers are the same, and what is known of those given under `I` holds of them. -/
theorem nameOf {V : String → Prop} (type : NameType) (name : Value)
    (hV : ∀ {c g names}, I c → c.names.get name type = .ok (g, names) →
      V (c.names.lead type ++ g.chosen)) :
    Relates (Run.Matches T I D) F (fun a b => a = b ∧ V a) s t (Gen.nameOf type name)
      (Gen.nameOf type name) := by
  refine step hF fun x y hxy => ?_
  rw [← hxy.names_eq]
  cases hg : x.names.get name type with
  | error fault => exact hrefl fault
  | ok result =>
    exact ⟨⟨rfl, hV hxy.kept hg⟩, rfl, hxy.placeholder_eq, hxy.helperNames_eq, hxy.texts,
      hI.get hxy.kept hg⟩

theorem temporary (name : Value) :
    Relates (Run.Matches T I D) F Eq s t (Gen.temporary name) (Gen.temporary name) := by
  refine step hF fun x y hxy => ?_
  rw [← hxy.names_eq]
  cases hd : x.names.distinct name .var with
  | error fault => exact hrefl fault
  | ok result =>
    exact ⟨rfl, rfl, hxy.placeholder_eq, hxy.helperNames_eq, hxy.texts, hI.distinct hxy.kept hd⟩

theorem provide (hT : ∀ a, T a a) (key : Value) (template : List String) :
    Relates (Run.Matches T I D) F Eq s t (Gen.provide key template) (Gen.provide key template) :=
  step hF fun _ _ h => h.provide hI hrefl hT key template

theorem define (key : Value) {a b : String} (hab : T a b) :
    Relates (Run.Matches T I D) F Eq s t (Gen.define key a) (Gen.define key b) := by
  refine step hF fun x y h => ?_
  exact (h.define hI hrefl key hab).andThen fun _ _ hnext => ⟨rfl, hnext⟩

end Requests

end Relates

/-- The actions come from matching runs to the same answer and to matching runs. -/
abbrev Agree (I : Context → Prop) (D : List String → List String → Prop) (s : Setting)
    (x y : Gen α) : Prop :=
  Relates (Run.Matches Eq I D) Eq Eq s s x y

namespace Agree

theorem ofExcept (answer : Except Fault α) : Agree I D s (Gen.ofExcept answer)
    (Gen.ofExcept answer) :=
  Relates.ofExcept (by cases answer <;> rfl)

end Agree

end Gen

end BlockCode
