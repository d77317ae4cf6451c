import BlockCode.Proofs.Run.Agreement

namespace BlockCode.Gen

/-- A request for the identifier of a variable, and the answer to it. -/
inductive Request where
  /-- For a variable of the program, by its name. -/
  | named (name : Value) (answer : Except Fault String)
  /-- For a variable of the generated code itself, by the name that its identifier is made from. -/
  | temporary (name : Value) (answer : Except Fault String)

/-- The requests that an action makes in a run, in their order. Whatever else an action is put
together from asks for no variable. -/
inductive Asks (s : Setting) : {α : Type} → Gen α → Run → List Request → Prop
  | named (name : Value) (r : Run) :
    Asks s (variableName name) r [.named name (exec (variableName name) s r).1]
  | temporary (name : Value) (r : Run) :
    Asks s (temporary name) r [.temporary name (exec (temporary name) s r).1]
  | procedureName (name : Value) (r : Run) : Asks s (procedureName name) r []
  | provide (key : Value) (template : List String) (r : Run) : Asks s (provide key template) r []
  | define (key : Value) (code : String) (r : Run) : Asks s (define key code) r []
  | read (r : Run) : Asks s (read : Gen Setting) r []
  | ofExcept {α : Type} (answer : Except Fault α) (r : Run) : Asks s (ofExcept answer) r []
  | bind_ok {α β : Type} {x : Gen α} {f : α → Gen β} {r r' : Run} {a : α}
    {asked more : List Request} (hx : exec x s r = (.ok a, r')) :
    Asks s x r asked → Asks s (f a) r' more → Asks s (x >>= f) r (asked ++ more)
  | bind_error {α β : Type} {x : Gen α} {f : α → Gen β} {r r' : Run} {fault : Fault}
    {asked : List Request} (hx : exec x s r = (.error fault, r')) :
    Asks s x r asked → Asks s (x >>= f) r asked

variable {α β γ δ : Type} {A : Option (Request → Prop)} {P : Run → Run → Prop} {F : Fault → Fault → Prop}
  {Q : α → β → Prop} {s t : Setting}

section Names

variable {r : Run} {c : Context} (hr : r.context = some c) (name : Value)
include hr

theorem exec_nameOf (type : NameType) :
    exec (nameOf type name) s r =
      match c.names.get name type with
      | .error fault => (.error fault, r)
      | .ok (g, names) =>
        (.ok (c.names.lead type ++ g.chosen),
          { r with context := some { c with names }, log := r.log ++ g.records }) := by
  rw [nameOf, exec_step, hr]
  dsimp only
  cases c.names.get name type with
  | error fault => rfl
  | ok result => rfl

theorem exec_temporary :
    exec (temporary name) s r =
      match c.names.distinct name .var with
      | .error fault => (.error fault, r)
      | .ok (g, names) =>
        (.ok (c.names.lead .var ++ g.chosen),
          { r with context := some { c with names }, log := r.log ++ g.records }) := by
  rw [temporary, exec_step, hr]
  dsimp only
  cases c.names.distinct name .var with
  | error fault => rfl
  | ok result => rfl

theorem exec_distinctLabelled (label : Value) :
    exec (distinctLabelled name label) s r =
      ((c.names.distinctLabelled name label).1,
        { r with
          context := some { c with names := (c.names.distinctLabelled name label).2.2 }
          log := r.log ++ (c.names.distinctLabelled name label).2.1 }) := by
  rw [distinctLabelled, exec_bind, exec_context, hr]
  dsimp only
  cases (c.names.distinctLabelled name label).1 <;> rfl

end Names

/-- In the run the action makes only requests that the predicate holds of. -/
def AsksOnly (p : Request → Prop) (s : Setting) (x : Gen α) (r : Run) : Prop :=
  ∃ asked, Asks s x r asked ∧ ∀ request ∈ asked, p request

theorem Asks.silent {p : Request → Prop} {x : Gen α} {r : Run} (h : Asks s x r []) :
    AsksOnly p s x r := by
  refine ⟨[], h, ?_⟩
  intro request hmem
  cases hmem

/-- Actions side by side as `Relates` has them, and what holds of the requests of the first, if these
are followed at all. -/
structure Tracks (A : Option (Request → Prop)) (P : Run → Run → Prop) (F : Fault → Fault → Prop)
    (Q : α → β → Prop) (s t : Setting) (x : Gen α) (y : Gen β) : Prop where
  relates : Relates P F Q s t x y
  asks : ∀ p ∈ A, ∀ r q, P r q → AsksOnly p s x r

namespace Tracks

theorem ofExcept {x : Except Fault α} {y : Except Fault β} (h : Answers F Q x y) :
    Tracks A P F Q s t (Gen.ofExcept x) (Gen.ofExcept y) where
  relates := .ofExcept h
  asks := fun _ _ r _ _ => (Asks.ofExcept x r).silent

theorem pure {a : α} {b : β} (h : Q a b) : Tracks A P F Q s t (Pure.pure a) (Pure.pure b) :=
  ofExcept (x := .ok a) (y := .ok b) h

theorem throw {fault other : Fault} (h : F fault other) :
    Tracks A P F Q s t (MonadExcept.throw fault) (MonadExcept.throw other) :=
  ofExcept (x := .error fault) (y := .error other) h

theorem bind {S : γ → δ → Prop} {x : Gen α} {y : Gen β} {f : α → Gen γ} {g : β → Gen δ}
    (hx : Tracks A P F Q s t x y) (hf : ∀ a b, Q a b → Tracks A P F S s t (f a) (g b)) :
    Tracks A P F S s t (x >>= f) (y >>= g) where
  relates := hx.relates.bind fun a b hab => (hf a b hab).relates
  asks := by
    intro p hp r q hr
    obtain ⟨asked, hasked, hall⟩ := hx.asks p hp r q hr
    obtain ⟨hanswers, hruns⟩ := hx.relates r q hr
    rcases hxr : exec x s r with ⟨fault | a, r'⟩
    · exact ⟨asked, .bind_error hxr hasked, hall⟩
    · rcases hyq : exec y t q with ⟨other | b, q'⟩ <;>
        simp only [hxr, hyq, Answers] at hanswers hruns
      obtain ⟨more, hmore, hall'⟩ := (hf a b hanswers).asks p hp r' q' hruns
      refine ⟨asked ++ more, .bind_ok hxr hasked hmore, ?_⟩
      intro request hmem
      rcases List.mem_append.1 hmem with hmem | hmem
      · exact hall request hmem
      · exact hall' request hmem

/-- Actions that give the same, of which a fact is known. -/
theorem bind_same {S : γ → δ → Prop} {p : α → Prop} {x y : Gen α} {f : α → Gen γ} {g : α → Gen δ}
    (hx : Tracks A P F (fun a b => a = b ∧ p a) s t x y)
    (hf : ∀ a, p a → Tracks A P F S s t (f a) (g a)) : Tracks A P F S s t (x >>= f) (y >>= g) := by
  refine hx.bind ?_
  rintro a _ ⟨rfl, ha⟩
  exact hf a ha

theorem bind_eq {S : γ → δ → Prop} {x y : Gen α} {f : α → Gen γ} {g : α → Gen δ}
    (hx : Tracks A P F Eq s t x y) (hf : ∀ a, Tracks A P F S s t (f a) (g a)) :
    Tracks A P F S s t (x >>= f) (y >>= g) := by
  refine hx.bind ?_
  rintro a _ rfl
  exact hf a

theorem pure_bind {S : γ → δ → Prop} {a : α} {b : β} {f : α → Gen γ} {g : β → Gen δ}
    (h : Tracks A P F S s t (f a) (g b)) :
    Tracks A P F S s t (Pure.pure a >>= f) (Pure.pure b >>= g) := by
  rw [LawfulMonad.pure_bind, LawfulMonad.pure_bind]
  exact h

theorem read_bind {f : Setting → Gen α} {g : Setting → Gen β} (h : Tracks A P F Q s t (f s) (g t)) :
    Tracks A P F Q s t (read >>= f) (read >>= g) where
  relates := .read_bind h.relates
  asks := by
    intro p hp r q hr
    obtain ⟨asked, hasked, hall⟩ := h.asks p hp r q hr
    exact ⟨[] ++ asked, .bind_ok (exec_read s r) (.read r) hasked, hall⟩

theorem imp {S : α → β → Prop} {x : Gen α} {y : Gen β} (h : ∀ a b, Q a b → S a b)
    (hx : Tracks A P F Q s t x y) : Tracks A P F S s t x y :=
  ⟨hx.relates.imp h, hx.asks⟩

/-- What actions give is something they can give. -/
theorem given {x : Gen α} {y : Gen β} (hx : Tracks A P F Q s t x y) :
    Tracks A P F (fun a b => Q a b ∧ CanGive x a ∧ CanGive y b) s t x y :=
  ⟨hx.relates.given, hx.asks⟩

theorem mapM {ι κ : Type} {l : List ι} {m : List κ} {f : ι → Gen α} {g : κ → Gen β}
    (h : List.Forall₂ (fun i j => Tracks A P F Q s t (f i) (g j)) l m) :
    Tracks A P F (List.Forall₂ Q) s t (l.mapM f) (m.mapM g) := by
  induction h with
  | nil => exact pure .nil
  | cons hij _ ih =>
    rw [List.mapM_cons, List.mapM_cons]
    exact hij.bind fun a b hab => ih.bind fun as bs habs => pure (.cons hab habs)

/-- Two loops over the same list. -/
theorem mapM_same {ι : Type} (l : List ι) {f : ι → Gen α} {g : ι → Gen β}
    (h : ∀ i ∈ l, Tracks A P F Q s t (f i) (g i)) :
    Tracks A P F (List.Forall₂ Q) s t (l.mapM f) (l.mapM g) :=
  mapM (List.forall₂_same.2 h)

end Tracks

end BlockCode.Gen
