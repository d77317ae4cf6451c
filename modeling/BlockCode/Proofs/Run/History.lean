import BlockCode.Proofs.Run.Numbering

namespace BlockCode

/-- What may be done with a generator without handing over a program. What only reads is left out.
-/
inductive Action where
  | code (b : Block)
  | value (b : Block) (socket : String) (required : Value)
  | body (b : Block) (socket : String)
  | sequence (b : Block) (code : String)
  | trap (b : Block) (branch : String)
  | name (type : NameType) (name : Value)
  | distinct (name label : Value)
  | provide (key : Value) (template : List String)
  | define (key : Value) (code : String)
  | reset

def Action.perform (rules : Rulebook) : Action → Gen Unit
  | .code b => do let _ ← b.code rules
  | .value b socket required => do let _ ← (b.site rules).valueAt socket required
  | .body b socket => do let _ ← (b.site rules).body socket
  | .sequence b text => do let _ ← (b.site rules).sequence text
  | .trap b branch => do let _ ← (b.site rules).trapped branch
  | .name type given => do let _ ← Gen.nameOf type given
  | .distinct given label => do let _ ← Gen.distinctLabelled given label
  | .provide key template => do let _ ← Gen.provide key template
  | .define key text => Gen.define key text
  | .reset => Gen.resetContext

inductive Operation where
  | generate (program : Program)
  | start (program : Program)
  | act (action : Action)
  /-- Blocks made elsewhere take numbers too. -/
  | number (count : Nat)

namespace Session

def next (g : Generator) (s : Session) : Operation → Session
  | .generate program => (s.generate g program).2
  | .start program => (s.start g program).2
  | .act action => (s.perform g (action.perform g.dialect.rules)).2
  | .number count => { s with nextBlock := s.nextBlock + count }

/-- A new generator after some operations. -/
def after (g : Generator) (earlier : List Operation) : Session :=
  earlier.foldl (next g) {}

/-- The answer to a program, and the run that it leaves, are those for its workspace. -/
theorem generate_of_workspace {s : Session} (g : Generator) {program : Program} {ws : Workspace}
    (hws : (program.toWorkspace s.nextBlock).1 = .ok ws) :
    (s.generate g program).1 = (Gen.exec (Gen.generate g.dialect.rules ws) g.setting s.run).1 ∧
      (s.generate g program).2.run =
        (Gen.exec (Gen.generate g.dialect.rules ws) g.setting s.run).2 := by
  rcases hfound : program.toWorkspace s.nextBlock with ⟨found, n⟩
  rw [hfound] at hws
  obtain rfl : found = .ok ws := hws
  rw [Session.generate, hfound]
  exact ⟨rfl, rfl⟩

end Session

/-- The fact holds of the context, if there is one. -/
def Run.Keeps (I : Context → Prop) (r : Run) : Prop :=
  ∀ c, r.context = some c → I c

namespace Gen

variable {α : Type} {I : Context → Prop} {D : List String → List String → Prop} {s : Setting}

theorem Relates.keeps {F : Fault → Fault → Prop} {Q : α → α → Prop} {x : Gen α}
    (h : Relates (Run.Matches Eq I Eq) F Q s s x x) {r : Run} (hr : r.Keeps I) :
    (exec x s r).2.Keeps I := by
  have hself : Run.Matches Eq I Eq r r := by
    refine ⟨?_, rfl⟩
    cases hc : r.context with
    | none => exact .none
    | some c => exact .some (.refl (hr c hc))
  have hc := (h r r hself).2.context
  intro c hx
  rw [hx] at hc
  cases hc with
  | some hcd => exact hcd.kept

theorem distinctLabelled_keeps (hI : Context.Kept I) {c : Context} (hc : I c)
    (name label : Value) : I { c with names := (c.names.distinctLabelled name label).2.2 } := by
  unfold Allocator.distinctLabelled
  split
  · next type _ =>
    cases hd : c.names.distinct name type with
    | error fault => exact hc
    | ok result => exact hI.distinct hc hd
  · cases hb : Name.identifierOf name with
    | error fault => exact hc
    | ok base =>
      dsimp only
      split
      · next hs =>
        have hd : c.names.distinct name .var = c.names.allot .shared base := by
          simp only [Allocator.distinct, hb, Allocator.pool, if_pos hs]
          rfl
        cases ha : c.names.allot .shared base with
        | error fault => exact hc
        | ok result => exact hI.distinct hc (hd.trans ha)
      · exact hc

theorem Agree.distinctLabelled (hI : Context.Kept I) (name label : Value) :
    Agree I D s (Gen.distinctLabelled name label) (Gen.distinctLabelled name label) := by
  refine Relates.bind (Relates.context rfl) fun c d hcd => ?_
  have hc := hcd.kept
  obtain rfl := hcd.eq
  exact (Relates.setContext (.refl (distinctLabelled_keeps hI hc name label))).bind fun _ _ _ =>
    (Relates.report _ _).bind fun _ _ _ => Agree.ofExcept _

theorem Agree.start (hI : Context.Kept I) (hnew : I s.newContext) (ws : Workspace) :
    Agree I Eq s (Gen.start ws) (Gen.start ws) := by
  refine Relates.read_bind ((Relates.setContext (.refl hnew)).bind fun _ _ _ => ?_)
  refine Relates.bind (.mapM_same _ fun name => (Comparison.exact hI Eq s).variableName name) ?_
  intro declared declared' hnames
  obtain ⟨rfl, -⟩ := same_of_forall₂ hnames
  exact fun r q hr => ⟨rfl, hr.context, rfl⟩

section Program

variable {rules : Rulebook} (hrules : Rulebook.Agrees true I rules)

theorem site_self (b : Block) :
    (Comparison.exact hrules.kept D s).Site true (b.site rules) (b.site rules) :=
  Block.site_compares (R := Eq) hrules (fun _ _ hij => hij ▸ fun _ _ => rfl)
    (Block.alike_refl (fun _ => rfl) b)

include hrules

theorem Agree.generate (hnew : I s.newContext) (ws : Workspace) :
    Agree I Eq s (Gen.generate rules ws) (Gen.generate rules ws) := by
  have hcode : ∀ b, Agree I Eq s (topCode rules b) (topCode rules b) := fun b =>
    Comparison.topText (Block.code_compares (R := Eq) hrules (fun _ _ hij => hij ▸ fun _ _ => rfl)
      (Block.alike_refl (fun _ => rfl) b))
  refine Relates.read_bind ((Relates.report _ _).bind fun _ _ _ => ?_)
  refine (Agree.start hrules.kept hnew ws).bind fun _ _ _ => ?_
  refine (Relates.loggingFaults (.mapM_same _ hcode)).bind ?_
  intro parts parts' hparts
  have heq : parts = parts' := List.forall₂_eq_eq_eq ▸ hparts
  rw [heq]
  exact Relates.finish (fun _ => rfl) _

theorem Agree.perform (action : Action) (hreset : action = .reset → ∀ {c}, I c → I c.reset) :
    Agree I D s (action.perform rules) (action.perform rules) := by
  let c := Comparison.exact hrules.kept D s
  have hexact : c.Exact := Comparison.exact_exact hrules.kept
  cases action with
  | code b =>
    exact ((site_self hrules b).emit (Comparison.follows _ hrules.compares)
      fun _ => .inr hexact).bind fun _ _ _ => .pure rfl
  | value b socket required =>
    exact ((site_self hrules b).valueAt socket required).bind fun _ _ _ => .pure rfl
  | body b socket => exact ((site_self hrules b).body socket).bind fun _ _ _ => .pure rfl
  | sequence b text =>
    have hsite := site_self (D := D) (s := s) hrules b
    exact (hsite.sequence_around hsite.nextCode text text).bind fun _ _ _ => .pure rfl
  | trap b branch => exact Relates.read_bind (.pure rfl)
  | name type given => exact (c.nameOf type given).bind fun _ _ _ => .pure rfl
  | distinct given label =>
    exact (Agree.distinctLabelled hrules.kept given label).bind fun _ _ _ => .pure rfl
  | provide key template => exact (c.provide key template).bind fun _ _ _ => .pure rfl
  | define key text => exact c.define key rfl
  | reset =>
    refine Relates.step rfl fun x y hxy => ?_
    have hx := hxy.kept
    obtain rfl := hxy.eq
    exact ⟨rfl, .refl (hreset rfl hx)⟩

end Program

end Gen

namespace Session

variable {g : Generator} {I : Context → Prop}

theorem performOn_keeps {α : Type} {s : Session} (hs : s.run.Keeps I) {act : Workspace → Gen α}
    (hact : ∀ ws, Gen.Agree I Eq g.setting (act ws) (act ws))
    (found : Except Fault Workspace × Nat) : (s.performOn g found act).2.run.Keeps I := by
  obtain ⟨fault | ws, n⟩ := found
  · exact hs
  · exact (hact ws).keeps hs

variable (hI : Context.Kept I)
  (hrules : Rulebook.Agrees true I g.dialect.rules) (hnew : I g.setting.newContext)
  (hreset : ∀ {c}, I c → I c.reset)
include hI hrules hnew hreset

/-- What one operation keeps. -/
theorem next_keeps {s : Session} (hs : s.run.Keeps I) (op : Operation) :
    (s.next g op).run.Keeps I := by
  cases op with
  | generate program => exact performOn_keeps hs (Gen.Agree.generate hrules hnew) _
  | start program => exact performOn_keeps hs (Gen.Agree.start hI hnew) _
  | act action => exact (Gen.Agree.perform hrules action fun _ => hreset).keeps hs
  | number count => exact hs

/-- What every history keeps. -/
theorem after_keeps (earlier : List Operation) : (after g earlier).run.Keeps I := by
  have hrun : ∀ {s : Session}, s.run.Keeps I → (earlier.foldl (next g) s).run.Keeps I := by
    intro s hs
    induction earlier generalizing s with
    | nil => exact hs
    | cons op rest ih => exact ih (next_keeps hI hrules hnew hreset hs op)
  exact hrun fun c hc => by cases hc

end Session

end BlockCode
