import BlockCode.Proofs.Run.Chains
import BlockCode.Proofs.Run.Comments
import BlockCode.Proofs.Run.Trees

namespace BlockCode

open Branch

namespace Gen

variable {α β : Type} {s : Setting}

/-- The actions do the same in every run. -/
def Same (s : Setting) (x y : Gen α) : Prop :=
  ∀ r, exec x s r = exec y s r

theorem Same.refl (x : Gen α) : Same s x x :=
  fun _ => rfl

section Bind

variable {H : Except Fault β × Run → Except Fault β × Run → Prop} {x y : Gen α} {f g : α → Gen β}

/-- Whatever holds of equal faults and of what follows equal answers holds of the whole. -/
theorem Same.exec_bind (h : Same s x y) (hfault : ∀ fault r, H (.error fault, r) (.error fault, r))
    (hrest : ∀ a r r', exec x s r = (.ok a, r') → H (exec (f a) s r') (exec (g a) s r')) (r : Run) :
    H (exec (x >>= f) s r) (exec (y >>= g) s r) := by
  rw [Gen.exec_bind, Gen.exec_bind, ← h r]
  rcases hx : exec x s r with ⟨fault | a, r'⟩
  · exact hfault fault r'
  · exact hrest a r r' hx

theorem Same.before (h : Same s x y) (hfault : ∀ fault r, H (.error fault, r) (.error fault, r))
    (hrest : ∀ a r, H (exec (f a) s r) (exec (g a) s r)) (r : Run) :
    H (exec (x >>= f) s r) (exec (y >>= g) s r) :=
  h.exec_bind hfault (fun a _ r' _ => hrest a r') r

theorem Same.bind (h : Same s x y) (hrest : ∀ a, Same s (f a) (g a)) : Same s (x >>= f) (y >>= g) :=
  h.before (H := Eq) (fun _ _ => rfl) hrest

end Bind

/-- What does the same is in relation where nothing is watched. -/
theorem Same.relates {x y : Gen α} {Q : α → α → Prop} (h : Same s x y) (hQ : ∀ a, Q a a) :
    (Watch.blind s).pairing.Relates Q x y := by
  refine ⟨?_, nofun⟩
  rintro r _ ⟨rfl, -⟩
  rw [h r]
  rcases exec y s r with ⟨fault | a, r'⟩
  · exact ⟨⟨rfl, trivial⟩, rfl, trivial⟩
  · exact ⟨hQ a, rfl, trivial⟩

end Gen

open Gen

/-- Where nothing is watched, results in relation are equal. -/
theorem Watch.outcome_eq {s : Setting} {w : Watch s} {shape : Shape} {x y : Outcome}
    (h : w.pairing.Outcome shape x y) : x = y := by
  cases shape <;> cases x <;> cases y
  case statement.nothing.nothing => rfl
  case statement.statement.statement a b =>
    rcases h with h | ⟨-, rfl, rfl⟩
    · rw [whole_eq h]
    · rfl
  case value.value.value a rank b other =>
    obtain ⟨hab, rfl, -⟩ := h
    exact congrArg (Outcome.value · rank) hab
  all_goals exact h.elim

theorem Rule.Pairs.same {traps : Bool} {shape : Shape} {kind : String} {rule : Rule}
    (h : Rule.Pairs traps shape kind rule) {s : Setting} {u v : Site}
    (hsees : (Watch.blind s).pairing.Sees traps u v) : Same s (rule u) (rule v) := by
  intro r
  obtain ⟨hanswers, hruns, -⟩ :=
    (h (Watch.blind s).pairing (.inl trivial) hsees).relates r r ⟨rfl, trivial⟩
  refine Prod.ext (Answers.eq ?_) hruns
  generalize (exec (rule u) s r).1 = x at hanswers ⊢
  generalize (exec (rule v) s r).1 = y at hanswers ⊢
  cases x <;> cases y
  · exact hanswers.1
  · exact hanswers.elim
  · exact hanswers.elim
  · exact Watch.outcome_eq hanswers

/-- Connections that give the same code, of the same kind as far as faults name it. -/
def Branch.LinksSame (s : Setting) (x y : Option Branch) : Prop :=
  linkKind x = linkKind y ∧ Same s (linkCode x) (linkCode y)

def Branch.SocketsSame (s : Setting) : List (String × Option Branch) → List (String × Option Branch) →
    Prop :=
  List.Forall₂ fun x y => x.1 = y.1 ∧ LinksSame s x.2 y.2

theorem Branch.SocketsSame.refl (s : Setting) (m : List (String × Option Branch)) :
    SocketsSame s m m :=
  List.forall₂_same.2 fun _ _ => ⟨rfl, rfl, .refl _⟩

theorem Branch.SocketsSame.lookup {s : Setting} {m n : List (String × Option Branch)}
    (h : SocketsSame s m n) (name : String) :
    Option.Rel (LinksSame s) (m.lookup name) (n.lookup name) := by
  induction h with
  | nil => exact .none
  | @cons x y m n hxy _ ih =>
    obtain ⟨name', plug⟩ := x
    obtain ⟨_, other⟩ := y
    obtain ⟨rfl, hplug⟩ := hxy
    simp only [List.lookup_cons]
    split
    · exact .some hplug
    · exact ih

theorem Branch.SocketsSame.plugged {s : Setting} {m n : List (String × Option Branch)}
    (h : SocketsSame s m n) (name : String) :
    LinksSame s (Site.plugged m name) (Site.plugged n name) := by
  have hl := h.lookup name
  unfold Site.plugged
  generalize m.lookup name = x at hl ⊢
  generalize n.lookup name = y at hl ⊢
  cases hl with
  | none => exact ⟨rfl, .refl _⟩
  | some hplug => exact hplug

/-- Sites that differ in their comments only, and whose connections do the same. -/
structure Site.Same (s : Setting) (u v : Site) : Prop where
  head : v.head = { u.head with comment := v.head.comment }
  inputs : SocketsSame s u.inputs v.inputs
  statements : SocketsSame s u.statements v.statements
  next : LinksSame s u.next v.next

namespace Site.Same

variable {s : Setting} {u v : Site} {traps : Bool} {rules : Rulebook} (h : Site.Same s u v)
include h

theorem headKind : u.head.kind = v.head.kind := by
  rw [h.head]

theorem kind : u.kind = v.kind := by
  rw [Site.kind, Site.kind, h.headKind]

theorem id_eq : u.id = v.id := by
  rw [Site.id, Site.id, h.head]

theorem isDisabled : u.head.isDisabled = v.head.isDisabled := by
  rw [h.head]
  rfl

theorem valueAt (socket : String) (required : Value) :
    Gen.Same s (u.valueAt socket required) (v.valueAt socket required) := by
  obtain ⟨hkind, hcode⟩ := h.inputs.plugged socket
  rw [u.valueAt_eq, v.valueAt_eq, h.kind, hkind]
  exact hcode.bind fun _ => .refl _

theorem body (socket : String) : Gen.Same s (u.body socket) (v.body socket) := by
  obtain ⟨hkind, hcode⟩ := h.statements.plugged socket
  rw [u.body_eq, v.body_eq, h.kind, hkind]
  exact hcode.bind fun _ => .refl _

theorem nextCode : Gen.Same s u.nextCode v.nextCode := by
  rw [u.nextCode_eq, v.nextCode_eq, h.kind, h.next.1]
  exact h.next.2.bind fun _ => .refl _

theorem hasInput (name : String) :
    (u.inputs.lookup name).isSome = (v.inputs.lookup name).isSome := by
  have hl := h.inputs.lookup name
  generalize u.inputs.lookup name = x at hl ⊢
  generalize v.inputs.lookup name = y at hl ⊢
  cases hl <;> rfl

theorem wrapped (config : Config) (code : String) : u.wrapped config code = v.wrapped config code := by
  rw [Site.wrapped, Site.wrapped, h.id_eq]

section Lines

variable (hlines : u.commentLines s.commentMark = v.commentLines s.commentMark)
include hlines

theorem sequence (code : String) : Gen.Same s (u.sequence code) (v.sequence code) := by
  intro r
  simp only [Site.sequence, exec_bind, exec_read, exec_ofExcept, hlines, h.nextCode _]

theorem sees (traps : Bool) : (Watch.blind s).pairing.Sees traps u v where
  kind_eq := h.kind
  fields_eq := by rw [h.head]
  mutation_eq := by rw [h.head]
  hasInput_eq := h.hasInput
  bare := fun _ => trivial
  asks_field := fun _ => trivial
  asks_argument := fun _ _ _ => trivial
  value := fun socket required => (h.valueAt socket required).relates fun _ => ⟨rfl, fun _ => rfl⟩
  body := fun socket => (h.body socket).relates fun _ => rfl
  joins := fun _ => trivial
  trap := fun _ => congrArg (insertionLines s.config.indent s.config.trap) h.id_eq
  before := fun _ => congrArg (insertionLines s.config.indent s.config.before) h.id_eq
  sequence := fun hab => Watch.whole_eq hab ▸ (h.sequence hlines _).relates fun _ => rfl

theorem placed (outcome : Outcome) : Gen.Same s (u.placed outcome) (v.placed outcome) := by
  cases outcome with
  | nothing => exact .refl _
  | statement code =>
    simp only [Site.placed, h.wrapped]
    exact (Gen.Same.refl _).bind fun _ => (h.sequence hlines _).bind fun _ => .refl _
  | value code rank => exact (h.sequence hlines code).bind fun _ => .refl _
  | misfit what => exact .refl _

theorem outcome (hrules : rules.Pairs traps) : Gen.Same s (u.outcome rules) (v.outcome rules) := by
  unfold Site.outcome
  rw [h.headKind, h.kind]
  intro r
  refine Gen.Same.exec_bind (H := Eq) (.refl _) (fun _ _ => rfl) (fun found r r' hfound => ?_) r
  rw [exec_ofExcept] at hfound
  cases found with
  | none => rfl
  | some rule =>
    obtain ⟨shape, name, -, hrule⟩ := hrules.ruleFor (congrArg Prod.fst hfound)
    exact hrule.same (h.sees hlines traps) r'

end Lines

/-- The code is the same if the comment lines are; of a disabled site these do not matter. -/
theorem emit (hrules : rules.Pairs traps)
    (hlines : u.head.isDisabled = false →
      u.commentLines s.commentMark = v.commentLines s.commentMark) :
    Gen.Same s (u.emit rules) (v.emit rules) := by
  cases hdisabled : u.head.isDisabled with
  | true =>
    rw [Site.emit, Site.emit, ← h.isDisabled, hdisabled, if_pos rfl, if_pos rfl, u.skipped_eq,
      v.skipped_eq]
    exact h.next.2
  | false =>
    have hsame := hlines hdisabled
    rw [emit_of_enabled hdisabled, emit_of_enabled (h.isDisabled ▸ hdisabled)]
    exact (h.outcome hsame hrules).bind (h.placed hsame)

end Site.Same

end BlockCode
