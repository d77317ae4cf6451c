import BlockCode.Proofs.Run.Blocks

namespace BlockCode

namespace Gen

variable {α : Type} {s : Setting} {P : Run → Prop} {E : Fault → Prop}

/-- An action next to itself. -/
theorem Relates.same {x : Gen α} {Q : α → Prop}
    (h : ∀ r, P r → P (exec x s r).2 ∧ (∀ fault, (exec x s r).1 = .error fault → E fault) ∧
      ∀ a, (exec x s r).1 = .ok a → Q a) :
    Relates (fun r q => r = q ∧ P r) (fun f g => f = g ∧ E f) (fun a b => a = b ∧ Q a) s s x x := by
  rintro r _ ⟨rfl, hr⟩
  obtain ⟨hP, hE, hQ⟩ := h r hr
  refine ⟨?_, rfl, hP⟩
  cases hx : (exec x s r).1 with
  | error fault => exact ⟨rfl, hE fault hx⟩
  | ok a => exact ⟨rfl, hQ a hx⟩

end Gen

/-- What is to be kept along a run: a fact about the run, which every request keeps, and what holds of
its faults and requests. -/
structure Watch (s : Setting) where
  run : Run → Prop
  fault : Fault → Prop
  request : Option (Gen.Request → Prop)
  /-- The variables of the program that may be asked for. -/
  asks : Value → Prop
  fault_of_fits : ∀ {f : Fault}, f.isEmission = false → fault f
  nameOf : ∀ type name, (type = .var → asks name) →
    Gen.Tracks request (fun r q => r = q ∧ run r) (fun f g => f = g ∧ fault f) Eq s s
      (Gen.nameOf type name) (Gen.nameOf type name)
  temporary : ∀ name,
    Gen.Tracks request (fun r q => r = q ∧ run r) (fun f g => f = g ∧ fault f) Eq s s
      (Gen.temporary name) (Gen.temporary name)
  provide : ∀ key template,
    Gen.Tracks request (fun r q => r = q ∧ run r) (fun f g => f = g ∧ fault f) Eq s s
      (Gen.provide key template) (Gen.provide key template)
  define : ∀ key code,
    Gen.Tracks request (fun r q => r = q ∧ run r) (fun f g => f = g ∧ fault f) Eq s s
      (Gen.define key code) (Gen.define key code)

namespace Watch

variable {s : Setting}

/-- The run next to itself. -/
def pairing (w : Watch s) : Pairing s s where
  runs := fun r q => r = q ∧ w.run r
  faults := fun f g => f = g ∧ w.fault f
  request := w.request
  asks := w.asks
  bare := True
  joins := True
  value := Eq
  part := Eq
  lines := Eq
  chain := Eq
  toAkin := .refl s
  toCodeRelation := .exact
  faults_refl := fun h => ⟨rfl, w.fault_of_fits h⟩
  nameOf := fun type name h => (w.nameOf type name h).imp fun _ _ hab => ⟨hab, rfl⟩
  temporary := w.temporary
  provide := w.provide
  define := fun key _ _ h => h ▸ w.define key _
  value_code := fun h => h
  value_of_ink := fun _ => rfl
  value_append := CodeRelation.exact.code_append
  value_terminated := fun h => h ▸ rfl
  part_append := CodeRelation.exact.code_append
  part_body := fun h _ h' => h ▸ h' ▸ rfl
  lines_empty := rfl
  lines_append := fun _ => CodeRelation.exact.code_append
  lines_indented := fun h => h ▸ rfl

theorem whole_eq {w : Watch s} {a b : String} (h : w.pairing.Whole a b) : a = b := by
  obtain ⟨x, y, z, _, rfl, rfl, hxy, rfl⟩ := h
  have hempty : "" ++ x = "" ++ y := hxy "" "" rfl
  rw [String.empty_append, String.empty_append] at hempty
  rw [hempty]

/-- Nothing is known. -/
def blind (s : Setting) : Watch s :=
  have hsame : ∀ {α : Type} (x : Gen α),
      Gen.Tracks none (fun r q => r = q ∧ True) (fun f g => f = g ∧ True) Eq s s x x := by
    intro α x
    refine ⟨(Gen.Relates.same (Q := fun _ => True) fun _ _ => ?_).imp fun _ _ hab => hab.1, nofun⟩
    exact ⟨trivial, fun _ _ => trivial, fun _ _ => trivial⟩
  { run := fun _ => True
    fault := fun _ => True
    request := none
    asks := fun _ => True
    fault_of_fits := fun _ => trivial
    nameOf := fun _ _ _ => hsame _
    temporary := fun _ => hsame _
    provide := fun _ _ => hsame _
    define := fun _ _ => hsame _ }

/-- Then any site can be looked at, whatever its connections do. -/
theorem blind_sees (s : Setting) (traps : Bool) (u : Site) : (blind s).pairing.Sees traps u u := by
  have hsame : ∀ {α : Type} {Q : α → α → Prop} (x : Gen α), (∀ a, Q a a) →
      (blind s).pairing.Relates Q x x := by
    intro α Q x hQ
    refine ⟨(Gen.Relates.same (Q := fun _ => True) fun _ _ => ?_).imp ?_, nofun⟩
    · exact ⟨trivial, fun _ _ => trivial, fun _ _ => trivial⟩
    · rintro a _ ⟨rfl, -⟩
      exact hQ a
  exact
    { kind_eq := rfl
      fields_eq := rfl
      mutation_eq := rfl
      hasInput_eq := fun _ => rfl
      bare := fun _ => trivial
      asks_field := fun _ => trivial
      asks_argument := fun _ _ _ => trivial
      value := fun _ _ => hsame _ fun _ => ⟨rfl, fun _ => rfl⟩
      body := fun _ => hsame _ fun _ => rfl
      joins := fun _ => trivial
      trap := fun _ => rfl
      before := fun _ => rfl
      sequence := fun hab => whole_eq hab ▸ hsame _ fun _ => rfl }

end Watch

section Shapes

variable {traps : Bool} {rules : Rulebook} {kind : Value}

/-- What a rule can give is of the shape that its kind is for. -/
theorem Rule.Pairs.outcome {shape : Shape} {kind : String} {rule : Rule}
    (h : Rule.Pairs traps shape kind rule) {u : Site} {outcome : Outcome}
    (hgive : Gen.CanGive (rule u) outcome) :
    ∃ s, (Watch.blind s).pairing.Outcome shape outcome outcome := by
  obtain ⟨s, r, hgive⟩ := hgive
  have hrule := h (Watch.blind s).pairing (.inl trivial) (Watch.blind_sees s traps u)
  have hanswers := (hrule.relates r r ⟨rfl, trivial⟩).1
  rw [hgive] at hanswers
  exact ⟨s, hanswers⟩

/-- Whether the rule for a kind can give a statement, or nothing in place of one. -/
def Rulebook.IsStatementKind (rules : Rulebook) (kind : Value) : Prop :=
  ∃ rule, rules.ruleFor kind = .ok (some rule) ∧
    ∃ site, Gen.CanGive (rule site) .nothing ∨ ∃ code, Gen.CanGive (rule site) (.statement code)

namespace Rulebook.Pairs

theorem ruleFor (h : rules.Pairs traps) {rule : Rule} (hr : rules.ruleFor kind = .ok (some rule)) :
    ∃ shape name, kind = .text name ∧ Rule.Pairs traps shape name rule := by
  unfold Rulebook.ruleFor at hr
  split at hr
  · next name =>
    obtain ⟨shape, hrule⟩ := h name rule (Except.ok.inj hr)
    exact ⟨shape, name, rfl, hrule⟩
  · split at hr <;> cases hr

variable {shape : Shape} {name : String} {rule : Rule} (h : Rule.Pairs traps shape name rule)
  (hr : rules.ruleFor kind = .ok (some rule))
include h hr

theorem shape_of_isValueKind (hkind : rules.IsValueKind kind) : shape = .value := by
  obtain ⟨other, hr', site, code, rank, hgive⟩ := hkind
  cases hr.symm.trans hr'
  obtain ⟨s, hout⟩ := h.outcome hgive
  cases shape with
  | statement => exact hout.elim
  | value => rfl

theorem shape_of_isStatementKind (hkind : rules.IsStatementKind kind) : shape = .statement := by
  obtain ⟨other, hr', site, hgive⟩ := hkind
  cases hr.symm.trans hr'
  cases shape with
  | statement => rfl
  | value =>
    rcases hgive with hgive | ⟨code, hgive⟩
    · obtain ⟨s, hout⟩ := h.outcome hgive
      exact hout.elim
    · obtain ⟨s, hout⟩ := h.outcome hgive
      exact hout.elim

omit h hr in
/-- No kind is both for values and for statements. -/
theorem not_isValueKind (hrules : rules.Pairs traps) (hkind : rules.IsStatementKind kind) :
    ¬ rules.IsValueKind kind := by
  intro hvalue
  obtain ⟨rule, hr, hgive⟩ := hvalue
  obtain ⟨shape, name, -, h⟩ := hrules.ruleFor hr
  have hstatement := shape_of_isStatementKind h hr hkind
  have hvalue := shape_of_isValueKind h hr ⟨rule, hr, hgive⟩
  cases hstatement.symm.trans hvalue

end Rulebook.Pairs

/-- Code is of the sort that the kind of its block is for. -/
def Emission.IsSorted (rules : Rulebook) (kind : Value) (e : Emission) : Prop :=
  (rules.IsValueKind kind → e.isMisplaced true = false) ∧
    (rules.IsStatementKind kind → e.isMisplaced false = false)

theorem Emission.isSorted_of_shape {shape : Shape} {name : String} {rule : Rule} {e : Emission}
    (h : Rule.Pairs traps shape name rule) (hr : rules.ruleFor kind = .ok (some rule))
    (he : e.isMisplaced (decide (shape = .value)) = false) : e.IsSorted rules kind := by
  constructor
  · intro hkind
    rw [Rulebook.Pairs.shape_of_isValueKind h hr hkind] at he
    exact he
  · intro hkind
    rw [Rulebook.Pairs.shape_of_isStatementKind h hr hkind] at he
    exact he

end Shapes

end BlockCode
