import BlockCode.Generation.Run
import Mathlib.Logic.Function.Basic
import Mathlib.Tactic.Ring

namespace BlockCode.Loop

/-- What the variables of a generated program hold. -/
abbrev Store := String → Int

/-- Expressions in the heads of loops and in front of them. -/
inductive Term where
  | number (n : Int)
  | name (x : String)
  | opposite (x : String)
  | size (x : String)
  deriving DecidableEq, Repr

namespace Term

def text : Term → String
  | .number n => toString n
  | .name x => x
  | .opposite x => "-" ++ x
  | .size x => "abs(" ++ x ++ ")"

def eval (σ : Store) : Term → Int
  | .number n => n
  | .name x => σ x
  | .opposite x => -σ x
  | .size x => (σ x).natAbs

@[simp] theorem eval_number (σ : Store) (n : Int) : (number n).eval σ = n :=
  rfl

@[simp] theorem eval_name (σ : Store) (x : String) : (name x).eval σ = σ x :=
  rfl

def names : Term → List String
  | .number _ => []
  | .name x => [x]
  | .opposite x => [x]
  | .size x => [x]

@[simp] theorem names_number (n : Int) : (number n).names = [] :=
  rfl

theorem eval_congr {e : Term} {σ τ : Store} (h : ∀ x ∈ e.names, τ x = σ x) :
    e.eval τ = e.eval σ := by
  cases e with
  | number n => rfl
  | name x => exact h x List.mem_cons_self
  | opposite x => exact congrArg (- ·) (h x List.mem_cons_self)
  | size x => exact congrArg (fun n : Int => (n.natAbs : Int)) (h x List.mem_cons_self)

end Term

inductive Relation where
  | below
  | atMost
  | above
  | atLeast
  deriving DecidableEq, Repr

namespace Relation

def sign : Relation → String
  | .below => "<"
  | .atMost => "<="
  | .above => ">"
  | .atLeast => ">="

def holds (m n : Int) : Relation → Bool
  | .below => m < n
  | .atMost => m ≤ n
  | .above => m > n
  | .atLeast => m ≥ n

variable {m n : Int}

@[simp] theorem holds_below : below.holds m n = true ↔ m < n :=
  decide_eq_true_iff

@[simp] theorem holds_atMost : atMost.holds m n = true ↔ m ≤ n :=
  decide_eq_true_iff

@[simp] theorem holds_above : above.holds m n = true ↔ n < m :=
  decide_eq_true_iff

@[simp] theorem holds_atLeast : atLeast.holds m n = true ↔ n ≤ m :=
  decide_eq_true_iff

end Relation

structure Test where
  left : Term
  relation : Relation
  right : Term

namespace Test

def text (t : Test) : String :=
  t.left.text ++ " " ++ t.relation.sign ++ " " ++ t.right.text

def holds (σ : Store) (t : Test) : Bool :=
  t.relation.holds (t.left.eval σ) (t.right.eval σ)

end Test

/-- Alternatives, each of them a list of tests that have to hold together. -/
structure Condition where
  alternatives : List (List Test)

namespace Condition

def text (c : Condition) : String :=
  " || ".intercalate (c.alternatives.map fun tests => " && ".intercalate (tests.map Test.text))

def holds (σ : Store) (c : Condition) : Bool :=
  c.alternatives.any fun tests => tests.all (Test.holds σ)

end Condition

/-- What stands in front of a loop: assignments, some of them under a condition. -/
inductive Statement where
  | set (x : String) (e : Term)
  | setIf (test : Test) (x : String) (e : Term)

namespace Statement

def text (s : Setting) : Statement → String
  | .set x e => s.statement (x ++ " = " ++ e.text)
  | .setIf test x e =>
    "IF (" ++ test.text ++ ")\n" ++ s.config.indent ++ s.statement (x ++ " = " ++ e.text) ++ "END\n"

def exec (σ : Store) : Statement → Store
  | .set x e => Function.update σ x (e.eval σ)
  | .setIf test x e => if test.holds σ then Function.update σ x (e.eval σ) else σ

end Statement

/-- The head of a loop. Without a step of its own, a counting loop counts by one toward the last value
and a tested loop counts up by one. -/
inductive Head where
  | counting (first last : Term) (step : Option Term)
  | tested (first : Term) (condition : Condition) (step : Option Term)

/-- Whether the last value has been passed in the direction of the step. -/
def isPassed (step last value : Int) : Bool :=
  if 0 ≤ step then last < value else value < last

namespace Head

variable (counter : String)

def text : Head → String
  | .counting first last step =>
    "FROM " ++ counter ++ " = " ++ first.text ++ " TO " ++ last.text ++
      step.elim "" (" STEP " ++ ·.text) ++ ";\n"
  | .tested first condition step =>
    "FOR (" ++ counter ++ " = " ++ first.text ++ "; " ++ condition.text ++ "; " ++ counter ++
      step.elim "++" (" += " ++ ·.text) ++ ")\n"

theorem text_counting (first last : Term) (step : Option Term) :
    (counting first last step).text counter =
      "FROM " ++ counter ++ " = " ++ first.text ++ " TO " ++ last.text ++
        step.elim "" (" STEP " ++ ·.text) ++ ";\n" :=
  rfl

theorem text_tested (first : Term) (condition : Condition) (step : Option Term) :
    (tested first condition step).text counter =
      "FOR (" ++ counter ++ " = " ++ first.text ++ "; " ++ condition.text ++ "; " ++ counter ++
        step.elim "++" (" += " ++ ·.text) ++ ")\n" :=
  rfl

def first : Head → Term
  | .counting first _ _ => first
  | .tested first _ _ => first

/-- The names that the bounds are read from. -/
def bounds : Head → List String
  | .counting first last _ => first.names ++ last.names
  | .tested first condition _ =>
    first.names ++ condition.alternatives.flatten.flatMap fun test => test.right.names

def isCounting : Head → Bool
  | .counting _ _ _ => true
  | .tested _ _ _ => false

/-- What is added to the counter after a turn that ends with the given store. -/
def step (entry σ : Store) : Head → Int
  | .counting first last none => if last.eval entry < first.eval entry then -1 else 1
  | .counting _ _ (some e) => e.eval entry
  | .tested _ _ none => 1
  | .tested _ _ (some e) => e.eval σ

/-- Whether there is another turn, in a loop that was entered with the store `entry`. -/
def goesOn (entry σ : Store) (head : Head) : Bool :=
  match head with
  | .counting _ last _ => !isPassed (head.step entry σ) (last.eval entry) (σ counter)
  | .tested _ condition _ => condition.holds σ

end Head

/-- A loop with what stands in front of it. -/
structure Code where
  setup : List Statement
  counter : String
  head : Head

section Turns

variable (counter : String) (goesOn : Store → Bool) (step : Store → Int) (body : Store → Store)

/-- The store after a turn. -/
def turn (σ : Store) : Store :=
  let τ := body σ
  Function.update τ counter (τ counter + step τ)

/-- The values of the counter in the turns of a loop that ends. -/
inductive Turns : Store → List Int → Prop where
  | ends {σ : Store} (h : goesOn σ = false) : Turns σ []
  | turn {σ : Store} {values : List Int} (h : goesOn σ = true)
    (rest : Turns (turn counter step body σ) values) : Turns σ (σ counter :: values)

end Turns

namespace Code

def text (s : Setting) (body : String) (code : Code) : String :=
  String.join (code.setup.map (Statement.text s)) ++ code.head.text code.counter ++ body ++ "END\n"

/-- The store with which the loop is entered. -/
def entry (code : Code) (σ : Store) : Store :=
  code.setup.foldl Statement.exec σ

/-- Run from the store, the code comes to an end and the loop visits the values. -/
def Visits (code : Code) (body : Store → Store) (σ : Store) (values : List Int) : Prop :=
  let entry := code.entry σ
  Turns code.counter (fun τ => code.head.goesOn code.counter entry τ)
    (fun τ => code.head.step entry τ) body
    (Function.update entry code.counter (code.head.first.eval entry)) values

end Code

/-- Values at equal distances. -/
def walk (start step : Int) (count : Nat) : List Int :=
  (List.range count).map fun k : Nat => start + k * step

theorem walk_succ (start step : Int) (count : Nat) :
    walk start step (count + 1) = start :: walk (start + step) step count := by
  rw [walk, List.range_succ_eq_map, List.map_cons, List.map_map, walk]
  refine congrArg₂ List.cons (by simp) (List.map_congr_left fun k _ => ?_)
  simp only [Function.comp_apply, Nat.cast_succ]
  ring

theorem length_walk (start step : Int) (count : Nat) : (walk start step count).length = count := by
  simp [walk]

/-- The number of turns still to come. -/
def remaining (step last value : Int) : Nat :=
  if isPassed step last value then 0 else (last - value).natAbs / step.natAbs + 1

section Remaining

variable {step last value : Int}

theorem remaining_pos : 0 < remaining step last value ↔ isPassed step last value = false := by
  unfold remaining
  split <;> simp_all

theorem isPassed_iff :
    isPassed step last value = true ↔ 0 ≤ step ∧ last < value ∨ step < 0 ∧ value < last := by
  unfold isPassed
  split <;> simp only [decide_eq_true_eq] <;> omega

/-- Each turn leaves one turn less. -/
theorem remaining_next (hstep : step ≠ 0) (h : isPassed step last value = false) :
    remaining step last (value + step) + 1 = remaining step last value := by
  have hrange : ¬ (0 ≤ step ∧ last < value ∨ step < 0 ∧ value < last) := by
    rw [← isPassed_iff, h]
    decide
  have hnext : isPassed step last (value + step) = true ↔ (last - value).natAbs < step.natAbs := by
    rw [isPassed_iff]
    omega
  simp only [remaining, h, Bool.false_eq_true, if_false]
  by_cases hlast : (last - value).natAbs < step.natAbs
  · rw [if_pos (hnext.2 hlast), Nat.div_eq_of_lt hlast]
  · have hless : (last - (value + step)).natAbs = (last - value).natAbs - step.natAbs := by
      omega
    rw [if_neg (mt hnext.1 hlast), hless,
      Nat.div_eq_sub_div (Int.natAbs_pos.2 hstep) (Nat.not_lt.1 hlast)]

end Remaining

section Turns

variable {counter : String} {goesOn : Store → Bool} {step : Store → Int} {body : Store → Store}

/-- A loop goes through values at equal distances if a fact about the store that is kept from turn to
turn makes its test and its step those of a count. -/
theorem turns_iff_walk {I : Store → Prop} {d last : Int} (hd : d ≠ 0)
    (hgoes : ∀ σ, I σ → goesOn σ = !isPassed d last (σ counter))
    (hturn : ∀ σ, I σ →
      I (turn counter step body σ) ∧ turn counter step body σ counter = σ counter + d)
    {σ : Store} (hσ : I σ) (values : List Int) :
    Turns counter goesOn step body σ values ↔
      values = walk (σ counter) d (remaining d last (σ counter)) := by
  generalize hcount : remaining d last (σ counter) = count
  induction count generalizing σ values with
  | zero =>
    have hends : goesOn σ = false := by
      have hpassed := mt remaining_pos.2 (Nat.not_lt.2 (Nat.le_of_eq hcount))
      rw [hgoes σ hσ]
      simpa using hpassed
    constructor
    · intro h
      cases h with
      | ends _ => rfl
      | turn hon _ => cases hends.symm.trans hon
    · rintro rfl
      exact .ends hends
  | succ count ih =>
    have hpassed : isPassed d last (σ counter) = false := remaining_pos.1 (by omega)
    have hon : goesOn σ = true := by rw [hgoes σ hσ, hpassed]; rfl
    obtain ⟨hnext, hcounter⟩ := hturn σ hσ
    have hrest := fun values => ih hnext values (by
      have hless := remaining_next hd hpassed
      rw [hcounter]
      omega)
    rw [hcounter] at hrest
    rw [walk_succ]
    constructor
    · intro h
      cases h with
      | ends hends => cases hends.symm.trans hon
      | turn _ rest => rw [(hrest _).1 rest]
    · rintro rfl
      exact .turn hon ((hrest _).2 rfl)

end Turns

/-- The step that leads from the first value toward the last one, of the given size. -/
def stride (first last size : Int) : Int :=
  if last < first then -(size.natAbs : Int) else size.natAbs

/-- From the first value in steps of the given size toward the last one, which is not passed. -/
def progression (first last size : Int) : List Int :=
  walk first (stride first last size) ((last - first).natAbs / size.natAbs + 1)

section Stride

variable {first last size : Int}

theorem stride_ne_zero (h : size ≠ 0) : stride first last size ≠ 0 := by
  unfold stride
  split <;> omega

theorem remaining_stride (h : size ≠ 0) :
    remaining (stride first last size) last first = (last - first).natAbs / size.natAbs + 1 := by
  have hfirst : ¬ isPassed (stride first last size) last first = true := by
    rw [isPassed_iff, stride]
    split <;> omega
  have hsize : (stride first last size).natAbs = size.natAbs := by
    unfold stride
    split <;> omega
  rw [remaining, if_neg hfirst, hsize]

theorem remaining_one (n : Int) : remaining 1 n 1 = n.toNat := by
  have hpassed : isPassed 1 n 1 = true ↔ n < 1 := by
    rw [isPassed_iff]
    omega
  unfold remaining
  rw [Int.natAbs_one, Nat.div_one]
  split
  · next h =>
    rw [hpassed] at h
    omega
  · next h =>
    rw [hpassed] at h
    omega

end Stride

/-- The test of a loop that counts up or down to the last value, as the sign of the step says. -/
def towards (counter step : String) (last : Term) : Condition :=
  ⟨[[⟨.name step, .atLeast, .number 0⟩, ⟨.name counter, .atMost, last⟩],
    [⟨.name step, .below, .number 0⟩, ⟨.name counter, .atLeast, last⟩]]⟩

/-- The test of a loop that counts up to the last value. -/
def upTo (counter : String) (last : Term) : Condition :=
  ⟨[[⟨.name counter, .atMost, last⟩]]⟩

theorem holds_towards (counter step : String) (last : Term) (σ : Store) :
    (towards counter step last).holds σ = !isPassed (σ step) (last.eval σ) (σ counter) := by
  have hholds : (towards counter step last).holds σ = true ↔
      0 ≤ σ step ∧ σ counter ≤ last.eval σ ∨ σ step < 0 ∧ last.eval σ ≤ σ counter := by
    simp [Condition.holds, towards, Test.holds]
  rw [Bool.eq_iff_iff, hholds, Bool.not_eq_true', ← Bool.not_eq_true, isPassed_iff]
  omega

theorem holds_upTo (counter : String) (last : Term) (σ : Store) :
    (upTo counter last).holds σ = !isPassed 1 (last.eval σ) (σ counter) := by
  have hholds : (upTo counter last).holds σ = true ↔ σ counter ≤ last.eval σ := by
    simp [Condition.holds, upTo, Test.holds]
  rw [Bool.eq_iff_iff, hholds, Bool.not_eq_true', ← Bool.not_eq_true, isPassed_iff]
  omega

namespace Code

variable {code : Code} {body : Store → Store} {σ : Store}

/-- A loop goes through values at equal distances if the names that its test and its step are evaluated
from are left alone. -/
theorem visits_iff_walk {names : List String} {d last : Int} (hd : d ≠ 0)
    (hcounter : code.counter ∉ names) (hbody : ∀ τ, ∀ x ∈ code.counter :: names, body τ x = τ x)
    (hgoes : ∀ τ, (∀ x ∈ names, τ x = code.entry σ x) →
      code.head.goesOn code.counter (code.entry σ) τ = !isPassed d last (τ code.counter))
    (hstep : ∀ τ, (∀ x ∈ names, τ x = code.entry σ x) → code.head.step (code.entry σ) τ = d)
    (values : List Int) :
    code.Visits body σ values ↔
      values = walk (code.head.first.eval (code.entry σ)) d
        (remaining d last (code.head.first.eval (code.entry σ))) := by
  have hnames : ∀ {x}, x ∈ names → x ≠ code.counter := fun hx hc => hcounter (hc ▸ hx)
  have hturn : ∀ τ, (∀ x ∈ names, τ x = code.entry σ x) →
      let next := turn code.counter (fun τ => code.head.step (code.entry σ) τ) body τ
      (∀ x ∈ names, next x = code.entry σ x) ∧ next code.counter = τ code.counter + d := by
    intro τ hτ next
    have hrest : ∀ x ∈ names, body τ x = code.entry σ x := fun x hx =>
      (hbody τ x (List.mem_cons_of_mem _ hx)).trans (hτ x hx)
    constructor
    · intro x hx
      exact (Function.update_of_ne (hnames hx) _ _).trans (hrest x hx)
    · refine (Function.update_self _ _ _).trans ?_
      rw [hbody τ _ List.mem_cons_self]
      exact congrArg (τ code.counter + ·) (hstep _ hrest)
  have hstart : ∀ x ∈ names, Function.update (code.entry σ) code.counter
      (code.head.first.eval (code.entry σ)) x = code.entry σ x := fun x hx =>
    Function.update_of_ne (hnames hx) _ _
  have hwalk := turns_iff_walk hd hgoes hturn hstart values
  rwa [Function.update_self] at hwalk

theorem visits_counting {first last : Term} {step : Option Term}
    (hhead : code.head = .counting first last step) {d : Int} (hd : d ≠ 0)
    (hstep : code.head.step (code.entry σ) σ = d) (hbody : ∀ τ, body τ code.counter = τ code.counter)
    (values : List Int) :
    code.Visits body σ values ↔ values = walk (first.eval (code.entry σ)) d
      (remaining d (last.eval (code.entry σ)) (first.eval (code.entry σ))) := by
  have hsame : ∀ τ, code.head.step (code.entry σ) τ = d := by
    intro τ
    rw [← hstep, hhead]
    cases step <;> rfl
  have hgoes : ∀ τ, code.head.goesOn code.counter (code.entry σ) τ =
      !isPassed d (last.eval (code.entry σ)) (τ code.counter) := by
    intro τ
    rw [← hsame τ, hhead]
    rfl
  have hwalk := visits_iff_walk hd List.not_mem_nil
    (fun τ x hx => List.mem_singleton.1 hx ▸ hbody τ) (fun τ _ => hgoes τ) (fun τ _ => hsame τ) values
  rwa [hhead] at hwalk

theorem visits_towards {first last : Term} {step : String}
    (hhead : code.head = .tested first (towards code.counter step last) (some (.name step)))
    (hcounter : code.counter ∉ step :: last.names) (hstep : code.entry σ step ≠ 0)
    (hbody : ∀ τ, ∀ x ∈ code.counter :: step :: last.names, body τ x = τ x) (values : List Int) :
    code.Visits body σ values ↔ values = walk (first.eval (code.entry σ)) (code.entry σ step)
      (remaining (code.entry σ step) (last.eval (code.entry σ)) (first.eval (code.entry σ))) := by
  have hgoes : ∀ τ, (∀ x ∈ step :: last.names, τ x = code.entry σ x) →
      code.head.goesOn code.counter (code.entry σ) τ =
        !isPassed (code.entry σ step) (last.eval (code.entry σ)) (τ code.counter) := by
    intro τ hτ
    rw [hhead, Head.goesOn, holds_towards, hτ step List.mem_cons_self,
      Term.eval_congr fun x hx => hτ x (List.mem_cons_of_mem _ hx)]
  have hadds : ∀ τ, (∀ x ∈ step :: last.names, τ x = code.entry σ x) →
      code.head.step (code.entry σ) τ = code.entry σ step := by
    intro τ hτ
    rw [hhead]
    exact hτ step List.mem_cons_self
  have hwalk := visits_iff_walk hstep hcounter hbody hgoes hadds values
  rwa [hhead] at hwalk

theorem visits_upTo {first last : Term}
    (hhead : code.head = .tested first (upTo code.counter last) none)
    (hcounter : code.counter ∉ last.names)
    (hbody : ∀ τ, ∀ x ∈ code.counter :: last.names, body τ x = τ x) (values : List Int) :
    code.Visits body σ values ↔ values = walk (first.eval (code.entry σ)) 1
      (remaining 1 (last.eval (code.entry σ)) (first.eval (code.entry σ))) := by
  have hgoes : ∀ τ, (∀ x ∈ last.names, τ x = code.entry σ x) →
      code.head.goesOn code.counter (code.entry σ) τ =
        !isPassed 1 (last.eval (code.entry σ)) (τ code.counter) := by
    intro τ hτ
    rw [hhead, Head.goesOn, holds_upTo, Term.eval_congr hτ]
  have hadds : ∀ τ, (∀ x ∈ last.names, τ x = code.entry σ x) →
      code.head.step (code.entry σ) τ = 1 := by
    intro τ _
    rw [hhead]
    rfl
  have hwalk := visits_iff_walk Int.one_ne_zero hcounter hbody hgoes hadds values
  rwa [hhead] at hwalk

end Code

/-- The size of the step is set, and its sign is turned if the last value is below the first one. -/
theorem exec_turned {step : String} {size start finish : Term} {σ : Store} {n : Int}
    (hsize : size.eval σ = n.natAbs) (hnames : step ∉ start.names ++ finish.names) :
    [Statement.set step size, .setIf ⟨start, .above, finish⟩ step (.opposite step)].foldl
        Statement.exec σ =
      Function.update σ step (stride (start.eval σ) (finish.eval σ) n) := by
  have hkeep : ∀ e : Term, step ∉ e.names → e.eval (Function.update σ step (size.eval σ)) =
      e.eval σ := by
    intro e he
    refine Term.eval_congr fun x hx => Function.update_of_ne ?_ _ _
    rintro rfl
    exact he hx
  rw [List.mem_append, not_or] at hnames
  simp only [List.foldl_cons, List.foldl_nil, Statement.exec, Test.holds, Relation.holds_above,
    hkeep start hnames.1, hkeep finish hnames.2, stride]
  split
  · rw [Function.update_idem, Term.eval, Function.update_self, hsize]
  · rw [hsize]

end BlockCode.Loop
