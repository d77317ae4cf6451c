import BlockCode.Proofs.Run.Agreement
import BlockCode.Proofs.Text.Lines

namespace BlockCode

open Text

/-- Settings that rules cannot tell apart. -/
structure Setting.Akin (s t : Setting) : Prop where
  conventions_eq : s.conventions = t.conventions
  placeholder_eq : s.config.placeholder = t.config.placeholder

theorem Setting.Akin.refl (s : Setting) : s.Akin s :=
  ⟨rfl, rfl⟩

/-- How the faults of two runs compare, and the kinds of connected blocks that they name. -/
structure FaultRelation where
  faults : Fault → Fault → Prop
  kinds : String → String → Prop
  faults_refl : ∀ fault, faults fault fault
  faults_statementAsValue : ∀ {k l} (socket parent : String), kinds k l →
    faults (.invalidEmission (.statementAsValue k socket parent))
      (.invalidEmission (.statementAsValue l socket parent))
  faults_valueAsStatement : ∀ {k l} (socket parent : String), kinds k l →
    faults (.invalidEmission (.valueAsStatement k socket parent))
      (.invalidEmission (.valueAsStatement l socket parent))
  faults_valueInChain : ∀ {k l} (before : String), kinds k l →
    faults (.invalidEmission (.valueInChain k before)) (.invalidEmission (.valueInChain l before))

/-- Faults that are the same. -/
def FaultRelation.exact : FaultRelation where
  faults := Eq
  kinds := Eq
  faults_refl := fun _ => rfl
  faults_statementAsValue := fun socket parent h =>
    congrArg (fun k => Fault.invalidEmission (.statementAsValue k socket parent)) h
  faults_valueAsStatement := fun socket parent h =>
    congrArg (fun k => Fault.invalidEmission (.valueAsStatement k socket parent)) h
  faults_valueInChain := fun before h =>
    congrArg (fun k => Fault.invalidEmission (.valueInChain k before)) h

/-- How the faults and texts of two runs compare. Values are the same in both, and whatever is known
of values holds of every text that ends with ink. Everything else is made of lines. -/
structure Comparison (s t : Setting) extends Setting.Akin s t, FaultRelation where
  kept : Context → Prop
  declared : List String → List String → Prop
  /-- Whether rules may give a line without ink. -/
  bare : Prop
  value : String → Prop
  /-- Texts of whole lines. -/
  lines : String → String → Prop
  /-- The code of chains. -/
  chain : String → String → Prop
  /-- The texts of definitions. -/
  text : String → String → Prop
  requests : Context.Kept kept
  value_name : ∀ {c name type grant names}, kept c → c.names.get name type = .ok (grant, names) →
    value (c.names.lead type ++ grant.chosen)
  value_of_ink : ∀ {a}, EndsInk a → value a
  value_append : ∀ {b} (a), value b → value (a ++ b)
  value_terminated : ∀ {a}, value a → value (a ++ s.conventions.terminator)
  lines_same : ∀ {a}, Closed a → lines a a
  lines_append : ∀ {a b x y}, lines a b → lines x y → lines (a ++ x) (b ++ y)
  lines_indented : ∀ {a}, EndsLine a → lines (s.config.indent ++ a) (t.config.indent ++ a)
  chain_empty : chain "" ""
  chain_eq_empty : ∀ {a b}, chain a b → (a = "" ↔ b = "")
  lines_of_chain : ∀ {a b}, chain a b → a ≠ "" →
    lines (leadLines s.config.indent a) (leadLines t.config.indent b)
  /-- Lines, and behind them a line that both texts end with. -/
  chain_of_lines : ∀ {a b c}, lines a b → value c → chain (a ++ c ++ "\n") (b ++ c ++ "\n")
  chain_join : ∀ {a b c d x y}, lines a b → chain c d → c ≠ "" → chain x y →
    chain (a ++ c ++ x) (b ++ d ++ y)
  text_same : ∀ a, text a a
  text_of_chain : ∀ {a b}, chain a b → text a b

namespace Comparison

variable {α β : Type} {s t : Setting} (c : Comparison s t)

/-- The actions come from matching runs to answers that compare and to matching runs. -/
abbrev Relates (Q : α → β → Prop) (x : Gen α) (y : Gen β) : Prop :=
  Gen.Relates (Run.Matches c.text c.kept c.declared) c.faults Q s t x y

section Requests

theorem answers_refl {Q : α → α → Prop} (h : ∀ a, Q a a) (x : Except Fault α) :
    Gen.Answers c.faults Q x x := by
  cases x with
  | ok a => exact h a
  | error fault => exact c.faults_refl fault

theorem ofExcept (x : Except Fault α) : c.Relates Eq (Gen.ofExcept x) (Gen.ofExcept x) :=
  .ofExcept (c.answers_refl (fun _ => rfl) x)

theorem faults_noActiveRun :
    c.faults (.noActiveRun s.conventions.generator) (.noActiveRun t.conventions.generator) := by
  rw [c.conventions_eq]
  exact c.faults_refl _

theorem nameOf (type : NameType) (name : Value) :
    c.Relates (fun a b => a = b ∧ c.value a) (Gen.nameOf type name) (Gen.nameOf type name) :=
  .nameOf c.faults_noActiveRun c.faults_refl c.requests type name c.value_name

theorem variableName (name : Value) :
    c.Relates (fun a b => a = b ∧ c.value a) (Gen.variableName name) (Gen.variableName name) :=
  c.nameOf .var name

theorem temporary (name : Value) : c.Relates Eq (Gen.temporary name) (Gen.temporary name) :=
  .temporary c.faults_noActiveRun c.faults_refl c.requests name

theorem provide (key : Value) (template : List String) :
    c.Relates Eq (Gen.provide key template) (Gen.provide key template) :=
  .provide c.faults_noActiveRun c.faults_refl c.requests c.text_same key template

theorem define (key : Value) {a b : String} (hab : c.text a b) :
    c.Relates Eq (Gen.define key a) (Gen.define key b) :=
  .define c.faults_noActiveRun c.faults_refl c.requests key hab

theorem indent : c.Relates (fun a b => a = s.config.indent ∧ b = t.config.indent) Gen.indent
    Gen.indent :=
  .read_bind (.pure ⟨rfl, rfl⟩)

end Requests

/-- Texts in the making: lines that compare, and behind them what both texts share. -/
def Part (a b : String) : Prop :=
  ∃ x y z, a = x ++ z ∧ b = y ++ z ∧ c.lines x y

/-- Statements: texts in the making that end with the same line. -/
def Whole (a b : String) : Prop :=
  ∃ x y z, a = x ++ z ++ "\n" ∧ b = y ++ z ++ "\n" ∧ c.lines x y ∧ c.value z

section Texts

variable {c} {a b d : String}

theorem part_same (a : String) : c.Part a a :=
  ⟨"", "", a, String.empty_append.symm, String.empty_append.symm, c.lines_same closed_empty⟩

theorem Part.append (h : c.Part a b) (d : String) : c.Part (a ++ d) (b ++ d) := by
  obtain ⟨x, y, z, rfl, rfl, hxy⟩ := h
  exact ⟨x, y, z ++ d, String.append_assoc, String.append_assoc, hxy⟩

/-- Behind a newline there is room for lines. -/
theorem Part.lines (h : c.Part a b) (hd : EndsLine d) {x y : String} (hxy : c.lines x y) :
    c.Part (a ++ d ++ x) (b ++ d ++ y) := by
  obtain ⟨x', y', z, rfl, rfl, h⟩ := h
  refine ⟨x' ++ (z ++ d) ++ x, y' ++ (z ++ d) ++ y, "", ?_, ?_, ?_⟩
  · simp only [String.append_empty, String.append_assoc]
  · simp only [String.append_empty, String.append_assoc]
  · exact c.lines_append (c.lines_append h (c.lines_same (hd.append z).closed)) hxy

theorem Part.whole (h : c.Part a b) (hd : c.value d) : c.Whole (a ++ d ++ "\n") (b ++ d ++ "\n") := by
  obtain ⟨x, y, z, rfl, rfl, hxy⟩ := h
  refine ⟨x, y, z ++ d, ?_, ?_, hxy, c.value_append z hd⟩
  · simp only [String.append_assoc]
  · simp only [String.append_assoc]

theorem Whole.ne_empty (h : c.Whole a b) : a ≠ "" := by
  obtain ⟨x, y, z, rfl, -⟩ := h
  exact (endsLine_newline _).ne_empty

theorem Whole.chain (h : c.Whole a b) : c.chain a b := by
  obtain ⟨x, y, z, rfl, rfl, hxy, hz⟩ := h
  exact c.chain_of_lines hxy hz

end Texts

/-- What rules write: a statement, or a bare line. -/
def Written (a b : String) : Prop :=
  c.Whole a b ∨ c.bare ∧ a = "\n" ∧ b = "\n"

theorem Written.ne_empty {c : Comparison s t} {a b : String} (h : c.Written a b) : a ≠ "" := by
  rcases h with h | ⟨-, rfl, -⟩
  · exact h.ne_empty
  · decide

/-- How the results of rules compare. No rule gives a result that does not fit. -/
def Outcome : BlockCode.Outcome → BlockCode.Outcome → Prop
  | .nothing, .nothing => True
  | .statement a, .statement b => c.Written a b
  | .value a rank, .value b other => a = b ∧ rank = other ∧ c.value a
  | _, _ => False

/-- How the code of blocks compares. The value of a block that stands in no value socket is compared
as a line, with the comments in front of it. -/
def Emission (inline : Bool) : BlockCode.Emission → BlockCode.Emission → Prop
  | .statement a, .statement b => c.chain a b
  | .value a rank, .value b other =>
    rank = other ∧ if inline then a = b ∧ c.value a else c.chain (a ++ "\n") (b ++ "\n")
  | _, _ => False

/-- Nothing is lost in the comparison. -/
structure Exact : Prop where
  bare : c.bare
  value : ∀ a, c.value a
  lines : ∀ {a b}, c.lines a b ↔ a = b
  chain : ∀ {a b}, c.chain a b ↔ a = b

theorem Written.eq {c : Comparison s t} (hexact : c.Exact) {a b : String} (h : c.Written a b) :
    a = b := by
  rcases h with ⟨x, y, z, rfl, rfl, hxy, -⟩ | ⟨-, rfl, rfl⟩
  · rw [hexact.lines.1 hxy]
  · rfl

end Comparison

end BlockCode
