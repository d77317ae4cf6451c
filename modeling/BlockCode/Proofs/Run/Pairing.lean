import BlockCode.Operand
import BlockCode.Proofs.Name.Allocation
import BlockCode.Proofs.Run.Faults
import BlockCode.Proofs.Run.Requests
import BlockCode.Proofs.Run.Sites

namespace BlockCode

open Text

namespace Text

/-- Characters that stand neither in names nor in numbers. -/
def isMark (c : Char) : Bool :=
  c == ')' || c == '\x7b' || c == ';'

def HasMark (s : String) : Prop :=
  s.toList.any isMark = true

/-- Text that the lines of a body may follow: whatever stands in front of it, the result is no name
and no number, and it ends with a newline. -/
def OpensBody (s : String) : Prop :=
  EndsLine s ∧ HasMark s

instance (s : String) : Decidable (OpensBody s) :=
  inferInstanceAs (Decidable (_ ∧ _ = true))

end Text

/-- What a field selects stands in the table. -/
theorem BlockHead.mem_of_option {α : Type} {head : BlockHead} {name : String}
    {table : List (String × α)} {found : α} (h : head.option name table = .ok found) :
    ∃ word, (word, found) ∈ table := by
  unfold BlockHead.option BlockHead.entry at h
  cases hf : head.field name with
  | error fault => simp [hf, bind, Except.bind] at h
  | ok raw =>
    cases hkey : raw.key with
    | error fault => simp [hf, hkey, bind, Except.bind] at h
    | ok key =>
      simp only [hf, hkey, bind, Except.bind] at h
      split at h
      · next spelling entry hg =>
        cases h
        obtain ⟨entry, hmem, he⟩ := List.mem_map.1 (Entries.mem_of_get? hg)
        cases he
        exact ⟨entry.1, hmem⟩
      · cases h

/-- How the code compares that rules put together in two runs. -/
structure CodeRelation where
  code : String → String → Prop
  code_same : ∀ a, code a a
  code_append : ∀ {a b x y}, code a b → code x y → code (a ++ x) (b ++ y)
  code_head : ∀ {a b}, code a b → a.toList.head? = b.toList.head?
  /-- Names and numbers do not differ at all. -/
  code_simple : ∀ {a b}, code a b → Operand.isSimple a = true ∨ Operand.isSimple b = true → a = b

/-- Code that is the same. -/
def CodeRelation.exact : CodeRelation where
  code := Eq
  code_same := fun _ => rfl
  code_append := fun hab hxy => congrArg₂ (· ++ ·) hab hxy
  code_head := fun h => congrArg (fun a => a.toList.head?) h
  code_simple := fun h _ => h

/-- Two runs of the same rules, as far as rules can tell them apart. -/
structure Pairing (s t : Setting) extends Setting.Akin s t, CodeRelation where
  runs : Run → Run → Prop
  faults : Fault → Fault → Prop
  /-- What holds of the requests for variables in the first run, if these are followed at all. -/
  request : Option (Gen.Request → Prop)
  /-- The variables of the program that may be asked for. -/
  asks : Value → Prop
  /-- Whether rules may give a line without ink. -/
  bare : Prop
  /-- Whether lines may be put behind lines. -/
  joins : Prop
  /-- The code of values. -/
  value : String → String → Prop
  /-- Texts in the making. -/
  part : String → String → Prop
  /-- The lines of bodies. -/
  lines : String → String → Prop
  /-- The code of chains. -/
  chain : String → String → Prop
  faults_refl : ∀ {fault : Fault}, fault.isEmission = false → faults fault fault
  nameOf : ∀ type name, (type = .var → asks name) →
    Gen.Tracks request runs faults (fun a b => a = b ∧ value a a) s t (Gen.nameOf type name)
      (Gen.nameOf type name)
  temporary : ∀ name,
    Gen.Tracks request runs faults Eq s t (Gen.temporary name) (Gen.temporary name)
  provide : ∀ key template,
    Gen.Tracks request runs faults Eq s t (Gen.provide key template) (Gen.provide key template)
  define : ∀ key {a b}, chain a b →
    Gen.Tracks request runs faults Eq s t (Gen.define key a) (Gen.define key b)
  value_code : ∀ {a b}, value a b → code a b
  value_of_ink : ∀ {a}, EndsInk a → value a a
  value_append : ∀ {a b x y}, code a b → value x y → value (a ++ x) (b ++ y)
  value_terminated : ∀ {a b}, value a b →
    value (a ++ s.conventions.terminator) (b ++ s.conventions.terminator)
  part_append : ∀ {a b x y}, part a b → code x y → part (a ++ x) (b ++ y)
  part_body : ∀ {a b d x y}, part a b → OpensBody d → lines x y → part (a ++ d ++ x) (b ++ d ++ y)
  lines_empty : lines "" ""
  lines_append : ∀ {a b x y}, joins → lines a b → lines x y → lines (a ++ x) (b ++ y)
  lines_indented : ∀ {a b}, code a b →
    lines (s.config.indent ++ (a ++ "\n")) (t.config.indent ++ (b ++ "\n"))

/-- What the rule for a kind of block gives if it gives anything. -/
inductive Shape where
  | statement
  | value
  deriving DecidableEq

namespace Pairing

variable {α β : Type} {s t : Setting} (p : Pairing s t)

abbrev Relates (Q : α → β → Prop) (x : Gen α) (y : Gen β) : Prop :=
  Gen.Tracks p.request p.runs p.faults Q s t x y

section Requests

theorem ofExcept {x : Except Fault α} (h : Fits x) :
    p.Relates (fun a b => a = b ∧ x = .ok a) (Gen.ofExcept x) (Gen.ofExcept x) := by
  refine .ofExcept ?_
  cases x with
  | ok a => exact ⟨rfl, rfl⟩
  | error fault => exact p.faults_refl (h fault rfl)

theorem throw {Q : α → β → Prop} {fault : Fault} (h : fault.isEmission = false) :
    p.Relates Q (MonadExcept.throw fault) (MonadExcept.throw fault) :=
  .throw (p.faults_refl h)

theorem variableName {name : Value} (h : p.asks name) :
    p.Relates (fun a b => a = b ∧ p.value a a) (Gen.variableName name) (Gen.variableName name) :=
  p.nameOf .var name fun _ => h

theorem procedureName (name : Value) :
    p.Relates (fun a b => a = b ∧ p.value a a) (Gen.procedureName name) (Gen.procedureName name) :=
  p.nameOf .procedure name nofun

/-- Both ways end a statement in the same way. -/
theorem statement (a b : String) :
    p.Relates
      (fun x y => x = a ++ s.conventions.terminator ++ "\n" ∧ y = b ++ s.conventions.terminator ++ "\n")
      (Gen.statement a) (Gen.statement b) := by
  refine .read_bind (.pure ⟨rfl, ?_⟩)
  rw [Setting.statement, p.conventions_eq]

theorem placeholder : p.Relates Eq Gen.placeholder Gen.placeholder :=
  .read_bind (.pure p.placeholder_eq)

theorem indent : p.Relates (fun a b => a = s.config.indent ∧ b = t.config.indent) Gen.indent
    Gen.indent :=
  .read_bind (.pure ⟨rfl, rfl⟩)

end Requests

/-- Texts that may stand behind texts in the making. -/
def Continues (a b : String) : Prop :=
  ∀ x y, p.part x y → p.part (x ++ a) (y ++ b)

/-- Statements: texts that end with the lines of values. -/
def Whole (a b : String) : Prop :=
  ∃ x y z w, a = x ++ z ++ "\n" ∧ b = y ++ w ++ "\n" ∧ p.Continues x y ∧ p.value z w

/-- What rules write: a statement, or a bare line. -/
def Written (a b : String) : Prop :=
  p.Whole a b ∨ p.bare ∧ a = "\n" ∧ b = "\n"

/-- The results of rules side by side. Rules give what their kind is for, or nothing in place of a
statement. -/
def Outcome : Shape → BlockCode.Outcome → BlockCode.Outcome → Prop
  | .statement, .nothing, .nothing => True
  | .statement, .statement a, .statement b => p.Written a b
  | .value, .value a rank, .value b other => p.value a b ∧ rank = other ∧ ∃ k : Rank, rank = .int k
  | _, _, _ => False

section Texts

variable {p} {a b d x y z w : String}

theorem code_eq_empty (h : p.code a b) : a = "" ↔ b = "" := by
  have hhead := p.code_head h
  rw [← String.toList_eq_nil_iff, ← String.toList_eq_nil_iff, ← List.head?_eq_none_iff,
    ← List.head?_eq_none_iff, hhead]

theorem isSimple_eq (h : p.code a b) : Operand.isSimple a = Operand.isSimple b := by
  cases ha : Operand.isSimple a with
  | true => rw [← p.code_simple h (.inl ha), ha]
  | false =>
    cases hb : Operand.isSimple b with
    | false => rfl
    | true => rw [p.code_simple h (.inr hb), hb] at ha; cases ha

theorem eq_of_isNumber (h : p.code a b) (ha : Operand.isNumber a = true) : a = b := by
  refine p.code_simple h (.inl ?_)
  simp [Operand.isSimple, ha]

theorem isNumber_eq (h : p.code a b) : Operand.isNumber a = Operand.isNumber b := by
  cases ha : Operand.isNumber a with
  | true => rw [← eq_of_isNumber h ha, ha]
  | false =>
    cases hb : Operand.isNumber b with
    | false => rfl
    | true =>
      have heq : a = b := by
        refine p.code_simple h (.inr ?_)
        simp [Operand.isSimple, hb]
      rw [heq, hb] at ha
      cases ha

theorem value_ends (h : p.code a b) (hd : EndsInk d) : p.value (a ++ d) (b ++ d) :=
  p.value_append h (p.value_of_ink hd)

theorem value_orElse (hab : p.code a b) (h : a ≠ "" → p.value a b) (hd : EndsInk d) :
    p.value (orElse a d) (orElse b d) := by
  unfold orElse
  by_cases ha : a = ""
  · rw [if_pos ha, if_pos ((code_eq_empty hab).1 ha)]
    exact p.value_of_ink hd
  · rw [if_neg ha, if_neg (mt (code_eq_empty hab).2 ha)]
    exact h ha

theorem continues_code (h : p.code a b) : p.Continues a b :=
  fun _ _ hxy => p.part_append hxy h

theorem Continues.append (h : p.Continues a b) (hxy : p.Continues x y) :
    p.Continues (a ++ x) (b ++ y) := by
  intro u v huv
  rw [← String.append_assoc, ← String.append_assoc]
  exact hxy _ _ (h _ _ huv)

/-- The lines of a body. -/
theorem Continues.body (h : p.Continues a b) (hd : OpensBody d) (hxy : p.lines x y) :
    p.Continues (a ++ d ++ x) (b ++ d ++ y) := by
  intro u v huv
  have hpart := p.part_body (h u v huv) hd hxy
  simpa only [String.append_assoc] using hpart

/-- A body of one line. -/
theorem Continues.indented (h : p.Continues a b) (hd : OpensBody d) (hxy : p.code x y) :
    p.Continues (a ++ d ++ s.config.indent ++ (x ++ "\n"))
      (b ++ d ++ t.config.indent ++ (y ++ "\n")) := by
  have hbody := h.body hd (p.lines_indented hxy)
  simpa only [String.append_assoc] using hbody

theorem continues_join {as bs : List String} (h : List.Forall₂ p.Continues as bs) :
    p.Continues (String.join as) (String.join bs) := by
  induction h with
  | nil => exact continues_code (p.code_same "")
  | cons hab _ ih =>
    rw [String.join_cons, String.join_cons]
    exact hab.append ih

theorem Continues.whole (h : p.Continues a b) (hzw : p.value z w) :
    p.Whole (a ++ z ++ "\n") (b ++ w ++ "\n") :=
  ⟨a, b, z, w, rfl, rfl, h, hzw⟩

theorem Continues.ended (h : p.Continues a b) : p.Whole (a ++ "END\n") (b ++ "END\n") := by
  have hw := h.whole (p.value_of_ink (a := "END") rfl)
  rwa [String.append_assoc, String.append_assoc] at hw

theorem whole_of_value (h : p.value a b) : p.Whole (a ++ "\n") (b ++ "\n") := by
  have hw := (continues_code (p.code_same "")).whole h
  rwa [String.empty_append, String.empty_append] at hw

theorem Whole.behind (h : p.Whole a b) (hd : p.code x y) : p.Whole (x ++ a) (y ++ b) := by
  obtain ⟨u, v, z, w, rfl, rfl, huv, hzw⟩ := h
  have hw := ((continues_code hd).append huv).whole hzw
  simpa only [String.append_assoc] using hw

theorem code_join {as bs : List String} (sep : String) (h : List.Forall₂ p.code as bs) :
    p.code (sep.intercalate as) (sep.intercalate bs) := by
  induction h with
  | nil => exact p.code_same _
  | cons hab hrest ih =>
    cases hrest with
    | nil =>
      rw [String.intercalate_singleton, String.intercalate_singleton]
      exact hab
    | cons _ _ =>
      rw [String.intercalate_cons_cons, String.intercalate_cons_cons]
      exact p.code_append (p.code_append hab (p.code_same sep)) ih

/-- Parts without code are left out on both sides. -/
theorem code_filter {as bs : List String} (h : List.Forall₂ p.code as bs) :
    List.Forall₂ p.code (as.filter (· ≠ "")) (bs.filter (· ≠ "")) := by
  induction h with
  | nil => exact .nil
  | @cons a b as bs hab _ ih =>
    have hempty := code_eq_empty hab
    by_cases ha : a = ""
    · rw [List.filter_cons_of_neg (by simp [ha]), List.filter_cons_of_neg (by simp [hempty.1 ha])]
      exact ih
    · rw [List.filter_cons_of_pos (by simp [ha]),
        List.filter_cons_of_pos (by simpa using mt hempty.2 ha)]
      exact .cons hab ih

theorem value_join {as bs : List String} (sep : String) (hab : p.value a b)
    (h : List.Forall₂ p.value as bs) :
    p.value (sep.intercalate (a :: as)) (sep.intercalate (b :: bs)) := by
  induction h generalizing a b with
  | nil =>
    rw [String.intercalate_singleton, String.intercalate_singleton]
    exact hab
  | cons hnext _ ih =>
    rw [String.intercalate_cons_cons, String.intercalate_cons_cons]
    exact p.value_append (p.code_append (p.value_code hab) (p.code_same sep)) (ih hnext)

theorem outcome_value (h : p.value a b) (k : Rank) :
    p.Outcome .value (.value a (.int k)) (.value b (.int k)) :=
  ⟨h, rfl, k, rfl⟩

theorem outcome_whole (h : p.Whole a b) : p.Outcome .statement (.statement a) (.statement b) :=
  .inl h

/-- A statement of one line. -/
theorem line (h : p.value a b) :
    p.Relates (p.Outcome .statement) (do return .statement (← Gen.statement a))
      (do return .statement (← Gen.statement b)) := by
  refine (p.statement a b).bind ?_
  rintro _ _ ⟨rfl, rfl⟩
  exact .pure (outcome_whole (whole_of_value (p.value_terminated h)))

end Texts

/-- Whatever a rule asks of the two sites is in relation. -/
structure Sees (traps : Bool) (u v : Site) : Prop where
  kind_eq : u.kind = v.kind
  fields_eq : u.head.fields = v.head.fields
  mutation_eq : u.head.mutation = v.head.mutation
  hasInput_eq : ∀ name, (u.inputs.lookup name).isSome = (v.inputs.lookup name).isSome
  bare : u.head.isArmless = true → p.bare
  asks_field : ∀ {name}, u.head.field "VAR" = .ok name → p.asks name
  asks_argument : ∀ {names}, u.head.arguments = .ok names → ∀ name ∈ names, p.asks (.text name)
  value : ∀ socket (required : Rank), p.Relates (fun a b => p.code a b ∧ (a ≠ "" → p.value a b))
    (u.value socket required) (v.value socket required)
  body : ∀ socket, p.Relates p.lines (u.body socket) (v.body socket)
  joins : traps = true → p.joins
  trap : traps = true → p.lines (insertionLines s.config.indent s.config.trap u.id)
    (insertionLines t.config.indent t.config.trap v.id)
  before : traps = true → p.lines (insertionLines s.config.indent s.config.before u.id)
    (insertionLines t.config.indent t.config.before v.id)
  sequence : ∀ {a b}, p.Whole a b → p.Relates p.chain (u.sequence a) (v.sequence b)

namespace Sees

variable {p} {traps : Bool} {u v : Site} (h : p.Sees traps u v)
include h

theorem field (name : String) :
    p.Relates (fun a b => a = b ∧ u.head.field name = .ok a) (u.field name) (v.field name) := by
  have heq : v.head.field name = u.head.field name := by
    rw [BlockHead.field, BlockHead.field, h.fields_eq]
  rw [Site.field, Site.field, heq]
  exact p.ofExcept (u.head.fits_field name)

theorem fieldOr (name : String) (default : Value) :
    p.Relates (fun a b => a = b ∧ u.head.fields.entryOr name default = .ok a)
      (u.fieldOr name default) (v.fieldOr name default) := by
  rw [Site.fieldOr, Site.fieldOr, ← h.fields_eq]
  exact p.ofExcept (Value.fits_entryOr _ _ _)

theorem shapeOr (name : String) (default : Value) :
    p.Relates (fun a b => a = b ∧ u.head.mutation.entryOr name default = .ok a)
      (u.shapeOr name default) (v.shapeOr name default) := by
  rw [Site.shapeOr, Site.shapeOr, ← h.mutation_eq]
  exact p.ofExcept (Value.fits_entryOr _ _ _)

theorem arguments :
    p.Relates (fun a b => a = b ∧ u.head.arguments = .ok a) (Gen.ofExcept u.head.arguments)
      (Gen.ofExcept v.head.arguments) := by
  have heq : v.head.arguments = u.head.arguments := by
    rw [BlockHead.arguments, BlockHead.arguments, h.mutation_eq]
  rw [heq]
  exact p.ofExcept u.head.fits_arguments

theorem option (name : String) (table : List (String × α)) :
    p.Relates (fun a b => a = b ∧ ∃ word, (word, a) ∈ table) (u.option name table)
      (v.option name table) := by
  have heq : v.head.option name table = u.head.option name table := by
    have hk : u.head.kind.written = v.head.kind.written := h.kind_eq
    simp only [BlockHead.option, BlockHead.entry, BlockHead.field, hk, h.fields_eq]
  rw [Site.option, Site.option, heq]
  refine (p.ofExcept (u.head.fits_option name table)).imp ?_
  rintro a _ ⟨rfl, ho⟩
  exact ⟨rfl, BlockHead.mem_of_option ho⟩

theorem valueOr (socket : String) (required : Rank) {default : String} (hd : EndsInk default) :
    p.Relates p.value (u.valueOr socket required default) (v.valueOr socket required default) := by
  refine (h.value socket required).bind ?_
  rintro a b ⟨hcode, hvalue⟩
  exact .pure (value_orElse hcode hvalue hd)

theorem loopBody (htraps : traps = true) (socket : String) :
    p.Relates p.lines (u.loopBody socket) (v.loopBody socket) := by
  have hjoins := h.joins htraps
  refine (h.body socket).bind fun a b hab => .read_bind (.pure ?_)
  exact p.lines_append hjoins (p.lines_append hjoins (h.trap htraps) hab) (h.before htraps)

end Sees

end Pairing

end BlockCode
