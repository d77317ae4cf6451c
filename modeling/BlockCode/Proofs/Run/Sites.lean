import BlockCode.Proofs.Run.Comparison

namespace BlockCode

open Text

/-- The templates that rules insert, which may set traps or not. -/
def Config.inserted (config : Config) (traps : Bool) : List (Option String) :=
  [config.before, config.after] ++ if traps then [config.trap] else []

/-- Whether no inserted code tells two identifiers apart. -/
def Config.Blurs (config : Config) (traps : Bool) (i j : String) : Prop :=
  ∀ template ∈ config.inserted traps, insertion template i = insertion template j

theorem insertionLines_eq {template : Option String} {i j : String}
    (h : insertion template i = insertion template j) (indent : String) :
    insertionLines indent template i = insertionLines indent template j := by
  cases template with
  | none => rfl
  | some t =>
    simp only [insertion, insertionLines] at h ⊢
    split
    · rfl
    · next ht =>
      rw [if_neg ht, if_neg ht] at h
      rw [h]

namespace Branch

/-- The code of what is connected; where nothing is, there is no code. -/
def linkCode : Option Branch → Gen Emission
  | none => return .statement ""
  | some branch => branch.code

def linkKind : Option Branch → String
  | none => ""
  | some branch => branch.kind

def linkComments : Option Branch → List Value
  | none => []
  | some branch => branch.comments

end Branch

open Branch

/-- An if chain with no arm and no else: it leaves a bare line. -/
def BlockHead.isArmless (head : BlockHead) : Bool :=
  match head.kind, head.mutation.entryOr "elseif" (.int 0) >>= Value.toInteger,
    head.mutation.entryOr "else" (.int 0) with
  | .text "controls_if", .ok further, .ok last => further < 0 && !last.isSet
  | _, _, _ => false

/-- Whether code is refused at its place: a statement in a value socket, or a value elsewhere. -/
def Emission.isMisplaced (inline : Bool) : Emission → Bool
  | .statement code => inline && code != ""
  | .value _ _ => !inline

theorem Rank.placeAt_eq_ok {required rank : Value} {code placed : String}
    (h : Rank.placeAt required code rank = .ok placed) :
    placed = code ∨ placed = "(" ++ code ++ ")" := by
  unfold Rank.placeAt at h
  split at h
  · cases h
    unfold Rank.place
    split
    · exact .inr rfl
    · exact .inl rfl
  · split at h
    · cases h
      exact .inl rfl
    · cases hb : required.isBelow rank with
      | error fault => simp [hb, bind, Except.bind] at h
      | ok below =>
        cases below <;> simp only [hb, bind, Except.bind, pure, Except.pure] at h <;> cases h
        · exact .inl rfl
        · exact .inr rfl

namespace Site

variable (site : Site)

theorem valueAt_eq (socket : String) (required : Value) :
    site.valueAt socket required = (do
      match ← linkCode (plugged site.inputs socket) with
      | .value code rank => Gen.ofExcept (Rank.placeAt required code rank)
      | .statement code =>
        if code = "" then return ""
        else throw (.invalidEmission
          (.statementAsValue (linkKind (plugged site.inputs socket)) socket site.kind))) := by
  unfold valueAt
  cases plugged site.inputs socket <;> rfl

theorem body_eq (socket : String) :
    site.body socket = (do
      match ← linkCode (plugged site.statements socket) with
      | .statement code =>
        if code = "" then return "" else return Text.leadLines (← Gen.indent) code
      | .value _ _ => throw (.invalidEmission
          (.valueAsStatement (linkKind (plugged site.statements socket)) socket site.kind))) := by
  unfold body
  cases plugged site.statements socket <;> rfl

theorem nextCode_eq :
    site.nextCode = (do
      match ← linkCode site.next with
      | .statement code => return code
      | .value _ _ => throw (.invalidEmission (.valueInChain (linkKind site.next) site.kind))) := by
  unfold nextCode
  cases site.next <;> rfl

theorem skipped_eq : site.skipped = linkCode site.next := by
  unfold skipped
  cases site.next <;> rfl

/-- The lines of the comments in one value socket. -/
def nestedLines (mark : String) (comments : List Value) : Except Fault String := do
  if comments.isEmpty then return "" else return Text.leadLines mark (← joinComments comments)

theorem commentLines_eq (mark : String) :
    site.commentLines mark = (do
      if site.inline then return ""
      else
        let own ← ownComment mark site.head.comment
        let nested ← (site.inputs.map fun socket => linkComments socket.2).mapM (nestedLines mark)
        return own ++ String.join nested) := by
  have hsocket : ∀ plug, socketComment mark plug = nestedLines mark (linkComments plug) := by
    intro plug
    cases plug <;> rfl
  unfold commentLines
  simp only [hsocket, List.mapM_map]
  rfl

end Site

namespace Comparison

variable {s t : Setting} (c : Comparison s t)

/-- Connections whose code compares. If it is refused, the faults that name the kinds compare. -/
def Link (inline : Bool) (x y : Option Branch) : Prop :=
  c.Relates
    (fun e f => c.Emission inline e f ∧
      (e.isMisplaced inline = true → c.kinds (linkKind x) (linkKind y)))
    (linkCode x) (linkCode y)

/-- Sockets of the same names. -/
def Sockets (inline : Bool) : List (String × Option Branch) → List (String × Option Branch) → Prop :=
  List.Forall₂ fun p q => p.1 = q.1 ∧ c.Link inline p.2 q.2

/-- Whatever a rule asks of the two sites compares. -/
structure Sees (traps : Bool) (u v : Site) : Prop where
  kind_eq : u.kind = v.kind
  fields_eq : u.head.fields = v.head.fields
  mutation_eq : u.head.mutation = v.head.mutation
  hasInput_eq : ∀ name, (u.inputs.lookup name).isSome = (v.inputs.lookup name).isSome
  bare : u.head.isArmless = true → c.bare
  valueAt : ∀ socket required, c.Relates (fun a b => a = b ∧ (a ≠ "" → c.value a))
    (u.valueAt socket required) (v.valueAt socket required)
  body : ∀ socket, c.Relates c.lines (u.body socket) (v.body socket)
  trap : traps = true → c.lines (insertionLines s.config.indent s.config.trap u.id)
    (insertionLines t.config.indent t.config.trap v.id)
  before : traps = true → c.lines (insertionLines s.config.indent s.config.before u.id)
    (insertionLines t.config.indent t.config.before v.id)
  sequence : ∀ {a b}, c.Whole a b → c.Relates c.chain (u.sequence a) (v.sequence b)

/-- The rules of the book keep to the comparison. -/
def Follows (traps : Bool) (rules : Rulebook) : Prop :=
  ∀ kind rule, rules.lookup kind = some rule → ∀ {u v}, u.head.kind = .text kind →
    c.Sees traps u v → c.Relates c.Outcome (rule u) (rule v)

/-- Sites of the same data, comments and identifiers apart. -/
structure Site (traps : Bool) (u v : BlockCode.Site) : Prop where
  kind_eq : u.head.kind = v.head.kind
  fields_eq : u.head.fields = v.head.fields
  mutation_eq : u.head.mutation = v.head.mutation
  disabled_eq : u.head.disabled = v.head.disabled
  inline_eq : u.inline = v.inline
  bare : u.head.isArmless = true → c.bare
  inputs : c.Sockets true u.inputs v.inputs
  statements : c.Sockets false u.statements v.statements
  next : c.Link false u.next v.next
  comments : Gen.Answers c.faults c.lines (u.commentLines s.commentMark)
    (v.commentLines t.commentMark)
  trap : traps = true → c.lines (insertionLines s.config.indent s.config.trap u.id)
    (insertionLines t.config.indent t.config.trap v.id)
  before : traps = true → c.lines (insertionLines s.config.indent s.config.before u.id)
    (insertionLines t.config.indent t.config.before v.id)
  wrapped : ∀ {a b}, c.Written a b → c.chain (u.wrapped s.config a) (v.wrapped t.config b)

variable {c} {traps : Bool} {u v : BlockCode.Site}

theorem link_none (inline : Bool) : c.Link inline none none :=
  .pure ⟨c.chain_empty, fun h => by simp [BlockCode.Emission.isMisplaced] at h⟩

section Sockets

variable {inline : Bool} {m n : List (String × Option Branch)} (h : c.Sockets inline m n)
include h

theorem Sockets.lookup (name : String) : Option.Rel (c.Link inline) (m.lookup name)
    (n.lookup name) := by
  induction h with
  | nil => exact .none
  | @cons p q m n hpq _ ih =>
    obtain ⟨x, plug⟩ := p
    obtain ⟨y, other⟩ := q
    obtain ⟨rfl, hplug⟩ := hpq
    simp only [List.lookup_cons]
    split
    · exact .some hplug
    · exact ih

theorem Sockets.plugged (name : String) :
    c.Link inline (Site.plugged m name) (Site.plugged n name) := by
  have hl := h.lookup name
  unfold Site.plugged
  generalize m.lookup name = x at hl ⊢
  generalize n.lookup name = y at hl ⊢
  cases hl with
  | none => exact link_none inline
  | some hplug => exact hplug

end Sockets

/-- If the kinds compare, so does whatever names them. -/
theorem link_of_kinds {inline : Bool} {x y : Option Branch}
    (hkinds : c.kinds (linkKind x) (linkKind y))
    (h : c.Relates (c.Emission inline) (linkCode x) (linkCode y)) : c.Link inline x y :=
  h.imp fun _ _ hef => ⟨hef, fun _ => hkinds⟩

namespace Site

variable (h : c.Site traps u v)
include h

theorem written_kind_eq : u.kind = v.kind := by
  rw [BlockCode.Site.kind, BlockCode.Site.kind, h.kind_eq]

theorem valueAt (socket : String) (required : Value) :
    c.Relates (fun a b => a = b ∧ (a ≠ "" → c.value a)) (u.valueAt socket required)
      (v.valueAt socket required) := by
  rw [u.valueAt_eq, v.valueAt_eq, ← h.written_kind_eq]
  refine (h.inputs.plugged socket).bind fun e f hef => ?_
  cases e <;> cases f
  case statement.statement a b =>
    have hempty := c.chain_eq_empty hef.1
    by_cases ha : a = ""
    · simp only [if_pos ha, if_pos (hempty.1 ha)]
      exact .pure ⟨rfl, fun hne => (hne rfl).elim⟩
    · simp only [if_neg ha, if_neg fun hb => ha (hempty.2 hb)]
      exact .throw (c.faults_statementAsValue _ _
        (hef.2 (by simp [BlockCode.Emission.isMisplaced, ha])))
  case value.value a rank b other =>
    obtain ⟨⟨rfl, rfl, hvalue⟩, -⟩ := hef
    refine .ofExcept ?_
    cases hp : Rank.placeAt required a rank with
    | error fault => exact c.faults_refl fault
    | ok placed =>
      refine ⟨rfl, fun _ => ?_⟩
      rcases Rank.placeAt_eq_ok hp with rfl | rfl
      · exact hvalue
      · exact c.value_of_ink (EndsInk.append (b := ")") rfl _)
  all_goals exact hef.1.elim

theorem body (socket : String) : c.Relates c.lines (u.body socket) (v.body socket) := by
  rw [u.body_eq, v.body_eq, ← h.written_kind_eq]
  refine (h.statements.plugged socket).bind fun e f hef => ?_
  cases e <;> cases f
  case statement.statement a b =>
    have hempty := c.chain_eq_empty hef.1
    by_cases ha : a = ""
    · simp only [if_pos ha, if_pos (hempty.1 ha)]
      exact .pure (c.lines_same closed_empty)
    · simp only [if_neg ha, if_neg fun hb => ha (hempty.2 hb)]
      refine c.indent.bind ?_
      rintro _ _ ⟨rfl, rfl⟩
      exact .pure (c.lines_of_chain hef.1 ha)
  case value.value a rank b other => exact .throw (c.faults_valueAsStatement _ _ (hef.2 rfl))
  all_goals exact hef.1.elim

theorem nextCode : c.Relates c.chain u.nextCode v.nextCode := by
  rw [u.nextCode_eq, v.nextCode_eq, ← h.written_kind_eq]
  refine h.next.bind fun e f hef => ?_
  cases e <;> cases f
  case statement.statement a b => exact .pure hef.1
  case value.value a rank b other => exact .throw (c.faults_valueInChain _ (hef.2 rfl))
  all_goals exact hef.1.elim

/-- Comments in front of the code of the block and the rest of the chain behind it. The code of a
block in a value socket has no comments in front of it. -/
theorem sequence_around {N : String → String → Prop} (hnext : c.Relates N u.nextCode v.nextCode)
    (a b : String) :
    c.Relates
      (fun x y => ∃ p q n m, c.lines p q ∧ N n m ∧ x = p ++ a ++ n ∧ y = q ++ b ++ m ∧
        (u.inline = true → p = "" ∧ q = ""))
      (u.sequence a) (v.sequence b) := by
  have hcomments : Gen.Answers c.faults
      (fun p q => c.lines p q ∧ (u.inline = true → p = "" ∧ q = ""))
      (u.commentLines s.commentMark) (v.commentLines t.commentMark) := by
    have hc := h.comments
    unfold BlockCode.Site.commentLines at hc ⊢
    rw [← h.inline_eq] at hc ⊢
    split
    · exact ⟨c.lines_same closed_empty, fun _ => ⟨rfl, rfl⟩⟩
    · next hi =>
      rw [if_neg hi, if_neg hi] at hc
      exact hc.imp fun _ _ hpq => ⟨hpq, fun hin => absurd hin hi⟩
  refine .read_bind ((Gen.Relates.ofExcept hcomments).bind fun p q hpq => ?_)
  exact hnext.bind fun n m hnm => .pure ⟨p, q, n, m, hpq.1, hnm, rfl, rfl, hpq.2⟩

theorem sequence {a b : String} (hab : c.chain a b) (ha : a ≠ "") :
    c.Relates c.chain (u.sequence a) (v.sequence b) := by
  refine (h.sequence_around h.nextCode a b).imp ?_
  rintro _ _ ⟨p, q, n, m, hpq, hnm, rfl, rfl, -⟩
  exact c.chain_join hpq hab ha hnm

theorem hasInput_eq (name : String) :
    (u.inputs.lookup name).isSome = (v.inputs.lookup name).isSome := by
  have hl := h.inputs.lookup name
  generalize u.inputs.lookup name = x at hl ⊢
  generalize v.inputs.lookup name = y at hl ⊢
  cases hl <;> rfl

theorem sees : c.Sees traps u v where
  kind_eq := h.written_kind_eq
  fields_eq := h.fields_eq
  mutation_eq := h.mutation_eq
  hasInput_eq := h.hasInput_eq
  bare := h.bare
  valueAt := h.valueAt
  body := h.body
  trap := h.trap
  before := h.before
  sequence := fun hab => h.sequence hab.chain hab.ne_empty

/-- A value with nothing chained behind it, unless nothing is lost anyway. -/
theorem value_placed {a : String} (ha : c.value a) (rank : Value)
    (hend : (u.next = none ∧ v.next = none) ∨ c.Exact) :
    c.Relates (c.Emission u.inline) (u.placed (.value a rank)) (v.placed (.value a rank)) := by
  rcases hend with ⟨hu, hv⟩ | hexact
  · have hnext : c.Relates (fun n m => n = "" ∧ m = "") u.nextCode v.nextCode := by
      rw [BlockCode.Site.nextCode, BlockCode.Site.nextCode, hu, hv]
      exact .pure ⟨rfl, rfl⟩
    refine (h.sequence_around hnext a a).bind ?_
    rintro _ _ ⟨p, q, _, _, hpq, ⟨rfl, rfl⟩, rfl, rfl, hin⟩
    refine .pure ⟨rfl, ?_⟩
    simp only [String.append_empty]
    split
    · next hi =>
      obtain ⟨rfl, rfl⟩ := hin hi
      exact ⟨rfl, c.value_append "" ha⟩
    · exact c.chain_of_lines hpq ha
  · refine (h.sequence_around h.nextCode a a).bind ?_
    rintro _ _ ⟨p, q, n, m, hpq, hnm, rfl, rfl, -⟩
    refine .pure ⟨rfl, ?_⟩
    rw [hexact.lines.1 hpq, hexact.chain.1 hnm]
    split
    · exact ⟨rfl, hexact.value _⟩
    · exact hexact.chain.2 rfl

theorem skipped (hend : u.inline = true → (u.next = none ∧ v.next = none) ∨ c.Exact) :
    c.Relates (c.Emission u.inline) u.skipped v.skipped := by
  rw [u.skipped_eq, v.skipped_eq]
  cases hi : u.inline with
  | false => exact h.next.imp fun _ _ hef => hef.1
  | true =>
    rcases hend hi with ⟨hu, hv⟩ | hexact
    · rw [hu, hv]
      exact .pure c.chain_empty
    · refine h.next.imp fun e f hef => ?_
      cases e <;> cases f
      case statement.statement a b => exact hef.1
      case value.value a rank b other =>
        have hab := String.append_left_inj _ |>.1 (hexact.chain.1 hef.1.2)
        exact ⟨hef.1.1, hab, hexact.value a⟩
      all_goals exact hef.1

end Site

end Comparison

section Exact

variable {s : Setting} {c : Comparison s s} {traps : Bool} {u v : BlockCode.Site}

/-- Where nothing is lost, sites that differ in their identifiers only compare, if no inserted code
tells the identifiers apart. -/
theorem Comparison.Exact.site (hexact : c.Exact)
    (hhead : v.head = { u.head with id := v.head.id }) (hid : s.config.Blurs traps u.id v.id)
    (hinline : u.inline = v.inline) (hinputs : c.Sockets true u.inputs v.inputs)
    (hstatements : c.Sockets false u.statements v.statements) (hnext : c.Link false u.next v.next)
    (hcomments : u.inputs.map (fun socket => linkComments socket.2) =
      v.inputs.map fun socket => linkComments socket.2) : c.Site traps u v where
  kind_eq := by rw [hhead]
  fields_eq := by rw [hhead]
  mutation_eq := by rw [hhead]
  disabled_eq := by rw [hhead]
  inline_eq := hinline
  bare := fun _ => hexact.bare
  inputs := hinputs
  statements := hstatements
  next := hnext
  comments := by
    rw [u.commentLines_eq, v.commentLines_eq, hinline, hcomments, hhead]
    exact c.answers_refl (fun _ => hexact.lines.2 rfl) _
  trap := fun htraps =>
    hexact.lines.2 (insertionLines_eq (hid _ (by simp [Config.inserted, htraps])) _)
  before := fun _ => hexact.lines.2 (insertionLines_eq (hid _ (by simp [Config.inserted])) _)
  wrapped := by
    intro a b hab
    rw [hexact.chain, BlockCode.Site.wrapped, BlockCode.Site.wrapped, hab.eq hexact,
      hid s.config.before (by simp [Config.inserted]), hid s.config.after (by simp [Config.inserted])]

end Exact

/-- Whether the rule for a kind can give a value. -/
def Rulebook.IsValueKind (rules : Rulebook) (kind : Value) : Prop :=
  ∃ rule, rules.ruleFor kind = .ok (some rule) ∧
    ∃ site code rank, Gen.CanGive (rule site) (.value code rank)

namespace Comparison

variable {s t : Setting} {c : Comparison s t} {traps : Bool} {u v : BlockCode.Site}
  {rules : Rulebook}

theorem Follows.ruleFor (hrules : c.Follows traps rules) {rule : Rule}
    (h : rules.ruleFor u.head.kind = .ok (some rule)) (huv : c.Sees traps u v) :
    c.Relates c.Outcome (rule u) (rule v) := by
  unfold Rulebook.ruleFor at h
  split at h
  · next kind hkind => exact hrules kind rule (Except.ok.inj h) hkind huv
  · split at h <;> cases h

/-- The code of two sites compares, if nothing is chained behind values or blocks in value sockets
or else nothing is lost in the comparison. -/
theorem Site.emit (h : c.Site traps u v) (hrules : c.Follows traps rules)
    (hend : u.inline = true ∨ rules.IsValueKind u.head.kind →
      (u.next = none ∧ v.next = none) ∨ c.Exact) :
    c.Relates (c.Emission u.inline) (u.emit rules) (v.emit rules) := by
  have hd : u.head.isDisabled = v.head.isDisabled := by
    rw [BlockHead.isDisabled, BlockHead.isDisabled, h.disabled_eq]
  unfold BlockCode.Site.emit
  rw [← hd, ← h.kind_eq]
  split
  · exact h.skipped fun hi => hend (.inl hi)
  · refine (c.ofExcept (rules.ruleFor u.head.kind)).given.bind ?_
    rintro found _ ⟨rfl, hfound, -⟩
    have hfound := hfound.ofExcept
    cases found with
    | none =>
      rw [h.written_kind_eq]
      refine .read_bind (.throw ?_)
      rw [c.conventions_eq]
      exact c.faults_refl _
    | some rule =>
      refine (hrules.ruleFor hfound h.sees).given.bind ?_
      rintro outcome other ⟨hout, hcan, -⟩
      cases outcome <;> cases other
      case nothing.nothing => exact .pure c.chain_empty
      case statement.statement a b =>
        have hne : u.wrapped s.config a ≠ "" := by
          intro he
          rw [BlockCode.Site.wrapped, String.append_eq_empty_iff, String.append_eq_empty_iff] at he
          exact hout.ne_empty he.1.2
        exact .read_bind ((h.sequence (h.wrapped hout) hne).bind fun _ _ hab => .pure hab)
      case value.value a rank b other =>
        obtain ⟨rfl, rfl, ha⟩ := hout
        exact h.value_placed ha rank (hend (.inr ⟨rule, hfound, u, a, rank, hcan⟩))
      all_goals exact hout.elim

end Comparison

end BlockCode
