import BlockCode.Proofs.Run.Watch

namespace BlockCode

open Text Branch

/-- The sort of block that a place is for. -/
def Rulebook.Takes (rules : Rulebook) (inline : Bool) (kind : Value) : Prop :=
  if inline then rules.IsValueKind kind else rules.IsStatementKind kind

/-- A block of a known kind whose connections are of the sort that their places are for; nothing is
chained behind a value. -/
structure Block.IsSorted (rules : Rulebook) (b : Block) : Prop where
  known : ∃ rule, rules.ruleFor b.head.kind = .ok (some rule)
  inputs : ∀ name x, (name, some x) ∈ b.inputs → rules.IsValueKind x.head.kind
  statements : ∀ name x, (name, some x) ∈ b.statements → rules.IsStatementKind x.head.kind
  next : ∀ x, b.next = some x → rules.IsStatementKind x.head.kind
  ended : rules.IsValueKind b.head.kind → b.next = none

namespace Pairing

variable {s t : Setting} (p : Pairing s t)

/-- Whether every fault is in relation to itself, those of emission included. -/
def Tolerates : Prop :=
  ∀ fault, p.faults fault fault

/-- The code of blocks side by side. -/
def Emission : BlockCode.Emission → BlockCode.Emission → Prop
  | .statement a, .statement b => p.chain a b
  | .value a rank, .value b other => p.code a b ∧ rank = other ∧ ∃ k : Rank, rank = .int k
  | _, _ => False

/-- A connection that gives code in relation, which is not refused if that would not be tolerated. -/
def Link (inline : Bool) (x : Option Branch) : Prop :=
  p.Relates (fun e f => p.Emission e f ∧ (e.isMisplaced inline = true → p.Tolerates)) (linkCode x)
    (linkCode x)

/-- A site with connections of that kind. -/
structure Site (u : BlockCode.Site) : Prop where
  asks_field : ∀ {name}, u.head.field "VAR" = .ok name → p.asks name
  asks_argument : ∀ {names}, u.head.arguments = .ok names → ∀ name ∈ names, p.asks (.text name)
  inputs : ∀ socket ∈ u.inputs, p.Link true socket.2
  statements : ∀ socket ∈ u.statements, p.Link false socket.2
  next : p.Link false u.next

/-- Besides what goes for rules, what goes for the code that is put around what they give. -/
structure Even (traps : Bool) : Prop where
  bare : p.bare
  commentMark_eq : s.commentMark = t.commentMark
  value_of_code : ∀ {a b}, p.code a b → p.value a b
  code_of_chain : ∀ {a b}, p.chain a b → p.code a b
  chain_empty : p.chain "" ""
  chain_of_whole : ∀ {a b}, p.Whole a b → p.chain a b
  chain_wrapped : ∀ (u : BlockCode.Site) {a b}, p.Written a b →
    p.chain (u.wrapped s.config a) (u.wrapped t.config b)
  chain_join : ∀ {a b x y} (c), p.chain a b → a ≠ "" → p.chain x y →
    p.chain (c ++ a ++ x) (c ++ b ++ y)
  lines_of_chain : ∀ {a b}, p.chain a b → a ≠ "" →
    p.lines (leadLines s.config.indent a) (leadLines t.config.indent b)
  joins : traps = true → p.joins
  trap : traps = true → ∀ id, p.lines (insertionLines s.config.indent s.config.trap id)
    (insertionLines t.config.indent t.config.trap id)
  before : traps = true → ∀ id, p.lines (insertionLines s.config.indent s.config.before id)
    (insertionLines t.config.indent t.config.before id)

section Texts

variable {p} {a b : String}

theorem Whole.ne_empty (h : p.Whole a b) : a ≠ "" := by
  obtain ⟨x, y, z, w, rfl, -⟩ := h
  exact (endsLine_newline _).ne_empty

theorem Written.ne_empty (h : p.Written a b) : a ≠ "" := by
  rcases h with h | ⟨-, rfl, -⟩
  · exact h.ne_empty
  · decide

theorem code_place (h : p.code a b) (required rank : Rank) :
    p.code (Rank.place required a rank) (Rank.place required b rank) := by
  have hempty := code_eq_empty h
  unfold Rank.place
  by_cases hp : a ≠ "" ∧ required < rank
  · rw [if_pos hp, if_pos ⟨mt hempty.2 hp.1, hp.2⟩]
    exact p.code_append (p.code_append (p.code_same _) h) (p.code_same _)
  · rw [if_neg hp, if_neg fun hb => hp ⟨mt hempty.1 hb.1, hb.2⟩]
    exact h

end Texts

theorem link_none {p : Pairing s t} {traps : Bool} (heven : p.Even traps) (inline : Bool) :
    p.Link inline none := by
  refine .pure ⟨heven.chain_empty, fun h => ?_⟩
  simp [BlockCode.Emission.isMisplaced] at h

namespace Site

variable {p} {traps : Bool} {u : BlockCode.Site}

theorem plugged (heven : p.Even traps) {inline : Bool} {m : List (String × Option Branch)}
    (hm : ∀ socket ∈ m, p.Link inline socket.2) (name : String) :
    p.Link inline (BlockCode.Site.plugged m name) := by
  unfold BlockCode.Site.plugged
  cases hl : m.lookup name with
  | none => exact link_none heven inline
  | some plug => exact hm _ (mem_of_lookup hl)

theorem nextCode (h : p.Site u) : p.Relates p.chain u.nextCode u.nextCode := by
  rw [u.nextCode_eq]
  refine h.next.bind fun e f hef => ?_
  cases e <;> cases f
  case statement.statement a b => exact .pure hef.1
  case value.value a rank b other => exact .throw (hef.2 rfl _)
  all_goals exact hef.1.elim

variable (heven : p.Even traps) (h : p.Site u)
include heven h

theorem value (socket : String) (required : Rank) :
    p.Relates p.code (u.value socket required) (u.value socket required) := by
  rw [BlockCode.Site.value, u.valueAt_eq]
  refine (plugged heven h.inputs socket).bind fun e f hef => ?_
  cases e <;> cases f
  case statement.statement a b =>
    have hempty := code_eq_empty (heven.code_of_chain hef.1)
    by_cases ha : a = ""
    · simp only [if_pos ha, if_pos (hempty.1 ha)]
      exact .pure (p.code_same _)
    · simp only [if_neg ha, if_neg (mt hempty.2 ha)]
      exact .throw (hef.2 (by simp [BlockCode.Emission.isMisplaced, ha]) _)
  case value.value a rank b other =>
    obtain ⟨⟨hcode, rfl, k, rfl⟩, -⟩ := hef
    exact .pure (code_place hcode required k)
  all_goals exact hef.1.elim

theorem body (socket : String) : p.Relates p.lines (u.body socket) (u.body socket) := by
  rw [u.body_eq]
  refine (plugged heven h.statements socket).bind fun e f hef => ?_
  cases e <;> cases f
  case statement.statement a b =>
    have hempty := code_eq_empty (heven.code_of_chain hef.1)
    by_cases ha : a = ""
    · simp only [if_pos ha, if_pos (hempty.1 ha)]
      exact .pure p.lines_empty
    · simp only [if_neg ha, if_neg (mt hempty.2 ha)]
      refine p.indent.bind ?_
      rintro _ _ ⟨rfl, rfl⟩
      exact .pure (heven.lines_of_chain hef.1 ha)
  case value.value a rank b other => exact .throw (hef.2 rfl _)
  all_goals exact hef.1.elim

/-- Comments in front of the code of the block and the rest of the chain behind it. -/
theorem sequence_around (a b : String) :
    p.Relates (fun x y => ∃ c n m, p.chain n m ∧ x = c ++ a ++ n ∧ y = c ++ b ++ m) (u.sequence a)
      (u.sequence b) := by
  refine .read_bind ?_
  rw [← heven.commentMark_eq]
  refine (p.ofExcept (u.fits_commentLines _)).bind_same fun c _ => ?_
  exact h.nextCode.bind fun n m hnm => .pure ⟨c, n, m, hnm, rfl, rfl⟩

theorem sequence {a b : String} (hab : p.chain a b) (ha : a ≠ "") :
    p.Relates p.chain (u.sequence a) (u.sequence b) := by
  refine (h.sequence_around heven a b).imp ?_
  rintro _ _ ⟨c, n, m, hnm, rfl, rfl⟩
  exact heven.chain_join c hab ha hnm

theorem sees : p.Sees traps u u where
  kind_eq := rfl
  fields_eq := rfl
  mutation_eq := rfl
  hasInput_eq := fun _ => rfl
  bare := fun _ => heven.bare
  asks_field := h.asks_field
  asks_argument := h.asks_argument
  value := fun socket required =>
    (h.value heven socket required).imp fun _ _ hab => ⟨hab, fun _ => heven.value_of_code hab⟩
  body := h.body heven
  joins := heven.joins
  trap := fun htraps => heven.trap htraps u.id
  before := fun htraps => heven.before htraps u.id
  sequence := fun hab => h.sequence heven (heven.chain_of_whole hab) hab.ne_empty

theorem placed {shape : Shape} {x y : BlockCode.Outcome} (hxy : p.Outcome shape x y) :
    p.Relates
      (fun e f => p.Emission e f ∧ e.isMisplaced (decide (shape = .value)) = false)
      (u.placed x) (u.placed y) := by
  cases shape <;> cases x <;> cases y
  case statement.nothing.nothing => exact .pure ⟨heven.chain_empty, rfl⟩
  case statement.statement.statement a b =>
    have hne : u.wrapped s.config a ≠ "" := by
      intro he
      rw [BlockCode.Site.wrapped, String.append_eq_empty_iff, String.append_eq_empty_iff] at he
      exact Written.ne_empty hxy he.1.2
    refine .read_bind ((h.sequence heven (heven.chain_wrapped u hxy) hne).bind fun _ _ hab => ?_)
    exact .pure ⟨hab, rfl⟩
  case value.value.value a rank b other =>
    refine (h.sequence_around heven a b).bind ?_
    rintro _ _ ⟨c, n, m, hnm, rfl, rfl⟩
    have hcode := p.code_append (p.code_same c) (p.value_code hxy.1)
    exact .pure ⟨⟨p.code_append hcode (heven.code_of_chain hnm), hxy.2⟩, rfl⟩
  all_goals exact hxy.elim

end Site

end Pairing

namespace Pairing

variable {s t : Setting} {p : Pairing s t} {traps : Bool} {rules : Rulebook}

/-- The code of a site. If faults of emission are not tolerated, there is a rule for its kind, and
nothing is chained behind it if it is a value; then its code is of the sort of its kind. -/
theorem Site.emit {u : BlockCode.Site} (heven : p.Even traps) (h : p.Site u)
    (hrules : rules.Pairs traps)
    (hsorted : p.Tolerates ∨ (∃ rule, rules.ruleFor u.head.kind = .ok (some rule)) ∧
      (rules.IsValueKind u.head.kind → u.next = none)) :
    p.Relates (fun e f => p.Emission e f ∧ (p.Tolerates ∨ e.IsSorted rules u.head.kind))
      (u.emit rules) (u.emit rules) := by
  unfold BlockCode.Site.emit
  split
  · rw [u.skipped_eq]
    refine h.next.given.imp fun e f hef => ⟨hef.1.1, ?_⟩
    rcases hsorted with htol | ⟨-, hend⟩
    · exact .inl htol
    by_cases hmis : e.isMisplaced false = true
    · exact .inl (hef.1.2 hmis)
    · refine .inr ⟨fun hkind => ?_, fun _ => by simpa using hmis⟩
      have hgive := hef.2.1
      rw [hend hkind] at hgive
      rw [← hgive.of_pure]
      rfl
  · refine (p.ofExcept (rules.fits_ruleFor _)).bind_same fun found hfound => ?_
    cases found with
    | none =>
      refine .read_bind (.throw ?_)
      rw [← p.conventions_eq]
      rcases hsorted with htol | ⟨⟨rule, hrule⟩, -⟩
      · exact htol _
      · cases hfound.symm.trans hrule
    | some rule =>
      obtain ⟨shape, name, hname, hrule⟩ := hrules.ruleFor hfound
      refine (hrule p (.inr hname) (h.sees heven)).bind fun x y hxy => ?_
      refine (h.placed heven hxy).imp fun e f hef => ⟨hef.1, .inr ?_⟩
      exact Emission.isSorted_of_shape hrule hfound hef.2

/-- What has to be known of every block of a program. -/
structure Admits (p : Pairing s t) (rules : Rulebook) (b : Block) : Prop where
  asks_field : ∀ {name}, b.head.field "VAR" = .ok name → p.asks name
  asks_argument : ∀ {names}, b.head.arguments = .ok names → ∀ name ∈ names, p.asks (.text name)
  sorted : p.Tolerates ∨ b.IsSorted rules

end Pairing

namespace Block

open Pairing

variable {s t : Setting} {p : Pairing s t} {traps : Bool} {rules : Rulebook}

mutual

/-- The code of a block, by the code of what is connected to it. -/
theorem branchAt_emits (heven : p.Even traps) (hrules : rules.Pairs traps) :
    ∀ (b : Block) (parent : Option Block) (inline : Bool),
      (∀ q ∈ descendantsAt parent inline b, p.Admits rules q.block) →
      p.Relates (fun e f => p.Emission e f ∧ (p.Tolerates ∨ e.IsSorted rules b.head.kind))
        (branchAt rules inline b).code (branchAt rules inline b).code
  | .mk head inputs statements next, parent, inline, hall => by
    rw [descendantsAt, List.forall_mem_cons, List.forall_mem_append, List.forall_mem_append] at hall
    obtain ⟨hhere, ⟨hinputs, hstatements⟩, hnext⟩ := hall
    have hsite : p.Site
        { head
          inline
          inputs := socketBranches rules true inputs
          statements := socketBranches rules false statements
          next := linkBranch rules false next } :=
      { asks_field := hhere.asks_field
        asks_argument := hhere.asks_argument
        inputs := socketBranches_linked heven hrules inputs _ true hinputs
          (hhere.sorted.imp_right fun hsorted => hsorted.inputs)
        statements := socketBranches_linked heven hrules statements _ false hstatements
          (hhere.sorted.imp_right fun hsorted => hsorted.statements)
        next := linkBranch_linked heven hrules next _ false hnext
          (hhere.sorted.imp_right fun hsorted => hsorted.next) }
    refine hsite.emit heven hrules (hhere.sorted.imp_right fun hsorted => ⟨hsorted.known, ?_⟩)
    intro hvalue
    have hend : next = none := hsorted.ended hvalue
    rw [hend]
    rfl

theorem socketBranches_linked (heven : p.Even traps) (hrules : rules.Pairs traps) :
    ∀ (m : List (String × Option Block)) (parent : Block) (inline : Bool),
      (∀ q ∈ socketDescendants parent inline m, p.Admits rules q.block) →
      (p.Tolerates ∨ ∀ name x, (name, some x) ∈ m → rules.Takes inline x.head.kind) →
      ∀ socket ∈ socketBranches rules inline m, p.Link inline socket.2
  | [], _, _, _, _ => fun _ hmem => nomatch hmem
  | (name, plug) :: rest, parent, inline, hall, htakes => by
    rw [socketDescendants, List.forall_mem_append] at hall
    rw [socketBranches, List.forall_mem_cons]
    constructor
    · refine linkBranch_linked heven hrules plug parent inline hall.1 (htakes.imp_right ?_)
      rintro htakes x rfl
      exact htakes name x List.mem_cons_self
    · refine socketBranches_linked heven hrules rest parent inline hall.2 (htakes.imp_right ?_)
      intro htakes other x hmem
      exact htakes other x (List.mem_cons_of_mem _ hmem)

theorem linkBranch_linked (heven : p.Even traps) (hrules : rules.Pairs traps) :
    ∀ (x : Option Block) (parent : Block) (inline : Bool),
      (∀ q ∈ linkDescendants parent inline x, p.Admits rules q.block) →
      (p.Tolerates ∨ ∀ b, x = some b → rules.Takes inline b.head.kind) →
      p.Link inline (linkBranch rules inline x)
  | none, _, inline, _, _ => link_none heven inline
  | some b, parent, inline, hall, htakes => by
    refine (branchAt_emits heven hrules b (some parent) inline hall).imp ?_
    rintro e f ⟨hef, hsort⟩
    refine ⟨hef, fun hmis => ?_⟩
    rcases htakes with htol | htakes
    · exact htol
    rcases hsort with htol | ⟨hvalue, hstatement⟩
    · exact htol
    have hplace := htakes b rfl
    cases inline with
    | false => rw [hstatement hplace] at hmis; cases hmis
    | true => rw [hvalue hplace] at hmis; cases hmis

end

/-- The code of a block at the top. -/
theorem topCode_pairs (heven : p.Even traps) (hrules : rules.Pairs traps) {b : Block}
    (hall : ∀ q ∈ b.descendants, p.Admits rules q.block) :
    p.Relates p.code (Gen.topCode rules b) (Gen.topCode rules b) := by
  rw [Gen.topCode_eq, b.code_eq]
  refine (branchAt_emits heven hrules b none false hall).bind ?_
  rintro e f ⟨hef, -⟩
  cases e <;> cases f
  case statement.statement x y => exact .pure (heven.code_of_chain hef)
  case value.value x rank y other => exact .pure (p.code_append hef.1 (p.code_same _))
  all_goals exact hef.elim

end Block

/-- What goes for rules goes for everything around them if a run is watched. -/
theorem Watch.even {s : Setting} (w : Watch s) (traps : Bool) : w.pairing.Even traps where
  bare := trivial
  commentMark_eq := rfl
  value_of_code := id
  code_of_chain := id
  chain_empty := rfl
  chain_of_whole := whole_eq
  chain_wrapped := by
    rintro u a b (hab | ⟨-, rfl, rfl⟩)
    · rw [whole_eq hab]
      rfl
    · rfl
  chain_join := fun _ h _ h' => h ▸ h' ▸ rfl
  lines_of_chain := fun h _ => h ▸ rfl
  joins := fun _ => trivial
  trap := fun _ _ => rfl
  before := fun _ _ => rfl

/-- The code of every block at the top. -/
theorem Workspace.topCodes_pairs {s t : Setting} {p : Pairing s t} {traps : Bool} {rules : Rulebook}
    (heven : p.Even traps) (hrules : rules.Pairs traps) {ws : Workspace}
    (hall : ∀ q ∈ ws.blocks, p.Admits rules q.block) :
    p.Relates (List.Forall₂ p.code) (ws.top.mapM (Gen.topCode rules))
      (ws.top.mapM (Gen.topCode rules)) := by
  refine .mapM_same _ fun b hb => Block.topCode_pairs heven hrules fun q hq => hall q ?_
  exact List.mem_flatMap.2 ⟨b, hb, hq⟩

end BlockCode
