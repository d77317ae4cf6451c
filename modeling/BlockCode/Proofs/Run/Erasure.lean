import BlockCode.Proofs.Run.Blocks
import BlockCode.Session

namespace BlockCode

namespace Block

mutual

/-- What is left of a block without the disabled blocks at the places of statements. A disabled
block there gives way to the next one; blocks in value sockets stay. -/
def erasedAt (inline : Bool) : Block → Option Block
  | .mk head inputs statements next =>
    if head.isDisabled && !inline then erasedLink false next
    else some (.mk head (erasedSockets true inputs) (erasedSockets false statements)
      (erasedLink false next))

def erasedSockets (inline : Bool) : List (String × Option Block) → List (String × Option Block)
  | [] => []
  | (name, plug) :: rest => (name, erasedLink inline plug) :: erasedSockets inline rest

def erasedLink (inline : Bool) : Option Block → Option Block
  | none => none
  | some b => erasedAt inline b

end

end Block

/-- The workspace without its disabled statements. -/
def Workspace.erased (ws : Workspace) : Workspace :=
  { ws with top := ws.top.filterMap (Block.erasedAt false) }

namespace Block

/-- The block is not a disabled statement. -/
def Placed.IsActive (p : Placed) : Prop :=
  p.inline = false → p.block.head.isDisabled = false

theorem linkDescendants_active {x : Option Block} {inline : Bool}
    (h : ∀ b ∈ x, ∀ parent, ∀ p ∈ descendantsAt parent inline b, p.IsActive) (parent : Block) :
    ∀ p ∈ linkDescendants parent inline x, p.IsActive := by
  cases x with
  | none => exact fun p hp => nomatch hp
  | some b => exact h b rfl (some parent)

mutual

theorem erasedAt_active : ∀ (b : Block) (inline : Bool), ∀ b' ∈ erasedAt inline b, ∀ parent,
    ∀ p ∈ descendantsAt parent inline b', p.IsActive
  | .mk head inputs statements next, inline, b', hb, parent => by
    rw [erasedAt] at hb
    split at hb
    · next hgone =>
      rw [Bool.and_eq_true, Bool.not_eq_true'] at hgone
      obtain ⟨-, rfl⟩ := hgone
      exact erasedLink_active next false b' hb parent
    · next hstays =>
      cases hb
      rw [descendantsAt, List.forall_mem_cons, List.forall_mem_append, List.forall_mem_append]
      refine ⟨?_, ⟨erasedSockets_active inputs true _, erasedSockets_active statements false _⟩,
        linkDescendants_active (erasedLink_active next false) _⟩
      rintro rfl
      rwa [Bool.not_false, Bool.and_true, Bool.not_eq_true] at hstays

theorem erasedSockets_active : ∀ (m : List (String × Option Block)) (inline : Bool) (parent : Block),
    ∀ p ∈ socketDescendants parent inline (erasedSockets inline m), p.IsActive
  | [], _, _, _, hp => nomatch hp
  | (_, plug) :: rest, inline, parent, p, hp => by
    rw [erasedSockets, socketDescendants, List.mem_append] at hp
    rcases hp with hp | hp
    · exact linkDescendants_active (erasedLink_active plug inline) parent p hp
    · exact erasedSockets_active rest inline parent p hp

theorem erasedLink_active : ∀ (x : Option Block) (inline : Bool), ∀ b' ∈ erasedLink inline x,
    ∀ parent, ∀ p ∈ descendantsAt parent inline b', p.IsActive
  | none, _, _, hb => nomatch hb
  | some b, inline, b', hb => erasedAt_active b inline b' hb

end

end Block

/-- No disabled statement is left. -/
theorem Workspace.erased_active (ws : Workspace) : ∀ p ∈ ws.erased.blocks, p.IsActive := by
  intro p hp
  obtain ⟨b', hb', hp⟩ := List.mem_flatMap.1 hp
  obtain ⟨b, -, hb⟩ := List.mem_filterMap.1 hb'
  exact b.erasedAt_active false b' hb none p hp

/-- The misfit without the kind of the block that does not fit. -/
def Misfit.childless : Misfit → Misfit
  | .statementAsValue _ socket parent => .statementAsValue "" socket parent
  | .valueAsStatement _ socket parent => .valueAsStatement "" socket parent
  | .valueInChain _ before => .valueInChain "" before
  | misfit => misfit

def Fault.childless : Fault → Fault
  | .invalidEmission misfit => .invalidEmission misfit.childless
  | fault => fault

/-- Everything is the same in both runs, the kinds of blocks that do not fit apart. -/
def Comparison.childless (s : Setting) : Comparison s s :=
  { Comparison.exact .trivial Eq s with
    faults := fun fault other => fault.childless = other.childless
    kinds := fun _ _ => True
    faults_refl := fun _ => rfl
    faults_statementAsValue := fun _ _ _ => rfl
    faults_valueAsStatement := fun _ _ _ => rfl
    faults_valueInChain := fun _ _ => rfl }

theorem Comparison.childless_exact (s : Setting) : (Comparison.childless s).Exact :=
  ⟨trivial, fun _ => trivial, .rfl, .rfl⟩

namespace Block

mutual

/-- Comments in value sockets stay. -/
theorem linkComments_erasedAt : ∀ b : Block, linkComments (erasedAt true b) = valueComments b
  | .mk head inputs statements next => by
    rw [erasedAt, Bool.not_true, Bool.and_false, if_neg Bool.false_ne_true, linkComments,
      valueComments, valueComments, socketComments_erasedSockets inputs]

theorem socketComments_erasedSockets : ∀ m : List (String × Option Block),
    socketComments (erasedSockets true m) = socketComments m
  | [] => rfl
  | (_, plug) :: rest => by
    rw [erasedSockets, socketComments, socketComments, linkComments_erasedLink plug,
      socketComments_erasedSockets rest]

theorem linkComments_erasedLink : ∀ x : Option Block,
    linkComments (erasedLink true x) = linkComments x
  | none => rfl
  | some b => by rw [erasedLink, linkComments_erasedAt b, linkComments]

end

theorem erasedSockets_comments : ∀ m : List (String × Option Block),
    (erasedSockets true m).map (fun socket => linkComments socket.2) =
      m.map fun socket => linkComments socket.2
  | [] => rfl
  | (_, plug) :: rest =>
    congrArg₂ List.cons (linkComments_erasedLink plug) (erasedSockets_comments rest)

variable {s : Setting} {rules : Rulebook}

/-- A disabled block gives what is linked to it. -/
theorem linkCode_disabled {head : BlockHead} (h : head.isDisabled = true)
    (inputs statements : List (String × Option Block)) (next : Option Block) (inline : Bool) :
    Branch.linkCode (some (branchAt rules inline (.mk head inputs statements next))) =
      Branch.linkCode (linkBranch rules false next) := by
  rw [Branch.linkCode, branchAt]
  simp only [Site.emit, if_pos h]
  exact Site.skipped_eq _

mutual

/-- Erasing leaves the code of a block as it is: a disabled one hands on the code of the next, and
at any other the erased connections give the same code. -/
theorem erasedAt_link (hrules : Rulebook.Compares true rules) : ∀ (b : Block) (inline : Bool),
    (Comparison.childless s).Link inline (some (branchAt rules inline b))
      (linkBranch rules inline (erasedAt inline b))
  | .mk head inputs statements next, inline => by
    have hnext := erasedLink_link hrules next false
    rw [erasedAt]
    split
    · next hgone =>
      rw [Bool.and_eq_true, Bool.not_eq_true'] at hgone
      obtain ⟨hdisabled, rfl⟩ := hgone
      refine Comparison.link_of_kinds trivial ?_
      rw [linkCode_disabled hdisabled]
      exact hnext.imp fun _ _ hef => hef.1
    · have hexact := Comparison.childless_exact s
      have hcomments := (socketBranches_comments rules true inputs).trans
        ((erasedSockets_comments inputs).symm.trans (socketBranches_comments rules true _).symm)
      rw [linkBranch]
      exact Comparison.link_of_kinds trivial (Comparison.Site.emit (hexact.site rfl
        (fun _ _ => rfl) rfl (erasedSockets_links hrules inputs true)
        (erasedSockets_links hrules statements false) hnext hcomments)
        (Comparison.follows _ hrules) fun _ => .inr hexact)

theorem erasedSockets_links (hrules : Rulebook.Compares true rules) :
    ∀ (m : List (String × Option Block)) (inline : Bool),
      (Comparison.childless s).Sockets inline (socketBranches rules inline m)
        (socketBranches rules inline (erasedSockets inline m))
  | [], _ => .nil
  | (_, plug) :: rest, inline =>
    .cons ⟨rfl, erasedLink_link hrules plug inline⟩ (erasedSockets_links hrules rest inline)

theorem erasedLink_link (hrules : Rulebook.Compares true rules) : ∀ (x : Option Block) (inline : Bool),
    (Comparison.childless s).Link inline (linkBranch rules inline x)
      (linkBranch rules inline (erasedLink inline x))
  | none, inline => Comparison.link_none inline
  | some b, inline => erasedAt_link hrules b inline

end

end Block

variable {s : Setting} {rules : Rulebook}

theorem Gen.Answers.mapError_eq {α ε : Type} {f : Fault → ε} {x y : Except Fault α}
    (h : Gen.Answers (fun fault other => f fault = f other) Eq x y) : x.mapError f = y.mapError f := by
  cases x <;> cases y
  · exact congrArg Except.error h
  · exact h.elim
  · exact h.elim
  · exact congrArg Except.ok h

/-- Blocks of which nothing is left have left no code before. -/
theorem Comparison.erased_parts (hrules : Rulebook.Compares true rules) : ∀ top : List Block,
    (Comparison.childless s).Relates
      (fun parts parts' => parts.filter (· ≠ "") = parts'.filter (· ≠ ""))
      (top.mapM (Gen.topCode rules)) ((top.filterMap (Block.erasedAt false)).mapM (Gen.topCode rules))
  | [] => .pure rfl
  | b :: top => by
    have hrest := erased_parts hrules top
    have hlink := (b.erasedAt_link (s := s) hrules false).imp fun _ _ hef => hef.1
    have hpart := Comparison.topText hlink
    rw [← b.code_eq, ← Gen.topCode_eq] at hpart
    rw [List.mapM_cons]
    cases he : b.erasedAt false with
    | none =>
      rw [he] at hpart
      rw [List.filterMap_cons_none he, ← bind_pure (List.mapM _ (List.filterMap _ top)),
        ← pure_bind "" fun _ : String => List.mapM _ _ >>= pure]
      refine hpart.given.bind ?_
      rintro a b ⟨rfl, -, hb⟩
      obtain rfl : "" = a := hb.of_pure
      exact hrest.bind fun parts parts' hparts => .pure (by simpa using hparts)
    | some b' =>
      rw [he, Block.linkBranch, ← b'.code_eq, ← Gen.topCode_eq] at hpart
      rw [List.filterMap_cons_some he, List.mapM_cons]
      refine hpart.bind ?_
      rintro a _ rfl
      refine hrest.bind fun parts parts' hparts => .pure ?_
      rw [List.filter_cons, List.filter_cons, hparts]

namespace Generator

/-- A program without its disabled statements, of which none is left, gets the same text, or the same
fault with perhaps another block named as the one that does not fit; whatever was done with the
generator before. -/
theorem erased_same_answer (language : Language) (config : Config) (ws : Workspace) :
    (∀ p ∈ ws.erased.blocks, p.IsActive) ∧
      ∀ s t : Session,
        (s.generate ⟨language.dialect, config⟩ (.workspace ws)).1.mapError Fault.childless =
          (t.generate ⟨language.dialect, config⟩ (.workspace ws.erased)).1.mapError
            Fault.childless := by
  refine ⟨ws.erased_active, fun s t => ?_⟩
  let g : Generator := ⟨language.dialect, config⟩
  have hrules : Rulebook.Compares true language.dialect.rules :=
    Rulebook.dialect_compares fun _ => rfl
  have hfinish : ∀ parts parts' : List String,
      parts.filter (· ≠ "") = parts'.filter (· ≠ "") →
        (Comparison.childless g.setting).Relates Eq
          (Gen.finish ("\n".intercalate (parts.filter (· ≠ ""))))
          (Gen.finish ("\n".intercalate (parts'.filter (· ≠ "")))) := by
    intro parts parts' hparts
    rw [hparts]
    exact Gen.Relates.finish (Comparison.childless g.setting).faults_refl _
  have hnames : ws.variableNames = ws.erased.variableNames := rfl
  have hanswers := Comparison.generate rfl trivial (fun _ => rfl) hnames
    (Comparison.erased_parts (s := g.setting) hrules ws.top) hfinish s.run t.run
  exact Gen.Answers.mapError_eq (hanswers.imp fun _ _ hab => hab.1)

end Generator

end BlockCode
