import BlockCode.Proofs.Run.Programs
import BlockCode.Proofs.Run.Following

namespace BlockCode

namespace Block

mutual

/-- Blocks that differ in their identifiers only, which are in the relation `R`. -/
def Alike (R : Value → Value → Prop) : Block → Block → Prop
  | .mk head inputs statements next, .mk head' inputs' statements' next' =>
    head' = { head with id := head'.id } ∧ R head.id head'.id ∧ SocketsAlike R inputs inputs' ∧
      SocketsAlike R statements statements' ∧ LinksAlike R next next'

def SocketsAlike (R : Value → Value → Prop) :
    List (String × Option Block) → List (String × Option Block) → Prop
  | [], [] => True
  | (name, plug) :: rest, (name', plug') :: rest' =>
    name = name' ∧ LinksAlike R plug plug' ∧ SocketsAlike R rest rest'
  | _, _ => False

def LinksAlike (R : Value → Value → Prop) : Option Block → Option Block → Prop
  | none, none => True
  | some b, some b' => Alike R b b'
  | _, _ => False

end

variable {R : Value → Value → Prop}

mutual

theorem valueComments_eq : ∀ {b b' : Block}, Alike R b b' → valueComments b = valueComments b'
  | .mk head inputs statements next, .mk head' inputs' statements' next', h => by
    obtain ⟨hh, -, hi, -, -⟩ := h
    rw [valueComments, valueComments, socketComments_eq hi, hh]

theorem socketComments_eq : ∀ {m n : List (String × Option Block)}, SocketsAlike R m n →
    socketComments m = socketComments n
  | [], [], _ => rfl
  | (_, plug) :: m, (_, plug') :: n, h => by
    rw [socketComments, socketComments, linkComments_eq h.2.1, socketComments_eq h.2.2]

theorem linkComments_eq : ∀ {x y : Option Block}, LinksAlike R x y →
    linkComments x = linkComments y
  | none, none, _ => rfl
  | some _, some _, h => valueComments_eq h

end

mutual

theorem descendantNames_eq : ∀ {b b' : Block} {p q : Option Block} {inline : Bool}, Alike R b b' →
    (descendantsAt p inline b).map (fun placed => placed.block.head.variableNames) =
      (descendantsAt q inline b').map fun placed => placed.block.head.variableNames
  | .mk head inputs statements next, .mk head' inputs' statements' next', _, _, _, h => by
    obtain ⟨hh, -, hi, hs, hn⟩ := h
    have hv : head.variableNames = head'.variableNames := by
      rw [hh]
      rfl
    simp only [descendantsAt, List.map_cons, List.map_append]
    exact congrArg₂ List.cons hv (congrArg₂ (· ++ ·)
      (congrArg₂ (· ++ ·) (socketNames_eq hi) (socketNames_eq hs)) (linkNames_eq hn))

theorem socketNames_eq : ∀ {m n : List (String × Option Block)} {p q : Block} {inline : Bool},
    SocketsAlike R m n →
    (socketDescendants p inline m).map (fun placed => placed.block.head.variableNames) =
      (socketDescendants q inline n).map fun placed => placed.block.head.variableNames
  | [], [], _, _, _, _ => rfl
  | (_, plug) :: m, (_, plug') :: n, _, _, _, h => by
    simp only [socketDescendants, List.map_append]
    exact congrArg₂ (· ++ ·) (linkNames_eq h.2.1) (socketNames_eq h.2.2)

theorem linkNames_eq : ∀ {x y : Option Block} {p q : Block} {inline : Bool}, LinksAlike R x y →
    (linkDescendants p inline x).map (fun placed => placed.block.head.variableNames) =
      (linkDescendants q inline y).map fun placed => placed.block.head.variableNames
  | none, none, _, _, _, _ => rfl
  | some _, some _, _, _, _, h => descendantNames_eq h

end

/-- The variables do not depend on the identifiers. -/
theorem variablesOf_eq {top top' : List Block} (h : List.Forall₂ (Alike R) top top') :
    variablesOf top = variablesOf top' := by
  have hn : (top.flatMap descendants).map (fun placed => placed.block.head.variableNames) =
      (top'.flatMap descendants).map fun placed => placed.block.head.variableNames := by
    induction h with
    | nil => rfl
    | cons hb _ ih =>
      simp only [List.flatMap_cons, List.map_append, ih]
      exact congrArg (· ++ _) (descendantNames_eq hb)
  have hm : ∀ l : List Placed, (l.mapM fun placed => placed.block.head.variableNames) =
      (l.map fun placed => placed.block.head.variableNames).mapM id := by
    intro l
    rw [List.mapM_map]
    rfl
  rw [variablesOf, variablesOf, hm, hm, hn]

end Block

/-- Workspaces with the same variables whose blocks differ in their identifiers only. -/
structure Workspace.Alike (R : Value → Value → Prop) (ws ws' : Workspace) : Prop where
  top : List.Forall₂ (Block.Alike R) ws.top ws'.top
  variableNames : ws.variableNames = ws'.variableNames

variable {traps : Bool} {I : Context → Prop} {D : List String → List String → Prop} {s : Setting}
  {rules : Rulebook}

/-- Everything is the same in both runs, and the first keeps what every request keeps. -/
def Comparison.exact (hI : Context.Kept I) (D : List String → List String → Prop) (s : Setting) :
    Comparison s s where
  kept := I
  declared := D
  bare := True
  value := fun _ => True
  lines := Eq
  chain := Eq
  text := Eq
  toAkin := .refl s
  toFaultRelation := .exact
  requests := hI
  value_name := fun _ _ => trivial
  value_of_ink := fun _ => trivial
  value_append := fun _ _ => trivial
  value_terminated := fun _ => trivial
  lines_same := fun _ => rfl
  lines_append := CodeRelation.exact.code_append
  lines_indented := fun _ => rfl
  chain_empty := rfl
  chain_eq_empty := fun h => by rw [h]
  lines_of_chain := fun h _ => by rw [h]
  chain_of_lines := fun h _ => by rw [h]
  chain_join := fun h h' _ h'' => by rw [h, h', h'']
  text_same := fun _ => rfl
  text_of_chain := fun h => h

theorem Comparison.exact_exact (hI : Context.Kept I) : (Comparison.exact hI D s).Exact :=
  ⟨trivial, fun _ => trivial, .rfl, .rfl⟩

/-- The rules keep to comparisons of runs that keep `I`. -/
structure Rulebook.Agrees (traps : Bool) (I : Context → Prop) (rules : Rulebook) : Prop where
  kept : Context.Kept I
  compares : Rulebook.Compares traps rules

theorem Rulebook.dialect_agrees (hI : Context.Kept I) {language : Language}
    (h : language.setsTraps = true → traps = true) :
    Rulebook.Agrees traps I language.dialect.rules :=
  ⟨hI, dialect_compares h⟩

namespace Block

variable {R : Value → Value → Prop}

theorem code_eq (b : Block) :
    b.code rules = Branch.linkCode (some (branchAt rules false b)) := by
  cases b
  rfl

@[simp] theorem site_head (rules : Rulebook) (b : Block) : (b.site rules).head = b.head := by
  cases b
  rfl

theorem site_inline (rules : Rulebook) (b : Block) : (b.site rules).inline = false := by
  cases b
  rfl

theorem socketBranches_comments (rules : Rulebook) (inline : Bool) :
    ∀ m : List (String × Option Block),
      (socketBranches rules inline m).map (fun socket => Branch.linkComments socket.2) =
        m.map fun socket => linkComments socket.2
  | [] => rfl
  | (_, none) :: rest => congrArg ([] :: ·) (socketBranches_comments rules inline rest)
  | (_, some b) :: rest => by
    obtain ⟨head, inputs, statements, next⟩ := b
    exact congrArg (_ :: ·) (socketBranches_comments rules inline rest)

theorem socketComments_map : ∀ {m n : List (String × Option Block)}, SocketsAlike R m n →
    m.map (fun socket => linkComments socket.2) = n.map fun socket => linkComments socket.2
  | [], [], _ => rfl
  | _ :: _, _ :: _, h => congrArg₂ List.cons (linkComments_eq h.2.1) (socketComments_map h.2.2)

theorem SocketsAlike.comments_eq (rules : Rulebook) (inline : Bool)
    {m n : List (String × Option Block)} (h : SocketsAlike R m n) :
    (socketBranches rules inline m).map (fun socket => Branch.linkComments socket.2) =
      (socketBranches rules inline n).map fun socket => Branch.linkComments socket.2 := by
  rw [socketBranches_comments, socketBranches_comments, socketComments_map h]

mutual

theorem branchAt_link (hrules : Rulebook.Agrees traps I rules)
    (hR : ∀ i j : Value, R i j → s.config.Blurs traps i.written j.written) :
    ∀ {b b' : Block} {inline : Bool}, Alike R b b' →
      (Comparison.exact hrules.kept D s).Link inline (some (branchAt rules inline b))
        (some (branchAt rules inline b'))
  | .mk head inputs statements next, .mk head' inputs' statements' next', inline, h => by
    obtain ⟨hh, hid, hi, hs, hn⟩ := h
    have hexact := Comparison.exact_exact (D := D) (s := s) hrules.kept
    refine Comparison.link_of_kinds ?_ (Comparison.Site.emit (hexact.site hh (hR _ _ hid) rfl
      (socketBranches_links hrules hR hi) (socketBranches_links hrules hR hs)
      (linkBranch_link hrules hR hn) (SocketsAlike.comments_eq rules true hi))
      (Comparison.follows _ hrules.compares) fun _ => .inr hexact)
    simp only [branchAt, Branch.linkKind]
    rw [hh]
    rfl

theorem socketBranches_links (hrules : Rulebook.Agrees traps I rules)
    (hR : ∀ i j : Value, R i j → s.config.Blurs traps i.written j.written) :
    ∀ {m n : List (String × Option Block)} {inline : Bool}, SocketsAlike R m n →
      (Comparison.exact hrules.kept D s).Sockets inline (socketBranches rules inline m)
        (socketBranches rules inline n)
  | [], [], _, _ => .nil
  | _ :: _, _ :: _, _, h =>
    .cons ⟨h.1, linkBranch_link hrules hR h.2.1⟩ (socketBranches_links hrules hR h.2.2)

theorem linkBranch_link (hrules : Rulebook.Agrees traps I rules)
    (hR : ∀ i j : Value, R i j → s.config.Blurs traps i.written j.written) :
    ∀ {x y : Option Block} {inline : Bool}, LinksAlike R x y →
      (Comparison.exact hrules.kept D s).Link inline (linkBranch rules inline x)
        (linkBranch rules inline y)
  | none, none, inline, _ => Comparison.link_none inline
  | some _, some _, _, h => branchAt_link hrules hR h

end

variable (hrules : Rulebook.Agrees traps I rules)
  (hR : ∀ i j : Value, R i j → s.config.Blurs traps i.written j.written)
include hR

theorem site_compares : ∀ {b b' : Block}, Alike R b b' →
    (Comparison.exact hrules.kept D s).Site traps (b.site rules) (b'.site rules)
  | .mk head inputs statements next, .mk head' inputs' statements' next', h => by
    obtain ⟨hh, hid, hi, hs, hn⟩ := h
    exact (Comparison.exact_exact hrules.kept).site hh (hR _ _ hid) rfl
      (socketBranches_links hrules hR hi) (socketBranches_links hrules hR hs)
      (linkBranch_link hrules hR hn) (SocketsAlike.comments_eq rules true hi)

theorem code_compares {b b' : Block} (h : Alike R b b') :
    (Comparison.exact hrules.kept D s).Relates
      ((Comparison.exact hrules.kept D s).Emission false) (b.code rules) (b'.code rules) := by
  have hinline : (b.site rules).inline = false := b.site_inline rules
  have hemit := (site_compares (D := D) hrules hR h).emit (Comparison.follows _ hrules.compares)
    fun _ => .inr (Comparison.exact_exact hrules.kept)
  rwa [hinline] at hemit

end Block

namespace Gen

theorem Relates.finish {F : Fault → Fault → Prop} (hF : ∀ fault, F fault fault) (code : String) :
    Relates (Run.Matches Eq I Eq) F Eq s s (Gen.finish code) (Gen.finish code) := by
  refine .read_bind fun r q hr => ?_
  have hx : ∀ (t : Run) (f : Run → Gen String), exec (get >>= f) s t = exec (f t) s t :=
    fun _ _ => rfl
  rw [hx, hx, hr.declared]
  refine Relates.bind (Relates.context (hF _)) (fun c d hcd => ?_) r q hr
  rw [hcd.eq]
  exact .pure rfl

/-- The text of a program does not depend on what the run held before. -/
theorem generate_answers {R : Value → Value → Prop} (hnew : I s.newContext)
    (hrules : Rulebook.Agrees traps I rules)
    (hR : ∀ i j : Value, R i j → s.config.Blurs traps i.written j.written) {ws ws' : Workspace}
    (hws : ws.Alike R ws') (r q : Run) :
    Answers Eq Eq (exec (generate rules ws) s r).1 (exec (generate rules ws') s q).1 := by
  have hparts : (Comparison.exact hrules.kept Eq s).Relates (List.Forall₂ Eq)
      (ws.top.mapM (topCode rules)) (ws'.top.mapM (topCode rules)) :=
    .mapM (hws.top.imp fun _ _ hb => Comparison.topText (Block.code_compares hrules hR hb))
  refine (Comparison.generate rfl hnew (fun _ => rfl) hws.variableNames hparts ?_ r q).imp
    fun _ _ hab => hab.1
  intro parts parts' h
  have heq : parts = parts' := List.forall₂_eq_eq_eq ▸ h
  rw [heq]
  exact Relates.finish (fun _ => rfl) _

end Gen

end BlockCode
