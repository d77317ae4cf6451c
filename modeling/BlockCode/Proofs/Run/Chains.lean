import BlockCode.Dialect.FuzeBasic
import BlockCode.Proofs.Run.CommentLines

namespace BlockCode

open Branch

namespace Gen

variable {α β : Type} {s : Setting} {r : Run}

section MapM

variable {f : α → Gen β} {l : List α} {a m : α} {q r' : Run} {b : β} {fault : Fault}

theorem exec_mapM_cons_error (ha : exec (f a) s r = (.error fault, q)) :
    exec ((a :: l).mapM f) s r = (.error fault, q) := by
  rw [List.mapM_cons, exec_bind, ha]

theorem exec_mapM_cons_ok (ha : exec (f a) s r = (.ok b, q)) :
    exec ((a :: l).mapM f) s r = Prod.map (Except.map (b :: ·)) id (exec (l.mapM f) s q) := by
  rw [List.mapM_cons, exec_bind, ha]
  dsimp only
  rw [exec_bind]
  rcases exec (l.mapM f) s q with ⟨fault | bs, q'⟩ <;> rfl

/-- The run gets through the actions before the one for `m`, and is then `q`. -/
def Reaches (s : Setting) (f : α → Gen β) (l : List α) (r : Run) (m : α) (q : Run) : Prop :=
  ∃ before after done, l = before ++ m :: after ∧ exec (before.mapM f) s r = (.ok done, q)

theorem Reaches.mem (h : Reaches s f l r m q) : m ∈ l := by
  obtain ⟨before, after, done, rfl, -⟩ := h
  simp

theorem reaches_head : Reaches s f (a :: l) r a r :=
  ⟨[], l, [], rfl, rfl⟩

/-- Behind an action that succeeds the same is reached with and without it. -/
theorem Reaches.tail (ha : exec (f a) s r = (.ok b, r')) (h : Reaches s f l r' m q) :
    Reaches s f (a :: l) r m q := by
  obtain ⟨before, after, done, rfl, hdone⟩ := h
  exact ⟨a :: before, after, b :: done, rfl, by rw [exec_mapM_cons_ok ha, hdone]; rfl⟩

theorem Reaches.head_or_tail (h : Reaches s f (a :: l) r m q) :
    (m = a ∧ q = r) ∨ ∃ b r', exec (f a) s r = (.ok b, r') ∧ Reaches s f l r' m q := by
  obtain ⟨before, after, done, hl, hdone⟩ := h
  cases before with
  | nil =>
    cases hl
    cases hdone
    exact .inl ⟨rfl, rfl⟩
  | cons first before =>
    obtain ⟨rfl, rfl⟩ := List.cons.inj hl
    rcases ha : exec (f a) s r with ⟨fault | b, r'⟩
    · cases (exec_mapM_cons_error ha).symm.trans hdone
    · have hrest := (exec_mapM_cons_ok ha).symm.trans hdone
      rcases hbefore : exec (before.mapM f) s r' with ⟨fault | bs, q'⟩
      · rw [hbefore] at hrest
        cases hrest
      · rw [hbefore] at hrest
        cases hrest
        exact .inr ⟨b, r', rfl, before, after, bs, rfl, hbefore⟩

/-- Actions one after another fail where the first of them fails. -/
theorem exec_mapM_eq_error :
    exec (l.mapM f) s r = (.error fault, r') ↔
      ∃ m q, Reaches s f l r m q ∧ exec (f m) s q = (.error fault, r') := by
  induction l generalizing r with
  | nil =>
    constructor
    · intro h
      cases h
    · rintro ⟨m, q, h, -⟩
      exact absurd h.mem List.not_mem_nil
  | cons a l ih =>
    rcases ha : exec (f a) s r with ⟨other | b, q⟩
    · rw [exec_mapM_cons_error ha]
      constructor
      · intro h
        cases h
        exact ⟨a, r, reaches_head, ha⟩
      · rintro ⟨m, p, hreach, hm⟩
        rcases hreach.head_or_tail with ⟨rfl, rfl⟩ | ⟨b, q', hb, -⟩
        · cases ha.symm.trans hm
          rfl
        · cases ha.symm.trans hb
    · have hrest : exec ((a :: l).mapM f) s r = (.error fault, r') ↔
          exec (l.mapM f) s q = (.error fault, r') := by
        rw [exec_mapM_cons_ok ha]
        rcases exec (l.mapM f) s q with ⟨other | bs, q'⟩ <;> simp [Except.map]
      rw [hrest, ih]
      constructor
      · rintro ⟨m, p, hreach, hm⟩
        exact ⟨m, p, hreach.tail ha, hm⟩
      · rintro ⟨m, p, hreach, hm⟩
        rcases hreach.head_or_tail with ⟨rfl, rfl⟩ | ⟨b', q', hb, hreach⟩
        · cases ha.symm.trans hm
        · cases ha.symm.trans hb
          exact ⟨m, p, hreach, hm⟩

end MapM

end Gen

namespace Site

/-- What the rule for a block gives. -/
def outcome (rules : Rulebook) (site : Site) : Gen Outcome := do
  match ← Gen.ofExcept (rules.ruleFor site.head.kind) with
  | none => throw (.unknownKind site.kind (← read).conventions.name)
  | some rule => rule site

/-- The text of a single statement: the comments in front of it, and its code with the inserted code
around it. -/
def fragment (rules : Rulebook) (site : Site) : Gen String := do
  match ← site.outcome rules with
  | .statement code =>
    let comments ← Gen.ofExcept (site.commentLines (← read).commentMark)
    return comments ++ site.wrapped (← read).config code
  | _ => return ""

/-- The sites of blocks that are enabled. -/
def enabled (sites : List Site) : List Site :=
  sites.filter fun site => !site.head.isDisabled

/-- The comments in front of a block are texts. -/
def HasTextComments (site : Site) : Prop :=
  (site.head.comment.isSet = true → ∃ text, site.head.comment = .text text) ∧
    ∀ v ∈ site.inputs.flatMap fun socket => linkComments socket.2, ∃ text, v = .text text

theorem emit_of_enabled {rules : Rulebook} {site : Site} (h : site.head.isDisabled = false) :
    site.emit rules = site.outcome rules >>= site.placed := by
  simp only [emit, outcome, h, Bool.false_eq_true, if_false, bind_assoc]
  congr
  funext rule
  cases rule with
  | none => rfl
  | some rule => rfl

/-- Where a rule gives a statement if it does not fail, a fragment fails only with the rule or because
of a comment that is no text. -/
theorem exec_fragment_eq_error {rules : Rulebook} {s : Setting} {site : Site} {q r' : Run}
    {fault : Fault} (h : ∀ {outcome q'}, Gen.exec (site.outcome rules) s q = (.ok outcome, q') →
      ∃ code, outcome = .statement code) :
    Gen.exec (site.fragment rules) s q = (.error fault, r') ↔
      Gen.exec (site.outcome rules) s q = (.error fault, r') ∨
        ¬ site.HasTextComments ∧ site.commentLines s.commentMark = .error fault ∧
          ∃ code, Gen.exec (site.outcome rules) s q = (.ok (.statement code), r') := by
  rw [fragment, Gen.exec_bind]
  rcases houtcome : Gen.exec (site.outcome rules) s q with ⟨other | outcome, q'⟩
  · simp
  · obtain ⟨code, rfl⟩ := h houtcome
    simp only [Gen.exec_bind, Gen.exec_read, Gen.exec_ofExcept]
    cases hcomments : site.commentLines s.commentMark with
    | ok comments => simp
    | error other =>
      have htexts : ¬ site.HasTextComments := by
        rintro ⟨hown, hnested⟩
        obtain ⟨out, hout⟩ := exists_commentLines s.commentMark hown hnested
        cases hcomments.symm.trans hout
      simp [htexts]

end Site

namespace Block

mutual

/-- The block and the blocks behind it, in their order. -/
def chain : Block → List Block
  | .mk head inputs statements next => .mk head inputs statements next :: linkChain next

def linkChain : Option Block → List Block
  | none => []
  | some b => chain b

end

/-- The blocks of a chain as their rules see them; only the first may stand in a value socket. -/
def members (rules : Rulebook) (inline : Bool) (b : Block) : List Site :=
  { b.site rules with inline } :: (linkChain b.next).map (site rules)

theorem members_link (rules : Rulebook) (b : Block) :
    (linkChain (some b)).map (site rules) = b.members rules false := by
  cases b
  rfl

variable {rules : Rulebook} {s : Setting}

/-- Whenever the run gets to one of the members, its rule fails or gives a statement. -/
def GivesStatements (rules : Rulebook) (s : Setting) (members : List Site) (r : Run) : Prop :=
  ∀ {m q}, Gen.Reaches s (Site.fragment rules) members r m q →
    ∀ {outcome q'}, Gen.exec (m.outcome rules) s q = (.ok outcome, q') →
      ∃ code, outcome = .statement code

/-- The fragments of the members as the code of one statement. -/
def joined (rules : Rulebook) (members : List Site) : Gen Emission := do
  return .statement (String.join (← members.mapM (Site.fragment rules)))

/-- A member in front of a chain that is the fragments of its members. -/
theorem exec_emit_eq_joined {site : Site} {members : List Site} {r : Run}
    (henabled : site.head.isDisabled = false)
    (h : GivesStatements rules s (site :: members) r)
    (hnext : ∀ {q}, GivesStatements rules s members q →
      Gen.exec (linkCode site.next) s q = Gen.exec (joined rules members) s q) :
    Gen.exec (site.emit rules) s r = Gen.exec (joined rules (site :: members)) s r := by
  rw [Site.emit_of_enabled henabled, Gen.exec_bind, joined, Gen.exec_bind]
  rcases houtcome : Gen.exec (site.outcome rules) s r with ⟨fault | outcome, q⟩
  · have hfragment : Gen.exec (site.fragment rules) s r = (.error fault, q) := by
      rw [Site.fragment, Gen.exec_bind, houtcome]
    rw [Gen.exec_mapM_cons_error hfragment]
  · obtain ⟨code, rfl⟩ := h Gen.reaches_head houtcome
    cases hcomments : site.commentLines s.commentMark with
    | error fault =>
      have hfragment : Gen.exec (site.fragment rules) s r = (.error fault, q) := by
        rw [Site.fragment, Gen.exec_bind, houtcome]
        simp only [Gen.exec_bind, Gen.exec_read, Gen.exec_ofExcept, hcomments]
      rw [Gen.exec_mapM_cons_error hfragment]
      simp only [Site.placed, Site.sequence, Gen.exec_bind, Gen.exec_read, Gen.exec_ofExcept,
        hcomments]
    | ok comments =>
      have hfragment : Gen.exec (site.fragment rules) s r =
          (.ok (comments ++ site.wrapped s.config code), q) := by
        rw [Site.fragment, Gen.exec_bind, houtcome]
        simp only [Gen.exec_bind, Gen.exec_read, Gen.exec_ofExcept, hcomments, Gen.exec_pure]
      have hrest := hnext (q := q) fun hreach => h (hreach.tail hfragment)
      rw [joined, Gen.exec_bind] at hrest
      rw [Gen.exec_mapM_cons_ok hfragment]
      simp only [Site.placed, Site.sequence, Gen.exec_bind, Gen.exec_read, Gen.exec_ofExcept,
        hcomments, Site.nextCode_eq, hrest]
      rcases Gen.exec (members.mapM (Site.fragment rules)) s q with ⟨fault | fragments, q'⟩
      · rfl
      · simp only [Gen.exec_pure, Prod.map, Except.map, id, String.join_cons]

mutual

theorem exec_code_eq_joined : ∀ (b : Block) (inline : Bool) {r : Run},
    GivesStatements rules s (Site.enabled (b.members rules inline)) r →
      Gen.exec (branchAt rules inline b).code s r =
        Gen.exec (joined rules (Site.enabled (b.members rules inline))) s r
  | .mk head inputs statements next, inline, r, h => by
    simp only [members, Site.enabled, List.filter_cons, site] at h ⊢
    cases hdisabled : head.isDisabled with
    | true =>
      simp only [hdisabled, Bool.not_true, Bool.false_eq_true, if_false] at h ⊢
      simp only [branchAt, Site.emit, hdisabled, if_true, Site.skipped_eq]
      exact exec_link_eq_joined next h
    | false =>
      simp only [hdisabled, Bool.not_false, if_true] at h ⊢
      exact exec_emit_eq_joined hdisabled h (exec_link_eq_joined next)

theorem exec_link_eq_joined : ∀ (x : Option Block) {r : Run},
    GivesStatements rules s (Site.enabled ((linkChain x).map (site rules))) r →
      Gen.exec (linkCode (linkBranch rules false x)) s r =
        Gen.exec (joined rules (Site.enabled ((linkChain x).map (site rules)))) s r
  | none, _, _ => rfl
  | some b, _, h => by
    rw [members_link] at h ⊢
    exact exec_code_eq_joined b false h

end

/-- The code of a block is that of the enabled blocks of its chain, each with its comments in front of
it and the inserted code around it; their rules run one after another, once each. It fails where the
first of them does: its kind is unknown, or its rule fails, or its comments are not texts. -/
theorem code_is_fragments_in_order (b : Block) (inline : Bool) (r : Run)
    (h : GivesStatements rules s (Site.enabled (b.members rules inline)) r) :
    Gen.exec (branchAt rules inline b).code s r =
      Gen.exec (do
        let fragments ← (Site.enabled (b.members rules inline)).mapM (Site.fragment rules)
        return .statement (String.join fragments)) s r ∧
    ∀ fault r', Gen.exec (branchAt rules inline b).code s r = (.error fault, r') ↔
      ∃ m q, Gen.Reaches s (Site.fragment rules) (Site.enabled (b.members rules inline)) r m q ∧
        (Gen.exec (m.outcome rules) s q = (.error fault, r') ∨
          ¬ m.HasTextComments ∧ m.commentLines s.commentMark = .error fault ∧
            ∃ code, Gen.exec (m.outcome rules) s q = (.ok (.statement code), r')) := by
  have hcode := exec_code_eq_joined b inline h
  refine ⟨hcode, ?_⟩
  intro fault r'
  have hjoined : Gen.exec (joined rules (Site.enabled (b.members rules inline))) s r =
      (.error fault, r') ↔ Gen.exec ((Site.enabled (b.members rules inline)).mapM
        (Site.fragment rules)) s r = (.error fault, r') := by
    rw [joined, Gen.exec_bind]
    rcases Gen.exec ((Site.enabled (b.members rules inline)).mapM (Site.fragment rules)) s r
      with ⟨other | fragments, q⟩ <;> simp
  rw [hcode, hjoined, Gen.exec_mapM_eq_error]
  refine exists_congr fun m => exists_congr fun q => and_congr_right fun hreach => ?_
  exact Site.exec_fragment_eq_error (h hreach)

/-- A statement with a comment, a disabled block of no known kind behind it, and another statement. -/
def spokenTwice : Block :=
  .mk { kind := .text "text_print", comment := .text "say it", id := .text "a" } [] []
    (some (.mk { kind := .text "nothing", disabled := .bool true, id := .text "b" } [] []
      (some (.mk { kind := .text "text_print", id := .text "c" } [] [] none))))

theorem spokenTwice_is_fragments :
    let s : Setting := ⟨Dialect.fuzeConventions, { before := some "trace(%1)\n" }⟩
    let members := Site.enabled (spokenTwice.members Dialect.fuzeRules false)
    GivesStatements Dialect.fuzeRules s members {} ∧
      (Gen.exec (Gen.topCode Dialect.fuzeRules spokenTwice) s {}).1.toOption =
        some "// say it\ntrace('a')\nPRINT \"\"\ntrace('c')\nPRINT \"\"\n" ∧
      Gen.exec (spokenTwice.code Dialect.fuzeRules) s {} =
        Gen.exec (do
          let fragments ← members.mapM (Site.fragment Dialect.fuzeRules)
          return .statement (String.join fragments)) s {} := by
  intro s members
  have hgives : GivesStatements Dialect.fuzeRules s members {} := by
    intro m q hreach outcome q' houtcome
    -- both members print an empty text, whatever the run is
    have hprints : Gen.exec (m.outcome Dialect.fuzeRules) s q =
        (.ok (.statement "PRINT \"\"\n"), q) := by
      rcases List.mem_pair.1 hreach.mem with rfl | rfl <;> rfl
    cases hprints.symm.trans houtcome
    exact ⟨_, rfl⟩
  refine ⟨hgives, by decide +kernel, ?_⟩
  exact (code_is_fragments_in_order spokenTwice false {} hgives).1

end Block

end BlockCode
