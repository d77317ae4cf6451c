import BlockCode.Proofs.Name.Growth
import BlockCode.Proofs.Run.Spelling
import BlockCode.Proofs.Run.Trees

namespace BlockCode

namespace Allocator

variable {a next : Allocator} {name : Value} {type : NameType} {g : Grant}

theorem Accounts.distinct (ha : a.Accounts) (h : a.distinct name type = .ok (g, next)) :
    next.Accounts := by
  obtain ⟨-, -, rfl⟩ := distinct_eq_ok h
  exact fun hx => List.mem_cons_of_mem _ (ha hx)

/-- Different names have different identifiers. -/
def Separates (a : Allocator) : Prop :=
  ∀ {key other type x}, Entries.get? (key, type) a.known = some x →
    Entries.get? (other, type) a.known = some x → key = other

theorem Separates.distinct (ha : a.Separates) (h : a.distinct name type = .ok (g, next)) :
    next.Separates := by
  obtain ⟨-, -, rfl⟩ := distinct_eq_ok h
  exact ha

theorem Separates.get (ha : a.Separates) (hused : a.Accounts)
    (h : a.get name type = .ok (g, next)) : next.Separates := by
  obtain ⟨key, -, ⟨-, rfl⟩ | ⟨-, mid, hd, rfl⟩⟩ := get_eq_ok h
  · exact ha
  · obtain ⟨-, hfree, rfl⟩ := distinct_eq_ok hd
    -- the identifier chosen for the new name was not in use, so no name can have had it
    have hnew : ∀ {other}, Entries.get? (other, type) a.known ≠ some g.chosen := fun hx =>
      (isTaken_eq_false.1 hfree).1 (hused hx)
    intro first second kind x hfirst hsecond
    rw [Entries.get?_put] at hfirst hsecond
    split at hfirst <;> split at hsecond
    · next heq heq' =>
      cases heq
      cases heq'
      rfl
    · next heq _ =>
      cases heq
      cases hfirst
      exact absurd hsecond hnew
    · next heq =>
      cases heq
      cases hsecond
      exact absurd hfirst hnew
    · exact ha hfirst hsecond

theorem distinct_eq_error {attempts : Int} (ha : a.maxAttempts = .int attempts) {x : String}
    {fault : Fault} (h : a.distinct (.text x) type = .error fault) :
    fault = .namesExhausted (Name.identifier x) (.int attempts) ∧
      a.Crowded type (Name.identifier x) attempts := by
  cases hc : a.choose (a.pool type) (Name.identifier x) with
  | ok chosen =>
    rw [distinct, Name.identifierOf] at h
    simp only [bind, Except.bind, allot, hc, pure, Except.pure, reduceCtorEq] at h
  | error other =>
    rw [distinct, Name.identifierOf] at h
    simp only [bind, Except.bind, allot, hc, Except.error.injEq] at h
    exact h ▸ choose_eq_error ha hc

/-- The name of a variable in code: its identifier behind the lead. -/
def Names (a : Allocator) (x name : String) : Prop :=
  ∃ y, Entries.get? (.text x, .var) a.known = some y ∧ name = a.lead .var ++ y

/-- The name was given to a variable, be it one of the program or of the generated code. -/
def Gave (a : Allocator) (name : String) : Prop :=
  ∃ y, (a.pool .var, y) ∈ a.used ∧ name = a.lead .var ++ y

variable {x y m n : String}

theorem Names.gave (ha : a.Accounts) (h : a.Names x n) : a.Gave n := by
  obtain ⟨y, hy, rfl⟩ := h
  exact ⟨y, ha hy, rfl⟩

theorem Names.ne (ha : a.Separates) (hx : a.Names x m) (hy : a.Names y n) (hne : x ≠ y) : m ≠ n := by
  rintro rfl
  obtain ⟨v, hv, rfl⟩ := hx
  obtain ⟨w, hw, heq⟩ := hy
  rw [String.append_right_inj] at heq
  subst heq
  cases ha hv hw
  exact hne rfl

theorem Extends.names (h : a.Extends next) (hx : a.Names x n) : next.Names x n := by
  obtain ⟨y, hy, rfl⟩ := hx
  exact ⟨y, h.known hy, by rw [h.lead_eq]⟩

theorem Extends.gave (h : a.Extends next) (hn : a.Gave n) : next.Gave n := by
  obtain ⟨y, hy, rfl⟩ := hn
  exact ⟨y, by rw [h.pool_eq]; exact h.used _ hy, by rw [h.lead_eq]⟩

end Allocator

namespace Context

/-- What goes for allocators goes for the contexts they are in. -/
theorem Kept.ofNames {J : Allocator → Prop}
    (hget : ∀ {a name type g next}, J a → a.get name type = .ok (g, next) → J next)
    (hdistinct : ∀ {a name type g next}, J a → a.distinct name type = .ok (g, next) → J next) :
    Kept fun c => J c.names where
  get := fun hc hg => hget hc hg
  distinct := fun hc hd => hdistinct hc hd
  helperName := by
    intro c key answer records c' hc hn
    obtain ⟨id, -, ⟨-, -, rfl⟩ | ⟨-, g, names, hd, -, rfl⟩⟩ := helperName_eq_ok hn
    · exact hc
    · exact hdistinct hc hd
  define := by
    intro c key code c' hc hd
    obtain ⟨id, -, hd⟩ := exists_of_bind hd
    cases hd
    exact hc

theorem Kept.and {I J : Context → Prop} (hI : Kept I) (hJ : Kept J) : Kept fun c => I c ∧ J c where
  get := fun hc hg => ⟨hI.get hc.1 hg, hJ.get hc.2 hg⟩
  distinct := fun hc hd => ⟨hI.distinct hc.1 hd, hJ.distinct hc.2 hd⟩
  helperName := fun hc hn => ⟨hI.helperName hc.1 hn, hJ.helperName hc.2 hn⟩
  define := fun hc hd => ⟨hI.define hc.1 hd, hJ.define hc.2 hd⟩

/-- The identifiers of a context are legal, in use, and those of different names differ. -/
def Orderly (config : Config) (c : Context) : Prop :=
  c.Sound config ∧ c.names.Accounts ∧ c.names.Separates

namespace Orderly

theorem newContext (s : Setting) : s.newContext.Orderly s.config :=
  ⟨.newContext s, Allocator.accounts_of_unknown rfl, fun h => nomatch h⟩

theorem reset {config : Config} {c : Context} (h : c.Orderly config) : c.reset.Orderly config :=
  ⟨h.1.reset, Allocator.accounts_of_unknown rfl, fun h => nomatch h⟩

/-- Every request keeps the order. -/
theorem kept (config : Config) : Kept (Orderly config) :=
  (Sound.kept config).and (.ofNames (J := fun a => a.Accounts ∧ a.Separates)
    (fun ha hg => ⟨Allocator.Accounts.get ha.1 hg, Allocator.Separates.get ha.2 ha.1 hg⟩)
    (fun ha hd => ⟨Allocator.Accounts.distinct ha.1 hd, Allocator.Separates.distinct ha.2 hd⟩))

end Orderly

/-- A later context of the same run. -/
structure Follows (config : Config) (c d : Context) : Prop where
  grows : c.names.Extends d.names
  orderly : d.Orderly config

namespace Follows

variable {config : Config} {c d e : Context} {x n : String}

theorem refl (h : c.Orderly config) : c.Follows config c :=
  ⟨.refl _, h⟩

theorem trans (hcd : c.Follows config d) (hde : d.Follows config e) : c.Follows config e :=
  ⟨hcd.grows.trans hde.grows, hde.orderly⟩

theorem names (h : c.Follows config d) (hx : c.names.Names x n) : d.names.Names x n :=
  h.grows.names hx

theorem gave (h : c.Follows config d) (hn : c.names.Gave n) : d.names.Gave n :=
  h.grows.gave hn

theorem kept (config : Config) (c : Context) : Kept (c.Follows config) := by
  have hboth := (Kept.ofNames (J := c.names.Extends)
    (fun ha hg => ha.trans (Allocator.extends_of_get hg))
    (fun ha hd => ha.trans (Allocator.extends_of_distinct hd))).and (Orderly.kept config)
  have heq : c.Follows config = fun d => c.names.Extends d.names ∧ d.Orderly config :=
    funext fun d => propext ⟨fun h => ⟨h.grows, h.orderly⟩, fun h => ⟨h.1, h.2⟩⟩
  rwa [heq]

end Follows

end Context

/-- Every run of a generator is in order, whatever was done before. -/
theorem Session.after_orderly (language : Language) (config : Config) (earlier : List Operation) :
    (Session.after ⟨language.dialect, config⟩ earlier).run.Keeps (Context.Orderly config) :=
  after_keeps (Context.Orderly.kept config)
    (Rulebook.dialect_agrees (Context.Orderly.kept config) fun _ => rfl)
    (Context.Orderly.newContext (Generator.setting ⟨language.dialect, config⟩))
    Context.Orderly.reset earlier

section Watching

variable {I : Context → Prop}

/-- There is a context, and the fact holds of it. -/
def Run.Has (I : Context → Prop) (r : Run) : Prop :=
  ∃ c, r.context = some c ∧ I c

theorem Gen.step_has {α : Type} {s : Setting}
    {f : Context → Except Fault (α × List LogRecord × Context)}
    (hf : ∀ {c a records next}, I c → f c = .ok (a, records, next) → I next) :
    Tracks none (fun r q => r = q ∧ r.Has I) (fun f g => f = g ∧ True) Eq s s (step f) (step f) := by
  refine ⟨(Relates.same (Q := fun _ => True) ?_).imp fun _ _ hab => hab.1, nofun⟩
  rintro r ⟨c, hc, hI⟩
  refine ⟨?_, fun _ _ => trivial, fun _ _ => trivial⟩
  rw [exec_step, hc]
  dsimp only
  cases hx : f c with
  | error fault => exact ⟨c, hc, hI⟩
  | ok x => exact ⟨_, rfl, hf hI hx⟩

theorem Context.Kept.provide (hI : Context.Kept I) {c c' : Context} {key : Value}
    {template : List String} {name : String} {records : List LogRecord} (hc : I c)
    (h : c.provide key template = .ok (name, records, c')) : I c' := by
  obtain ⟨⟨answer, written, next⟩, hname, h⟩ := exists_of_bind h
  have hnext := hI.helperName hc hname
  dsimp only at h
  split at h
  · obtain ⟨defined, hdefine, h⟩ := exists_of_bind h
    cases h
    exact hI.define hnext hdefine
  · cases h
    exact hnext

/-- A run that has a context of which a fact holds that every request keeps. -/
def Watch.keeping (hI : Context.Kept I) (s : Setting) : Watch s where
  run := Run.Has I
  fault := fun _ => True
  request := none
  asks := fun _ => True
  fault_of_fits := fun _ => trivial
  nameOf := by
    intro type name _
    refine Gen.step_has fun hc hx => ?_
    obtain ⟨⟨g, names⟩, hg, hx⟩ := exists_of_bind hx
    cases hx
    exact hI.get hc hg
  temporary := by
    intro name
    refine Gen.step_has fun hc hx => ?_
    obtain ⟨⟨g, names⟩, hd, hx⟩ := exists_of_bind hx
    cases hx
    exact hI.distinct hc hd
  provide := fun key template => Gen.step_has fun hc hx => hI.provide hc hx
  define := by
    intro key code
    refine Gen.step_has fun hc hx => ?_
    obtain ⟨next, hd, hx⟩ := exists_of_bind hx
    cases hx
    exact hI.define hc hd

/-- Generating the body of a loop keeps what every request keeps. -/
theorem Block.loopBody_has {rules : Rulebook} (hrules : rules.Pairs true) (hI : Context.Kept I)
    {s : Setting} {r : Run} (hr : r.Has I) (b : Block) (socket : String) :
    (Gen.exec ((b.site rules).loopBody socket) s r).2.Has I := by
  let w := Watch.keeping hI s
  have heven := w.even true
  have hadmits : ∀ b : Block, w.pairing.Admits rules b :=
    fun _ => ⟨fun _ => trivial, fun _ _ _ => trivial, .inl fun _ => ⟨rfl, trivial⟩⟩
  have hsite : w.pairing.Site (b.site rules) := by
    obtain ⟨head, inputs, statements, next⟩ := b
    exact
      { asks_field := fun _ => trivial
        asks_argument := fun _ _ _ => trivial
        inputs := socketBranches_linked heven hrules inputs (.mk head inputs statements next) true
          (fun q _ => hadmits q.block) (.inl fun _ => ⟨rfl, trivial⟩)
        statements := socketBranches_linked heven hrules statements (.mk head inputs statements next)
          false (fun q _ => hadmits q.block) (.inl fun _ => ⟨rfl, trivial⟩)
        next := linkBranch_linked heven hrules next (.mk head inputs statements next) false
          (fun q _ => hadmits q.block) (.inl fun _ => ⟨rfl, trivial⟩) }
  have hbody := ((hsite.sees heven).loopBody rfl socket).relates r r ⟨rfl, hr⟩
  exact hbody.2.2

end Watching

namespace Gen

variable {α β : Type} {s : Setting} {c d : Context} {E : Fault → Prop}

/-- From the context the action leads to an answer and a context that fit together, or to a fault of
the given sort. -/
def Leads (s : Setting) (c : Context) (x : Gen α) (Q : α → Context → Prop) (E : Fault → Prop) : Prop :=
  ∀ r : Run, r.context = some c →
    match exec x s r with
    | (.ok a, q) => q.Has (Q a)
    | (.error fault, _) => E fault

namespace Leads

variable {Q : α → Context → Prop} {R : β → Context → Prop}

theorem pure {a : α} (h : Q a c) : Leads s c (Pure.pure a) Q E :=
  fun _ hr => ⟨c, hr, h⟩

theorem bind {x : Gen α} {f : α → Gen β} (hx : Leads s c x Q E)
    (hf : ∀ a d, Q a d → Leads s d (f a) R E) : Leads s c (x >>= f) R E := by
  intro r hr
  have hstart := hx r hr
  rw [exec_bind]
  generalize exec x s r = result at hstart ⊢
  obtain ⟨fault | a, q⟩ := result
  · exact hstart
  · obtain ⟨d, hq, hd⟩ := hstart
    exact hf a d hd q hq

theorem pure_bind {a : α} {f : α → Gen β} (h : Leads s c (f a) R E) :
    Leads s c (Pure.pure a >>= f) R E :=
  h

theorem read_bind {f : Setting → Gen β} (h : Leads s c (f s) R E) : Leads s c (read >>= f) R E :=
  h

variable (hc : c.Orderly s.config)
  (hE : ∀ base, c.names.Crowded .var base s.config.maxAttempts →
    E (.namesExhausted base (.int s.config.maxAttempts)))
include hc hE

/-- A variable gets the name that is its own. -/
theorem variableName (x : String) : Leads s c (Gen.variableName (.text x))
    (fun name d => c.Follows s.config d ∧ d.names.Names x name) E := by
  intro r hr
  rw [Gen.variableName, exec_nameOf hr]
  cases hg : c.names.get (.text x) .var with
  | error fault =>
    obtain ⟨rfl, hexhausted⟩ := Allocator.get_eq_error hc.1.attempts hg
    exact hE _ hexhausted.toCrowded
  | ok result =>
    obtain ⟨g, names⟩ := result
    have hgrows := Allocator.extends_of_get hg
    refine ⟨{ c with names }, rfl, ⟨hgrows, (Context.Orderly.kept s.config).get hc hg⟩, g.chosen,
      (Allocator.get?_known_of_get rfl hg).1, ?_⟩
    rw [hgrows.lead_eq]

/-- A temporary variable gets a name that was not given before. -/
theorem temporary (x : String) : Leads s c (Gen.temporary (.text x))
    (fun name d => c.Follows s.config d ∧ ¬ c.names.Gave name ∧ d.names.Gave name ∧
      ∃ y, Name.isLegal y = true ∧ name = c.names.lead .var ++ y) E := by
  intro r hr
  rw [exec_temporary hr]
  cases hd : c.names.distinct (.text x) .var with
  | error fault =>
    obtain ⟨rfl, hcrowded⟩ := Allocator.distinct_eq_error hc.1.attempts hd
    exact hE _ hcrowded
  | ok result =>
    obtain ⟨g, names⟩ := result
    have hgrows := Allocator.extends_of_distinct hd
    obtain ⟨hlegal, hfree, hnames⟩ := Allocator.distinct_eq_ok hd
    refine ⟨{ c with names }, rfl, ⟨hgrows, (Context.Orderly.kept s.config).distinct hc hd⟩, ?_, ?_,
      g.chosen, hlegal, rfl⟩
    · rintro ⟨y, hy, heq⟩
      rw [String.append_right_inj] at heq
      exact (Allocator.isTaken_eq_false.1 hfree).1 (heq ▸ hy)
    · refine ⟨g.chosen, ?_, by rw [hgrows.lead_eq]⟩
      rw [hgrows.pool_eq, hnames]
      exact List.mem_cons_self

end Leads

end Gen

end BlockCode
