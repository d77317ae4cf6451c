import BlockCode.Proofs.Run.History

namespace BlockCode

/-- The identifiers of a context are legal, and it goes by the options of its run. -/
structure Context.Sound (config : Config) (c : Context) : Prop where
  lead : c.names.variablePrefix = config.variablePrefix
  attempts : c.names.maxAttempts = .int config.maxAttempts
  legal : ∀ {key x}, Entries.get? key c.names.known = some x → Name.isLegal x = true

namespace Context.Sound

variable {config : Config}

theorem newContext (s : Setting) : s.newContext.Sound s.config :=
  ⟨rfl, rfl, fun h => nomatch h⟩

theorem reset {c : Context} (h : c.Sound config) : c.reset.Sound config :=
  ⟨h.lead, h.attempts, fun h => nomatch h⟩

theorem distinct {c : Context} (h : c.Sound config) {name : Value} {type : NameType}
    {g : Allocator.Grant} {names : Allocator} (hd : c.names.distinct name type = .ok (g, names)) :
    Sound config { c with names } := by
  obtain ⟨-, -, rfl⟩ := Allocator.distinct_eq_ok hd
  exact ⟨h.lead, h.attempts, h.legal⟩

theorem get {c : Context} (h : c.Sound config) {name : Value} {type : NameType}
    {g : Allocator.Grant} {names : Allocator} (hg : c.names.get name type = .ok (g, names)) :
    Sound config { c with names } := by
  obtain ⟨key, -, ⟨-, rfl⟩ | ⟨-, mid, hd, rfl⟩⟩ := Allocator.get_eq_ok hg
  · exact h
  · have hmid := h.distinct hd
    refine ⟨hmid.lead, hmid.attempts, fun {other x} hx => ?_⟩
    rw [Entries.get?_put] at hx
    split at hx
    · cases hx
      exact (Allocator.distinct_eq_ok hd).1
    · exact hmid.legal hx

theorem helperName {c c' : Context} (h : c.Sound config) {key : Value}
    {answer : Context.HelperName} {records : List LogRecord}
    (hn : c.helperName key = .ok (answer, records, c')) : c'.Sound config := by
  obtain ⟨id, -, ⟨-, -, rfl⟩ | ⟨-, g, names, hd, -, rfl⟩⟩ := Context.helperName_eq_ok hn
  · exact h
  · have hnext := h.distinct hd
    exact ⟨hnext.lead, hnext.attempts, hnext.legal⟩

theorem define {c c' : Context} {key : Value} {code : String} (h : c.Sound config)
    (hd : c.define key code = .ok c') : c'.Sound config := by
  unfold Context.define at hd
  cases hk : key.key with
  | error fault => simp [hk, bind, Except.bind] at hd
  | ok id =>
    simp only [hk, bind, Except.bind, pure, Except.pure, Except.ok.injEq] at hd
    subst hd
    exact ⟨h.lead, h.attempts, h.legal⟩

/-- Every request keeps a context sound. -/
theorem kept (config : Config) : Context.Kept (Sound config) :=
  ⟨fun h hg => h.get hg, fun h hd => h.distinct hd, fun h hn => h.helperName hn,
    fun h hd => h.define hd⟩

end Context.Sound

namespace Run

/-- The identifier that the run has for a variable. -/
def spelling? (r : Run) (x : String) : Option String :=
  r.context.bind fun c => Entries.get? (.text x, .var) c.names.known

def spelling (r : Run) (x : String) : String :=
  (r.spelling? x).getD ""

theorem isLegal_spelling {config : Config} {r : Run} (h : r.Keeps (Context.Sound config))
    {x : String} (hx : (r.spelling? x).isSome = true) : Name.isLegal (r.spelling x) = true := by
  obtain ⟨y, hy⟩ := Option.isSome_iff_exists.1 hx
  obtain ⟨c, hc, hget⟩ := Option.bind_eq_some_iff.1 hy
  rw [spelling, hy, Option.getD_some]
  exact (h c hc).legal hget

/-- Every name keeps its identifier. -/
def Extends (r q : Run) : Prop :=
  ∀ {x y}, r.spelling? x = some y → q.spelling? x = some y

/-- Why a variable gets no identifier: there is no run, or no identifier is left for it. -/
def Refuses (r : Run) (s : Setting) (x : String) (fault : Fault) : Prop :=
  match r.context with
  | none => fault = .noActiveRun s.conventions.generator
  | some c =>
    fault = .namesExhausted (Name.identifier x) (.int s.config.maxAttempts) ∧
      c.names.Exhausted .var x s.config.maxAttempts

end Run

namespace Gen

variable {α β : Type}

/-- How an action ends that asks for the identifiers of the names. -/
def Ends (s : Setting) (names : List String) (f : (String → String) → α) (r : Run) :
    Except Fault α × Run → Prop
  | (.ok a, q) =>
    a = f q.spelling ∧ q.Keeps (Context.Sound s.config) ∧ r.Extends q ∧
      ∀ x ∈ names, (q.spelling? x).isSome = true
  | (.error fault, q) => ∃ x ∈ names, q.Refuses s x fault

/-- The action asks for the identifiers of the names and gives `f` of the spelling. -/
def Gives (s : Setting) (names : List String) (f : (String → String) → α) (act : Gen α) : Prop :=
  ∀ r, r.Keeps (Context.Sound s.config) → Ends s names f r (exec act s r)

/-- Only the spelling of the names matters. -/
def DependsOn (names : List String) (f : (String → String) → α) : Prop :=
  ∀ {spelling other}, (∀ x ∈ names, spelling x = other x) → f spelling = f other

namespace Gives

variable {s : Setting} {names more : List String} {f : (String → String) → α}

theorem pure (a : α) : Gives s [] (fun _ => a) (Pure.pure a) :=
  fun _ hr => ⟨rfl, hr, fun h => h, fun _ hx => nomatch hx⟩

theorem of_eq {g : (String → String) → α} {act : Gen α} (h : Gives s names f act)
    (hf : ∀ spelling, (∀ x ∈ names, Name.isLegal (spelling x) = true) → f spelling = g spelling) :
    Gives s names g act := by
  intro r hr
  have hact := h r hr
  generalize exec act s r = result at hact ⊢
  obtain ⟨fault | a, q⟩ := result
  · exact hact
  · obtain ⟨rfl, hq, hrq, hknown⟩ := hact
    exact ⟨hf q.spelling fun x hx => Run.isLegal_spelling hq (hknown x hx), hq, hrq, hknown⟩

theorem pure_bind {a : α} {k : α → Gen β} {g : (String → String) → β}
    (h : Gives s names g (k a)) : Gives s names g (Pure.pure a >>= k) :=
  fun r hr => h r hr

/-- One action after another. What the second gives may use the spelling at its start, and the names
of the first keep theirs. -/
theorem bind {act : Gen α} {k : α → Gen β} {G : (String → String) → (String → String) → β}
    (h : Gives s names f act) (hk : ∀ start, Gives s more (G start) (k (f start)))
    (hG : ∀ spelling, DependsOn names fun start => G start spelling) :
    Gives s (names ++ more) (fun spelling => G spelling spelling) (act >>= k) := by
  intro r hr
  have hact := h r hr
  rw [exec_bind]
  generalize exec act s r = result at hact ⊢
  obtain ⟨fault | a, q⟩ := result
  · obtain ⟨x, hx, hfault⟩ := hact
    exact ⟨x, List.mem_append_left _ hx, hfault⟩
  · obtain ⟨rfl, hq, hrq, hknown⟩ := hact
    have hnext := hk q.spelling q hq
    dsimp only
    generalize exec (k (f q.spelling)) s q = result at hnext ⊢
    obtain ⟨fault | b, p⟩ := result
    · obtain ⟨x, hx, hfault⟩ := hnext
      exact ⟨x, List.mem_append_right _ hx, hfault⟩
    · obtain ⟨hb, hp, hqp, hmore⟩ := hnext
      have hkeep : ∀ x ∈ names, q.spelling x = p.spelling x := by
        intro x hx
        obtain ⟨y, hy⟩ := Option.isSome_iff_exists.1 (hknown x hx)
        rw [Run.spelling, Run.spelling, hy, hqp hy]
      refine ⟨hb.trans (hG p.spelling hkeep), hp, fun hx => hqp (hrq hx), fun x hx => ?_⟩
      rcases List.mem_append.1 hx with hx | hx
      · obtain ⟨y, hy⟩ := Option.isSome_iff_exists.1 (hknown x hx)
        rw [hqp hy]
        rfl
      · exact hmore x hx

/-- An action with a last step that asks for nothing more. -/
theorem map {act : Gen α} {k : α → Gen β} {g : (String → String) → β} (h : Gives s names f act)
    (hk : ∀ start, k (f start) = Pure.pure (g start)) (hg : DependsOn names g) :
    Gives s names g (act >>= k) := by
  have hlast : Gives s (names ++ []) g (act >>= k) := h.bind (G := fun start _ => g start)
    (fun start => (hk start).symm ▸ pure (g start)) fun _ => hg
  rwa [List.append_nil] at hlast

/-- Two actions in turn, and what their answers make together. -/
theorem two {γ : Type} {act : Gen α} {other : Gen β} {g : (String → String) → β}
    (h : Gives s names f act) (hf : DependsOn names f) (ho : Gives s more g other)
    (hg : DependsOn more g) (F : α → β → γ) :
    Gives s (names ++ more) (fun spelling => F (f spelling) (g spelling))
      (do let a ← act
          let b ← other
          return F a b) := by
  refine h.bind (G := fun start spelling => F (f start) (g spelling)) (fun start => ?_) ?_
  · exact ho.map (fun _ => rfl) fun hs => congrArg (F (f start)) (hg hs)
  · exact fun spelling _ _ hs => congrArg (F · (g spelling)) (hf hs)

theorem variableName (hs : s.config.variablePrefix = "") (x : String) :
    Gives s [x] (fun spelling => spelling x) (Gen.variableName (.text x)) := by
  intro r hr
  rw [Gen.variableName, nameOf, exec_step]
  cases hc : r.context with
  | none =>
    refine ⟨x, List.mem_singleton_self x, ?_⟩
    simp only [Run.Refuses, hc]
  | some c =>
    have hsound := hr c hc
    cases hg : c.names.get (.text x) .var with
    | error fault =>
      simp only [hg, Bind.bind, Except.bind]
      refine ⟨x, List.mem_singleton_self x, ?_⟩
      simp only [Run.Refuses, hc]
      exact Allocator.get_eq_error hsound.attempts hg
    | ok result =>
      obtain ⟨grant, next⟩ := result
      obtain ⟨hx, hkeep⟩ := Allocator.get?_known_of_get rfl hg
      have hlead : c.names.lead .var = "" := hsound.lead.trans hs
      simp only [hg, Bind.bind, Except.bind, Pure.pure, Except.pure, hlead, String.empty_append]
      refine ⟨?_, ?_, ?_, ?_⟩
      · simp only [Run.spelling, Run.spelling?, Option.bind_some, hx, Option.getD_some]
      · intro c' hc'
        cases hc'
        exact hsound.get hg
      · intro y z hy
        simp only [Run.spelling?, hc, Option.bind_some] at hy ⊢
        exact hkeep hy
      · intro y hy
        rw [List.mem_singleton.1 hy]
        simp only [Run.spelling?, Option.bind_some, hx, Option.isSome_some]

end Gives

end Gen

end BlockCode
