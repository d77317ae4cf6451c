import BlockCode.Loose
import BlockCode.Proofs.Run.Helpers
import BlockCode.Proofs.Run.History

namespace BlockCode

open Gen

theorem Value.isBelow_int (m n : Int) : Value.isBelow (.int m) (.int n) = .ok (decide (m < n)) := by
  have hat : ∀ k : Int, Binary64.atExponent (decide (k < 0)) k.natAbs 0 (min 0 0) = k := by
    intro k
    have hunits : k.natAbs * Binary64.twoPow (0 - min 0 0 : Int).toNat = k.natAbs := Nat.mul_one _
    rw [Binary64.atExponent, hunits]
    simp only [decide_eq_true_eq]
    split
    · next hneg => rw [Int.ofNat_eq_natCast, Int.ofNat_natAbs_of_nonpos (Int.le_of_lt hneg), Int.neg_neg]
    · next hpos => exact Int.natAbs_of_nonneg (Int.not_lt.1 hpos)
  rw [isBelow]
  · simp only [asNumber?, Binary64.lt, hat]
  · rintro _ _ ⟨⟩
  · rintro _ _ ⟨⟩

namespace Rank

variable (required rank : Value) {code : String}

theorem placeAt_empty : placeAt required "" rank = .ok "" := by
  unfold placeAt
  split <;> rfl

theorem placeAt_of_ne (hcode : code ≠ "") :
    placeAt required code rank =
      (required.isBelow rank).map fun below => if below then "(" ++ code ++ ")" else code := by
  unfold placeAt
  split
  · next m n =>
    rw [Value.isBelow_int]
    by_cases hmn : m < n
    · simp [place, hcode, hmn, Except.map]
    · simp [place, hmn, Except.map]
  · rw [if_neg hcode]
    cases required.isBelow rank with
    | error fault => rfl
    | ok below => cases below <;> rfl

/-- Texts are placed like the code that rules give. -/
theorem placeAny_text (code : String) :
    placeAny required (.text code) rank = (placeAt required code rank).map Value.text := by
  have hset : (Value.text code).isSet = !decide (code = "") := rfl
  unfold placeAny
  rw [hset]
  by_cases hcode : code = ""
  · subst hcode
    rw [placeAt_empty]
    rfl
  · rw [placeAt_of_ne required rank hcode, decide_eq_false hcode]
    cases required.isBelow rank with
    | error fault => rfl
    | ok below => cases below <;> rfl

end Rank

namespace Gen

variable {s : Setting} {r : Run}

theorem textItems_texts (template : List String) :
    (Value.list (template.map Value.text)).textItems = .ok template := by
  change (template.map Value.text).mapM Value.asText = .ok template
  induction template with
  | nil => rfl
  | cons line rest ih =>
    rw [List.map_cons, List.mapM_cons, ih]
    rfl

/-- Lines that are texts provide a helper as ever. -/
theorem exec_provideAny_texts (placeholder : String) (key : Value) (template : List String) :
    exec (do return (← provideAny (.text placeholder) key
      (.list (template.map Value.text))).name) s r = exec (provide key template) s r := by
  unfold provideAny provide helperName
  simp only [exec_bind, exec_step]
  cases hc : r.context with
  | none => rfl
  | some c =>
    dsimp only
    rw [Context.provide]
    cases hname : c.helperName key with
    | error fault => rfl
    | ok result =>
      obtain ⟨⟨name, isNew⟩, records, next⟩ := result
      cases isNew with
      | false => rfl
      | true =>
        obtain ⟨id, hid, -⟩ := Context.helperName_eq_ok hname
        simp only [textItems_texts, Value.asText, define, exec_bind, exec_ofExcept, exec_context,
          exec_step, Context.define, hid, if_true, report, exec_modify, exec_pure]
        simp only [bind, Except.bind, pure, Except.pure, if_true, List.append_assoc, List.nil_append]

end Gen

/-- Whether an action leaves the definitions to the rules. -/
def Action.isPlain : Action → Bool
  | .provide .. | .define .. | .reset => false
  | _ => true

/-- What may be done with a session whose requests are of any kind. -/
inductive LooseOperation where
  | generate (program : Program)
  | start (program : Program)
  | act (action : Action) (plain : action.isPlain = true)
  | provide (placeholder key lines : Value)
  | define (key code : Value)
  | reset
  | number (count : Nat)

def LooseOperation.ofAction (placeholder : String) : Action → LooseOperation
  | .provide key template =>
    .provide (.text placeholder) key (.list (template.map Value.text))
  | .define key code => .define key (.text code)
  | .reset => .reset
  | .code b => .act (.code b) rfl
  | .value b socket required => .act (.value b socket required) rfl
  | .body b socket => .act (.body b socket) rfl
  | .sequence b code => .act (.sequence b code) rfl
  | .trap b branch => .act (.trap b branch) rfl
  | .name type name => .act (.name type name) rfl
  | .distinct name label => .act (.distinct name label) rfl

/-- An operation as one whose arguments happen to be texts. -/
def LooseOperation.ofOperation (placeholder : String) : Operation → LooseOperation
  | .generate program => .generate program
  | .start program => .start program
  | .act action => .ofAction placeholder action
  | .number count => .number count

namespace LooseSession

def next (g : Generator) (s : LooseSession) : LooseOperation → LooseSession
  | .generate program => (s.generate g program).2
  | .start program => (s.start g program).2
  | .act action _ => (s.perform g (action.perform g.dialect.rules)).2
  | .provide placeholder key lines => (s.provide g placeholder key lines).2
  | .define key code => (s.define g key code).2
  | .reset => (s.clear g resetContext).2
  | .number count =>
    { s with session := { s.session with nextBlock := s.session.nextBlock + count } }

def after (g : Generator) (earlier : List LooseOperation) : LooseSession :=
  earlier.foldl (next g) {}

theorem perform_eq {α : Type} (s : LooseSession) (g : Generator) (act : Gen α) :
    s.perform g act = ((exec act g.setting s.session.run).1,
      ⟨{ s.session with run := (exec act g.setting s.session.run).2 }, s.odd⟩) :=
  rfl

/-- A request for a helper changes the run as its action does, and at most forgets a definition. -/
theorem provide_eq (s : LooseSession) (g : Generator) (placeholder key lines : Value) :
    ∃ odd, odd ⊆ s.odd ∧ s.provide g placeholder key lines =
      ((exec (provideAny placeholder key lines) g.setting s.session.run).1.map
          Context.HelperName.name,
        ⟨{ s.session with
          run := (exec (provideAny placeholder key lines) g.setting s.session.run).2 }, odd⟩) := by
  unfold provide
  rw [perform_eq]
  generalize exec (provideAny placeholder key lines) g.setting s.session.run = done
  obtain ⟨fault | ⟨name, isNew⟩, run⟩ := done
  · exact ⟨s.odd, List.Subset.refl _, rfl⟩
  · cases key.key with
    | error fault => exact ⟨s.odd, List.Subset.refl _, rfl⟩
    | ok id =>
      cases isNew with
      | false => exact ⟨s.odd, List.Subset.refl _, rfl⟩
      | true => exact ⟨s.odd.filter (·.1 ≠ id), List.filter_sublist.subset, rfl⟩

section Texts

variable (g : Generator) (s : Session)

theorem provide_texts (placeholder : String) (key : Value) (template : List String) :
    LooseSession.provide ⟨s, []⟩ g (.text placeholder) key (.list (template.map Value.text)) =
      ((s.perform g (Gen.provide key template)).1,
        ⟨(s.perform g (Gen.provide key template)).2, []⟩) := by
  obtain ⟨odd, hodd, hprovide⟩ := provide_eq ⟨s, []⟩ g (.text placeholder) key
    (.list (template.map Value.text))
  have hexec := exec_provideAny_texts (s := g.setting) (r := s.run) placeholder key template
  have hordinary : s.perform g (Gen.provide key template) =
      ((exec (Gen.provide key template) g.setting s.run).1,
        { s with run := (exec (Gen.provide key template) g.setting s.run).2 }) :=
    rfl
  rw [hprovide, List.subset_nil.1 hodd, hordinary, ← hexec, exec_bind]
  generalize exec (provideAny (.text placeholder) key (.list (template.map Value.text))) g.setting
    s.run = done
  obtain ⟨fault | answer, run⟩ := done <;> rfl

theorem define_text (key : Value) (code : String) :
    LooseSession.define ⟨s, []⟩ g key (.text code) =
      ((s.perform g (Gen.define key code)).1, ⟨(s.perform g (Gen.define key code)).2, []⟩) := by
  unfold define perform
  dsimp only
  rw [Value.written]
  rcases hdone : s.perform g (Gen.define key code) with ⟨fault | done, next⟩
  · rfl
  · cases key.key <;> rfl

/-- One operation on texts is what it is without the other kinds of values. -/
theorem next_ofOperation (placeholder : String) (op : Operation) :
    next g ⟨s, []⟩ (.ofOperation placeholder op) = ⟨s.next g op, []⟩ := by
  cases op with
  | generate program =>
    change LooseSession.mk _ (if _ then [] else []) = _
    rw [ite_self]
    rfl
  | start program =>
    change LooseSession.mk _ (if _ then [] else []) = _
    rw [ite_self]
    rfl
  | number count => rfl
  | act action =>
    cases action with
    | provide key template =>
      change (LooseSession.provide ⟨s, []⟩ g (.text placeholder) key
        (.list (template.map Value.text))).2 = _
      have hrun : (exec (Action.perform g.dialect.rules (.provide key template)) g.setting s.run).2 =
          (exec (Gen.provide key template) g.setting s.run).2 := by
        rw [Action.perform, exec_bind]
        rcases exec (Gen.provide key template) g.setting s.run with ⟨fault | name, run⟩ <;> rfl
      rw [provide_texts]
      exact congrArg (fun run => LooseSession.mk { s with run } []) hrun.symm
    | define key code =>
      change (LooseSession.define ⟨s, []⟩ g key (.text code)).2 = _
      rw [define_text]
      rfl
    | _ => rfl

/-- A session that is handed nothing but texts is an ordinary one. -/
theorem after_ofOperations (placeholder : String) (earlier : List Operation) :
    after g (earlier.map (.ofOperation placeholder)) = ⟨Session.after g earlier, []⟩ := by
  have hrun : ∀ s : Session, (earlier.map (LooseOperation.ofOperation placeholder)).foldl (next g)
      ⟨s, []⟩ = ⟨earlier.foldl (Session.next g) s, []⟩ := by
    induction earlier with
    | nil => exact fun _ => rfl
    | cons op rest ih =>
      intro s
      rw [List.map_cons, List.foldl_cons, next_ofOperation]
      exact ih _
  exact hrun {}

end Texts

end LooseSession

namespace Entries

variable {κ α : Type} [DecidableEq κ] {m : List (κ × α)} {key : κ} {value : α}

theorem mem_keys_put {other : κ} :
    other ∈ (put key value m).map Prod.fst ↔ other ∈ m.map Prod.fst ∨ other = key := by
  rw [keys_put]
  split
  · next hkey => exact ⟨.inl, fun h => h.elim id fun heq => heq ▸ hkey⟩
  · rw [List.mem_append, List.mem_singleton]

theorem mem_put {entry : κ × α} (h : entry ∈ put key value m) :
    entry = (key, value) ∨ entry ∈ m := by
  induction m with
  | nil => exact .inl (List.mem_singleton.1 h)
  | cons first rest ih =>
    rw [put] at h
    split at h
    · rcases List.mem_cons.1 h with rfl | h
      · exact .inl rfl
      · exact .inr (List.mem_cons_of_mem _ h)
    · rcases List.mem_cons.1 h with rfl | h
      · exact .inr List.mem_cons_self
      · exact (ih h).imp_right (List.mem_cons_of_mem _)

end Entries

/-- A helper with this key is defined. -/
def Context.Defines (id : Key) (c : Context) : Prop :=
  id ∈ c.helpers.texts.map Prod.fst

/-- Definitions are replaced and added, and none is dropped. -/
theorem Context.Defines.kept (id : Key) : Context.Kept (Context.Defines id) where
  get := fun hc _ => hc
  distinct := fun hc _ => hc
  helperName := by
    intro c key answer records c' hc hname
    obtain ⟨id, -, ⟨-, -, rfl⟩ | ⟨-, g, names, -, -, rfl⟩⟩ := Context.helperName_eq_ok hname
    · exact hc
    · exact hc
  define := by
    intro c key code c' hc hdefine
    obtain ⟨other, -, hdefine⟩ := exists_of_bind hdefine
    cases hdefine
    exact Entries.mem_keys_put.2 (.inl hc)

theorem Gen.Agree.provideAny {I : Context → Prop} {D : List String → List String → Prop}
    {s : Setting} (hI : Context.Kept I) (placeholder key lines : Value) :
    Agree I D s (Gen.provideAny placeholder key lines) (Gen.provideAny placeholder key lines) := by
  have hname : Agree I D s (Gen.helperName key) (Gen.helperName key) := by
    refine Relates.step rfl fun c d hcd => ?_
    have hc := hcd.kept
    obtain rfl := hcd.eq
    cases hname : c.helperName key with
    | error fault => rfl
    | ok result => exact ⟨rfl, .refl (hI.helperName hc hname)⟩
  refine hname.bind ?_
  rintro answer _ rfl
  dsimp only
  split
  · refine (Agree.ofExcept lines.textItems).bind ?_
    rintro template _ rfl
    refine (Agree.ofExcept placeholder.asText).bind fun _ _ _ => ?_
    refine (Relates.context rfl).bind fun c d hcd => ?_
    obtain rfl := hcd.eq
    refine (Relates.define rfl (fun _ => rfl) hI key rfl).bind fun _ _ _ => ?_
    exact (Relates.report _ _).bind fun _ _ _ => .pure rfl
  · exact .pure rfl

/-- A definition that is stored has its key among the definitions. -/
theorem Gen.exec_define_eq_ok {s : Setting} {r q : Run} {key : Value} {code : String} {done : Unit}
    (h : exec (Gen.define key code) s r = (.ok done, q)) :
    ∃ id, key.key = .ok id ∧ q.Keeps (Context.Defines id) := by
  rw [Gen.define, exec_step] at h
  cases hc : r.context with
  | none =>
    rw [hc] at h
    cases h
  | some c =>
    rw [hc] at h
    cases hid : key.key with
    | error fault =>
      simp only [Context.define, hid, bind, Except.bind] at h
      cases h
    | ok id =>
      simp only [Context.define, hid, bind, Except.bind, pure, Except.pure] at h
      cases h
      refine ⟨id, rfl, ?_⟩
      rintro _ ⟨⟩
      exact Entries.mem_keys_put.2 (.inr rfl)

/-- The definitions that are no texts stand among the definitions of the run. -/
structure LooseSession.IsSound (s : LooseSession) : Prop where
  odd : ∀ entry ∈ s.odd, ∀ text, entry.2 ≠ .text text
  defined : ∀ entry ∈ s.odd, s.session.run.Keeps (Context.Defines entry.1)

namespace LooseSession.IsSound

variable {g : Generator} {s : LooseSession}

theorem texts (session : Session) : IsSound ⟨session, []⟩ where
  odd := fun _ hentry => absurd hentry List.not_mem_nil
  defined := fun _ hentry => absurd hentry List.not_mem_nil

/-- A run in which all definitions are kept keeps those that are no texts too. -/
theorem step {run : Run} {n : Nat} {odd : List (Key × Value)} (h : s.IsSound) (hodd : odd ⊆ s.odd)
    (hrun : ∀ id, s.session.run.Keeps (Context.Defines id) → run.Keeps (Context.Defines id)) :
    IsSound ⟨⟨run, n⟩, odd⟩ where
  odd := fun entry hentry => h.odd entry (hodd hentry)
  defined := fun entry hentry => hrun entry.1 (h.defined entry (hodd hentry))

/-- A run that has begun on a workspace is left without definitions that are no texts. -/
theorem begun {found : Except Fault Workspace} {next : Session} (h : s.IsSound)
    (hnext : found.isOk = false → next.run = s.session.run) : (s.begun found next).IsSound := by
  unfold LooseSession.begun
  cases hfound : found.isOk with
  | true => exact texts next
  | false =>
    refine ⟨h.odd, fun entry hentry => ?_⟩
    dsimp only
    rw [hnext hfound]
    exact h.defined entry hentry

/-- A definition is taken down with the key that it has in the run. -/
theorem note (h : s.IsSound) {id : Key} (hid : s.session.run.Keeps (Context.Defines id))
    (code : Value) : (s.note id code).IsSound := by
  unfold LooseSession.note
  split
  · exact ⟨fun entry hentry => h.odd entry (List.mem_of_mem_filter hentry),
      fun entry hentry => h.defined entry (List.mem_of_mem_filter hentry)⟩
  · next hcode =>
    constructor
    · intro entry hentry text
      rcases Entries.mem_put hentry with rfl | hentry
      · exact hcode text
      · exact h.odd entry hentry text
    · intro entry hentry
      rcases Entries.mem_put hentry with rfl | hentry
      · exact hid
      · exact h.defined entry hentry

theorem define (h : s.IsSound) (key code : Value) : (s.define g key code).2.IsSound := by
  have hkept := h.step (n := s.session.nextBlock) (List.Subset.refl s.odd) fun id =>
    (Relates.define (s := g.setting) (D := Eq) (F := Eq) rfl (fun _ => rfl) (Context.Defines.kept id)
      key (rfl : code.written = _)).keeps
  unfold LooseSession.define
  rw [perform_eq]
  rcases hdone : exec (Gen.define key code.written) g.setting s.session.run with ⟨fault | done, run⟩ <;>
    rw [hdone] at hkept
  · exact hkept
  · obtain ⟨id, hid, hdefined⟩ := exec_define_eq_ok hdone
    rw [hid]
    exact hkept.note hdefined code

theorem provide (h : s.IsSound) (placeholder key lines : Value) :
    (s.provide g placeholder key lines).2.IsSound := by
  obtain ⟨odd, hodd, hprovide⟩ := provide_eq s g placeholder key lines
  rw [hprovide]
  exact h.step hodd fun id =>
    (Agree.provideAny (Context.Defines.kept id) placeholder key lines).keeps

theorem next (hrules : Rulebook.Compares true g.dialect.rules) (h : s.IsSound)
    (op : LooseOperation) : (s.next g op).IsSound := by
  cases op with
  | generate program =>
    refine h.begun fun hfound => ?_
    rcases hws : program.toWorkspace s.session.nextBlock with ⟨fault | ws, n⟩
    · rw [Session.generate, hws]
      rfl
    · rw [hws] at hfound
      cases hfound
  | start program =>
    refine h.begun fun hfound => ?_
    rcases hws : program.checked s.session.nextBlock with ⟨fault | ws, n⟩
    · rw [Session.start, hws]
      rfl
    · rw [hws] at hfound
      cases hfound
  | act action plain =>
    refine h.step (List.Subset.refl s.odd) fun id => ?_
    refine (Agree.perform ⟨Context.Defines.kept id, hrules⟩ action ?_).keeps
    rintro rfl
    cases plain
  | provide placeholder key lines => exact h.provide placeholder key lines
  | define key code => exact h.define key code
  | reset => exact texts _
  | number count => exact h.step (List.Subset.refl s.odd) fun _ hrun => hrun

end LooseSession.IsSound

namespace LooseSession

/-- Whatever the requests are, definitions that are no texts stand among the definitions of the run. -/
theorem after_isSound {g : Generator} (hrules : Rulebook.Compares true g.dialect.rules)
    (earlier : List LooseOperation) : (after g earlier).IsSound := by
  have hrun : ∀ s : LooseSession, s.IsSound → (earlier.foldl (next g) s).IsSound := by
    induction earlier with
    | nil => exact fun _ hs => hs
    | cons op rest ih => exact fun s hs => ih _ (hs.next hrules op)
  exact hrun {} (.texts {})

variable (s : LooseSession) (g : Generator)

theorem definitions_eq : (s.definitions g).1 =
    match s.session.run.context with
    | none => .error (.noActiveRun g.setting.conventions.generator)
    | some c => .ok (c.helpers.texts.map fun entry =>
        (Entries.get? entry.1 s.odd).getD (.text entry.2)) := by
  rw [definitions, perform_eq, exec_bind, exec_context]
  cases s.session.run.context <;> rfl

theorem finish_eq (code : String) : ∃ text, (s.finish g (.text code)).1 =
    match s.session.run.context with
    | none => .error (.noActiveRun g.setting.conventions.generator)
    | some _ => if s.odd.isEmpty then .ok text else .error .notAText := by
  have hfinish : ∃ text, exec (Gen.finish code) g.setting s.session.run =
      match s.session.run.context with
      | none => (.error (.noActiveRun g.setting.conventions.generator), s.session.run)
      | some _ => (.ok text, s.session.run) := by
    simp only [Gen.finish, exec_bind, exec_read, exec_get, exec_context]
    cases s.session.run.context with
    | none => exact ⟨"", rfl⟩
    | some c => exact ⟨_, rfl⟩
  obtain ⟨text, hfinish⟩ := hfinish
  refine ⟨text, ?_⟩
  rw [finish, perform_eq]
  dsimp only
  rw [exec_bind, Value.asText, exec_ofExcept]
  dsimp only
  rw [exec_bind, hfinish]
  cases s.session.run.context with
  | none => rfl
  | some c =>
    dsimp only
    split <;> rfl

/-- A program is put together from texts just if there is a run and all its definitions are texts. -/
theorem finish_isOk_iff (language : Language) (config : Config) (earlier : List LooseOperation)
    (code : String) :
    let g : Generator := ⟨language.dialect, config⟩
    let s := after g earlier
    (∃ text, (s.finish g (.text code)).1 = .ok text) ↔
      ∃ definitions, (s.definitions g).1 = .ok definitions ∧
        ∀ v ∈ definitions, ∃ text, v = .text text := by
  intro g s
  have hsound : s.IsSound := after_isSound (Rulebook.dialect_compares fun _ => rfl) earlier
  obtain ⟨text, hfinish⟩ := s.finish_eq g code
  rw [hfinish, s.definitions_eq g]
  cases hc : s.session.run.context with
  | none => simp
  | some c =>
    constructor
    · rintro ⟨found, hfound⟩
      dsimp only at hfound
      split at hfound
      · next hempty =>
        refine ⟨_, rfl, List.forall_mem_map.2 fun entry _ => ⟨entry.2, ?_⟩⟩
        rw [List.isEmpty_iff.1 hempty]
        rfl
      · cases hfound
    · rintro ⟨_, ⟨⟩, htexts⟩
      rw [List.forall_mem_map] at htexts
      cases hodd : s.odd with
      | nil => exact ⟨text, rfl⟩
      | cons entry rest =>
        -- the first of the other definitions is among those that are given out
        have hmem : entry ∈ s.odd := by rw [hodd]; exact List.mem_cons_self
        obtain ⟨found, hfound, hkey⟩ := List.mem_map.1 (hsound.defined entry hmem c hc)
        obtain ⟨text, htext⟩ := htexts found hfound
        rw [hkey, hodd, Entries.get?, if_pos rfl, Option.getD_some] at htext
        exact (hsound.odd entry hmem text htext).elim

end LooseSession

end BlockCode
