import BlockCode.Proofs.Run.Registration

namespace BlockCode

/-- The records among the given ones that report errors. -/
def LogRecord.errors (records : List LogRecord) : List LogRecord :=
  records.filter fun record => record.level = .error

/-- The log has grown from the given one, with these errors among what was added. -/
def Run.Adds (log errors : List LogRecord) (r : Run) : Prop :=
  ∃ records, r.log = log ++ records ∧ LogRecord.errors records = errors

namespace Run.Adds

variable {log errors : List LogRecord} {r : Run}

theorem none (r : Run) : r.Adds r.log [] :=
  ⟨[], (List.append_nil _).symm, rfl⟩

theorem more (h : r.Adds log errors) {q : Run} {records : List LogRecord}
    (hq : q.log = r.log ++ records) : q.Adds log (errors ++ LogRecord.errors records) := by
  obtain ⟨before, hlog, rfl⟩ := h
  refine ⟨before ++ records, by rw [hq, hlog, List.append_assoc], ?_⟩
  rw [LogRecord.errors, List.filter_append]
  rfl

/-- Records without an error among them. -/
theorem quiet (h : r.Adds log errors) {q : Run} {records : List LogRecord}
    (hq : q.log = r.log ++ records) (hrecords : LogRecord.errors records = []) :
    q.Adds log errors := by
  have hmore := h.more hq
  rwa [hrecords, List.append_nil] at hmore

end Run.Adds

section Requests

theorem Allocator.Grant.errors_records (g : Allocator.Grant) : LogRecord.errors g.records = [] := by
  unfold records
  split <;> rfl

theorem Context.errors_provide {c c' : Context} {key : Value} {template : List String} {name : String}
    {records : List LogRecord} (h : c.provide key template = .ok (name, records, c')) :
    LogRecord.errors records = [] := by
  obtain ⟨⟨answer, written, next⟩, hname, h⟩ := exists_of_bind h
  have hwritten : LogRecord.errors written = [] := by
    obtain ⟨id, -, hname⟩ := exists_of_bind hname
    cases hf : c.helpers.functionName? id with
    | some known =>
      rw [hf] at hname
      cases hname
      rfl
    | none =>
      rw [hf] at hname
      obtain ⟨⟨g, names⟩, -, hname⟩ := exists_of_bind hname
      cases hname
      exact g.errors_records
  dsimp only at h
  split at h
  · obtain ⟨defined, -, h⟩ := exists_of_bind h
    cases h
    rw [LogRecord.errors, List.filter_append, ← LogRecord.errors, hwritten]
    rfl
  · cases h
    exact hwritten

end Requests

namespace Gen

variable {α : Type} {s : Setting} {log : List LogRecord}

theorem step_quiet {f : Context → Except Fault (α × List LogRecord × Context)}
    (hf : ∀ c x, f c = .ok x → LogRecord.errors x.2.1 = []) :
    Tracks none (fun r q => r = q ∧ r.Adds log []) (fun f g => f = g ∧ True) Eq s s (step f)
      (step f) := by
  refine ⟨(Relates.same (Q := fun _ => True) fun r hr => ⟨?_, fun _ _ => trivial,
    fun _ _ => trivial⟩).imp fun _ _ hab => hab.1, nofun⟩
  rw [exec_step]
  cases r.context with
  | none => exact hr
  | some c =>
    cases hx : f c with
    | error fault =>
      dsimp only
      rw [hx]
      exact hr
    | ok x =>
      dsimp only
      rw [hx]
      exact hr.quiet rfl (hf c x hx)

end Gen

/-- A run that writes no errors to its log. -/
def Watch.quiet (s : Setting) (log : List LogRecord) : Watch s where
  run := Run.Adds log []
  fault := fun _ => True
  request := none
  asks := fun _ => True
  fault_of_fits := fun _ => trivial
  nameOf := by
    intro type name _
    refine Gen.step_quiet fun c x hx => ?_
    obtain ⟨result, -, hx⟩ := exists_of_bind hx
    cases hx
    exact Allocator.Grant.errors_records _
  temporary := by
    intro name
    refine Gen.step_quiet fun c x hx => ?_
    obtain ⟨result, -, hx⟩ := exists_of_bind hx
    cases hx
    exact Allocator.Grant.errors_records _
  provide := fun key template => Gen.step_quiet fun c _ hx => Context.errors_provide hx
  define := by
    intro key code
    refine Gen.step_quiet fun c x hx => ?_
    obtain ⟨next, -, hx⟩ := exists_of_bind hx
    cases hx
    rfl

namespace Gen

variable {s : Setting} {r : Run} {log : List LogRecord} {rules : Rulebook} (ws : Workspace)

/-- The rules report nothing, whatever blocks they are for. -/
theorem topCodes_quiet (hrules : rules.Pairs true) (hr : r.Adds log []) :
    (exec (ws.top.mapM (topCode rules)) s r).2.Adds log [] := by
  have hadmits : ∀ q ∈ ws.blocks, (Watch.quiet s log).pairing.Admits rules q.block :=
    fun q _ => ⟨fun _ => trivial, fun _ _ _ => trivial, .inl fun _ => ⟨rfl, trivial⟩⟩
  have hpairs := Workspace.topCodes_pairs ((Watch.quiet s log).even true) hrules hadmits
  exact (hpairs.relates r r ⟨rfl, hr⟩).2.2

/-- Registering names fails as the allocator does, and reports nothing. -/
theorem register_quiet (names : List Value) {c : Context} (hc : r.context = some c)
    (hr : r.Adds log []) :
    ((exec (names.mapM variableName) s r).1.map fun _ => ()) =
        ((c.names.register names).map fun _ => ()) ∧
      (exec (names.mapM variableName) s r).2.Adds log [] := by
  induction names generalizing r c with
  | nil => exact ⟨rfl, hr⟩
  | cons name rest ih =>
    rw [List.mapM_cons, exec_bind, variableName, exec_nameOf hc]
    cases hg : c.names.get name .var with
    | error fault =>
      have hregister : c.names.register (name :: rest) = .error fault := by
        rw [Allocator.register, hg]
        rfl
      rw [hregister]
      exact ⟨rfl, hr⟩
    | ok result =>
      obtain ⟨g, next⟩ := result
      have hregister : c.names.register (name :: rest) = next.register rest := by
        rw [Allocator.register, hg]
        rfl
      have hrest := ih (r := ⟨some { c with names := next }, r.declared, r.log ++ g.records⟩) rfl
        (hr.quiet rfl g.errors_records)
      dsimp only
      rw [hregister, ← hrest.1, exec_bind]
      rcases hx : exec (rest.mapM variableName) s _ with ⟨fault | more, q⟩ <;>
        rw [hx] at hrest <;> exact ⟨rfl, hrest.2⟩

theorem start_quiet (hr : r.Adds log []) :
    (exec (start ws) s r).1 = ((s.newContext.names.register ws.variableNames).map fun _ => ()) ∧
      (exec (start ws) s r).2.Adds log [] := by
  obtain ⟨hanswer, hadds⟩ := register_quiet (s := s) (r := { r with context := some s.newContext })
    ws.variableNames rfl (hr.quiet (List.append_nil _).symm rfl)
  rw [exec_start, ← hanswer]
  rcases hx : exec (ws.variableNames.mapM variableName) s _ with ⟨fault | declared, q⟩ <;>
    rw [hx] at hadds
  · exact ⟨rfl, hadds⟩
  · exact ⟨rfl, hadds.quiet (List.append_nil _).symm rfl⟩

/-- The report on a fault: one error for a fault of the generation, none for another one. -/
def reportOn (c : Conventions) (fault : Fault) : List LogRecord :=
  if fault.isGeneration then [aborted c fault] else []

theorem errors_reportOn (c : Conventions) (fault : Fault) :
    LogRecord.errors (reportOn c fault) = reportOn c fault := by
  unfold reportOn
  split <;> rfl

/-- Faults of an action that reports nothing itself are reported on once. -/
theorem exec_loggingFaults_adds {α : Type} {x : Gen α} (hx : (exec x s r).2.Adds log []) :
    (exec (loggingFaults x) s r).1 = (exec x s r).1 ∧
      (exec (loggingFaults x) s r).2.Adds log
        (match (exec x s r).1 with
          | .ok _ => []
          | .error fault => reportOn s.conventions fault) := by
  unfold loggingFaults
  rw [exec_tryCatch]
  rcases hexec : exec x s r with ⟨fault | a, q⟩ <;> rw [hexec] at hx
  · have hreport : exec (do
        if fault.isGeneration then report [aborted (← read).conventions fault]
        throw fault : Gen α) s q =
        (.error fault, { q with log := q.log ++ reportOn s.conventions fault }) := by
      unfold reportOn
      split
      · rfl
      · rw [List.append_nil]
        rfl
    dsimp only
    rw [hreport]
    refine ⟨rfl, ?_⟩
    have hmore := hx.more (q := { q with log := q.log ++ reportOn s.conventions fault }) rfl
    rwa [errors_reportOn, List.nil_append] at hmore
  · exact ⟨rfl, hx⟩

/-- Putting the program together leaves the run as it is. -/
theorem exec_finish (code : String) (r : Run) :
    (exec (finish code) s r).2 = r ∧
      ∀ fault, (exec (finish code) s r).1 = .error fault → fault.isGeneration = false := by
  simp only [finish, exec_bind, exec_read, exec_get, exec_context]
  cases r.context with
  | none =>
    refine ⟨rfl, ?_⟩
    rintro fault ⟨⟩
    rfl
  | some c => exact ⟨rfl, nofun⟩

/-- The blocks report their fault, and putting their code together reports nothing. -/
theorem blocks_adds {q : Run} (hrules : rules.Pairs true) (hq : q.Adds log []) :
    let done := exec (loggingFaults (ws.top.mapM (topCode rules)) >>=
      fun parts => finish ("\n".intercalate (parts.filter (· ≠ "")))) s q
    done.2.Adds log (match done.1 with
      | .ok _ => []
      | .error fault => reportOn s.conventions fault) := by
  obtain ⟨hsame, hadds⟩ := exec_loggingFaults_adds (topCodes_quiet (s := s) ws hrules hq)
  dsimp only
  rw [exec_bind]
  rcases hy : exec (loggingFaults (ws.top.mapM (topCode rules))) s q with ⟨fault | parts, q₂⟩ <;>
    rw [hy] at hsame hadds <;> rw [← hsame] at hadds
  · exact hadds
  · obtain ⟨hrun, hfault⟩ := exec_finish (s := s) ("\n".intercalate (parts.filter (· ≠ ""))) q₂
    dsimp only
    rw [hrun]
    rcases hz : (exec (finish ("\n".intercalate (parts.filter (· ≠ "")))) s q₂).1 with fault | text
    · have hnone : reportOn s.conventions fault = [] := by
        simp [reportOn, hfault fault hz]
      dsimp only
      rw [hnone]
      exact hadds
    · exact hadds

/-- What a generation reports, if it gets as far as its blocks: its fault, once. -/
theorem generate_adds (hrules : rules.Pairs true) (r : Run) :
    (∀ fault, s.newContext.names.register ws.variableNames = .error fault →
      (exec (generate rules ws) s r).1 = .error fault ∧
        (exec (generate rules ws) s r).2.Adds r.log []) ∧
    ∀ a, s.newContext.names.register ws.variableNames = .ok a →
      (exec (generate rules ws) s r).2.Adds r.log
        (match (exec (generate rules ws) s r).1 with
          | .ok _ => []
          | .error fault => reportOn s.conventions fault) := by
  have hbegin : ∃ q : Run, q.Adds r.log [] ∧ exec (generate rules ws) s r =
      exec (start ws >>= fun _ => loggingFaults (ws.top.mapM (topCode rules)) >>=
        fun parts => finish ("\n".intercalate (parts.filter (· ≠ "")))) s q :=
    ⟨_, (Run.Adds.none r).quiet rfl rfl, rfl⟩
  obtain ⟨q, hq, hexec⟩ := hbegin
  obtain ⟨hanswer, hstart⟩ := start_quiet (s := s) ws hq
  rw [hexec, exec_bind]
  cases hregister : s.newContext.names.register ws.variableNames with
  | error fault =>
    rw [hregister] at hanswer
    rcases hx : exec (start ws) s q with ⟨other | _, q₁⟩ <;> rw [hx] at hanswer hstart
    · cases hanswer
      refine ⟨?_, nofun⟩
      rintro _ ⟨⟩
      exact ⟨rfl, hstart⟩
    · cases hanswer
  | ok a =>
    rw [hregister] at hanswer
    refine ⟨nofun, fun _ _ => ?_⟩
    rcases hx : exec (start ws) s q with ⟨fault | _, q₁⟩ <;> rw [hx] at hanswer hstart
    · cases hanswer
    · exact blocks_adds ws hrules hstart

end Gen

namespace Generator

/-- What a generation is to report by the errors it adds to the log: nothing if there is a text, and a
fault of the generation exactly once. -/
def ReportsOnce (g : Generator) (answer : Except Fault String) (errors : List LogRecord) : Prop :=
  (∀ text, answer = .ok text → errors = []) ∧
    ∀ fault, answer = .error fault → fault.isGeneration = true →
      errors = [Gen.aborted g.dialect.conventions fault]

/-- Whatever the conventions of the dialect are, and however they escape a message for the log, a
generation reports its fault exactly once if it does not fail for want of an identifier of a variable of
the workspace. -/
theorem reportsOnce_iff_registered (g : Generator) (hrules : g.dialect.rules.Pairs true)
    {program : Program} {ws : Workspace} {s : Session}
    (hws : (program.toWorkspace s.nextBlock).1 = .ok ws) :
    let registered := g.setting.newContext.names.register ws.variableNames
    ∃ records, (s.generate g program).2.run.log = s.run.log ++ records ∧
      (g.ReportsOnce (s.generate g program).1 (LogRecord.errors records) ↔
        ∀ fault, registered = .error fault → fault.isGeneration = false) ∧
      ∀ fault, registered = .error fault →
        (s.generate g program).1 = .error fault ∧ LogRecord.errors records = [] := by
  intro registered
  obtain ⟨hfailed, hrest⟩ := Gen.generate_adds (s := g.setting) ws hrules s.run
  have hgenerate := Session.generate_of_workspace g hws
  rw [hgenerate.1, hgenerate.2]
  cases hregistered : registered with
  | error fault =>
    obtain ⟨hanswer, records, hlog, herrors⟩ := hfailed fault hregistered
    refine ⟨records, hlog, ?_, ?_⟩
    · rw [hanswer, herrors]
      constructor
      · rintro ⟨-, hreport⟩ _ ⟨⟩
        by_contra hgeneration
        cases hreport fault rfl (by simpa using hgeneration)
      · intro hother
        refine ⟨nofun, ?_⟩
        rintro _ ⟨⟩ hgeneration
        rw [hother fault rfl] at hgeneration
        cases hgeneration
    · rintro _ ⟨⟩
      exact ⟨hanswer, herrors⟩
  | ok a =>
    obtain ⟨records, hlog, herrors⟩ := hrest a hregistered
    refine ⟨records, hlog, ⟨fun _ => nofun, fun _ => ⟨?_, ?_⟩⟩, nofun⟩
    · intro text hanswer
      rw [herrors, hanswer]
    · intro fault hanswer hgeneration
      rw [herrors, hanswer]
      exact if_pos hgeneration

/-- A generation reports its fault exactly once and otherwise no error, if and only if it does not
fail because a variable of the workspace gets no identifier; such a fault is not reported at all. -/
theorem fault_reported_once_iff_registered (language : Language) (config : Config)
    (program : Program) (ws : Workspace) (s : Session)
    (hws : (program.toWorkspace s.nextBlock).1 = .ok ws) :
    let g : Generator := ⟨language.dialect, config⟩
    let registered := g.setting.newContext.names.register ws.variableNames
    ∃ records, (s.generate g program).2.run.log = s.run.log ++ records ∧
      (g.ReportsOnce (s.generate g program).1 (LogRecord.errors records) ↔
        ∀ fault, registered = .error fault → fault.isGeneration = false) ∧
      ∀ fault, registered = .error fault →
        (s.generate g program).1 = .error fault ∧ LogRecord.errors records = [] := by
  intro g
  exact reportsOnce_iff_registered g (Rulebook.dialect_pairs fun _ => rfl) hws

/-- A block of no known kind, whose name is escaped in the report. -/
theorem unknownKind_reported :
    let g : Generator := ⟨Language.divGames.dialect, {}⟩
    let ws : Workspace := { top := [.mk { kind := "[b]", id := "a" } [] [] none] }
    let fault : Fault := .unknownKind "[b]" "divgames"
    (({} : Session).generate g (.workspace ws)).1 = .error fault ∧
      LogRecord.errors (({} : Session).generate g (.workspace ws)).2.run.log =
        [Gen.aborted Dialect.divConventions fault] ∧
      (Gen.aborted Dialect.divConventions fault).message =
        "❌ divgames: generation aborted: Language \"divgames\" does not know how to generate " ++
          "code for block type \"\\[b]\"." := by
  intro g ws fault
  have hanswer : (({} : Session).generate g (.workspace ws)).1 = .error fault := by rfl
  obtain ⟨records, hlog, hiff, -⟩ :=
    fault_reported_once_iff_registered .divGames {} (.workspace ws) ws {} rfl
  have honce := hiff.2 nofun
  rw [hlog]
  exact ⟨hanswer, honce.2 fault hanswer rfl, by decide +kernel⟩

/-- What no identifier was found for, and after how many attempts. -/
def exhausted? : Except Fault String → Option (String × Int)
  | .error (.namesExhausted base (.int attempts)) => some (base, attempts)
  | _ => none

theorem eq_of_exhausted? {answer : Except Fault String} {base : String} {attempts : Int}
    (h : exhausted? answer = some (base, attempts)) :
    answer = .error (.namesExhausted base (.int attempts)) := by
  unfold exhausted? at h
  split at h
  · cases h
    rfl
  · cases h

/-- With a single attempt there is no identifier for a variable that is called like a reserved word.
The generation fails, and reports nothing. -/
theorem exhausted_variable_unreported :
    let g : Generator := ⟨Language.divGames.dialect, { maxAttempts := 1 }⟩
    let result := ({} : Session).generate g (.workspace { variableNames := [.text "if"] })
    result.1 = .error (.namesExhausted "if" (.int 1)) ∧
      Fault.isGeneration (.namesExhausted "if" (.int 1)) = true ∧
      LogRecord.errors result.2.run.log = [] := by
  intro g result
  have hanswer : result.1 = .error (.namesExhausted "if" (.int 1)) :=
    eq_of_exhausted? (by decide +kernel)
  have hlog : LogRecord.errors result.2.run.log = [] := by decide +kernel
  exact ⟨hanswer, rfl, hlog⟩

end Generator

end BlockCode
