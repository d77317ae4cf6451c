import BlockCode.Proofs.Run.Sites

namespace BlockCode

namespace Gen

variable {α : Type} {s : Setting}

/-- Logging touches nothing but the log. -/
theorem exec_loggingFaults (act : Gen α) (r : Run) :
    ∃ log, exec (loggingFaults act) s r =
      ((exec act s r).1, { (exec act s r).2 with log := log }) := by
  unfold loggingFaults
  rw [exec_tryCatch]
  rcases exec act s r with ⟨fault | a, r'⟩
  · dsimp only
    split
    · exact ⟨_, rfl⟩
    · exact ⟨r'.log, rfl⟩
  · exact ⟨r'.log, rfl⟩

/-- The code of a block as it stands at the top. -/
def topText : Emission → Gen String
  | .statement code => return code
  | .value code _ => return code ++ "\n"

theorem topCode_eq (rules : Rulebook) (b : Block) : topCode rules b = b.code rules >>= topText :=
  rfl

theorem exec_start (ws : Workspace) (r : Run) :
    exec (start ws) s r =
      match exec (ws.variableNames.mapM variableName) s { r with context := some s.newContext } with
      | (.ok declared, r') => (.ok (), { r' with declared })
      | (.error fault, r') => (.error fault, r') := by
  unfold start setContext
  simp only [exec_bind, exec_read, exec_modify]
  rcases exec (ws.variableNames.mapM variableName) s _ with ⟨fault | declared, r'⟩ <;> rfl

namespace Relates

variable {β : Type} {t : Setting} {rules : Rulebook} {T : String → String → Prop}
  {I : Context → Prop} {D : List String → List String → Prop} {F : Fault → Fault → Prop}

theorem loggingFaults {Q : α → β → Prop} {x : Gen α} {y : Gen β}
    (h : Relates (Run.Matches T I D) F Q s t x y) :
    Relates (Run.Matches T I D) F Q s t (Gen.loggingFaults x) (Gen.loggingFaults y) := by
  intro r q hr
  obtain ⟨log, hx⟩ := exec_loggingFaults x r
  obtain ⟨more, hy⟩ := exec_loggingFaults y q
  rw [hx, hy]
  exact ⟨(h r q hr).1, (h r q hr).2.context, (h r q hr).2.declared⟩

variable (hnew : s.newContext = t.newContext) (hkept : I s.newContext) (hD : ∀ names, D names names)
  (hname : ∀ name, Relates (Run.Matches T I fun _ _ => True) F Eq s t (variableName name)
    (variableName name)) {ws ws' : Workspace} (hnames : ws.variableNames = ws'.variableNames)
include hnew hkept hD hname hnames

/-- Starting a run brings any two runs together. -/
theorem start (r q : Run) :
    Answers F
      (fun _ _ => Run.Matches T I D (exec (Gen.start ws) s r).2 (exec (Gen.start ws') t q).2)
      (exec (Gen.start ws) s r).1 (exec (Gen.start ws') t q).1 := by
  have hlists := Relates.mapM_same ws'.variableNames hname
    { r with context := some s.newContext } { q with context := some t.newContext }
    ⟨.some ⟨by rw [hnew], by rw [hnew], by rw [hnew], by rw [hnew]; exact .nil, hkept⟩, trivial⟩
  rw [exec_start, exec_start, hnames]
  generalize exec (ws'.variableNames.mapM variableName) s _ = x at hlists ⊢
  generalize exec (ws'.variableNames.mapM variableName) t _ = y at hlists ⊢
  obtain ⟨fault | declared, r'⟩ := x <;> obtain ⟨other | declared', q'⟩ := y
  · exact hlists.1
  · exact hlists.1.elim
  · exact hlists.1.elim
  · have heq : declared = declared' := List.forall₂_eq_eq_eq ▸ hlists.1
    rw [heq]
    exact ⟨hlists.2.context, hD _⟩

/-- Two programs come to faults or texts that compare, and to matching runs. -/
theorem generate {Q : List String → List String → Prop} {S : String → String → Prop}
    (hparts : Relates (Run.Matches T I D) F Q s t (ws.top.mapM (topCode rules))
      (ws'.top.mapM (topCode rules)))
    (hfinish : ∀ parts parts', Q parts parts' →
      Relates (Run.Matches T I D) F S s t (finish ("\n".intercalate (parts.filter (· ≠ ""))))
        (finish ("\n".intercalate (parts'.filter (· ≠ ""))))) (r q : Run) :
    Answers F
      (fun a b => S a b ∧
        Run.Matches T I D (exec (Gen.generate rules ws) s r).2 (exec (Gen.generate rules ws') t q).2)
      (exec (Gen.generate rules ws) s r).1 (exec (Gen.generate rules ws') t q).1 := by
  have hcode := hparts.loggingFaults.bind hfinish
  have hbegin : ∀ (ws : Workspace) (s : Setting) (r : Run), ∃ r', exec (Gen.generate rules ws) s r =
      exec (Gen.start ws >>= fun _ => Gen.loggingFaults (ws.top.mapM (topCode rules)) >>=
        fun parts => finish ("\n".intercalate (parts.filter (· ≠ "")))) s r' :=
    fun ws s r => ⟨_, rfl⟩
  obtain ⟨r', hr⟩ := hbegin ws s r
  obtain ⟨q', hq⟩ := hbegin ws' t q
  rw [hr, hq, exec_bind, exec_bind]
  have hstart := start hnew hkept hD hname hnames r' q'
  rcases hx : exec (Gen.start ws) s r' with ⟨fault | _, r₁⟩ <;>
    rcases hy : exec (Gen.start ws') t q' with ⟨other | _, q₁⟩ <;>
    simp only [hx, hy, Answers] at hstart ⊢
  · exact hstart
  · obtain ⟨hanswers, hruns⟩ := hcode r₁ q₁ hstart
    exact hanswers.imp fun a b hab => ⟨hab, hruns⟩

end Relates

end Gen

namespace Comparison

variable {s t : Setting} {c : Comparison s t} {rules : Rulebook}

/-- A value at the top is compared as a line. -/
theorem topText {x y : Gen BlockCode.Emission} (h : c.Relates (c.Emission false) x y) :
    c.Relates c.chain (x >>= Gen.topText) (y >>= Gen.topText) := by
  refine h.bind fun e f hef => ?_
  cases e <;> cases f
  case statement.statement a b => exact .pure hef
  case value.value a rank b other => exact .pure hef.2
  all_goals exact hef.elim

theorem generate {Q : List String → List String → Prop} {S : String → String → Prop}
    (hnew : s.newContext = t.newContext) (hkept : c.kept s.newContext)
    (hdeclared : ∀ names, c.declared names names) {ws ws' : Workspace}
    (hnames : ws.variableNames = ws'.variableNames)
    (hparts : c.Relates Q (ws.top.mapM (Gen.topCode rules)) (ws'.top.mapM (Gen.topCode rules)))
    (hfinish : ∀ parts parts', Q parts parts' →
      c.Relates S (Gen.finish ("\n".intercalate (parts.filter (· ≠ ""))))
        (Gen.finish ("\n".intercalate (parts'.filter (· ≠ ""))))) (r q : Run) :
    Gen.Answers c.faults
      (fun a b => S a b ∧ Run.Matches c.text c.kept c.declared
        (Gen.exec (Gen.generate rules ws) s r).2 (Gen.exec (Gen.generate rules ws') t q).2)
      (Gen.exec (Gen.generate rules ws) s r).1 (Gen.exec (Gen.generate rules ws') t q).1 := by
  let wide : Comparison s t := { c with declared := fun _ _ => True }
  have hname : ∀ name, wide.Relates Eq (Gen.variableName name) (Gen.variableName name) :=
    fun name => (wide.variableName name).imp fun _ _ hab => hab.1
  exact Gen.Relates.generate hnew hkept hdeclared hname hnames hparts hfinish r q

end Comparison

end BlockCode
