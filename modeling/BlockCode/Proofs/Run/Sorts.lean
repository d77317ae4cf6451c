import BlockCode.Proofs.Run.Trees
import BlockCode.Session

namespace BlockCode

namespace Gen

/-- If the action stops, then with a fault other than those of emission. -/
def Fits {α : Type} (s : Setting) (x : Gen α) : Prop :=
  ∀ r, BlockCode.Fits (exec x s r).1

namespace Fits

variable {α β : Type} {s : Setting}

theorem bind {x : Gen α} {f : α → Gen β} (hx : Fits s x) (hf : ∀ a, Fits s (f a)) :
    Fits s (x >>= f) := by
  intro r fault hfault
  rw [exec_bind] at hfault
  rcases hxr : exec x s r with ⟨other | a, r'⟩ <;> simp only [hxr] at hfault
  · cases hfault
    exact hx r fault (by rw [hxr])
  · exact hf a r' fault hfault

theorem mapM {f : α → Gen β} (hf : ∀ a, Fits s (f a)) (l : List α) : Fits s (l.mapM f) := by
  induction l with
  | nil => exact fun r => .ok []
  | cons a l ih =>
    rw [List.mapM_cons]
    exact (hf a).bind fun b => ih.bind fun bs r => .ok (b :: bs)

theorem step {f : Context → Except Fault (α × List LogRecord × Context)}
    (hf : ∀ c, BlockCode.Fits (f c)) : Fits s (Gen.step f) := by
  intro r
  rw [exec_step]
  cases r.context with
  | none => exact .error rfl
  | some c =>
    have hfits := hf c
    dsimp only
    generalize f c = answer at hfits
    cases answer with
    | error fault => exact .error (hfits fault rfl)
    | ok result => exact .ok result.1

theorem nameOf (type : NameType) (name : Value) : Fits s (Gen.nameOf type name) :=
  .step fun c => (c.names.fits_get name type).bind fun _ => .ok _

theorem temporary (name : Value) : Fits s (Gen.temporary name) :=
  .step fun c => (c.names.fits_distinct name .var).bind fun _ => .ok _

theorem provide (key : Value) (template : List String) : Fits s (Gen.provide key template) :=
  .step fun c => c.fits_provide key template

theorem define (key : Value) (code : String) : Fits s (Gen.define key code) :=
  .step fun c => (c.fits_define key code).bind fun _ => .ok _

theorem start (ws : Workspace) : Fits s (Gen.start ws) := by
  have hset : ∀ f : Run → Run, Fits s (modify f : Gen Unit) := fun f _ => .ok ()
  have hread : Fits s (read : Gen Setting) := fun _ => .ok s
  exact hread.bind fun _ => (hset _).bind fun _ => (mapM (nameOf .var) _).bind fun _ => hset _

theorem loggingFaults {x : Gen α} (hx : Fits s x) : Fits s (Gen.loggingFaults x) := by
  intro r
  obtain ⟨log, hlog⟩ := exec_loggingFaults (s := s) x r
  rw [hlog]
  exact hx r

theorem finish (code : String) : Fits s (Gen.finish code) := by
  have hread : Fits s (read : Gen Setting) := fun _ => .ok s
  have hget : Fits s (get : Gen Run) := fun r => .ok r
  have hcontext : Fits s Gen.context := by
    intro r
    rw [exec_context]
    cases r.context with
    | none => exact .error rfl
    | some c => exact .ok c
  exact hread.bind fun _ => hget.bind fun _ => hcontext.bind fun _ _ => .ok _

end Fits

end Gen

/-- A run without faults of emission. -/
def Watch.fitting (s : Setting) : Watch s :=
  have hsame : ∀ {α : Type} {x : Gen α}, Gen.Fits s x → Gen.Tracks none (fun r q => r = q ∧ True)
      (fun f g => f = g ∧ f.isEmission = false) Eq s s x x := by
    intro α x hx
    refine ⟨(Gen.Relates.same (Q := fun _ => True) fun r _ => ?_).imp fun _ _ hab => hab.1, nofun⟩
    exact ⟨trivial, hx r, fun _ _ => trivial⟩
  { run := fun _ => True
    fault := fun f => f.isEmission = false
    request := none
    asks := fun _ => True
    fault_of_fits := id
    nameOf := fun type name _ => hsame (.nameOf type name)
    temporary := fun name => hsame (.temporary name)
    provide := fun key template => hsame (.provide key template)
    define := fun key code => hsame (.define key code) }

variable {traps : Bool} {rules : Rulebook} {ws : Workspace}

/-- The code of sorted blocks fits together. -/
theorem Workspace.topCodes_fit (hrules : rules.Pairs traps)
    (hsorted : ∀ q ∈ ws.blocks, q.block.IsSorted rules) (s : Setting) :
    Gen.Fits s (ws.top.mapM (Gen.topCode rules)) := by
  intro r fault hfault
  have hadmits : ∀ q ∈ ws.blocks, (Watch.fitting s).pairing.Admits rules q.block :=
    fun q hq => ⟨fun _ => trivial, fun _ _ _ => trivial, .inr (hsorted q hq)⟩
  have hpairs := Workspace.topCodes_pairs ((Watch.fitting s).even traps) hrules hadmits
  have hanswers := (hpairs.relates r r ⟨rfl, trivial⟩).1
  rw [hfault] at hanswers
  exact hanswers.2

theorem Gen.Fits.generate (hrules : rules.Pairs traps)
    (hsorted : ∀ q ∈ ws.blocks, q.block.IsSorted rules) (s : Setting) :
    Gen.Fits s (Gen.generate rules ws) := by
  intro r
  have hrun : Gen.Fits s (Gen.start ws >>= fun _ =>
      Gen.loggingFaults (ws.top.mapM (Gen.topCode rules)) >>= fun parts =>
        Gen.finish ("\n".intercalate (parts.filter (· ≠ "")))) :=
    (Gen.Fits.start ws).bind fun _ =>
      (Gen.Fits.loggingFaults (Workspace.topCodes_fit hrules hsorted s)).bind fun _ =>
        Gen.Fits.finish _
  exact hrun _

namespace Generator

/-- A sorted program is never refused for a block without a rule or for code of the wrong sort,
whatever was done with the generator before. -/
theorem sorted_fits (language : Language) (config : Config) (ws : Workspace)
    (hsorted : ∀ q ∈ ws.blocks, q.block.IsSorted language.dialect.rules) (s : Session) :
    (∀ kind dialect, (s.generate ⟨language.dialect, config⟩ (.workspace ws)).1 ≠
      .error (.unknownKind kind dialect)) ∧
      ∀ misfit, (s.generate ⟨language.dialect, config⟩ (.workspace ws)).1 ≠
        .error (.invalidEmission misfit) := by
  have hrules : Rulebook.Pairs true language.dialect.rules := Rulebook.dialect_pairs fun _ => rfl
  have hfits := Gen.Fits.generate hrules hsorted (Generator.setting ⟨language.dialect, config⟩) s.run
  constructor
  · intro kind dialect hfault
    cases hfits _ hfault
  · intro misfit hfault
    cases hfits _ hfault

/-- A branch on a value, with an empty branch as its body, a disabled one behind it and a socket left
open: a program that is sorted. -/
def sortedProgram : Workspace :=
  let open_ : Block := .mk { kind := "controls_if", id := "b" } [("IF0", none)] [("DO0", none)] none
  let skipped : Block := .mk { kind := "controls_if", id := "c", disabled := .bool true } [] [] none
  { top := [.mk { kind := "controls_if", id := "a" }
      [("IF0", some (.mk { kind := "logic_null", id := "d" } [] [] none))] [("DO0", some open_)]
      (some skipped)] }

theorem isValueKind_null : Language.divGames.dialect.rules.IsValueKind "logic_null" := by
  refine ⟨Rules.nullLiteral, rfl, ⟨{ kind := "logic_null", id := "d" }, true, [], [], none⟩, ?_⟩
  exact ⟨_, _, Generator.setting ⟨Language.divGames.dialect, {}⟩, {}, rfl⟩

theorem isStatementKind_if : Language.divGames.dialect.rules.IsStatementKind "controls_if" := by
  refine ⟨Rules.ifChain, rfl, ⟨{ kind := "controls_if", id := "b" }, false, [], [], none⟩, .inr ?_⟩
  exact ⟨_, Generator.setting ⟨Language.divGames.dialect, {}⟩, {}, rfl⟩

theorem sortedProgram_isSorted :
    ∀ q ∈ sortedProgram.blocks, q.block.IsSorted Language.divGames.dialect.rules := by
  have hvalue := isValueKind_null
  have hstatement := isStatementKind_if
  have hrules : Language.divGames.dialect.rules.Pairs true := Rulebook.dialect_pairs fun _ => rfl
  have hif := hrules.not_isValueKind hstatement
  have hknown : ∃ rule, Language.divGames.dialect.rules.ruleFor "controls_if" = .ok (some rule) :=
    ⟨_, hstatement.choose_spec.1⟩
  simp only [sortedProgram, Workspace.blocks, Block.descendants, List.flatMap_cons,
    List.flatMap_nil, Block.descendantsAt, Block.socketDescendants, Block.linkDescendants,
    List.append_nil, List.nil_append, List.cons_append, List.forall_mem_cons, List.not_mem_nil,
    IsEmpty.forall_iff, implies_true, and_true]
  refine ⟨⟨hknown, ?_, ?_, ?_, fun h => (hif h).elim⟩, ⟨⟨_, hvalue.choose_spec.1⟩, ?_, ?_, ?_, ?_⟩,
    ⟨hknown, ?_, ?_, ?_, ?_⟩, hknown, ?_, ?_, ?_, ?_⟩ <;>
    simp [Block.inputs, Block.statements, Block.next, Block.head, hvalue, hstatement]

theorem sortedProgram_fits :
    (∀ q ∈ sortedProgram.blocks, q.block.IsSorted Language.divGames.dialect.rules) ∧
      ∀ misfit, (({} : Session).generate ⟨Language.divGames.dialect, {}⟩
        (.workspace sortedProgram)).1 ≠ .error (.invalidEmission misfit) :=
  ⟨sortedProgram_isSorted, (sorted_fits .divGames {} sortedProgram sortedProgram_isSorted {}).2⟩

end Generator

end BlockCode
