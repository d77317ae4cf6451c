import BlockCode.Proofs.Run.History
import BlockCode.Proofs.Run.Insertion

namespace BlockCode

namespace Session

/-- The answer for a program does not depend on the session if the identifiers are either given or
blurred. -/
theorem generate_answer_eq {g : Generator} {traps : Bool} {program : Program}
    (hrules : Rulebook.Agrees traps (fun _ => True) g.dialect.rules)
    (h : ¬ g.config.ShowsIds traps ∨ program.isNamed = true) (s t : Session) :
    (s.generate g program).1 = (t.generate g program).1 := by
  let R : Value → Value → Prop := fun i j => g.config.Blurs traps i.written j.written
  have hR : ∀ i, R i i := fun _ _ _ => rfl
  have hws := Program.toWorkspace_alike hR
    (h.imp_left fun hn i j => Config.blurs_of_not_shows hn _ _) s.nextBlock t.nextBlock
  unfold generate performOn
  generalize program.toWorkspace s.nextBlock = x at hws ⊢
  generalize program.toWorkspace t.nextBlock = y at hws ⊢
  obtain ⟨fault | ws, n⟩ := x <;> obtain ⟨other | ws', m⟩ := y
  · exact congrArg Except.error hws
  · exact hws.elim
  · exact hws.elim
  · have hanswers := Gen.generate_answers (s := g.setting) trivial hrules
      (fun _ _ hij => hij) hws s.run t.run
    exact hanswers.eq

end Session

namespace Gen

/-- The whole text of a program that is one statement and has no variables. -/
theorem generate_statement {rules : Rulebook} {s : Setting} {b : Block} {code : String}
    (hcode : ∀ r, exec (b.code rules) s r = (.ok (.statement code), r)) (hne : code ≠ "")
    (r : Run) :
    (exec (generate rules { top := [b], variableNames := [] }) s r).1 =
      .ok (Text.layout (Text.Template.fill s.prologue "variables" (s.conventions.declare []) ++
        code ++ Text.Template.fill s.epilogue "variables" (s.conventions.declare []))) := by
  have hparts : ∀ q, exec (loggingFaults ([b].mapM (topCode rules))) s q = (.ok [code], q) := by
    intro q
    simp only [loggingFaults, exec_tryCatch, List.mapM_cons, List.mapM_nil, topCode, exec_bind,
      hcode, exec_pure]
  simp only [generate, report, finish, exec_bind, exec_read, exec_modify, exec_start, exec_get,
    exec_context, exec_pure, hparts, List.mapM_nil]
  simp [hne, definitionText, Setting.newContext, HelperRegistry.definitions]

end Gen

namespace Language

/-- A statement in which every insertion of the language is made. -/
def probe : Language → DraftHead
  | .divGames =>
    { kind := "controls_whileUntil", id := none, fields := [("MODE", .text "WHILE")],
      comment := none, output := none, disabled := false, mutation := [] }
  | .fuzeBasic =>
    { kind := "text_print", id := none, fields := [], comment := none, output := none,
      disabled := false, mutation := [] }

/-- A document with the probe as its only block. -/
def probeDocument (language : Language) : Value :=
  .map [("blocks", .list [.map
    [("type", .text language.probe.kind), ("fields", .map language.probe.fields)]])]

def probeBlock (language : Language) (id : String) : Block :=
  .mk (Draft.headAt false language.probe id) [] [] none

/-- The code of the probe between the insertions in front of it and behind it. -/
def probeBody (config : Config) (id : String) : Language → String
  | .divGames =>
    "WHILE (" ++ "false" ++ ")\n" ++ (insertionLines config.indent config.trap id ++ "" ++
      insertionLines config.indent config.before id) ++ "END\n"
  | .fuzeBasic => "PRINT \"\"\n"

def probeCode (language : Language) (config : Config) (id : String) : String :=
  insertion config.before id ++ language.probeBody config id ++ insertion config.after id

theorem load_probe (language : Language) (n : Nat) :
    (Program.snapshot language.probeDocument).toWorkspace n =
      (.ok { top := [language.probeBlock (numberedId n)], variableNames := [] }, n + 1) := by
  cases language <;> rfl

theorem probe_code (language : Language) (config : Config) (id : String) (r : Run) :
    Gen.exec ((language.probeBlock id).code language.dialect.rules)
        (Generator.mk language.dialect config).setting r =
      (.ok (.statement (language.probeCode config id)), r) := by
  have hframe : ∀ code : String, "" ++ code ++ "" = code := fun code => by
    rw [String.empty_append, String.append_empty]
  rw [← hframe (language.probeCode config id)]
  cases language <;> rfl

section Ink

variable {config : Config} {x : Char} {i j : String} (hink : ink x i < ink x j)
  (hlines : Text.SameLines i.toList j.toList)
include hink hlines

theorem ink_probeBody_le (language : Language) :
    ink x (language.probeBody config i) ≤ ink x (language.probeBody config j) := by
  cases language with
  | divGames =>
    have htrap := ink_insertionLines_le hink hlines config.indent config.trap
    have hbefore := ink_insertionLines_le hink hlines config.indent config.before
    simp only [probeBody, ink_append]
    omega
  | fuzeBasic => exact le_rfl

theorem ink_probeBody_lt {template : String} (ht : config.trap = some template)
    (hr : RefersToId template) :
    ink x (Language.divGames.probeBody config i) <
      ink x (Language.divGames.probeBody config j) := by
  have htrap := ink_insertionLines_lt hink hlines config.indent hr
  have hbefore := ink_insertionLines_le hink hlines config.indent config.before
  simp only [probeBody, ink_append, ht]
  omega

/-- The code of the probe shows which identifier it was given. -/
theorem ink_probeCode_lt {language : Language} (h : config.ShowsIds language.setsTraps) :
    ink x (language.probeCode config i) < ink x (language.probeCode config j) := by
  obtain ⟨template, ht, hr⟩ := h
  have hbefore := ink_insertion_le hink config.before
  have hafter := ink_insertion_le hink config.after
  have hbody : ink x (language.probeBody config i) ≤ ink x (language.probeBody config j) :=
    ink_probeBody_le hink hlines language
  have hlt := ink_insertion_lt hink hr
  simp only [probeCode, ink_append]
  rw [Config.inserted, List.mem_append, List.mem_pair] at ht
  rcases ht with (hb | ha) | htrap
  · rw [hb] at hlt
    omega
  · rw [ha] at hlt
    omega
  · cases language with
    | divGames =>
      have hlt := ink_probeBody_lt hink hlines (List.mem_singleton.1 htrap).symm hr
      omega
    | fuzeBasic => cases htrap

end Ink

theorem probeCode_ne_empty (language : Language) (config : Config) (id : String) :
    language.probeCode config id ≠ "" := by
  intro h
  have hbody : language.probeBody config id = "" := by
    rw [probeCode, String.append_eq_empty_iff, String.append_eq_empty_iff] at h
    exact h.1.2
  cases language with
  | divGames => simp [probeBody] at hbody
  | fuzeBasic => simp [probeBody] at hbody

/-- The text of a program that is the probe. -/
def probeText (language : Language) (config : Config) (id : String) : String :=
  let s := (Generator.mk language.dialect config).setting
  Text.layout (Text.Template.fill s.prologue "variables" (s.conventions.declare []) ++
    language.probeCode config id ++
    Text.Template.fill s.epilogue "variables" (s.conventions.declare []))

theorem generate_probeBlock (language : Language) (config : Config) (id : String) (r : Run) :
    (Gen.exec (Gen.generate language.dialect.rules
        { top := [language.probeBlock id], variableNames := [] })
      (Generator.mk language.dialect config).setting r).1 =
        .ok (language.probeText config id) :=
  Gen.generate_statement (language.probe_code config id) (language.probeCode_ne_empty config id) r

/-- Two identifiers that the text of the probe tells apart. -/
theorem probeText_ne {language : Language} {config : Config}
    (h : config.ShowsIds language.setsTraps) :
    language.probeText config (numberedId 1) ≠ language.probeText config (numberedId 2) := by
  intro heq
  have hlt := Language.ink_probeCode_lt (x := '2') (i := numberedId 1) (j := numberedId 2)
    (by decide) (by unfold Text.SameLines; decide) h
  have hink := congrArg (ink '2') heq
  simp only [probeText, ink_layout (show Text.isBlank '2' = false from rfl), ink_append] at hink
  omega

end Language

namespace Generator

/-- After whatever was done before, the answer for the program is that of a new generator. -/
def Independent (g : Generator) (program : Program) : Prop :=
  ∀ (earlier : List Operation) (n : Nat),
    ((Session.after g earlier).generate g program).1 =
      (({ nextBlock := n } : Session).generate g program).1

/-- Handed over twice in a row, the program gets the same answer twice. -/
def Repeats (g : Generator) (program : Program) : Prop :=
  ∀ earlier : List Operation,
    ((Session.after g (earlier ++ [.generate program])).generate g program).1 =
      ((Session.after g earlier).generate g program).1

theorem Independent.repeats {g : Generator} {program : Program} (h : g.Independent program) :
    g.Repeats program :=
  fun earlier => (h (earlier ++ [.generate program]) 1).trans (h earlier 1).symm

variable {language : Language} {config : Config}

theorem generate_probe (s : Session) :
    (s.generate ⟨language.dialect, config⟩ (.snapshot language.probeDocument)).1 =
      .ok (language.probeText config (numberedId s.nextBlock)) := by
  unfold Session.generate
  rw [Language.load_probe]
  exact language.generate_probeBlock config _ s.run

/-- The second run of the probe shows the next number. -/
theorem not_repeats_probe (h : config.ShowsIds language.setsTraps) :
    ¬ (Generator.mk language.dialect config).Repeats (.snapshot language.probeDocument) := by
  intro hsame
  have heq := hsame []
  have hfirst : (Session.after ⟨language.dialect, config⟩ []).nextBlock = 1 := rfl
  have hsecond : (Session.after ⟨language.dialect, config⟩
      ([] ++ [.generate (.snapshot language.probeDocument)])).nextBlock = 2 := by
    cases language <;> rfl
  rw [generate_probe, generate_probe, hfirst, hsecond] at heq
  exact Language.probeText_ne h (Except.ok.inj heq).symm

/-- Whatever was done with a generator before, it gives the text or the fault of a new one for every
program whose blocks all carry identifiers. For all programs it does so, and likewise if only
handed the same program twice in a row, exactly when no inserted code shows the identifiers. -/
theorem runs_independent_iff_ids_unshown (language : Language) (config : Config) :
    (∀ program : Program, program.isNamed = true →
      (Generator.mk language.dialect config).Independent program) ∧
    ((∀ program, (Generator.mk language.dialect config).Independent program) ↔
      ¬ config.ShowsIds language.setsTraps) ∧
    ((∀ program, (Generator.mk language.dialect config).Repeats program) ↔
      ¬ config.ShowsIds language.setsTraps) := by
  have hrules : Rulebook.Agrees language.setsTraps (fun _ => True) language.dialect.rules :=
    Rulebook.dialect_agrees .trivial id
  have hunshown : ¬ config.ShowsIds language.setsTraps →
      ∀ program, (Generator.mk language.dialect config).Independent program :=
    fun h program _ _ => Session.generate_answer_eq hrules (.inl h) _ _
  have hshown : (∀ program, (Generator.mk language.dialect config).Repeats program) →
      ¬ config.ShowsIds language.setsTraps :=
    fun hall h => not_repeats_probe h (hall _)
  refine ⟨?_, ⟨?_, hunshown⟩, hshown, ?_⟩
  · exact fun program h _ _ => Session.generate_answer_eq hrules (.inr h) _ _
  · exact fun hall => hshown fun program => (hall program).repeats
  · exact fun h program => (hunshown h program).repeats

/-- One block without an identifier, generated twice with its identifier in front of it. -/
theorem second_run_shows_next_number :
    let g : Generator := ⟨.fuzeBasic, { before := some "trace(%1)\n" }⟩
    let program := Program.snapshot (.map [("blocks", .list [.map [("type", .text "text_print")]])])
    ((Session.after g []).generate g program).1 = .ok "trace('block1')\nPRINT \"\"\nEND\n" ∧
    ((Session.after g [.generate program]).generate g program).1 =
      .ok "trace('block2')\nPRINT \"\"\nEND\n" ∧
    ¬ g.Repeats program := by
  refine ⟨rfl, rfl, fun h => ?_⟩
  have hsame : Except.ok (ε := Fault) "trace('block2')\nPRINT \"\"\nEND\n" =
      .ok "trace('block1')\nPRINT \"\"\nEND\n" := h []
  exact absurd (Except.ok.inj hsame) (by decide)

/-- A generator gives one answer for all workspaces that differ in the identifiers of their blocks
only, whatever was done before with it, exactly when no inserted code shows identifiers. -/
theorem ids_immaterial_iff_unshown (language : Language) (config : Config) :
    (∀ ws ws' : Workspace, ws.Alike (fun _ _ => True) ws' → ∀ s t : Session,
      (s.generate ⟨language.dialect, config⟩ (.workspace ws)).1 =
        (t.generate ⟨language.dialect, config⟩ (.workspace ws')).1) ↔
      ¬ config.ShowsIds language.setsTraps := by
  constructor
  · intro hsame hshown
    have hprobes : ({ top := [language.probeBlock (numberedId 1)] } : Workspace).Alike
        (fun _ _ => True) { top := [language.probeBlock (numberedId 2)] } :=
      ⟨.cons ⟨rfl, trivial, trivial, trivial, trivial⟩ .nil, rfl⟩
    have heq := hsame _ _ hprobes {} {}
    have hfirst := language.generate_probeBlock config (numberedId 1) {}
    have hsecond := language.generate_probeBlock config (numberedId 2) {}
    exact Language.probeText_ne hshown
      (Except.ok.inj (hfirst.symm.trans (heq.trans hsecond)))
  · intro hunshown ws ws' hws s t
    have hrules : Rulebook.Agrees language.setsTraps (fun _ => True) language.dialect.rules :=
      Rulebook.dialect_agrees .trivial id
    exact (Gen.generate_answers trivial hrules
      (fun i j _ => Config.blurs_of_not_shows hunshown i.written j.written) hws s.run t.run).eq

end Generator

end BlockCode
