import BlockCode.Proofs.Name.Lead
import BlockCode.Proofs.Run.Indentation
import BlockCode.Proofs.Run.Reserved

namespace BlockCode

open Text

/-- A procedure with a statement and a returned value: whatever is inserted into its body has a line
behind it. -/
def Block.returning (name : String) : Block :=
  .mk { kind := "procedures_defreturn", fields := .map [("NAME", .text name)], id := "p" }
    [("RETURN", some (.mk { kind := "logic_null", id := "v" } [] [] none))]
    [("STACK", some (.mk
      { kind := "controls_flow_statements", fields := .map [("FLOW", "BREAK")], id := "b" } [] []
      none))]
    none

/-- The statement in the body. -/
def Config.breakCode (config : Config) : String :=
  insertion config.before "b" ++ "BREAK;\n" ++ insertion config.after "b"

/-- The body up to the returned value. -/
def Config.bodyCode (config : Config) : String :=
  insertionLines config.indent config.trap "p" ++
    (insertionLines config.indent config.before "p" ++ leadLines config.indent config.breakCode)

/-- The definition of the procedure. -/
def Config.returningCode (config : Config) (name : String) : String :=
  Rules.processText name "" config.bodyCode (config.indent ++ "RETURN(null);\n")

theorem Allocator.exists_free (words : List String) :
    ∃ name, Name.isLegal name = true ∧ name ∉ words := by
  have hlong := append_longName_not_mem "" words
  rw [String.empty_append] at hlong
  exact ⟨longName words, isLegal_longName words, hlong⟩

/-- The setting for the language with loops and procedures. -/
def Config.divSetting (config : Config) : Setting :=
  ⟨Dialect.divConventions, config⟩

section Probe

variable {config : Config} {name : String}

theorem breakCode_ne_empty : config.breakCode ≠ "" := by
  intro h
  rw [Config.breakCode, String.append_eq_empty_iff, String.append_eq_empty_iff] at h
  exact absurd h.1.2 (by decide)

theorem exec_returning_body (r : Run) :
    Gen.exec (((Block.returning name).site Dialect.divRules).body "STACK") config.divSetting r =
      (.ok (leadLines config.indent config.breakCode), r) := by
  have hcode : Gen.exec (Branch.linkCode (Site.plugged
      ((Block.returning name).site Dialect.divRules).statements "STACK")) config.divSetting r =
        (.ok (.statement ("" ++ config.breakCode ++ "")), r) := rfl
  have hframe : "" ++ config.breakCode ++ "" = config.breakCode := by
    rw [String.empty_append, String.append_empty]
  rw [Site.body_eq, Gen.exec_bind, hcode, hframe]
  dsimp only
  rw [if_neg breakCode_ne_empty]
  rfl

/-- The procedure leaves nothing in its place, and its code under the definitions. -/
theorem exec_returning (config : Config) (hlegal : Name.isLegal name = true)
    (hfree : name ∉ Dialect.divConventions.reserved ++ config.reservedWords) {r : Run}
    (hr : r.context = some config.divSetting.newContext) :
    ∃ r', Gen.exec ((Block.returning name).code Dialect.divRules) config.divSetting r =
        (.ok (.statement ""), r') ∧
      r'.declared = r.declared ∧
      ∃ c, r'.context = some c ∧ c.helpers.definitions = [config.returningCode name] := by
  obtain ⟨names, hget⟩ :=
    config.divSetting.newContext_get hlegal (mt List.mem_eraseDups.1 hfree) .procedure
  obtain ⟨r₁, hname, hdeclared, hcontext⟩ : ∃ r₁,
      Gen.exec (Gen.procedureName (.text name)) config.divSetting r = (.ok name, r₁) ∧
        r₁.declared = r.declared ∧
        r₁.context = some ⟨names, config.divSetting.newContext.helpers⟩ := by
    have hexec := Gen.exec_nameOf (s := config.divSetting) hr (.text name) .procedure
    rw [hget] at hexec
    dsimp only at hexec
    rw [Allocator.lead, String.empty_append] at hexec
    exact ⟨_, hexec, rfl, rfl⟩
  generalize hsite : (Block.returning name).site Dialect.divRules = u
  have hfield : ∀ q, Gen.exec (u.field "NAME") config.divSetting q = (.ok (.text name), q) := by
    rw [← hsite]
    exact fun _ => rfl
  have hbody : ∀ q, Gen.exec (u.body "STACK") config.divSetting q =
      (.ok (leadLines config.indent config.breakCode), q) := by
    rw [← hsite]
    exact exec_returning_body
  have hvalue : ∀ q, Gen.exec (u.value "RETURN" Rank.loosest) config.divSetting q =
      (.ok "null", q) := by
    rw [← hsite]
    exact fun _ => rfl
  have hresult : ∀ q, Gen.exec (Gen.statement ("RETURN(" ++ "null" ++ ")")) config.divSetting q =
    (.ok "RETURN(null);\n", q) := fun _ => rfl
  have harguments : ∀ q, Gen.exec (Gen.ofExcept u.head.arguments) config.divSetting q =
      (.ok [], q) := by
    rw [← hsite]
    exact fun _ => rfl
  have hsequence : ∀ code q, Gen.exec (u.sequence code) config.divSetting q =
      (.ok ("" ++ code ++ ""), q) := by
    rw [← hsite]
    exact fun _ _ => rfl
  have hcode : (Block.returning name).code Dialect.divRules =
      (do u.placed (← Rules.processDefinition u)) := by
    rw [← hsite]
    rfl
  have hvalued : ¬ "null" = "" := by decide
  have hid : u.id = "p" := by
    rw [← hsite]
    rfl
  rw [hcode]
  simp only [Rules.processDefinition, Gen.exec_bind, hfield, hname, hbody, hvalue, Gen.exec_read,
    if_neg hvalued, hresult, harguments, hsequence, Gen.exec_pure, List.mapM_nil, Gen.define,
    Gen.exec_step, hcontext, hid, String.empty_append, String.append_empty]
  exact ⟨_, rfl, hdeclared, _, rfl, rfl⟩

end Probe

/-- The whole text of a program that is one block, which leaves nothing but a definition. -/
theorem Gen.generate_definition {rules : Rulebook} {s : Setting} {b : Block} {code : String}
    (hcode : ∀ r, r.context = some s.newContext → ∃ r',
      exec (b.code rules) s r = (.ok (.statement ""), r') ∧ r'.declared = r.declared ∧
        ∃ c, r'.context = some c ∧ c.helpers.definitions = [code]) (r : Run) :
    (exec (generate rules { top := [b], variableNames := [] }) s r).1 =
      .ok (layout (Template.fill s.prologue "variables" (s.conventions.declare []) ++ "" ++
        Template.fill s.epilogue "variables" (s.conventions.declare []) ++ definitionText [code])) := by
  have hparts : ∀ q, q.context = some s.newContext → ∃ q',
      exec (loggingFaults ([b].mapM (topCode rules))) s q = (.ok [""], q') ∧
        q'.declared = q.declared ∧ ∃ c, q'.context = some c ∧ c.helpers.definitions = [code] := by
    intro q hq
    obtain ⟨q', hexec, hdeclared, hcontext⟩ := hcode q hq
    refine ⟨q', ?_, hdeclared, hcontext⟩
    simp only [loggingFaults, exec_tryCatch, List.mapM_cons, List.mapM_nil, topCode, exec_bind, hexec,
      exec_pure]
  simp only [generate, report, exec_bind, exec_read, exec_modify, exec_start, exec_pure,
    List.mapM_nil]
  obtain ⟨q, hexec, hdeclared, c, hcontext, hdefinitions⟩ := hparts
    { context := some s.newContext, log := r.log ++ [began s.conventions.name [b].length] } rfl
  rw [hexec]
  simp only [finish, exec_bind, exec_read, exec_get, exec_context, hcontext, hdeclared, hdefinitions,
    exec_pure]
  rfl

section Pieces

/-- The code to insert, if there is any. -/
def insertionPieces (template : Option String) (id : String) : List (List Char) :=
  match template with
  | some t => if t = "" then [] else [(withId t id).toList]
  | none => []

theorem leadAll_insertionPieces (lead : String) (template : Option String) (id : String) :
    leadAll lead.toList (insertionPieces template id) = (insertionLines lead template id).toList := by
  cases template with
  | none => rfl
  | some t =>
    rw [insertionPieces, insertionLines]
    split
    · rfl
    · simp [leadAll, leadLines]

theorem leadAll_append (lead : List Char) (ps qs : List (List Char)) :
    leadAll lead (ps ++ qs) = leadAll lead ps ++ leadAll lead qs :=
  List.flatMap_append

variable (config : Config)

/-- What stands in the body in front of the returned value. -/
def Config.bodyPieces : List (List Char) :=
  insertionPieces config.trap "p" ++ (insertionPieces config.before "p" ++ [config.breakCode.toList])

theorem Config.body_toList {line : String}
    (hline : leadInner config.indent.toList line.toList = line.toList) :
    (config.bodyCode ++ (config.indent ++ line)).toList =
      leadAll config.indent.toList (config.bodyPieces ++ [line.toList]) := by
  have hlast : leadAll config.indent.toList [line.toList] = (config.indent ++ line).toList := by
    rw [leadAll, List.flatMap_singleton, leadChars, hline, String.toList_append]
  have hbreak : leadAll config.indent.toList [config.breakCode.toList] =
      (leadLines config.indent config.breakCode).toList := by
    rw [leadAll, List.flatMap_singleton, leadLines, String.toList_ofList]
  rw [bodyCode, bodyPieces, leadAll_append, leadAll_append, leadAll_append, leadAll_insertionPieces,
    leadAll_insertionPieces, hlast, hbreak]
  simp only [String.toList_append]

variable {config}

theorem endsBlank_of_piece {template : Option String} {id : String}
    (h : ∀ p ∈ insertionPieces template id, endsIn true p = true) :
    ∀ t ∈ template, EndsBlank t := by
  rintro t rfl
  rw [insertionPieces] at h
  split at h
  · next ht => rw [ht]; decide
  · rw [List.forall_mem_singleton, endsIn_withId, endsIn_true_eq] at h
    exact h

/-- If nothing in the body starts in the middle of a line, inserted code does not end there. -/
theorem Config.leavesMargins_of_breaks {q : List Char}
    (h : breaks true (config.bodyPieces ++ [q]) = 0) : config.LeavesMargins := by
  have hends := endsIn_of_breaks h
  rw [bodyPieces, List.forall_mem_append, List.forall_mem_append, List.forall_mem_singleton,
    breakCode] at hends
  obtain ⟨htrap, hbefore, hbreak⟩ := hends
  refine ⟨endsBlank_of_piece hbefore, ?_, endsBlank_of_piece htrap⟩
  rw [String.toList_append, endsIn_append,
    endsIn_of_endsLine (EndsLine.append (b := "BREAK;\n") rfl _)] at hbreak
  intro t ht
  rw [ht, insertion] at hbreak
  split at hbreak
  · next ht => rw [ht]; decide
  · rw [endsIn_withId, endsIn_true_eq] at hbreak
    exact hbreak

end Pieces

/-- Texts that differ in their margins only have as many of a character outside of them. -/
theorem count_of_sameButMargins {x : Char} (hx : x ≠ '\n') (hgap : isGap x = false) {a b : String}
    (h : SameButMargins (layout (a ++ "END\n")) (layout (b ++ "END\n"))) :
    (dropMargins true (a ++ "END\n").toList).count x =
      (dropMargins true (b ++ "END\n").toList).count x := by
  have hend : "END\n" = "END" ++ "\n" := rfl
  have htally : ∀ c : String, tally x ((layout (c ++ "END\n")).toList.splitOn '\n') =
      (dropMargins true (c ++ "END\n").toList).count x := by
    intro c
    rw [hend, ← String.append_assoc]
    exact tally_layout hx hgap (EndsInk.append (by decide) c)
  rw [← htally, ← htally, tally, tally, h]

namespace Generator

theorem answerUnder_eq (language : Language) (config : Config) (unit : Margin) (ws : Workspace)
    (s : Session) :
    answerUnder language config unit ws s =
      (Gen.exec (Gen.generate language.dialect.rules ws)
        ⟨language.dialect.conventions, config.indented unit⟩ s.run).1 :=
  rfl

/-- There is a program that shows how the pieces of a body are put together. -/
theorem exists_returning (config : Config) :
    ∃ ws front, EndsLine front ∧ ∀ (unit : Margin) (s : Session),
      answerUnder .divGames config unit ws s =
        .ok (layout (front ++ ((config.indented unit).bodyCode ++ (unit.text ++ "RETURN(null);\n")) ++
          "END\n")) := by
  obtain ⟨name, hlegal, hfree⟩ :=
    Allocator.exists_free (Dialect.divConventions.reserved ++ config.reservedWords)
  let prologue := Template.fill config.divSetting.prologue "variables"
    (Dialect.divConventions.declare [])
  let epilogue := Template.fill config.divSetting.epilogue "variables"
    (Dialect.divConventions.declare [])
  refine ⟨{ top := [.returning name], variableNames := [] },
    prologue ++ "" ++ epilogue ++ "\n\n" ++ ("PROCESS " ++ name ++ "(" ++ "" ++ ")\nBEGIN\n"), ?_, ?_⟩
  · exact ((EndsLine.append (b := ")\nBEGIN\n") rfl ("PROCESS " ++ name ++ "(" ++ "")).append _)
  · intro unit s
    have hcode : ∀ r, r.context = some (config.indented unit).divSetting.newContext → ∃ r',
        Gen.exec ((Block.returning name).code Dialect.divRules) (config.indented unit).divSetting r =
          (.ok (.statement ""), r') ∧ r'.declared = r.declared ∧
          ∃ c, r'.context = some c ∧
            c.helpers.definitions = [(config.indented unit).returningCode name] :=
      fun r hr => exec_returning (config.indented unit) hlegal hfree hr
    rw [answerUnder_eq]
    change (Gen.exec (Gen.generate Dialect.divRules { top := [.returning name], variableNames := [] })
      (config.indented unit).divSetting s.run).1 = _
    rw [Gen.generate_definition hcode]
    have hone : Gen.definitionText [(config.indented unit).returningCode name] =
        "\n\n" ++ (config.indented unit).returningCode name :=
      congrArg ("\n\n" ++ ·) String.intercalate_singleton
    rw [hone]
    have hgroup : ∀ a b c d e f : String,
        a ++ (b ++ (c ++ d ++ e ++ f)) = a ++ b ++ c ++ (d ++ e) ++ f := fun a b c d e f => by
      simp only [String.append_assoc]
    exact congrArg (fun text => Except.ok (layout text)) (hgroup _ _ _ _ _ _)

/-- If every program comes to the same text up to margins with a unit of white space and with none,
then inserted code leaves the line on which it ends blank. -/
theorem leavesMargins_of_answers {config : Config} {unit bare : Margin} {x : Char}
    (hunit : unit.text.toList = [x]) (hbare : bare.text.toList = []) (hgap : isGap x = false)
    (h : ∀ (ws : Workspace) (s t : Session), Gen.Answers Eq SameButMargins
      (answerUnder .divGames config unit ws s) (answerUnder .divGames config bare ws t)) :
    config.LeavesMargins := by
  obtain ⟨hblank, hx⟩ := unit.isMargin x (by rw [hunit]; exact List.mem_singleton.2 rfl)
  obtain ⟨ws, front, hfront, htext⟩ := exists_returning config
  have hsame := h ws {} {}
  rw [htext, htext] at hsame
  have hcount := count_of_sameButMargins hx hgap hsame
  have hlead : ∀ m : Margin,
      ((config.indented m).bodyCode ++ (m.text ++ "RETURN(null);\n")).toList =
        leadAll m.text.toList (config.bodyPieces ++ ["RETURN(null);\n".toList]) :=
    fun m => (config.indented m).body_toList rfl
  have hwith := hlead unit
  have hwithout := hlead bare
  rw [hunit] at hwith
  rw [hbare] at hwithout
  rw [count_between hblank hx hfront hwith hwithout] at hcount
  exact Config.leavesMargins_of_breaks (Nat.left_eq_add.1 hcount.symm)

/-- No indentation at all. -/
def flush : Margin :=
  ⟨"", by decide⟩

/-- A space that does not break. It is no gap, so that lines are not trimmed of it. -/
def unbroken : Margin :=
  ⟨String.ofList ['\u00a0'], by decide⟩

/-- What the unit of indentation reaches: nothing but the margins of lines, unless code is inserted
that does not leave the line on which it ends blank. -/
theorem indent_in_margins_iff (language : Language) (config : Config) :
    (∀ (i j : Margin) (ws : Workspace) (s t : Session),
      Gen.Answers Eq SameButMargins (answerUnder language config i ws s)
        (answerUnder language config j ws t)) ↔
      language = .fuzeBasic ∨ config.LeavesMargins := by
  constructor
  · intro h
    cases language with
    | fuzeBasic => exact .inl rfl
    | divGames =>
      have hunit : unbroken.text.toList = ['\u00a0'] := rfl
      exact .inr (leavesMargins_of_answers hunit rfl rfl (h unbroken flush))
  · intro h i j ws s t
    refine indented_answers (fun htraps => h.resolve_left ?_) i j ws s t
    rintro rfl
    cases htraps

/-- A check at the top of loops that does not end its line. -/
def unended : Config :=
  { prologue := some "", epilogue := some "", trap := some "check();" }

/-- A loop that is left at once. -/
def breakingProgram : Workspace :=
  { top := [.mk { kind := "controls_whileUntil", fields := .map [("MODE", "WHILE")], id := "w" } []
      [("DO", some (.mk
        { kind := "controls_flow_statements", fields := .map [("FLOW", "BREAK")], id := "b" } [] []
        none))]
      none]
    variableNames := [] }

def twoSpaces : Margin :=
  ⟨"  ", by decide⟩

/-- Behind the check the indentation of the next line is in the middle of one. -/
theorem indent_within_line :
    answerUnder .divGames unended twoSpaces breakingProgram {} =
      .ok "WHILE (false)\n  check();  BREAK;\nEND\n" ∧
    answerUnder .divGames unended flush breakingProgram {} =
      .ok "WHILE (false)\ncheck();BREAK;\nEND\n" ∧
    ¬ SameButMargins "WHILE (false)\n  check();  BREAK;\nEND\n"
      "WHILE (false)\ncheck();BREAK;\nEND\n" :=
  ⟨rfl, rfl, by decide +kernel⟩

end Generator

end BlockCode
