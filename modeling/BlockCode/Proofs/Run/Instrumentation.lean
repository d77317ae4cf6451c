import BlockCode.Proofs.Run.CommentLines
import BlockCode.Proofs.Run.Shedding
import BlockCode.Session

namespace BlockCode

open Text

namespace Block

mutual

theorem mapHeads_id : ∀ b : Block, b.mapHeads id = b
  | .mk head inputs statements next => by
    rw [mapHeads, mapSockets_id inputs, mapSockets_id statements, mapLink_id next]
    rfl

theorem mapSockets_id : ∀ m : List (String × Option Block), mapSockets id m = m
  | [] => rfl
  | (_, plug) :: rest => by rw [mapSockets, mapLink_id plug, mapSockets_id rest]

theorem mapLink_id : ∀ x : Option Block, mapLink id x = x
  | none => rfl
  | some b => by rw [mapLink, mapHeads_id b]

end

end Block

theorem Workspace.mapHeads_id (ws : Workspace) : ws.mapHeads id = ws := by
  have hblocks : Block.mapHeads id = id := funext Block.mapHeads_id
  rw [mapHeads, hblocks, List.map_id]

/-- The options without inserted code. -/
def Config.uninstrumented (config : Config) : Config :=
  { config with before := none, after := none, trap := none }

/-- The runs have the same identifiers and the same names of helpers. -/
structure Run.SameNames (r q : Run) : Prop where
  declared : r.declared = q.declared
  names : r.context.map Context.names = q.context.map Context.names
  helpers : r.context.map (fun c => c.helpers.names) = q.context.map fun c => c.helpers.names

theorem Run.Matches.sameNames {T : String → String → Prop} {I : Context → Prop} {r q : Run}
    (h : Run.Matches T I Eq r q) : r.SameNames q := by
  have hc := h.context
  refine ⟨h.declared, ?_, ?_⟩ <;> generalize r.context = x at hc ⊢ <;>
    generalize q.context = y at hc ⊢ <;> cases hc with
    | none => rfl
    | some hcd => simp [hcd.names_eq, hcd.helperNames_eq]

namespace Generator

variable {language : Language} {config : Config}

/-- Without inserted code a setting has left it out. -/
theorem shedding_uninstrumented
    (h : (Generator.mk language.dialect config).setting.WholeLines) :
    Shedding true (fun _ => True) (Generator.mk language.dialect config).setting
      (Generator.mk language.dialect config.uninstrumented).setting where
  conventions_eq := rfl
  config_eq := rfl
  terminator := language.terminator_ink
  lead := fun _ _ _ _ => trivial
  before := ⟨h.before, .inr ⟨rfl, fun _ => trivial⟩⟩
  after := ⟨h.after, .inr ⟨rfl, fun _ => trivial⟩⟩
  trap := fun _ => ⟨h.trap, .inr ⟨rfl, fun _ => trivial⟩⟩

theorem fits_uninstrumented {ws : Workspace} {rules : Rulebook} {s t : Setting}
    (hchains : ws.ChainsStatements rules) (hmark : s.commentMark = t.commentMark) :
    ∀ p ∈ ws.blocks, p.Fits ws.HasArms (fun _ => True) s t rules id := by
  intro p hp
  refine ⟨hchains p hp, fun harmless harms => ?_, ?_⟩
  · rw [harms p hp] at harmless
    cases harmless
  · rw [p.block.mapHeads_id, ← hmark]
    cases hlines : (p.block.site rules).commentLines s.commentMark with
    | error fault => rfl
    | ok out => exact .same (Site.commentLines_marks hlines).closed

/-- Inserted code is only added: with it and without it a program comes to the same fault, or to two
texts of which the second is the first without some lines, from runs with the same identifiers and
helpers. White space at the end of its last line apart, unless every if chain has an arm or an else. -/
theorem uninstrumented_same_program (language : Language) (config : Config) (ws : Workspace)
    (hlines : (Generator.mk language.dialect config).setting.WholeLines)
    (hchains : ws.ChainsStatements language.dialect.rules) (s t : Session) :
    Gen.Answers Eq
      (fun a b => ShedsProgram ws.HasArms (fun _ => True) a b ∧
        (s.generate ⟨language.dialect, config⟩ (.workspace ws)).2.run.SameNames
          (t.generate ⟨language.dialect, config.uninstrumented⟩ (.workspace ws)).2.run)
      (s.generate ⟨language.dialect, config⟩ (.workspace ws)).1
      (t.generate ⟨language.dialect, config.uninstrumented⟩ (.workspace ws)).1 := by
  have hrules : Rulebook.Compares true language.dialect.rules :=
    Rulebook.dialect_compares fun _ => rfl
  have hanswers := (shedding_uninstrumented hlines).generate (Q := fun _ => True) hrules
    (fun _ => rfl) hlines.prologue (fun _ _ => ⟨trivial, trivial⟩) (fun _ _ => trivial)
    (fits_uninstrumented hchains rfl) s.run t.run
  rw [ws.mapHeads_id] at hanswers
  exact hanswers.imp fun _ _ hab => ⟨hab.1, hab.2.sameNames⟩

/-- Two prints in a chain, with code in front of each. -/
theorem uninstrumented_prints :
    (({} : Session).generate tracing (.workspace (.prints "say\nit" .null))).1 =
      .ok "// say\n// it\ntrace('a')\nPRINT \"hi\"\ntrace('c')\nPRINT \"\"\nEND\n" ∧
    (({} : Session).generate ⟨tracing.dialect, tracing.config.uninstrumented⟩
        (.workspace (.prints "say\nit" .null))).1 =
      .ok "// say\n// it\nPRINT \"hi\"\nPRINT \"\"\nEND\n" ∧
    (Workspace.prints "say\nit" .null).HasArms ∧
    Gen.Answers Eq
      (fun a b => ShedsProgram (Workspace.prints "say\nit" .null).HasArms (fun _ => True) a b ∧
        (({} : Session).generate tracing (.workspace (.prints "say\nit" .null))).2.run.SameNames
          (({} : Session).generate ⟨tracing.dialect, tracing.config.uninstrumented⟩
            (.workspace (.prints "say\nit" .null))).2.run)
      (({} : Session).generate tracing (.workspace (.prints "say\nit" .null))).1
      (({} : Session).generate ⟨tracing.dialect, tracing.config.uninstrumented⟩
        (.workspace (.prints "say\nit" .null))).1 := by
  refine ⟨by rfl, by rfl, Workspace.prints_hasArms _ _, ?_⟩
  exact uninstrumented_same_program .fuzeBasic tracing.config _ tracing_wholeLines
    (Workspace.prints_chainsStatements _ _) {} {}

/-- An if chain with no arm leaves a bare line, and the inserted code is the last line. Without it
the last line is one of the prologue, which then loses the space at its end. -/
theorem insertion_keeps_prologue_space :
    (spaced "trace\n").setting.WholeLines ∧
    (Workspace.armless .null).ChainsStatements (spaced "trace\n").dialect.rules ∧
    (({} : Session).generate (spaced "trace\n") (.workspace (.armless .null))).1 =
      .ok "x\u00a0\ntrace\n" ∧
    (({} : Session).generate ⟨(spaced "trace\n").dialect, (spaced "trace\n").config.uninstrumented⟩
        (.workspace (.armless .null))).1 = .ok "x\n" ∧
    ¬ Deletes (fun _ => True) (lines "x\u00a0\ntrace\n".toList) (lines "x\n".toList) := by
  refine ⟨spaced_wholeLines ?_, Workspace.armless_chainsStatements _ _, by rfl, by rfl, fun h => ?_⟩
  · intro template ht
    cases ht
    exact .inr (by decide)
  · exact absurd h.sublist (by decide)

end Generator

end BlockCode
