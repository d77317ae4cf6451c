import BlockCode.Proofs.Block.Identifiers
import BlockCode.Proofs.Run.Order
import BlockCode.Proofs.Run.Registration
import Mathlib.Data.List.Nodup

namespace BlockCode

theorem nodup_eraseDups (names : List String) : names.eraseDups.Nodup := by
  cases names with
  | nil => exact List.nodup_nil
  | cons x rest =>
    rw [List.eraseDups_cons, List.nodup_cons]
    refine ⟨?_, nodup_eraseDups _⟩
    simp [List.mem_eraseDups]
termination_by names.length
decreasing_by exact Nat.lt_succ_of_le (List.length_filter_le _ _)

/-- The variables that a draft refers to: its variable field, then its arguments. -/
def DraftHead.variableNames (head : DraftHead) : Except Fault (List String) :=
  (Draft.headAt false head "").variableNames

namespace Snapshot

variable {n next : Nat} {ws : Workspace}

/-- The variables of drafts: those listed come first, then what the drafts refer to in their order. -/
theorem build_names {drafts : List Draft} {listed : Option (List String)}
    (h : build drafts listed n = (.ok ws, next)) :
    ∃ found, (drafts.flatMap Draft.heads).mapM DraftHead.variableNames = .ok found ∧
      ws.variableNames =
        (joinVariables (listed.getD []) found.flatten.eraseDups).map Value.text := by
  obtain ⟨names, htop, hfound, hnames⟩ := build_eq_ok h
  obtain ⟨found, hlists, hfound⟩ := exists_of_bind hfound
  cases hfound
  have hbuilds := Draft.toBlocks_builds drafts n
  rw [htop] at hbuilds
  have hsame : (drafts.flatMap Draft.heads).map DraftHead.variableNames =
      ws.blocks.map fun placed => placed.block.head.variableNames := by
    refine map_eq_map_of_forall₂ hbuilds.made ?_
    rintro head placed ⟨inValueSocket, id, hplaced⟩
    rw [hplaced]
    rfl
  have hread := congrArg (List.mapM id) hsame
  rw [List.mapM_map, List.mapM_map] at hread
  exact ⟨found, hread.trans hlists, hnames⟩

/-- The variables that the table of a block refers to: its variable field, then its arguments. -/
def namesIn (entries : List (String × Value)) : Except Fault (List String) := do
  let var := ((tableAt "fields" entries).lookup "VAR").getD .null
  let arguments ← (((tableAt "mutation" entries).lookup "arguments").getD (.list [])).writtenItems
  return (if var.isSet then [var.written] else []) ++ arguments

/-- The drafts of a document refer to the variables that its tables say, in the same order. -/
theorem namesIn_contents {document : Value} {drafts : List Draft} {listed : Option (List String)}
    (h : contents document = .good (drafts, listed)) :
    (blockTables document).mapM namesIn =
      (drafts.flatMap Draft.heads).mapM DraftHead.variableNames := by
  have hsame : (blockTables document).map namesIn =
      (drafts.flatMap Draft.heads).map DraftHead.variableNames := by
    refine map_eq_map_of_forall₂ (reads_contents h).1 fun entries head hreads => ?_
    rw [namesIn, ← hreads.fields, ← hreads.mutation]
    rfl
  have hread := congrArg (List.mapM id) hsame
  rwa [List.mapM_map, List.mapM_map] at hread

/-- What blocks refer to is added once, and only if it is new. -/
theorem nodup_joinVariables (given : List String) {found : List String} (hfound : found.Nodup) :
    (joinVariables given found).Nodup ↔ given.Nodup := by
  rw [joinVariables, List.nodup_append']
  constructor
  · exact fun h => h.1
  · intro hgiven
    refine ⟨hgiven, hfound.filter _, fun x hx hnew => ?_⟩
    simp only [List.mem_filter, decide_eq_true_eq] at hnew
    exact hnew.2 hx

end Snapshot

namespace Allocator

variable {a b : Allocator}

theorem separates_of_register {names : List Value} (ha : a.Accounts) (hs : a.Separates)
    (h : a.register names = .ok b) : b.Separates := by
  induction names generalizing a with
  | nil =>
    cases h
    exact hs
  | cons name rest ih =>
    obtain ⟨⟨g, mid⟩, hg, hrest⟩ := exists_of_bind h
    exact ih (ha.get hg) (hs.get ha hg) hrest

/-- A name has one identifier, and an identifier belongs to one name. -/
theorem Separates.biUnique_registers (hs : a.Separates) :
    Relator.BiUnique fun x i => a.Registers (.text x) i := by
  constructor
  · rintro x y i ⟨key, chosen, hkey, hknown, rfl, -⟩ ⟨other, chosen', hother, hknown', heq, -⟩
    cases hkey
    cases hother
    rw [String.append_right_inj] at heq
    subst heq
    cases hs hknown hknown'
    rfl
  · rintro x i j ⟨key, chosen, hkey, hknown, rfl, -⟩ ⟨other, chosen', hother, hknown', rfl, -⟩
    cases hkey
    cases hother
    cases hknown.symm.trans hknown'
    rfl

end Allocator

namespace Gen

variable {s : Setting}

/-- A run that has started has registered the variables of the workspace, and these are declared. -/
theorem start_eq_ok {ws : Workspace} {earlier started : Run}
    (h : exec (start ws) s earlier = (.ok (), started)) :
    ∃ a, s.newContext.names.register ws.variableNames = .ok a ∧
      started.context = some { s.newContext with names := a } ∧
      List.Forall₂ a.Registers ws.variableNames started.declared := by
  rw [exec_start] at h
  rcases hx : exec (ws.variableNames.mapM variableName) s
    { earlier with context := some s.newContext } with ⟨fault | declared, run⟩ <;>
    simp only [hx] at h
  · cases h
  · cases h
    obtain ⟨a, hregister, hcontext, -, hregisters⟩ :=
      exec_register ws.variableNames rfl (Allocator.accounts_of_unknown rfl) hx
    exact ⟨a, hregister, hcontext, hregisters⟩

theorem step_declared {α : Type} (declared : List String)
    (f : Context → Except Fault (α × List LogRecord × Context)) :
    Tracks none (fun r q => r = q ∧ r.declared = declared) (fun f g => f = g ∧ True) Eq s s
      (step f) (step f) := by
  refine ⟨(Relates.same (Q := fun _ => True) ?_).imp fun _ _ hab => hab.1, by rintro _ ⟨⟩⟩
  intro r hr
  refine ⟨?_, fun _ _ => trivial, fun _ _ => trivial⟩
  rw [exec_step]
  cases hc : r.context with
  | none => exact hr
  | some c =>
    dsimp only
    cases hx : f c with
    | error fault => exact hr
    | ok x => exact hr

end Gen

/-- A run whose declarations are settled. -/
def Watch.declaring (s : Setting) (declared : List String) : Watch s where
  run := fun r => r.declared = declared
  fault := fun _ => True
  request := none
  asks := fun _ => True
  fault_of_fits := fun _ => trivial
  nameOf := fun _ _ _ => Gen.step_declared declared _
  temporary := fun _ => Gen.step_declared declared _
  provide := fun _ _ => Gen.step_declared declared _
  define := fun _ _ => Gen.step_declared declared _

/-- Nothing is declared later, whatever the blocks are. -/
theorem Gen.topCodes_declared {s : Setting} {rules : Rulebook} (hrules : rules.Pairs true)
    (ws : Workspace) (r : Run) :
    (exec (ws.top.mapM (topCode rules)) s r).2.declared = r.declared := by
  let w := Watch.declaring s r.declared
  have hadmits : ∀ q ∈ ws.blocks, w.pairing.Admits rules q.block :=
    fun q _ => ⟨fun _ => trivial, fun _ _ _ => trivial, .inl fun _ => ⟨rfl, trivial⟩⟩
  have hpairs := Workspace.topCodes_pairs (w.even true) hrules hadmits
  exact (hpairs.relates r r ⟨rfl, rfl⟩).2.2

namespace Generator

open Snapshot

/-- A run that has started with the blocks of drafts declares the identifiers of the variables that are
listed, then those of the other variables that the drafts refer to, each at the place where it is met
first. An identifier is declared twice just if a name is listed twice, and the code of the blocks
declares nothing more. -/
theorem declared_in_draft_order (language : Language) (config : Config) {drafts : List Draft}
    {listed : Option (List String)} {n next : Nat} {ws : Workspace}
    (hbuild : build drafts listed n = (.ok ws, next)) {earlier started : Run}
    (hstart : Gen.exec (Gen.start ws) (setting ⟨language.dialect, config⟩) earlier =
      (.ok (), started)) :
    (∃ found, (drafts.flatMap Draft.heads).mapM DraftHead.variableNames = .ok found ∧
      started.declared.map Except.ok =
        (listed.getD [] ++
          found.flatten.eraseDups.filter fun x => decide (x ∉ listed.getD [])).map fun x =>
            (Gen.exec (Gen.variableName (.text x)) (setting ⟨language.dialect, config⟩) started).1) ∧
      (started.declared.Nodup ↔ (listed.getD []).Nodup) ∧
      (Gen.exec (ws.top.mapM (Gen.topCode language.dialect.rules))
        (setting ⟨language.dialect, config⟩) started).2.declared = started.declared := by
  obtain ⟨found, hfound, hnames⟩ := build_names hbuild
  obtain ⟨a, hregister, hcontext, hregisters⟩ := Gen.start_eq_ok hstart
  rw [hnames, List.forall₂_map_left_iff] at hregisters
  have hseparates : a.Separates :=
    Allocator.separates_of_register (Allocator.accounts_of_unknown rfl) (by rintro _ _ _ _ ⟨⟩)
      hregister
  refine ⟨⟨found, hfound, ?_⟩, ?_, Gen.topCodes_declared (Rulebook.dialect_pairs fun _ => rfl) ws _⟩
  · refine (map_eq_map_of_forall₂ hregisters fun x i hi => ?_).symm
    obtain ⟨chosen, rfl, hget⟩ := Allocator.get_of_registers hi
    rw [Gen.variableName, Gen.exec_nameOf hcontext, hget]
  · -- Names and identifiers belong together one to one, so both lists have duplicates or neither has.
    rw [← nodup_joinVariables (listed.getD []) (nodup_eraseDups found.flatten)]
    exact (List.rel_nodup hseparates.biUnique_registers hregisters).symm

/-- A run that has started with the blocks of a document declares the identifiers of the variables that
the document lists, then those of the other variables that its blocks refer to, each at the place where
it is met first. An identifier is declared twice just if the document lists a name twice, and the code
of the blocks declares nothing more. -/
theorem declared_in_document_order (language : Language) (config : Config) (document : Value)
    (n next : Nat) (ws : Workspace) (hload : load document n = (.ok ws, next)) (earlier started : Run)
    (hstart : Gen.exec (Gen.start ws) (setting ⟨language.dialect, config⟩) earlier =
      (.ok (), started)) :
    (∃ found, (blockTables document).mapM namesIn = .ok found ∧
      started.declared.map Except.ok =
        (listedNames document ++
          found.flatten.eraseDups.filter fun x => decide (x ∉ listedNames document)).map fun x =>
            (Gen.exec (Gen.variableName (.text x)) (setting ⟨language.dialect, config⟩) started).1) ∧
      (started.declared.Nodup ↔ (listedNames document).Nodup) ∧
      (Gen.exec (ws.top.mapM (Gen.topCode language.dialect.rules))
        (setting ⟨language.dialect, config⟩) started).2.declared = started.declared := by
  obtain ⟨drafts, listed, hcontents, hbuild⟩ := load_eq_ok hload
  rw [namesIn_contents hcontents, ← (reads_contents hcontents).2]
  exact declared_in_draft_order language config hbuild hstart

/-- A variable that is listed, and blocks that refer to it and to others. -/
def listedAndMet : Value :=
  .map [("variables", .list ["x y"]), ("blocks", .list [.map [("type", "variables_set"),
    ("fields", .map [("VAR", "x_y")]), ("inputs", .map [("VALUE", .map [("type", "variables_get"),
      ("fields", .map [("VAR", "x y")])])]), ("next", .map [("type", "variables_set"),
        ("fields", .map [("VAR", "x_y")])])]])]

theorem listedAndMet_declared :
    ∃ ws started, load listedAndMet 1 = (.ok ws, 4) ∧
      Gen.exec (Gen.start ws) (setting ⟨Language.divGames.dialect, {}⟩) {} = (.ok (), started) ∧
      started.declared = ["x_y", "x_y2"] ∧ started.declared.Nodup :=
  ⟨_, _, rfl, rfl, rfl,
    (declared_in_document_order .divGames {} listedAndMet 1 4 _ rfl {} _ rfl).2.1.2 (by decide)⟩

/-- A name that is listed twice is declared twice. -/
theorem listed_again_declared_again :
    ∃ document ws next started, load document 1 = (.ok ws, next) ∧
      Gen.exec (Gen.start ws) (setting ⟨Language.divGames.dialect, {}⟩) {} = (.ok (), started) ∧
      started.declared = ["x", "x"] ∧ ¬ started.declared.Nodup := by
  refine ⟨.map [("variables", .list ["x", "x"])], _, _, _, rfl, rfl, rfl, ?_⟩
  intro h
  have hsame : ["x", "x"].Nodup := h
  simp at hsame

end Generator

end BlockCode
