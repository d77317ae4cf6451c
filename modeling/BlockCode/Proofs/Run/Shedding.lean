import BlockCode.Proofs.Run.Blocks
import BlockCode.Proofs.Run.Spelling
import BlockCode.Proofs.Text.Closing

namespace BlockCode

open Text

/-- Closed texts, the second of which is the first without some lines in `P`. -/
structure Sheds (P : List Char → Prop) (a b : String) : Prop where
  left : Closed a
  right : Closed b
  lines : Deletes P (Text.lines a.toList) (Text.lines b.toList)

namespace Sheds

variable {P : List Char → Prop} {a b c d : String}

theorem same (h : Closed a) : Sheds P a a :=
  ⟨h, h, .refl _⟩

theorem all (h : Closed a) (hP : ∀ l ∈ Text.lines a.toList, P l) : Sheds P a "" :=
  ⟨h, closed_empty, .all hP⟩

theorem append (h : Sheds P a b) (h' : Sheds P c d) : Sheds P (a ++ c) (b ++ d) := by
  refine ⟨h.left.append h'.left, h.right.append h'.right, ?_⟩
  rw [h.left.lines_append, h.right.lines_append]
  exact h.lines.append h'.lines

theorem lead {indent : String} (h : Sheds P a b) (ha : a ≠ "") (hb : b ≠ "")
    (hP : ∀ l, P l → ∀ m ∈ Text.lines (indent.toList ++ l ++ ['\n']), P m) :
    Sheds P (leadLines indent a) (leadLines indent b) := by
  refine ⟨(closed_leadLines indent (h.left.resolve_left ha)).closed,
    (closed_leadLines indent (h.right.resolve_left hb)).closed, ?_⟩
  rw [lines_leadLines indent h.left ha, lines_leadLines indent h.right hb]
  exact h.lines.flatMap hP

end Sheds

/-- Code that is not empty and sheds lines; if `strict`, it ends as it should. -/
structure ShedsCode (strict : Prop) (P : List Char → Prop) (a b : String) : Prop where
  left_ne : a ≠ ""
  right_ne : b ≠ ""
  sheds : Sheds P a b
  ends : strict → Ends P (lines a.toList) (lines b.toList)

section Code

variable {strict : Prop} {P : List Char → Prop} {a b c d x y : String}

/-- A last line with ink at its end is the same in any layout. -/
theorem Text.EndsInk.ends (h : EndsInk a) (ls : List (List Char)) :
    Ends P ls (lines (a ++ "\n").toList) := by
  obtain ⟨as, l, hlines, hink, htidy⟩ := h.lines_eq
  rw [hlines]
  exact .tidy hink htidy rfl

theorem shedsCode_line (h : Sheds P a b) (hc : strict → EndsInk c) :
    ShedsCode strict P (a ++ c ++ "\n") (b ++ c ++ "\n") where
  left_ne := (endsLine_newline _).ne_empty
  right_ne := (endsLine_newline _).ne_empty
  sheds := by
    rw [String.append_assoc, String.append_assoc]
    exact h.append (.same (endsLine_newline c).closed)
  ends := fun hs => ((hc hs).append b).ends _

theorem ShedsCode.join (h : ShedsCode strict P c d) (hfront : Sheds P a b)
    (hrest : x = "" ∧ y = "" ∨ ShedsCode strict P x y) :
    ShedsCode strict P (a ++ c ++ x) (b ++ d ++ y) := by
  have hcode := hfront.append h.sheds
  have hne : a ++ c ++ x ≠ "" ∧ b ++ d ++ y ≠ "" := by
    simp [String.append_eq_empty_iff, h.left_ne, h.right_ne]
  rcases hrest with ⟨rfl, rfl⟩ | hrest
  · rw [String.append_empty, String.append_empty] at hne ⊢
    refine ⟨hne.1, hne.2, hcode, fun hs => ?_⟩
    rw [hfront.left.lines_append, hfront.right.lines_append]
    exact (h.ends hs).behind hfront.lines
  · refine ⟨hne.1, hne.2, hcode.append hrest.sheds, fun hs => ?_⟩
    rw [hcode.left.lines_append, hcode.right.lines_append]
    exact (hrest.ends hs).behind hcode.lines

end Code

/-- What is left of a template: all of it, or nothing if any line may go. -/
structure Leaves (P : List Char → Prop) (x y : Option String) : Prop where
  closed : ∀ template ∈ x, Closed template
  left : y = x ∨ y = none ∧ ∀ l, P l

section Inserted

variable {P : List Char → Prop} {x y : Option String}

theorem Text.EndsLine.withId {template : String} (h : EndsLine template) (id : String) :
    EndsLine (BlockCode.withId template id) :=
  h.replace (by decide) (by decide) _

theorem closed_insertion (h : ∀ template ∈ x, Closed template) (id : String) :
    Closed (insertion x id) := by
  cases x with
  | none => exact closed_empty
  | some template =>
    rw [insertion]
    split
    · exact closed_empty
    · next hne => exact (((h template rfl).resolve_left hne).withId id).closed

theorem closed_insertionLines (h : ∀ template ∈ x, Closed template) (indent id : String) :
    Closed (insertionLines indent x id) := by
  cases x with
  | none => exact closed_empty
  | some template =>
    rw [insertionLines]
    split
    · exact closed_empty
    · next hne =>
      exact (closed_leadLines indent (((h template rfl).resolve_left hne).withId id)).closed

theorem Leaves.insertion (h : Leaves P x y) (id : String) :
    Sheds P (insertion x id) (insertion y id) := by
  have hclosed := closed_insertion h.closed id
  rcases h.left with rfl | ⟨rfl, hP⟩
  · exact .same hclosed
  · exact .all hclosed fun l _ => hP l

theorem Leaves.insertionLines (h : Leaves P x y) (indent id : String) :
    Sheds P (insertionLines indent x id) (insertionLines indent y id) := by
  have hclosed := closed_insertionLines h.closed indent id
  rcases h.left with rfl | ⟨rfl, hP⟩
  · exact .same hclosed
  · exact .all hclosed fun l _ => hP l

end Inserted

/-- Settings that differ in inserted code only, of which the second leaves some out. -/
structure Shedding (traps : Bool) (P : List Char → Prop) (s t : Setting) : Prop where
  conventions_eq : s.conventions = t.conventions
  config_eq : t.config =
    { s.config with before := t.config.before, after := t.config.after, trap := t.config.trap }
  terminator : s.conventions.terminator = "" ∨ EndsInk s.conventions.terminator
  lead : ∀ l, P l → ∀ m ∈ lines (s.config.indent.toList ++ l ++ ['\n']), P m
  before : Leaves P s.config.before t.config.before
  after : Leaves P s.config.after t.config.after
  trap : traps = true → Leaves P s.config.trap t.config.trap

/-- Inserted code and the prologue are whole lines. -/
structure Setting.WholeLines (s : Setting) : Prop where
  before : ∀ template ∈ s.config.before, Closed template
  after : ∀ template ∈ s.config.after, Closed template
  trap : ∀ template ∈ s.config.trap, Closed template
  prologue : Closed s.prologue

/-- A setting and itself. -/
theorem Setting.WholeLines.shedding {traps : Bool} {P : List Char → Prop} {s : Setting}
    (h : s.WholeLines) (hend : s.conventions.terminator = "" ∨ EndsInk s.conventions.terminator)
    (hlead : ∀ l, P l → ∀ m ∈ lines (s.config.indent.toList ++ l ++ ['\n']), P m) :
    Shedding traps P s s where
  conventions_eq := rfl
  config_eq := rfl
  terminator := hend
  lead := hlead
  before := ⟨h.before, .inl rfl⟩
  after := ⟨h.after, .inl rfl⟩
  trap := fun _ => ⟨h.trap, .inl rfl⟩

theorem Language.terminator_ink (language : Language) :
    language.dialect.conventions.terminator = "" ∨
      EndsInk language.dialect.conventions.terminator := by
  cases language with
  | divGames => exact .inr (by decide)
  | fuzeBasic => exact .inl rfl

/-- Identifiers end with ink. -/
theorem Context.Sound.endsInk_get {config : Config} {c : Context} (h : c.Sound config) {name : Value}
    {type : NameType} {grant : Allocator.Grant} {names : Allocator}
    (hg : c.names.get name type = .ok (grant, names)) : EndsInk grant.chosen := by
  have hlegal : Name.isLegal grant.chosen = true := by
    obtain ⟨key, -, ⟨hknown, -⟩ | ⟨-, mid, hd, -⟩⟩ := Allocator.get_eq_ok hg
    · exact h.legal hknown
    · exact (Allocator.distinct_eq_ok hd).1
  obtain ⟨hne, hword⟩ := Name.isLegalChars_word hlegal
  have hink := endsInk_of_forall hne fun c hc => Lexeme.isBlank_of_isAsciiWord (hword c hc)
  rwa [String.ofList_toList] at hink

namespace Shedding

variable {traps : Bool} {P : List Char → Prop} {s t : Setting} (h : Shedding traps P s t)
include h

theorem indent_eq : t.config.indent = s.config.indent := by
  rw [h.config_eq]

/-- The comparison of a program with what is left of it. -/
def comparison (strict : Prop) : Comparison s t where
  kept := Context.Sound s.config
  declared := Eq
  bare := ¬ strict
  value := fun a => strict → EndsInk a
  lines := Sheds P
  chain := fun a b => a = "" ∧ b = "" ∨ ShedsCode strict P a b
  text := fun a b => a = b ∨ ShedsCode strict P a b
  conventions_eq := h.conventions_eq
  placeholder_eq := by rw [h.config_eq]
  toFaultRelation := .exact
  requests := Context.Sound.kept s.config
  value_name := fun hc hg _ => (hc.endsInk_get hg).append _
  value_of_ink := fun ha _ => ha
  value_append := fun a hb hs => (hb hs).append a
  value_terminated := fun {a} ha hs => by
    rcases h.terminator with hempty | hink
    · rw [hempty, String.append_empty]
      exact ha hs
    · exact hink.append a
  lines_same := .same
  lines_append := fun hab hxy => hab.append hxy
  lines_indented := fun {a} ha => by
    rw [h.indent_eq]
    exact .same (ha.append _).closed
  chain_empty := .inl ⟨rfl, rfl⟩
  chain_eq_empty := by
    rintro a b (⟨rfl, rfl⟩ | hab)
    · exact Iff.rfl
    · exact iff_of_false hab.left_ne hab.right_ne
  lines_of_chain := by
    rintro a b (⟨rfl, rfl⟩ | hab) hne
    · exact (hne rfl).elim
    · rw [h.indent_eq]
      exact hab.sheds.lead hab.left_ne hab.right_ne h.lead
  chain_of_lines := fun hab hc => .inr (shedsCode_line hab hc)
  chain_join := by
    rintro a b c d x y hab (⟨rfl, rfl⟩ | hcd) hne hxy
    · exact (hne rfl).elim
    · exact .inr (hcd.join hab hxy)
  text_same := fun _ => .inl rfl
  text_of_chain := by
    rintro a b (⟨rfl, rfl⟩ | hab)
    · exact .inl rfl
    · exact .inr hab

variable {strict : Prop}

theorem written_sheds {a b : String} (hab : (h.comparison strict).Written a b) :
    Sheds P a b ∧ b ≠ "" ∧ (strict → ∀ ls, Ends P ls (lines b.toList)) := by
  rcases hab with ⟨x, y, z, rfl, rfl, hxy, hz⟩ | ⟨hbare, rfl, rfl⟩
  · have hcode : ShedsCode strict P (x ++ z ++ "\n") (y ++ z ++ "\n") := shedsCode_line hxy hz
    exact ⟨hcode.sheds, hcode.right_ne, fun hs ls => ((hz hs).append y).ends ls⟩
  · exact ⟨.same (.inr rfl), by decide, fun hs => (hbare hs).elim⟩

/-- A statement with the inserted code around it. -/
theorem wrapped {a b : String} (hab : (h.comparison strict).Written a b) (id : String) :
    ShedsCode strict P (insertion s.config.before id ++ a ++ insertion s.config.after id)
      (insertion t.config.before id ++ b ++ insertion t.config.after id) := by
  obtain ⟨hsheds, hne, hends⟩ := h.written_sheds hab
  have hbefore := h.before.insertion id
  have hafter := h.after.insertion id
  have hfront := hbefore.append hsheds
  refine ⟨?_, ?_, hfront.append hafter, ?_⟩
  · simp [String.append_eq_empty_iff, hab.ne_empty]
  · simp [String.append_eq_empty_iff, hne]
  · intro hs
    rw [hfront.left.lines_append, hfront.right.lines_append, hbefore.left.lines_append,
      hbefore.right.lines_append]
    rcases h.after.left with hsame | ⟨hnone, -⟩
    · rw [hsame]
      exact ((hends hs _).behind hbefore.lines).append (hbefore.lines.append hsheds.lines) _
    · rw [hnone, insertion, String.toList_empty, Text.lines, List.append_nil, List.append_assoc]
      exact (hends hs _).behind hbefore.lines

/-- Sites that differ in their comments only. -/
theorem site {u v : Site} (hhead : v.head = { u.head with comment := v.head.comment })
    (hinline : u.inline = v.inline) (harmed : u.head.isArmless = true → ¬ strict)
    (hinputs : (h.comparison strict).Sockets true u.inputs v.inputs)
    (hstatements : (h.comparison strict).Sockets false u.statements v.statements)
    (hnext : (h.comparison strict).Link false u.next v.next)
    (hcomments : Gen.Answers Eq (Sheds P) (u.commentLines s.commentMark)
      (v.commentLines t.commentMark)) : (h.comparison strict).Site traps u v := by
  have hid : v.id = u.id := by
    rw [Site.id, Site.id, hhead]
  exact
    { kind_eq := by rw [hhead]
      fields_eq := by rw [hhead]
      mutation_eq := by rw [hhead]
      disabled_eq := by rw [hhead]
      inline_eq := hinline
      bare := harmed
      inputs := hinputs
      statements := hstatements
      next := hnext
      comments := hcomments
      trap := by
        intro htraps
        rw [hid, h.indent_eq]
        exact (h.trap htraps).insertionLines _ _
      before := by
        intro _
        rw [hid, h.indent_eq]
        exact h.before.insertionLines _ _
      wrapped := by
        intro a b hab
        rw [Site.wrapped, Site.wrapped, hid]
        exact .inr (h.wrapped hab u.id) }

end Shedding

namespace Block

mutual

/-- The block with `f` applied to what it and all blocks below it hold themselves. -/
def mapHeads (f : BlockHead → BlockHead) : Block → Block
  | .mk head inputs statements next =>
    .mk (f head) (mapSockets f inputs) (mapSockets f statements) (mapLink f next)

def mapSockets (f : BlockHead → BlockHead) :
    List (String × Option Block) → List (String × Option Block)
  | [] => []
  | (name, plug) :: rest => (name, mapLink f plug) :: mapSockets f rest

def mapLink (f : BlockHead → BlockHead) : Option Block → Option Block
  | none => none
  | some b => some (mapHeads f b)

end

@[simp] theorem head_mapHeads (f : BlockHead → BlockHead) (b : Block) :
    (b.mapHeads f).head = f b.head := by
  cases b
  rfl

@[simp] theorem inputs_mapHeads (f : BlockHead → BlockHead) (b : Block) :
    (b.mapHeads f).inputs = mapSockets f b.inputs := by
  cases b
  rfl

end Block

namespace Workspace

def mapHeads (f : BlockHead → BlockHead) (ws : Workspace) : Workspace :=
  { ws with top := ws.top.map (Block.mapHeads f) }

/-- Only statements are chained: nothing follows a value or a block in a value socket. -/
def ChainsStatements (ws : Workspace) (rules : Rulebook) : Prop :=
  ∀ p ∈ ws.blocks, p.inline = true ∨ rules.IsValueKind p.block.head.kind → p.block.next = none

/-- Every if chain has an arm or an else. -/
def HasArms (ws : Workspace) : Prop :=
  ∀ p ∈ ws.blocks, p.block.head.isArmless = false

end Workspace

/-- Prints are statements and may be chained. -/
theorem Rules.print_not_isValueKind :
    ¬ Language.fuzeBasic.dialect.rules.IsValueKind (.text "text_print") := by
  have hprint : Language.fuzeBasic.dialect.rules.ruleFor (.text "text_print") =
      .ok (some Rules.printText) := rfl
  rintro ⟨rule, hrule, site, code, rank, hgives⟩
  rw [hprint] at hrule
  cases hrule
  obtain ⟨text, -, hgives⟩ := hgives.of_bind
  cases hgives.of_pure

namespace Workspace

/-- A print with a text in its value socket and another print behind it. -/
def printing (comment inner : Value) : Block :=
  .mk { kind := "text_print", comment, id := "a" }
    [("TEXT", some (.mk { kind := "text", fields := .map [("TEXT", "hi")], comment := inner,
                          id := "b" } [] [] none))]
    [] (some (.mk { kind := "text_print", id := "c" } [] [] none))

/-- Two prints in a chain. -/
def prints (comment inner : Value) : Workspace :=
  { top := [printing comment inner] }

/-- What is to hold of every block of the two prints. -/
theorem forall_prints {comment inner : Value} {q : Block.Placed → Prop}
    (hfirst : q ⟨printing comment inner, none, false⟩)
    (hinner : q ⟨.mk { kind := "text", fields := .map [("TEXT", "hi")], comment := inner,
                       id := "b" } [] [] none, some (printing comment inner), true⟩)
    (hlast : q ⟨.mk { kind := "text_print", id := "c" } [] [] none, some (printing comment inner),
      false⟩) : ∀ p ∈ (prints comment inner).blocks, q p :=
  List.forall_mem_cons.2 ⟨hfirst, List.forall_mem_cons.2 ⟨hinner, List.forall_mem_singleton.2 hlast⟩⟩

theorem prints_chainsStatements (comment inner : Value) :
    (prints comment inner).ChainsStatements Language.fuzeBasic.dialect.rules := by
  refine forall_prints ?_ (fun _ => rfl) fun _ => rfl
  rintro (hinline | hvalue)
  · cases hinline
  · exact (Rules.print_not_isValueKind hvalue).elim

theorem prints_hasArms (comment inner : Value) : (prints comment inner).HasArms :=
  forall_prints rfl rfl rfl

/-- An if chain with no arm and no else. -/
def armless (comment : Value) : Workspace :=
  { top := [.mk { kind := "controls_if", mutation := .map [("elseif", .int (-1))], comment,
                  id := "a" } [] [] none] }

theorem armless_chainsStatements (comment : Value) (rules : Rulebook) :
    (armless comment).ChainsStatements rules :=
  List.forall_mem_singleton.2 fun _ => rfl

end Workspace

namespace Generator

/-- A generator with code in front of every statement. -/
def tracing : Generator :=
  ⟨Language.fuzeBasic.dialect, { before := some "trace(%1)\n" }⟩

/-- A generator with white space at the end of the prologue, and perhaps code in front of every
statement. -/
def spaced (before : Option String) : Generator :=
  ⟨Language.fuzeBasic.dialect, { prologue := some "x\u00a0\n", epilogue := some "", before }⟩

theorem tracing_wholeLines : tracing.setting.WholeLines := by
  refine ⟨?_, ?_, ?_, closed_empty⟩ <;> intro template ht <;> cases ht
  exact .inr (by decide)

theorem spaced_wholeLines {before : Option String} (h : ∀ template ∈ before, Closed template) :
    (spaced before).setting.WholeLines := by
  have hprologue : EndsLine "x\u00a0\n" := by decide
  exact ⟨h, fun _ ht => (nomatch ht), fun _ ht => (nomatch ht), .inr hprologue⟩

end Generator

/-- What holds of a block that is to shed lines: nothing is chained to it if it is a value or stands
in a value socket, it leaves no bare line if `strict`, and its comments shed lines. -/
structure Block.Placed.Fits (strict : Prop) (P : List Char → Prop) (s t : Setting) (rules : Rulebook)
    (f : BlockHead → BlockHead) (p : Block.Placed) : Prop where
  next_eq : p.inline = true ∨ rules.IsValueKind p.block.head.kind → p.block.next = none
  armed : p.block.head.isArmless = true → ¬ strict
  comments : Gen.Answers Eq (Sheds P) ((p.block.site rules).commentLines s.commentMark)
    (((p.block.mapHeads f).site rules).commentLines t.commentMark)

namespace Block

variable {traps : Bool} {strict : Prop} {P : List Char → Prop} {s t : Setting} {rules : Rulebook}
  {f : BlockHead → BlockHead}

mutual

/-- The code of a block whose blocks all fit sheds lines: what is connected does, and the site
compares with what is left of it. -/
theorem mapHeads_link (h : Shedding traps P s t) (hrules : Rulebook.Compares traps rules)
    (hf : ∀ head, f head = { head with comment := (f head).comment }) :
    ∀ (b : Block) (inline : Bool) (parent : Option Block),
      (∀ p ∈ descendantsAt parent inline b, p.Fits strict P s t rules f) →
        (h.comparison strict).Link inline (some (branchAt rules inline b))
          (some (branchAt rules inline (b.mapHeads f)))
  | .mk head inputs statements next, inline, parent, hfits => by
    rw [descendantsAt, List.forall_mem_cons, List.forall_mem_append, List.forall_mem_append] at hfits
    obtain ⟨hhere, ⟨hinputs, hstatements⟩, hnext⟩ := hfits
    rw [mapHeads]
    let u : Site := ⟨head, inline, socketBranches rules true inputs,
      socketBranches rules false statements, linkBranch rules false next⟩
    let v : Site := ⟨f head, inline, socketBranches rules true (mapSockets f inputs),
      socketBranches rules false (mapSockets f statements), linkBranch rules false (mapLink f next)⟩
    have hcomments : Gen.Answers Eq (Sheds P) (u.commentLines s.commentMark)
        (v.commentLines t.commentMark) := by
      cases inline with
      | true => exact .same closed_empty
      | false => exact hhere.comments
    have hsite : (h.comparison strict).Site traps u v := h.site (hf head) rfl hhere.armed
      (mapSockets_links h hrules hf inputs true _ hinputs)
      (mapSockets_links h hrules hf statements false _ hstatements)
      (mapLink_link h hrules hf next false _ hnext) hcomments
    refine Comparison.link_of_kinds ?_ (hsite.emit (Comparison.follows _ hrules) ?_)
    · simp only [branchAt, Branch.linkKind]
      rw [hf head]
      rfl
    · intro hend
      have hnone : next = none := hhere.next_eq hend
      exact .inl (by simp [u, v, hnone, linkBranch, mapLink])

theorem mapSockets_links (h : Shedding traps P s t) (hrules : Rulebook.Compares traps rules)
    (hf : ∀ head, f head = { head with comment := (f head).comment }) :
    ∀ (m : List (String × Option Block)) (inline : Bool) (parent : Block),
      (∀ p ∈ socketDescendants parent inline m, p.Fits strict P s t rules f) →
        (h.comparison strict).Sockets inline (socketBranches rules inline m)
          (socketBranches rules inline (mapSockets f m))
  | [], _, _, _ => .nil
  | (_, plug) :: rest, inline, parent, hfits => by
    rw [socketDescendants, List.forall_mem_append] at hfits
    exact .cons ⟨rfl, mapLink_link h hrules hf plug inline parent hfits.1⟩
      (mapSockets_links h hrules hf rest inline parent hfits.2)

theorem mapLink_link (h : Shedding traps P s t) (hrules : Rulebook.Compares traps rules)
    (hf : ∀ head, f head = { head with comment := (f head).comment }) :
    ∀ (x : Option Block) (inline : Bool) (parent : Block),
      (∀ p ∈ linkDescendants parent inline x, p.Fits strict P s t rules f) →
        (h.comparison strict).Link inline (linkBranch rules inline x)
          (linkBranch rules inline (mapLink f x))
  | none, inline, _, _ => Comparison.link_none inline
  | some b, inline, parent, hfits => mapHeads_link h hrules hf b inline (some parent) hfits

end

end Block

theorem Gen.definitionText_eq (definitions : List String) :
    definitionText definitions = String.join (definitions.map ("\n\n" ++ ·)) := by
  cases definitions with
  | nil => rfl
  | cons a as =>
    rw [definitionText, List.isEmpty_cons, if_neg Bool.false_ne_true, intercalate_cons,
      List.map_cons, String.join_cons, String.append_assoc]

/-- Whole texts in the making: closed, and if `strict` the layout makes no difference. -/
structure ShedsText (strict : Prop) (P : List Char → Prop) (a b : String) : Prop where
  sheds : Sheds P a b
  settled : strict → Settled P (lines a.toList) (lines b.toList)

section Program

variable {traps : Bool} {strict : Prop} {P Q : List Char → Prop} {s t : Setting} {rules : Rulebook}
  {f : BlockHead → BlockHead} {a b c d : String}

theorem shedsText_same (h : Closed a) : ShedsText strict P a a where
  sheds := .same h
  settled := by
    intro _
    have hnil : Settled P [] [] := .inl rfl
    exact hnil.append .nil _

namespace ShedsText

theorem same (h : ShedsText strict P a b) (hc : Closed c) : ShedsText strict P (a ++ c) (b ++ c) where
  sheds := h.sheds.append (.same hc)
  settled := by
    intro hs
    rw [h.sheds.left.lines_append, h.sheds.right.lines_append]
    exact (h.settled hs).append h.sheds.lines _

theorem code (h : ShedsText strict P a b) (hcd : ShedsCode strict P c d) :
    ShedsText strict P (a ++ c) (b ++ d) where
  sheds := h.sheds.append hcd.sheds
  settled := by
    intro hs
    rw [h.sheds.left.lines_append, h.sheds.right.lines_append]
    exact .inr ((hcd.ends hs).behind h.sheds.lines)

theorem joined {as bs : List String} (h : ShedsText strict P a b)
    (hab : List.Forall₂ (ShedsCode strict P) as bs) :
    ShedsText strict P (a ++ String.join (as.map ("\n" ++ ·)))
      (b ++ String.join (bs.map ("\n" ++ ·))) := by
  induction hab generalizing a b with
  | nil => simpa using h
  | @cons x y as bs hxy _ ih =>
    have hclosed : Closed "\n" := .inr rfl
    have hline : ShedsText strict P (a ++ "\n" ++ x) (b ++ "\n" ++ y) :=
      (h.same hclosed).code hxy
    simpa only [List.map_cons, String.join_cons, String.append_assoc] using ih hline

/-- The code of the blocks at the top. -/
theorem parts {as bs : List String} (h : ShedsText strict P a b)
    (hab : List.Forall₂ (fun x y => x = "" ∧ y = "" ∨ ShedsCode strict P x y) as bs) :
    ShedsText strict P (a ++ "\n".intercalate (as.filter (· ≠ "")))
      (b ++ "\n".intercalate (bs.filter (· ≠ ""))) := by
  have hfilter : List.Forall₂ (ShedsCode strict P) (as.filter (· ≠ "")) (bs.filter (· ≠ "")) := by
    induction hab with
    | nil => exact .nil
    | cons hxy _ ih =>
      rcases hxy with ⟨rfl, rfl⟩ | hxy
      · simpa using ih
      · rw [List.filter_cons_of_pos (by simpa using hxy.left_ne),
          List.filter_cons_of_pos (by simpa using hxy.right_ne)]
        exact .cons hxy ih
  generalize as.filter (· ≠ "") = xs at hfilter ⊢
  generalize bs.filter (· ≠ "") = ys at hfilter ⊢
  cases hfilter with
  | nil =>
    rw [String.intercalate_nil, String.append_empty, String.append_empty]
    exact h
  | cons hxy hrest =>
    rw [intercalate_cons, intercalate_cons, ← String.append_assoc, ← String.append_assoc]
    exact (h.code hxy).joined hrest

end ShedsText

/-- Whole texts in the making, and behind them what both share. -/
def ShedsOpen (strict : Prop) (P : List Char → Prop) (a b : String) : Prop :=
  ∃ x y z, a = x ++ z ∧ b = y ++ z ∧ ShedsText strict P x y

namespace ShedsOpen

theorem append (h : ShedsOpen strict P a b) (c : String) : ShedsOpen strict P (a ++ c) (b ++ c) := by
  obtain ⟨x, y, z, rfl, rfl, hxy⟩ := h
  exact ⟨x, y, z ++ c, String.append_assoc, String.append_assoc, hxy⟩

theorem code (h : ShedsOpen strict P a b) (hc : EndsLine c) {x y : String}
    (hxy : ShedsCode strict P x y) : ShedsOpen strict P (a ++ c ++ x) (b ++ c ++ y) := by
  obtain ⟨x', y', z, rfl, rfl, h⟩ := h
  have hclosed : ShedsText strict P (x' ++ (z ++ c)) (y' ++ (z ++ c)) := h.same (hc.append z).closed
  refine ⟨x' ++ (z ++ c) ++ x, y' ++ (z ++ c) ++ y, "", ?_, ?_, hclosed.code hxy⟩
  · simp only [String.append_empty, String.append_assoc]
  · simp only [String.append_empty, String.append_assoc]

theorem definitions {as bs : List String} (h : ShedsOpen strict P a b)
    (hab : List.Forall₂ (fun x y => x = y ∨ ShedsCode strict P x y) as bs) :
    ShedsOpen strict P (a ++ Gen.definitionText as) (b ++ Gen.definitionText bs) := by
  rw [Gen.definitionText_eq, Gen.definitionText_eq]
  induction hab generalizing a b with
  | nil => exact h.append ""
  | @cons x y as bs hxy _ ih =>
    have hgap : EndsLine "\n\n" := rfl
    have hone : ShedsOpen strict P (a ++ "\n\n" ++ x) (b ++ "\n\n" ++ y) := by
      rcases hxy with rfl | hxy
      · exact (h.append _).append x
      · exact h.code hgap hxy
    simpa only [List.map_cons, String.join_cons, String.append_assoc] using ih hone

theorem settled (h : ShedsOpen strict P a b) :
    Deletes P (lines a.toList) (lines b.toList) ∧
      (strict → Settled P (lines a.toList) (lines b.toList)) := by
  obtain ⟨x, y, z, rfl, rfl, hxy⟩ := h
  rw [hxy.sheds.left.lines_append, hxy.sheds.right.lines_append]
  exact ⟨hxy.sheds.lines.append (.refl _), fun hs => (hxy.settled hs).append hxy.sheds.lines _⟩

end ShedsOpen

/-- Programs of which the second is the first without some lines in `Q`, white space at the end of
the last line apart unless `strict`. -/
structure ShedsProgram (strict : Prop) (Q : List Char → Prop) (a b : String) : Prop where
  loose : ∃ ls, SameButLastEnd ls (lines b.toList) ∧ Deletes Q (lines a.toList) ls
  exact : strict → Deletes Q (lines a.toList) (lines b.toList)

theorem ShedsOpen.layout (h : ShedsOpen strict P a b)
    (htrim : ∀ l, P l → Q (trimGaps l) ∧ Q (trimEnd l)) (hbare : ∀ l, isBare l = true → P l) :
    ShedsProgram strict Q (layout a) (layout b) where
  loose := h.settled.1.layout htrim hbare
  exact := fun hs => (h.settled.2 hs).layout htrim hbare h.settled.1

/-- The program put together from code that sheds lines. -/
theorem Shedding.finish (h : Shedding traps P s t) (hprologue : Closed s.prologue)
    (htrim : ∀ l, P l → Q (trimGaps l) ∧ Q (trimEnd l)) (hbare : ∀ l, isBare l = true → P l)
    {as bs : List String} (hab : List.Forall₂ (h.comparison strict).chain as bs) :
    (h.comparison strict).Relates (ShedsProgram strict Q)
      (Gen.finish ("\n".intercalate (as.filter (· ≠ ""))))
      (Gen.finish ("\n".intercalate (bs.filter (· ≠ "")))) := by
  have hpro : t.prologue = s.prologue := by
    rw [Setting.prologue, Setting.prologue, h.config_eq, h.conventions_eq]
  have hepi : t.epilogue = s.epilogue := by
    rw [Setting.epilogue, Setting.epilogue, h.config_eq, h.conventions_eq]
  refine .read_bind fun r q hr => ?_
  have hx : ∀ (s : Setting) (r : Run) (k : Run → Gen String),
      Gen.exec (get >>= k) s r = Gen.exec (k r) s r := fun _ _ _ => rfl
  have hdeclared : r.declared = q.declared := hr.declared
  rw [hx, hx, hdeclared, hpro, hepi, ← h.conventions_eq]
  refine Gen.Relates.bind (Gen.Relates.context (h.comparison strict).faults_noActiveRun)
    (fun c d hcd => ?_) r q hr
  refine .pure (ShedsOpen.layout ?_ htrim hbare)
  have htexts : List.Forall₂ (fun x y => x = y ∨ ShedsCode strict P x y) c.helpers.definitions
      d.helpers.definitions := by
    rw [HelperRegistry.definitions, HelperRegistry.definitions, List.forall₂_map_left_iff,
      List.forall₂_map_right_iff]
    exact hcd.texts.imp fun _ _ htext => htext.2
  refine ShedsOpen.definitions (ShedsOpen.append ?_ _) htexts
  exact ⟨_, _, "", String.append_empty.symm, String.append_empty.symm,
    (shedsText_same (Template.closed_fill hprologue _ _)).parts hab⟩

/-- Programs whose blocks fit come to the same fault, or to texts of which the second is the first
without some lines; identifiers and helpers are the same in both runs. -/
theorem Shedding.generate (h : Shedding traps P s t) (hrules : Rulebook.Compares traps rules)
    (hf : ∀ head, f head = { head with comment := (f head).comment })
    (hprologue : Closed s.prologue) (htrim : ∀ l, P l → Q (trimGaps l) ∧ Q (trimEnd l))
    (hbare : ∀ l, isBare l = true → P l) {ws : Workspace}
    (hfits : ∀ p ∈ ws.blocks, p.Fits strict P s t rules f) (r q : Run) :
    Gen.Answers Eq
      (fun a b => ShedsProgram strict Q a b ∧
        Run.Matches (h.comparison strict).text (Context.Sound s.config) Eq
          (Gen.exec (Gen.generate rules ws) s r).2
          (Gen.exec (Gen.generate rules (ws.mapHeads f)) t q).2)
      (Gen.exec (Gen.generate rules ws) s r).1
      (Gen.exec (Gen.generate rules (ws.mapHeads f)) t q).1 := by
  have hnew : s.newContext = t.newContext := by
    rw [Setting.newContext, Setting.newContext, Setting.reserved, Setting.reserved,
      Setting.sharedNames, Setting.sharedNames, h.config_eq, h.conventions_eq]
  have hparts : (h.comparison strict).Relates (List.Forall₂ (h.comparison strict).chain)
      (ws.top.mapM (Gen.topCode rules)) ((ws.mapHeads f).top.mapM (Gen.topCode rules)) := by
    refine .mapM ?_
    rw [Workspace.mapHeads, List.forall₂_map_right_iff, List.forall₂_same]
    intro b hb
    rw [Gen.topCode_eq, Gen.topCode_eq, b.code_eq, (b.mapHeads f).code_eq]
    refine Comparison.topText ((b.mapHeads_link h hrules hf false none ?_).imp fun _ _ hef => hef.1)
    exact fun p hp => hfits p (List.mem_flatMap.2 ⟨b, hb, hp⟩)
  have hnames : ws.variableNames = (ws.mapHeads f).variableNames := rfl
  exact Comparison.generate hnew (Context.Sound.newContext s) (fun _ => rfl) hnames hparts
    (fun _ _ hab => h.finish hprologue htrim hbare hab) r q

end Program

end BlockCode
