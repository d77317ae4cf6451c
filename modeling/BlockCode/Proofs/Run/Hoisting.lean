import BlockCode.Proofs.Run.Notes
import BlockCode.Proofs.Run.PlainRules
import BlockCode.Proofs.Run.SameCode

namespace BlockCode

open Branch Gen

/-- The run with a definition stored in its context. -/
def Run.storing (r : Run) (c : Context) (key : Key) (text : String) : Run :=
  { r with context := some { c with helpers := c.helpers.define key text } }

/-- The second result is the first one with lines in front of the code, or in front of the
definition that was stored in its place. -/
inductive Hoists (lines : String) :
    Except Fault Emission × Run → Except Fault Emission × Run → Prop where
  | refused (fault : Fault) (r : Run) : Hoists lines (.error fault, r) (.error fault, r)
  | statement (code : String) (r : Run) :
    Hoists lines (.ok (.statement code), r) (.ok (.statement (lines ++ code)), r)
  | value (code : String) (rank : Value) (r : Run) :
    Hoists lines (.ok (.value code rank), r) (.ok (.value (lines ++ code) rank), r)
  | definition (c : Context) (key : Key) (text : String) (r : Run) :
    Hoists lines (.ok (.statement ""), r.storing c key text)
      (.ok (.statement ""), r.storing c key (lines ++ text))

/-- The same of what the rule of definitions gives. -/
inductive Stores (lines : String) :
    Except Fault Outcome × Run → Except Fault Outcome × Run → Prop where
  | refused (fault : Fault) (r : Run) : Stores lines (.error fault, r) (.error fault, r)
  | definition (c : Context) (key : Key) (text : String) (r : Run) :
    Stores lines (.ok .nothing, r.storing c key text)
      (.ok .nothing, r.storing c key (lines ++ text))

theorem Gen.exec_define {s : Setting} {r : Run} (key text : String) :
    exec (define (.text key) text) s r =
      match r.context with
      | none => (.error (.noActiveRun s.conventions.generator), r)
      | some c => (.ok (), r.storing c (.text key) text) := by
  rw [define, exec_step]
  cases r.context with
  | none => rfl
  | some c => simp [Context.define, Value.key, Run.storing, bind, Except.bind, pure, Except.pure]

namespace Site.Same

variable {s : Setting} {u v : Site} {traps : Bool} {rules : Rulebook} {lines : String}
  (h : Site.Same s u v)
include h

/-- Plain rules do the same at sites that differ in their comments. -/
theorem plain {shape : Shape} {kind : String} {rule : Rule}
    (hpairs : Rule.Pairs traps shape kind rule) (hplain : rule.IsPlain) :
    Gen.Same s (rule u) (rule v) := by
  -- in value sockets neither site has comment lines, and a plain rule does not notice the place
  have hinline : Site.Same s { u with inline := true } { v with inline := true } :=
    ⟨h.head, h.inputs, h.statements, h.next⟩
  have hsame := hpairs.same (hinline.sees rfl traps)
  rwa [hplain.inline u, hplain.inline v] at hsame

theorem field (name : String) : u.field name = v.field name := by
  rw [Site.field, Site.field, h.head]
  rfl

theorem arguments : u.head.arguments = v.head.arguments := by
  rw [h.head]
  rfl

section Lines

variable (hu : u.commentLines s.commentMark = .ok "")
  (hv : v.commentLines s.commentMark = .ok lines)
include hu hv

theorem exec_sequence (code : String) (r : Run) :
    exec (v.sequence code) s r =
      ((exec (u.sequence code) s r).1.map (lines ++ ·), (exec (u.sequence code) s r).2) := by
  simp only [Site.sequence, exec_bind, exec_read, exec_ofExcept, hu, hv, ← h.nextCode _]
  rcases exec u.nextCode s r with ⟨fault | next, r'⟩
  · rfl
  · simp [Except.map, String.append_assoc]

theorem placed_hoists {outcome : Outcome} (hgiven : outcome ≠ .nothing) (r : Run) :
    Hoists lines (exec (u.placed outcome) s r) (exec (v.placed outcome) s r) := by
  cases outcome with
  | nothing => exact absurd rfl hgiven
  | statement code =>
    simp only [Site.placed, exec_bind, exec_read, h.wrapped, h.exec_sequence hu hv]
    rcases exec (u.sequence _) s r with ⟨fault | text, r'⟩
    · exact .refused fault r'
    · exact .statement text r'
  | value code rank =>
    simp only [Site.placed, exec_bind, h.exec_sequence hu hv]
    rcases exec (u.sequence code) s r with ⟨fault | text, r'⟩
    · exact .refused fault r'
    · exact .value text rank r'
  | misfit what => exact .refused _ r

/-- A definition is stored with its comments. -/
theorem store (name text : String) (r : Run) :
    Stores lines
      (exec (do
        let code ← u.sequence text
        Gen.define (Rules.processKey name) code
        return .nothing) s r)
      (exec (do
        let code ← v.sequence text
        Gen.define (Rules.processKey name) code
        return .nothing) s r) := by
  rw [exec_bind, exec_bind, h.exec_sequence hu hv]
  rcases exec (u.sequence text) s r with ⟨fault | code, q⟩
  · exact .refused fault q
  · simp only [Except.map, exec_bind]
    rw [Gen.exec_define, Gen.exec_define]
    cases q.context with
    | none => exact .refused _ q
    | some c => exact .definition c _ code q

theorem processDefinition (r : Run) :
    Stores lines (exec (Rules.processDefinition u) s r) (exec (Rules.processDefinition v) s r) := by
  unfold Rules.processDefinition
  rw [h.field, h.arguments, h.id_eq]
  refine (Gen.Same.refl _).before .refused (fun _ => ?_) r
  refine (Gen.Same.refl _).before .refused fun name => ?_
  refine (h.body _).before .refused fun stack => (Gen.Same.refl _).before .refused fun _ => ?_
  refine (h.valueAt _ _).before .refused fun value => ?_
  by_cases hvalue : value = ""
  · simp only [if_pos hvalue]
    exact (Gen.Same.refl _).before .refused fun _ => (Gen.Same.refl _).before .refused fun _ =>
      (Gen.Same.refl _).before .refused fun _ => h.store hu hv _ _
  · simp only [if_neg hvalue]
    exact (Gen.Same.refl _).before .refused fun _ => (Gen.Same.refl _).before .refused fun _ =>
      (Gen.Same.refl _).before .refused fun _ => (Gen.Same.refl _).before .refused fun _ =>
        h.store hu hv _ _

/-- Whatever the rule, the comment lines of an enabled site are put in front of its text. -/
theorem hoists (hrules : rules.Pairs traps) (hkeeps : rules.KeepsDefinitions)
    (henabled : u.head.isDisabled = false) (r : Run) :
    Hoists lines (exec (u.emit rules) s r) (exec (v.emit rules) s r) := by
  rw [emit_of_enabled henabled, emit_of_enabled (h.isDisabled ▸ henabled), Site.outcome,
    Site.outcome, h.headKind, h.kind, bind_assoc, bind_assoc]
  refine Gen.Same.exec_bind (.refl _) .refused (fun found r r' hfound => ?_) r
  rw [exec_ofExcept] at hfound
  have hfound := congrArg Prod.fst hfound
  cases found with
  | none => exact .refused _ r'
  | some rule =>
    obtain ⟨shape, name, hname, hpairs⟩ := hrules.ruleFor hfound
    rw [hname] at hfound
    rcases hkeeps name rule (Except.ok.inj hfound) with rfl | hplain
    · have hstores := h.processDefinition hu hv r'
      dsimp only
      rw [exec_bind, exec_bind]
      generalize exec (Rules.processDefinition u) s r' = x at hstores ⊢
      generalize exec (Rules.processDefinition v) s r' = y at hstores ⊢
      cases hstores with
      | refused fault q => exact .refused fault q
      | definition c key text q => exact .definition c key text q
    · refine (h.plain hpairs hplain).exec_bind .refused (fun outcome q q' houtcome => ?_) r'
      refine h.placed_hoists hu hv (hplain.gives u outcome ⟨s, q, ?_⟩) q'
      rw [houtcome]

end Lines

end Site.Same

namespace Site

variable {site : Site} {rules : Rulebook}

theorem hasTextComments_of_ok {mark out : String} (hinline : site.inline = false)
    (h : site.commentLines mark = .ok out) : site.HasTextComments := by
  rcases commentLines_eq_ok h with ⟨htrue, -⟩ | ⟨own, nested, hown, hnested, -⟩
  · cases hinline.symm.trans htrue
  · refine ⟨fun hset => ?_, fun v hv => ?_⟩
    · rcases ownComment_eq_ok hown with ⟨hunset, -⟩ | ⟨text, htext, -⟩
      · cases hunset.symm.trans hset
      · exact ⟨text, htext⟩
    · obtain ⟨socket, hsocket, hv⟩ := List.mem_flatMap.1 hv
      obtain ⟨⟨i, hi⟩, rfl⟩ := List.mem_iff_get.1 hsocket
      have hlines := hnested.get hi (hnested.length_eq ▸ hi)
      rcases nestedLines_eq_ok hlines with ⟨hnone, -⟩ | ⟨texts, -, htexts, -⟩
      · rw [hnone] at hv
        cases hv
      · rw [htexts] at hv
        obtain ⟨text, -, rfl⟩ := List.mem_map.1 hv
        exact ⟨text, rfl⟩

section Refused

variable (hinline : site.inline = false) (htexts : ¬ site.HasTextComments)
include hinline htexts

/-- Comments that are not texts cannot be put in front of anything. -/
theorem sequence_refused (code : String) : GivesOnly (fun _ => False) (site.sequence code) := by
  refine .bind fun s => .first fun lines hgive => ?_
  exact htexts (hasTextComments_of_ok hinline hgive.ofExcept)

theorem processDefinition_refused : GivesOnly (fun _ => False) (Rules.processDefinition site) := by
  have hsequence := sequence_refused hinline htexts
  unfold Rules.processDefinition
  refine .bind fun _ => .bind fun _ => .bind fun _ => .bind fun _ => .bind fun value => ?_
  by_cases hvalue : value = ""
  · simp only [if_pos hvalue]
    exact .bind fun _ => .bind fun _ => .bind fun _ => .first (hsequence _)
  · simp only [if_neg hvalue]
    exact .bind fun _ => .bind fun _ => .bind fun _ => .bind fun _ => .first (hsequence _)

theorem placed_refused {outcome : Outcome} (hgiven : outcome ≠ .nothing) :
    GivesOnly (fun _ => False) (site.placed outcome) := by
  cases outcome with
  | nothing => exact absurd rfl hgiven
  | statement code => exact .bind fun _ => .first (sequence_refused hinline htexts _)
  | value code rank => exact .first (sequence_refused hinline htexts code)
  | misfit what => rintro _ ⟨s, r, ⟨⟩⟩

theorem emit_refused {traps : Bool} (hrules : rules.Pairs traps) (hkeeps : rules.KeepsDefinitions)
    (henabled : site.head.isDisabled = false) : GivesOnly (fun _ => False) (site.emit rules) := by
  rw [emit_of_enabled henabled]
  intro e hgive
  obtain ⟨outcome, hgive, hplaced⟩ := hgive.of_bind
  obtain ⟨found, hfound, hgive⟩ := hgive.of_bind
  have hfound := hfound.ofExcept
  cases found with
  | none => obtain ⟨s, r, ⟨⟩⟩ := hgive
  | some rule =>
    obtain ⟨shape, name, hname, -⟩ := hrules.ruleFor hfound
    rw [hname] at hfound
    rcases hkeeps name rule (Except.ok.inj hfound) with rfl | hplain
    · exact processDefinition_refused hinline htexts outcome hgive
    · exact placed_refused hinline htexts (hplain.gives site outcome hgive) e hplaced

end Refused

end Site

namespace Block

mutual

/-- Blocks that differ in their comments only, but not in the comments to be put in front of enabled
statements. -/
def SameFronts (inline : Bool) : Block → Block → Prop
  | .mk head inputs statements next, .mk head' inputs' statements' next' =>
    head' = { head with comment := head'.comment } ∧
      (inline = false → head.isDisabled = false →
        head'.comment = head.comment ∧
          inputs.map (fun socket => linkComments socket.2) =
            inputs'.map fun socket => linkComments socket.2) ∧
      SocketsSameFronts true inputs inputs' ∧ SocketsSameFronts false statements statements' ∧
      PlugSameFronts false next next'

def SocketsSameFronts (inline : Bool) :
    List (String × Option Block) → List (String × Option Block) → Prop
  | [], [] => True
  | (name, plug) :: rest, (name', plug') :: rest' =>
    name = name' ∧ PlugSameFronts inline plug plug' ∧ SocketsSameFronts inline rest rest'
  | _, _ => False

def PlugSameFronts (inline : Bool) : Option Block → Option Block → Prop
  | none, none => True
  | some b, some b' => SameFronts inline b b'
  | _, _ => False

end

variable {s : Setting} {traps : Bool} {rules : Rulebook}

mutual

/-- The comments of blocks in value sockets do not show in their code. -/
theorem branchAt_same (hrules : rules.Pairs traps) : ∀ {b b' : Block} {inline : Bool},
    SameFronts inline b b' →
      LinksSame s (some (branchAt rules inline b)) (some (branchAt rules inline b'))
  | .mk head inputs statements next, .mk head' inputs' statements' next', inline, h => by
    obtain ⟨hhead, hfront, hinputs, hstatements, hnext⟩ := h
    have hsite : Site.Same s
        { head
          inline
          inputs := socketBranches rules true inputs
          statements := socketBranches rules false statements
          next := linkBranch rules false next }
        { head := head'
          inline
          inputs := socketBranches rules true inputs'
          statements := socketBranches rules false statements'
          next := linkBranch rules false next' } :=
      ⟨hhead, socketBranches_same hrules hinputs, socketBranches_same hrules hstatements,
        linkBranch_same hrules hnext⟩
    refine ⟨congrArg Value.written hsite.headKind, hsite.emit hrules fun henabled => ?_⟩
    rw [Site.commentLines_eq, Site.commentLines_eq]
    cases inline with
    | true => rfl
    | false =>
      obtain ⟨hown, hnested⟩ := hfront rfl henabled
      simp only [socketBranches_comments, hnested, hown]

theorem socketBranches_same (hrules : rules.Pairs traps) :
    ∀ {m n : List (String × Option Block)} {inline : Bool}, SocketsSameFronts inline m n →
      SocketsSame s (socketBranches rules inline m) (socketBranches rules inline n)
  | [], [], _, _ => .nil
  | _ :: _, _ :: _, _, h =>
    .cons ⟨h.1, linkBranch_same hrules h.2.1⟩ (socketBranches_same hrules h.2.2)

theorem linkBranch_same (hrules : rules.Pairs traps) :
    ∀ {x y : Option Block} {inline : Bool}, PlugSameFronts inline x y →
      LinksSame s (linkBranch rules inline x) (linkBranch rules inline y)
  | none, none, _, _ => ⟨rfl, .refl _⟩
  | some _, some _, _, h => branchAt_same hrules h

end

/-- Nothing is connected to the block but values. -/
structure StandsAlone (b : Block) : Prop where
  statements : ∀ socket ∈ b.statements, socket.2 = none
  next : b.next = none

theorem mapSockets_empty {f : BlockHead → BlockHead} {m : List (String × Option Block)}
    (h : ∀ socket ∈ m, socket.2 = none) : SocketsSameFronts false (mapSockets f m) m := by
  induction m with
  | nil => trivial
  | cons socket rest ih =>
    obtain ⟨name, plug⟩ := socket
    rw [List.forall_mem_cons] at h
    obtain ⟨rfl, hrest⟩ := h
    exact ⟨rfl, trivial, ih hrest⟩

mutual

/-- A block in a value socket has no comments in front of it, with or without comments. -/
theorem uncommented_sameFronts : ∀ (b : Block) (parent : Option Block),
    (∀ p ∈ descendantsAt parent true b, p.inline = true → p.block.StandsAlone) →
      SameFronts true (b.mapHeads BlockHead.uncommented) b
  | .mk head inputs statements next, parent, h => by
    rw [descendantsAt, List.forall_mem_cons, List.forall_mem_append, List.forall_mem_append] at h
    obtain ⟨hhere, ⟨hinputs, -⟩, -⟩ := h
    obtain ⟨hstatements, hnext⟩ := hhere rfl
    obtain rfl : next = none := hnext
    exact ⟨rfl, nofun, uncommented_socketsSameFronts inputs _ hinputs, mapSockets_empty hstatements,
      trivial⟩

theorem uncommented_socketsSameFronts : ∀ (m : List (String × Option Block)) (parent : Block),
    (∀ p ∈ socketDescendants parent true m, p.inline = true → p.block.StandsAlone) →
      SocketsSameFronts true (mapSockets BlockHead.uncommented m) m
  | [], _, _ => trivial
  | (_, plug) :: rest, parent, h => by
    rw [socketDescendants, List.forall_mem_append] at h
    exact ⟨rfl, uncommented_plugSameFronts plug parent h.1,
      uncommented_socketsSameFronts rest parent h.2⟩

theorem uncommented_plugSameFronts : ∀ (x : Option Block) (parent : Block),
    (∀ p ∈ linkDescendants parent true x, p.inline = true → p.block.StandsAlone) →
      PlugSameFronts true (mapLink BlockHead.uncommented x) x
  | none, _, _ => trivial
  | some b, parent, h => uncommented_sameFronts b (some parent) h

end

/-- The block without its own comment and those below its value sockets. -/
def hushed (b : Block) : Block :=
  .mk b.head.uncommented (mapSockets BlockHead.uncommented b.inputs) b.statements b.next

/-- Without these comments everything but the comment lines is the same. -/
theorem hushed_site (hrules : rules.Pairs traps) {b : Block} {parent : Option Block} {inline : Bool}
    (h : ∀ p ∈ descendantsAt parent inline b, p.inline = true → p.block.StandsAlone) :
    Site.Same s (b.hushed.site rules) (b.site rules) := by
  obtain ⟨head, inputs, statements, next⟩ := b
  rw [descendantsAt, List.forall_mem_cons, List.forall_mem_append, List.forall_mem_append] at h
  exact ⟨rfl, socketBranches_same hrules (uncommented_socketsSameFronts inputs _ h.2.1.1),
    .refl s _, rfl, .refl _⟩

theorem hushed_commentLines (rules : Rulebook) (b : Block) (mark : String) :
    (b.hushed.site rules).commentLines mark = .ok "" := by
  refine Site.commentLines_of_none mark rfl ?_
  rw [site_nested]
  exact socketComments_uncommented b.inputs

end Block

namespace Workspace

/-- Nothing but values is connected to blocks in value sockets. -/
def ValuesStandAlone (ws : Workspace) : Prop :=
  ∀ p ∈ ws.blocks, p.inline = true → p.block.StandsAlone

/-- Workspaces that differ in their comments only, but not in the comments to be put in front of
enabled statements. -/
structure SameFronts (ws ws' : Workspace) : Prop where
  top : List.Forall₂ (Block.SameFronts false) ws.top ws'.top
  variableNames : ws.variableNames = ws'.variableNames

end Workspace

namespace Gen

variable {s : Setting} {traps : Bool} {rules : Rulebook}

theorem Same.loggingFaults {α : Type} {x y : Gen α} (h : Same s x y) :
    Same s (Gen.loggingFaults x) (Gen.loggingFaults y) := by
  intro r
  rw [Gen.loggingFaults, Gen.loggingFaults, exec_tryCatch, exec_tryCatch, h r]

theorem topCodes_same (hrules : rules.Pairs traps) {top top' : List Block}
    (h : List.Forall₂ (Block.SameFronts false) top top') :
    Same s (top.mapM (topCode rules)) (top'.mapM (topCode rules)) := by
  induction h with
  | nil => exact .refl _
  | @cons b b' top top' hb _ ih =>
    rw [List.mapM_cons, List.mapM_cons, topCode_eq, topCode_eq, b.code_eq, b'.code_eq]
    have hcode := (Block.branchAt_same (s := s) hrules hb).2
    exact (hcode.bind fun _ => .refl _).bind fun _ => ih.bind fun _ => .refl _

theorem generate_same (hrules : rules.Pairs traps) {ws ws' : Workspace} (h : ws.SameFronts ws') :
    Same s (generate rules ws) (generate rules ws') := by
  have hstart : start ws = start ws' := by
    rw [start, start, h.variableNames]
  unfold generate
  rw [h.top.length_eq, hstart]
  refine (Same.refl _).bind fun _ => (Same.refl _).bind fun _ => (Same.refl _).bind fun _ => ?_
  exact (topCodes_same hrules h.top).loggingFaults.bind fun _ => .refl _

end Gen

namespace Generator

/-- Comments below value sockets are written once, in front of the statement around them. An enabled
statement comes out as it would without its own comment and those below its value sockets, with
lines in front of it that show these comments one for one: its own, then those in its sockets,
children before their parent. If one of them is not a text, the statement does not come out at all.
A block in a value socket comes out as it would without any comment. And a whole run stays the same
wherever comments stand below value sockets, as long as the comments in front of enabled statements
are the same. -/
theorem comments_hoisted_once (language : Language) (config : Config) (ws : Workspace)
    (halone : ws.ValuesStandAlone) :
    let g : Generator := ⟨language.dialect, config⟩
    let s := g.setting
    let rules := g.dialect.rules
    (∀ p ∈ ws.blocks, p.inline = false → p.block.head.isDisabled = false →
      ((p.block.site rules).HasTextComments →
        ∃ lines, Shows s.commentMark p.block.notes lines ∧ ∀ r,
          Hoists lines (exec (p.block.hushed.code rules) s r) (exec (p.block.code rules) s r)) ∧
      (¬ (p.block.site rules).HasTextComments → ∀ e, ¬ CanGive (p.block.code rules) e)) ∧
    (∀ p ∈ ws.blocks, p.inline = true → ∀ r,
      exec ((p.block.mapHeads BlockHead.uncommented).branchAt rules true).code s r =
        exec (p.block.branchAt rules true).code s r) ∧
    ∀ (ws' : Workspace), ws.SameFronts ws' → ∀ t : Session,
      t.generate g (.workspace ws) = t.generate g (.workspace ws') := by
  intro g s rules
  have hrules : Rulebook.Pairs true rules := Rulebook.dialect_pairs fun _ => rfl
  have hkeeps : rules.KeepsDefinitions := Rulebook.dialect_keepsDefinitions language
  refine ⟨?_, ?_, ?_⟩
  · intro p hp _ henabled
    refine ⟨fun htexts => ?_, fun htexts e => ?_⟩
    · obtain ⟨lines, hlines⟩ := Site.exists_commentLines s.commentMark htexts.1 htexts.2
      refine ⟨lines, Block.shows_commentLines hlines, fun r => ?_⟩
      have hsite := Block.hushed_site (s := s) hrules fun q hq =>
        halone q (Workspace.mem_blocks_of_below hp hq)
      exact hsite.hoists (Block.hushed_commentLines rules p.block s.commentMark) hlines hrules
        hkeeps henabled r
    · refine Site.emit_refused (Block.site_inline rules p.block) htexts hrules hkeeps ?_ e
      rwa [Block.site_head]
  · intro p hp hinline r
    obtain ⟨b, parent, inline⟩ := p
    obtain rfl : inline = true := hinline
    have hfronts := Block.uncommented_sameFronts b parent fun q hq =>
      halone q (Workspace.mem_blocks_of_below hp hq)
    exact (Block.branchAt_same hrules hfronts).2 r
  · intro ws' hfronts t
    have hresult := generate_same (s := s) hrules hfronts t.run
    exact congrArg
      (fun result : Except Fault String × Run => (result.1, { t with run := result.2 })) hresult

/-- A value with a comment. -/
def noted (kind field : String) (v comment : Value) : Option Block :=
  some (.mk
    { kind := .text kind, fields := .map [(field, v)], comment, id := .text kind } [] [] none)

/-- A definition with comments at itself, at the value that it returns, and at one factor or the
other. -/
def doubling (left right : Value) : Block :=
  .mk
    { kind := .text "procedures_defreturn"
      fields := .map [("NAME", .text "double")]
      mutation := .map [("arguments", .list [.text "n"])]
      comment := .text "twice\nas much"
      id := .text "d" }
    [("RETURN", some (.mk
      { kind := .text "math_arithmetic"
        fields := .map [("OP", .text "MULTIPLY")]
        comment := .text "product"
        id := .text "m" }
      [("A", noted "variables_get" "VAR" (.text "n") left),
        ("B", noted "math_number" "NUM" (.int 2) right)] [] none))] [] none

theorem doubling_comments_hoisted :
    let g : Generator := ⟨Language.divGames.dialect, {}⟩
    let s := g.setting
    let rules := g.dialect.rules
    let b := doubling (.text "factor") .null
    let ws : Workspace := { top := [b] }
    ws.ValuesStandAlone ∧ (b.site rules).HasTextComments ∧
    b.notes = ["twice\nas much", "factor", "product"] ∧
    (exec (b.code rules) s { context := some ⟨{}, {}⟩ }).2.context.map (·.helpers.definitions) =
      some ["// twice\n// as much\n// factor\n// product\n" ++
        "PROCESS double(n)\nBEGIN\n  RETURN(n * 2);\nEND\n"] ∧
    (∃ lines, Shows s.commentMark b.notes lines ∧ ∀ r,
      Hoists lines (exec (b.hushed.code rules) s r) (exec (b.code rules) s r)) ∧
    ∀ t : Session, t.generate g (.workspace ws) =
      t.generate g (.workspace { top := [doubling .null (.text "factor")] }) := by
  intro g s rules b ws
  have halone : ws.ValuesStandAlone :=
    List.forall_mem_cons.2 ⟨nofun, List.forall_mem_cons.2 ⟨fun _ => ⟨nofun, rfl⟩,
      List.forall_mem_cons.2 ⟨fun _ => ⟨nofun, rfl⟩,
        List.forall_mem_singleton.2 fun _ => ⟨nofun, rfl⟩⟩⟩⟩
  have htexts : (b.site rules).HasTextComments :=
    ⟨fun _ => ⟨_, rfl⟩, List.forall_mem_cons.2 ⟨⟨_, rfl⟩, List.forall_mem_singleton.2 ⟨_, rfl⟩⟩⟩
  obtain ⟨hstatements, -, hruns⟩ := comments_hoisted_once .divGames {} ws halone
  refine ⟨halone, htexts, by decide, by decide +kernel, ?_, ?_⟩
  · exact (hstatements ⟨b, none, false⟩ List.mem_cons_self rfl rfl).1 htexts
  · refine hruns _ ⟨.cons ?_ .nil, rfl⟩
    exact ⟨rfl, fun _ _ => ⟨rfl, rfl⟩,
      ⟨rfl, ⟨rfl, nofun, ⟨rfl, ⟨rfl, nofun, trivial, trivial, trivial⟩,
        rfl, ⟨rfl, nofun, trivial, trivial, trivial⟩, trivial⟩, trivial, trivial⟩, trivial⟩,
      trivial, trivial⟩

end Generator

end BlockCode
