import BlockCode.Proofs.Run.CommentLines
import BlockCode.Proofs.Run.Shedding
import BlockCode.Session

namespace BlockCode

open Text

namespace Block

mutual

/-- What is below a block that is below another one is below that one. -/
theorem descendantsAt_trans : ∀ (b : Block) (parent : Option Block) (inline : Bool),
    ∀ p ∈ descendantsAt parent inline b, ∀ q ∈ descendantsAt p.parent p.inline p.block,
      q ∈ descendantsAt parent inline b
  | .mk head inputs statements next, parent, inline, p, hp, q, hq => by
    rw [descendantsAt, List.mem_cons, List.mem_append, List.mem_append] at hp
    rcases hp with rfl | (hp | hp) | hp
    · exact hq
    all_goals
      rw [descendantsAt, List.mem_cons, List.mem_append, List.mem_append]
    · exact .inr (.inl (.inl (socketDescendants_trans inputs _ true p hp q hq)))
    · exact .inr (.inl (.inr (socketDescendants_trans statements _ false p hp q hq)))
    · exact .inr (.inr (linkDescendants_trans next _ false p hp q hq))

theorem socketDescendants_trans : ∀ (m : List (String × Option Block)) (parent : Block)
    (inline : Bool), ∀ p ∈ socketDescendants parent inline m,
      ∀ q ∈ descendantsAt p.parent p.inline p.block, q ∈ socketDescendants parent inline m
  | [], _, _, _, hp, _, _ => nomatch hp
  | (_, plug) :: rest, parent, inline, p, hp, q, hq => by
    rw [socketDescendants, List.mem_append] at hp ⊢
    rcases hp with hp | hp
    · exact .inl (linkDescendants_trans plug parent inline p hp q hq)
    · exact .inr (socketDescendants_trans rest parent inline p hp q hq)

theorem linkDescendants_trans : ∀ (x : Option Block) (parent : Block) (inline : Bool),
    ∀ p ∈ linkDescendants parent inline x, ∀ q ∈ descendantsAt p.parent p.inline p.block,
      q ∈ linkDescendants parent inline x
  | none, _, _, _, hp, _, _ => nomatch hp
  | some b, parent, inline, p, hp, q, hq => descendantsAt_trans b (some parent) inline p hp q hq

end

mutual

/-- The comments of a block in a value socket are comments of it or of blocks below it. -/
theorem mem_valueComments : ∀ (b : Block) (parent : Option Block), ∀ v ∈ valueComments b,
    ∃ p ∈ descendantsAt parent true b, p.block.head.comment = v ∧ v.isSet = true
  | .mk head inputs statements next, parent, v, hv => by
    rw [valueComments, List.mem_append] at hv
    rw [descendantsAt]
    rcases hv with hv | hv
    · obtain ⟨p, hp, hcomment⟩ := mem_socketComments inputs (.mk head inputs statements next) v hv
      exact ⟨p, List.mem_cons_of_mem _ (List.mem_append_left _ (List.mem_append_left _ hp)), hcomment⟩
    · split at hv
      · next hset =>
        rw [List.mem_singleton.1 hv]
        exact ⟨_, List.mem_cons_self, rfl, hset⟩
      · cases hv

theorem mem_socketComments : ∀ (m : List (String × Option Block)) (parent : Block),
    ∀ v ∈ socketComments m,
      ∃ p ∈ socketDescendants parent true m, p.block.head.comment = v ∧ v.isSet = true
  | [], _, _, hv => nomatch hv
  | (_, plug) :: rest, parent, v, hv => by
    rw [socketComments, List.mem_append] at hv
    rw [socketDescendants]
    rcases hv with hv | hv
    · obtain ⟨p, hp, hcomment⟩ := mem_linkComments plug parent v hv
      exact ⟨p, List.mem_append_left _ hp, hcomment⟩
    · obtain ⟨p, hp, hcomment⟩ := mem_socketComments rest parent v hv
      exact ⟨p, List.mem_append_right _ hp, hcomment⟩

theorem mem_linkComments : ∀ (x : Option Block) (parent : Block), ∀ v ∈ linkComments x,
    ∃ p ∈ linkDescendants parent true x, p.block.head.comment = v ∧ v.isSet = true
  | none, _, _, hv => nomatch hv
  | some b, parent, v, hv => mem_valueComments b (some parent) v hv

end

theorem flatten_linkComments (m : List (String × Option Block)) :
    (m.map fun socket => linkComments socket.2).flatten = socketComments m := by
  induction m with
  | nil => rfl
  | cons socket rest ih => rw [List.map_cons, List.flatten_cons, ih, socketComments]

theorem site_nested (rules : Rulebook) (b : Block) :
    ((b.site rules).inputs.flatMap fun socket => Branch.linkComments socket.2) =
      socketComments b.inputs := by
  obtain ⟨head, inputs, statements, next⟩ := b
  rw [List.flatMap_def, site, socketBranches_comments, flatten_linkComments]
  rfl

end Block

/-- The data of a block without its comment. -/
def BlockHead.uncommented (head : BlockHead) : BlockHead :=
  { head with comment := .null }

namespace Block

mutual

theorem valueComments_uncommented : ∀ b : Block,
    valueComments (b.mapHeads BlockHead.uncommented) = []
  | .mk head inputs statements next => by
    rw [mapHeads, valueComments, socketComments_uncommented inputs]
    rfl

theorem socketComments_uncommented : ∀ m : List (String × Option Block),
    socketComments (mapSockets BlockHead.uncommented m) = []
  | [] => rfl
  | (_, plug) :: rest => by
    rw [mapSockets, socketComments, linkComments_uncommented plug, socketComments_uncommented rest,
      List.append_nil]

theorem linkComments_uncommented : ∀ x : Option Block,
    linkComments (mapLink BlockHead.uncommented x) = []
  | none => rfl
  | some b => by rw [mapLink, linkComments, valueComments_uncommented b]

end

end Block

namespace Workspace

/-- The workspace without any comments. -/
def uncommented (ws : Workspace) : Workspace :=
  ws.mapHeads BlockHead.uncommented

/-- A line of a comment of the workspace as the program shows it: any number of indents, the mark and
the line. -/
def CommentLine (ws : Workspace) (s : Setting) (l : List Char) : Prop :=
  ∃ p ∈ ws.blocks, ∃ text, p.block.head.comment = .text text ∧
    ∃ line ∈ lines (text ++ "\n").toList, ∃ n,
      l = (List.replicate n s.config.indent.toList).flatten ++ (s.commentMark.toList ++ line)

/-- Comment lines, and bare lines. -/
def Comments (ws : Workspace) (s : Setting) (l : List Char) : Prop :=
  isBare l = true ∨ ws.CommentLine s l

/-- Comment lines without the white space at their ends, and bare lines. -/
def TrimmedComments (ws : Workspace) (s : Setting) (l : List Char) : Prop :=
  isBare l = true ∨ ∃ m, ws.CommentLine s m ∧ (l = trimGaps m ∨ l = trimEnd m)

section Lines

variable {ws : Workspace} {s : Setting}

theorem comments_trim (l : List Char) (h : ws.Comments s l) :
    ws.TrimmedComments s (trimGaps l) ∧ ws.TrimmedComments s (trimEnd l) := by
  rcases h with hbare | hcomment
  · refine ⟨.inl ?_, .inl ?_⟩
    · rw [isBare_trimGaps, hbare]
    · rw [trimEnd_eq_nil.2 hbare]
      rfl
  · exact ⟨.inr ⟨l, hcomment, .inl rfl⟩, .inr ⟨l, hcomment, .inr rfl⟩⟩

variable (hline : '\n' ∉ s.config.indent.toList) (hmark : '\n' ∉ s.commentMark.toList)
include hline hmark

theorem CommentLine.not_mem {l : List Char} (h : ws.CommentLine s l) : '\n' ∉ l := by
  obtain ⟨p, -, text, -, line, hl, n, rfl⟩ := h
  have hleads : '\n' ∉ (List.replicate n s.config.indent.toList).flatten := by
    rw [List.mem_flatten]
    rintro ⟨indent, hmem, hn⟩
    rw [List.eq_of_mem_replicate hmem] at hn
    exact hline hn
  simp [hleads, hmark, not_mem_of_mem_lines hl]

/-- A comment line with one more indent is a comment line. -/
theorem comments_lead (l : List Char) (h : ws.Comments s l) :
    ∀ m ∈ lines (s.config.indent.toList ++ l ++ ['\n']), ws.Comments s m := by
  intro m hm
  rcases h with hbare | hcomment
  · refine .inl (isBare_of_mem_lines ?_ hm)
    rw [isBare_append, isBare_append, s.config.indent_isBare, hbare, isBare_newline]
    rfl
  · have hnot : '\n' ∉ s.config.indent.toList ++ l := by
      simp [hline, hcomment.not_mem hline hmark]
    rw [lines_line hnot] at hm
    rw [List.mem_singleton.1 hm]
    obtain ⟨p, hp, text, htext, line, hl, n, rfl⟩ := hcomment
    refine .inr ⟨p, hp, text, htext, line, hl, n + 1, ?_⟩
    rw [List.replicate_succ, List.flatten_cons, List.append_assoc]

end Lines

/-- The comments that are set are texts. -/
def HasTextComments (ws : Workspace) : Prop :=
  ∀ p ∈ ws.blocks, p.block.head.comment.isSet = true → ∃ text, p.block.head.comment = .text text

section Fits

variable {ws : Workspace} {s : Setting} {rules : Rulebook}

theorem mem_blocks_of_below {p q : Block.Placed} (hp : p ∈ ws.blocks)
    (hq : q ∈ Block.descendantsAt p.parent p.inline p.block) : q ∈ ws.blocks := by
  obtain ⟨b, hb, hp⟩ := List.mem_flatMap.1 hp
  exact List.mem_flatMap.2 ⟨b, hb, b.descendantsAt_trans none false p hp q hq⟩

/-- The comments in front of a block are those of blocks of the workspace. -/
theorem mem_nested {p : Block.Placed} (hp : p ∈ ws.blocks) {v : Value}
    (hv : v ∈ (p.block.site rules).inputs.flatMap fun socket => Branch.linkComments socket.2) :
    ∃ q ∈ ws.blocks, q.block.head.comment = v ∧ v.isSet = true := by
  rw [Block.site_nested] at hv
  obtain ⟨⟨head, inputs, statements, next⟩, parent, inline⟩ := p
  obtain ⟨q, hq, hcomment⟩ :=
    Block.mem_socketComments inputs (.mk head inputs statements next) v hv
  refine ⟨q, mem_blocks_of_below hp ?_, hcomment⟩
  rw [Block.descendantsAt]
  exact List.mem_cons_of_mem _ (List.mem_append_left _ (List.mem_append_left _ hq))

theorem commentLine_of_marked {p : Block.Placed} (hp : p ∈ ws.blocks) {l : List Char}
    (h : MarkedLine s.commentMark (p.block.site rules).comments l) : ws.Comments s l := by
  rcases h with hbare | ⟨text, htext, line, hl, rfl⟩
  · exact .inl hbare
  · obtain ⟨q, hq, hcomment⟩ : ∃ q ∈ ws.blocks, q.block.head.comment = .text text := by
      rcases List.mem_cons.1 htext with hown | hnested
      · rw [Block.site_head] at hown
        exact ⟨p, hp, hown.symm⟩
      · obtain ⟨q, hq, hcomment, -⟩ := mem_nested hp hnested
        exact ⟨q, hq, hcomment⟩
    exact .inr ⟨q, hq, text, hcomment, line, hl, 0, rfl⟩

theorem HasTextComments.exists_commentLines (htexts : ws.HasTextComments) {p : Block.Placed}
    (hp : p ∈ ws.blocks) (rules : Rulebook) (mark : String) :
    ∃ out, (p.block.site rules).commentLines mark = .ok out := by
  refine (p.block.site rules).exists_commentLines mark ?_ ?_
  · rw [Block.site_head]
    exact htexts p hp
  · intro v hv
    obtain ⟨q, hq, rfl, hset⟩ := mem_nested hp hv
    exact htexts q hq hset

/-- Without its comments, a block has lost its comment lines. -/
theorem fits_uncommented (hchains : ws.ChainsStatements rules) (htexts : ws.HasTextComments)
    (hmark : '\n' ∉ s.commentMark.toList) :
    ∀ p ∈ ws.blocks, p.Fits ws.HasArms (ws.Comments s) s s rules BlockHead.uncommented := by
  intro p hp
  refine ⟨hchains p hp, fun harmless harms => ?_, ?_⟩
  · rw [harms p hp] at harmless
    cases harmless
  · obtain ⟨out, hout⟩ := htexts.exists_commentLines hp rules s.commentMark
    have hnone : ((p.block.mapHeads BlockHead.uncommented).site rules).commentLines s.commentMark =
        .ok "" := by
      refine Site.commentLines_of_none s.commentMark ?_ ?_
      · rw [Block.site_head, Block.head_mapHeads]
        rfl
      · rw [Block.site_nested, Block.inputs_mapHeads]
        exact Block.socketComments_uncommented p.block.inputs
    have hmarks := Site.commentLines_marks hout
    rw [hout, hnone]
    exact .all hmarks.closed fun l hl => commentLine_of_marked hp (hmarks.marked hmark l hl)

end Fits

end Workspace

namespace Generator

/-- Comments never change the program: with them and without them it comes to the same fault, or to
two texts of which the second is the first without some comment lines and bare lines. White space at
the end of its last line apart, unless every if chain has an arm or an else. -/
theorem uncommented_same_program (language : Language) (config : Config) (ws : Workspace)
    (hlines : (Generator.mk language.dialect config).setting.WholeLines)
    (hunit : '\n' ∉ config.indent.toList)
    (hmark : '\n' ∉ (Generator.mk language.dialect config).setting.commentMark.toList)
    (htexts : ws.HasTextComments) (hchains : ws.ChainsStatements language.dialect.rules)
    (s t : Session) :
    Gen.Answers Eq
      (ShedsProgram ws.HasArms
        (ws.TrimmedComments (Generator.mk language.dialect config).setting))
      (s.generate ⟨language.dialect, config⟩ (.workspace ws)).1
      (t.generate ⟨language.dialect, config⟩ (.workspace ws.uncommented)).1 := by
  let g : Generator := ⟨language.dialect, config⟩
  have hrules : Rulebook.Compares true language.dialect.rules :=
    Rulebook.dialect_compares fun _ => rfl
  have hshed : Shedding true (ws.Comments g.setting) g.setting g.setting :=
    hlines.shedding language.terminator_ink (Workspace.comments_lead hunit hmark)
  exact (hshed.generate hrules (fun _ => rfl) hlines.prologue Workspace.comments_trim
    (fun _ hbare => .inl hbare) (Workspace.fits_uncommented hchains htexts hmark) s.run t.run).imp
      fun _ _ hab => hab.1

/-- Two prints in a chain, with comments at the first and in its value socket. -/
theorem uncommented_prints :
    (({} : Session).generate tracing (.workspace (.prints "say\nit" "what"))).1 =
      .ok "// say\n// it\n// what\ntrace('a')\nPRINT \"hi\"\ntrace('c')\nPRINT \"\"\nEND\n" ∧
    (({} : Session).generate tracing
        (.workspace (Workspace.prints "say\nit" "what").uncommented)).1 =
      .ok "trace('a')\nPRINT \"hi\"\ntrace('c')\nPRINT \"\"\nEND\n" ∧
    (Workspace.prints "say\nit" "what").HasArms ∧
    Gen.Answers Eq
      (ShedsProgram (Workspace.prints "say\nit" "what").HasArms
        ((Workspace.prints "say\nit" "what").TrimmedComments tracing.setting))
      (({} : Session).generate tracing (.workspace (.prints "say\nit" "what"))).1
      (({} : Session).generate tracing
        (.workspace (Workspace.prints "say\nit" "what").uncommented)).1 := by
  have htexts : (Workspace.prints "say\nit" "what").HasTextComments :=
    Workspace.forall_prints (fun _ => ⟨_, rfl⟩) (fun _ => ⟨_, rfl⟩) fun hset => nomatch hset
  refine ⟨by rfl, by rfl, Workspace.prints_hasArms _ _, ?_⟩
  exact uncommented_same_program .fuzeBasic tracing.config _ tracing_wholeLines (by decide)
    (by decide) htexts (Workspace.prints_chainsStatements _ _) {} {}

/-- An if chain with no arm leaves a bare line, and its comment is the last line. Without it the
last line is one of the prologue, which then loses the space at its end. -/
theorem comment_keeps_prologue_space :
    (spaced none).setting.WholeLines ∧ (Workspace.armless "c").HasTextComments ∧
    (Workspace.armless "c").ChainsStatements (spaced none).dialect.rules ∧
    (({} : Session).generate (spaced none) (.workspace (.armless "c"))).1 =
      .ok "x\u00a0\n// c\n" ∧
    (({} : Session).generate (spaced none) (.workspace (Workspace.armless "c").uncommented)).1 =
      .ok "x\n" ∧
    ¬ Deletes (fun _ => True) (lines "x\u00a0\n// c\n".toList) (lines "x\n".toList) := by
  refine ⟨spaced_wholeLines fun _ ht => (nomatch ht), List.forall_mem_singleton.2 fun _ => ⟨_, rfl⟩,
    Workspace.armless_chainsStatements _ _, by rfl, by rfl, fun h => ?_⟩
  exact absurd h.sublist (by decide)

end Generator

end BlockCode
