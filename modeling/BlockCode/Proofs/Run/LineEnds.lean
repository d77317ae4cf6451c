import BlockCode.Proofs.Expression.Emission
import BlockCode.Proofs.Run.Ensures
import BlockCode.Proofs.Run.Shedding
import BlockCode.Proofs.Run.Watch

namespace BlockCode

open Text Branch Gen

namespace Text

/-- Nothing, or whole lines each of which starts with the unit. -/
def Indented (unit text : String) : Prop :=
  text = "" ∨ EndsLine text ∧ ∀ line ∈ lines text.toList, unit.toList <+: line

variable {unit a b : String}

theorem EndsLine.append_closed (ha : EndsLine a) (hb : Closed b) : EndsLine (a ++ b) := by
  rcases hb with rfl | hb
  · rwa [String.append_empty]
  · exact hb.append a

theorem indented_leadLines (hunit : '\n' ∉ unit.toList) (h : EndsLine a) :
    Indented unit (leadLines unit a) := by
  refine .inr ⟨closed_leadLines unit h, ?_⟩
  intro line hline
  rw [lines_leadLines_map hunit h.closed h.ne_empty] at hline
  obtain ⟨rest, -, rfl⟩ := List.mem_map.1 hline
  exact List.prefix_append _ _

theorem Indented.append (ha : Indented unit a) (hb : Indented unit b) : Indented unit (a ++ b) := by
  rcases ha with rfl | ⟨hends, hlines⟩
  · rwa [String.empty_append]
  · rcases hb with rfl | ⟨hends', hlines'⟩
    · rw [String.append_empty]
      exact .inr ⟨hends, hlines⟩
    · refine .inr ⟨hends'.append a, ?_⟩
      intro line hline
      rw [hends.closed.lines_append, List.mem_append] at hline
      exact hline.elim (hlines line) (hlines' line)

end Text

/-- Inserted code is whole lines, and the unit of indentation stays within a line. -/
structure Config.InsertsLines (c : Config) : Prop where
  before : ∀ template ∈ c.before, Closed template
  after : ∀ template ∈ c.after, Closed template
  trap : ∀ template ∈ c.trap, Closed template
  indent : '\n' ∉ c.indent.toList

theorem indented_insertionLines {unit : String} {template : Option String}
    (hunit : '\n' ∉ unit.toList) (h : ∀ t ∈ template, Closed t) (id : String) :
    Indented unit (insertionLines unit template id) := by
  cases template with
  | none => exact .inl rfl
  | some t =>
    rw [insertionLines]
    split
    · exact .inl rfl
    · next hne =>
      have hends : EndsLine t := (h t rfl).resolve_left hne
      exact indented_leadLines hunit (hends.withId id)

/-- Statements are whole lines. -/
def Emission.EndsLines : Emission → Prop
  | .statement code => Closed code
  | .value _ _ => True

/-- What a rule writes as a statement ends its last line, whatever stands in the sockets. -/
theorem Rulebook.Pairs.endsLine {traps : Bool} {rules : Rulebook} {kind : Value} {rule : Rule}
    {site : Site} {code : String} (hrules : rules.Pairs traps)
    (hr : rules.ruleFor kind = .ok (some rule)) (hgive : CanGive (rule site) (.statement code)) :
    EndsLine code := by
  obtain ⟨shape, name, -, hrule⟩ := hrules.ruleFor hr
  obtain ⟨s, hout⟩ := hrule.outcome hgive
  cases shape with
  | value => exact hout.elim
  | statement =>
    rcases hout with ⟨x, y, z, w, rfl, -⟩ | ⟨-, rfl, -⟩
    · exact endsLine_newline _
    · rfl

namespace Site

variable {traps : Bool} {rules : Rulebook} {s : Setting} {site : Site}

theorem nextCode_closed
    (hnext : Ensures (fun _ => True) s Emission.EndsLines (linkCode site.next)) :
    Ensures (fun _ => True) s Closed site.nextCode := by
  rw [site.nextCode_eq]
  refine hnext.bind fun emission hends => ?_
  cases emission with
  | statement code => exact .pure hends
  | value code rank => exact .throw _

/-- Comments stand in front of a statement, so its end is the end of the chain. -/
theorem sequence_closed {code : String} (hcode : EndsLine code)
    (hnext : Ensures (fun _ => True) s Emission.EndsLines (linkCode site.next)) :
    Ensures (fun _ => True) s Closed (site.sequence code) := by
  unfold sequence
  refine .read_bind (.bind (.any (site.commentLines s.commentMark)) fun comments _ => ?_)
  refine (nextCode_closed hnext).bind fun rest hrest => .pure ?_
  exact ((hcode.append comments).append_closed hrest).closed

theorem placed_endsLines {outcome : Outcome} (hafter : ∀ t ∈ s.config.after, Closed t)
    (hcode : ∀ code, outcome = .statement code → EndsLine code)
    (hnext : Ensures (fun _ => True) s Emission.EndsLines (linkCode site.next)) :
    Ensures (fun _ => True) s Emission.EndsLines (site.placed outcome) := by
  cases outcome with
  | nothing => exact .pure closed_empty
  | statement code =>
    have hwrapped : EndsLine (site.wrapped s.config code) :=
      ((hcode code rfl).append _).append_closed (closed_insertion hafter site.id)
    unfold placed
    exact .read_bind ((sequence_closed hwrapped hnext).bind fun text htext => .pure htext)
  | value code rank =>
    have hany : Ensures (fun _ => True) s (fun _ => True) (site.sequence code) :=
      fun r _ => ⟨fun _ _ => trivial, fun _ _ => trivial⟩
    exact hany.bind fun text _ => .pure trivial
  | misfit what => exact .throw _

/-- One block of a chain: if the rest of the chain is whole lines, so is the chain. -/
theorem emit_endsLines (hrules : rules.Pairs traps) (hafter : ∀ t ∈ s.config.after, Closed t)
    (hnext : Ensures (fun _ => True) s Emission.EndsLines (linkCode site.next)) :
    Ensures (fun _ => True) s Emission.EndsLines (site.emit rules) := by
  unfold emit
  split
  · rw [site.skipped_eq]
    exact hnext
  · have hfind : Ensures (fun _ => True) s (fun found => rules.ruleFor site.head.kind = .ok found)
        (Gen.ofExcept (rules.ruleFor site.head.kind)) := .ofExcept fun _ h => h
    refine hfind.bind fun found hfound => ?_
    cases found with
    | none => exact .read_bind (.throw _)
    | some rule =>
      have hgives : Ensures (fun _ => True) s (CanGive (rule site)) (rule site) :=
        fun r _ => ⟨fun _ _ => trivial, fun outcome hout => ⟨s, r, hout⟩⟩
      refine hgives.bind fun outcome hgive => ?_
      refine placed_endsLines hafter ?_ hnext
      rintro code rfl
      exact hrules.endsLine hfound hgive

theorem body_indented {socket : String} (hunit : '\n' ∉ s.config.indent.toList)
    (hplug : Ensures (fun _ => True) s Emission.EndsLines
      (linkCode (plugged site.statements socket))) :
    Ensures (fun _ => True) s (Indented s.config.indent) (site.body socket) := by
  rw [site.body_eq]
  refine hplug.bind fun emission hends => ?_
  cases emission with
  | value code rank => exact .throw _
  | statement code =>
    dsimp only
    split
    · exact .pure (.inl rfl)
    · next hne => exact .read_bind (.pure (indented_leadLines hunit (hends.resolve_left hne)))

theorem trapped_indented {branch : String} (h : s.config.InsertsLines)
    (hbranch : Indented s.config.indent branch) :
    Ensures (fun _ => True) s (Indented s.config.indent) (site.trapped branch) := by
  have htrap := indented_insertionLines h.indent h.trap site.id
  have hbefore := indented_insertionLines h.indent h.before site.id
  exact .read_bind (.pure ((htrap.append hbranch).append hbefore))

end Site

namespace Block

variable {traps : Bool} {rules : Rulebook} {s : Setting}

mutual

theorem branchAt_endsLines (hrules : rules.Pairs traps)
    (hafter : ∀ t ∈ s.config.after, Closed t) (inline : Bool) : ∀ b : Block,
      Ensures (fun _ => True) s Emission.EndsLines (branchAt rules inline b).code
  | .mk head inputs statements next => by
    have hnext := linkBranch_endsLines hrules hafter false next
    rw [branchAt]
    exact Site.emit_endsLines hrules hafter hnext

theorem linkBranch_endsLines (hrules : rules.Pairs traps)
    (hafter : ∀ t ∈ s.config.after, Closed t) (inline : Bool) : ∀ link : Option Block,
      Ensures (fun _ => True) s Emission.EndsLines (linkCode (linkBranch rules inline link))
  | none => .pure closed_empty
  | some b => by
    rw [linkBranch]
    exact branchAt_endsLines hrules hafter inline b

end

/-- A block in its place, as its rule sees it. -/
def siteAt (rules : Rulebook) (inline : Bool) (b : Block) : Site :=
  { b.site rules with inline }

theorem body_indented (hrules : rules.Pairs traps) (h : s.config.InsertsLines) (inline : Bool)
    (b : Block) (socket : String) :
    Ensures (fun _ => True) s (Indented s.config.indent) ((b.siteAt rules inline).body socket) := by
  refine Site.body_indented h.indent ?_
  obtain ⟨head, inputs, statements, next⟩ := b
  rw [siteAt, site, plugged_socketBranches]
  cases (statements.lookup socket).join with
  | none => exact .pure closed_empty
  | some plug => exact branchAt_endsLines hrules h.after false plug

theorem loopBody_indented (hrules : rules.Pairs traps) (h : s.config.InsertsLines) (inline : Bool)
    (b : Block) (socket : String) :
    Ensures (fun _ => True) s (Indented s.config.indent)
      ((b.siteAt rules inline).loopBody socket) :=
  (b.body_indented hrules h inline socket).bind fun _ hbranch => Site.trapped_indented h hbranch

end Block

namespace Generator

/-- Statements do not run together, and bodies are indented as a whole: wherever the block stands and
whatever the run is, its code as a statement is whole lines, and every line of the code in one of its
statement sockets starts with the unit of indentation, also with the code that is inserted into
loops around it. -/
theorem statements_whole_bodies_indented (language : Language) (config : Config)
    (h : config.InsertsLines) (b : Block) (inline : Bool) (r : Run) :
    let rules := language.dialect.rules
    let s := Generator.setting ⟨language.dialect, config⟩
    (∀ code, (exec (b.branchAt rules inline).code s r).1 = .ok (.statement code) → Closed code) ∧
    (∀ socket body, (exec ((b.siteAt rules inline).body socket) s r).1 = .ok body →
      Indented config.indent body) ∧
    ∀ socket body, (exec ((b.siteAt rules inline).loopBody socket) s r).1 = .ok body →
      Indented config.indent body := by
  intro rules s
  have hrules : rules.Pairs true := Rulebook.dialect_pairs (fun _ => rfl)
  have hkeeps : r.Keeps fun _ => True := fun _ _ => trivial
  refine ⟨?_, ?_, ?_⟩
  · intro code hcode
    exact (Block.branchAt_endsLines hrules h.after inline b r hkeeps).2 _ hcode
  · intro socket body hbody
    exact (b.body_indented hrules h inline socket r hkeeps).2 body hbody
  · intro socket body hbody
    exact (b.loopBody_indented hrules h inline socket r hkeeps).2 body hbody

/-- Code in front of every statement and at the top of loops, on lines of its own. -/
def tracedLoops : Config :=
  { before := some "trace(%1);\n", after := some "", trap := some "check();\n", indent := "\t" }

/-- A loop that is left at once, and a statement behind it. -/
def leftLoop : Block :=
  let leave : Block :=
    .mk { kind := "controls_flow_statements", fields := .map [("FLOW", "BREAK")], id := "b" } [] []
      none
  .mk { kind := "controls_whileUntil", fields := .map [("MODE", "WHILE")], id := "w" } []
    [("DO", some leave)] (some leave)

theorem tracedLoops_insertsLines : tracedLoops.InsertsLines where
  before := by rintro _ ⟨⟩; exact .inr rfl
  after := by rintro _ ⟨⟩; exact .inl rfl
  trap := by rintro _ ⟨⟩; exact .inr rfl
  indent := by decide

theorem leftLoop_whole_indented :
    let rules := Language.divGames.dialect.rules
    let s := Generator.setting ⟨Language.divGames.dialect, tracedLoops⟩
    tracedLoops.InsertsLines ∧
    (∃ body, body = "\tcheck();\n\ttrace('b');\n\tBREAK;\n\ttrace('w');\n" ∧
      (exec ((leftLoop.siteAt rules false).loopBody "DO") s {}).1 = .ok body ∧
      Indented tracedLoops.indent body) ∧
    ∃ code, (exec (leftLoop.branchAt rules false).code s {}).1 = .ok (.statement code) ∧
      Closed code := by
  obtain ⟨hcode, -, hloop⟩ :=
    statements_whole_bodies_indented .divGames tracedLoops tracedLoops_insertsLines leftLoop false {}
  exact ⟨tracedLoops_insertsLines, ⟨_, rfl, rfl, hloop "DO" _ rfl⟩, _, rfl, hcode _ rfl⟩

end Generator

end BlockCode
