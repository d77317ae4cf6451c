import BlockCode.Proofs.Run.Chains
import BlockCode.Proofs.Run.Refusals
import BlockCode.Session

namespace BlockCode

open Operand Gen

namespace Rules

variable {w : Allowance} {s : Setting}

section Codes

variable {a b code : String}

theorem fits_of_ink (h : (code.toList.all fun c => !Text.isBlank c) = true) : w.Fits code :=
  .inr (isReadable_of_ink (not_isBlank_of_all h))

/-- A value with something at its end that no number has. -/
theorem tame_ending (a : String) {d : String} (hd : HasForeign d) (k : Rank) :
    Outcome.IsTame w (.value (a ++ d) (.int k)) :=
  ⟨.inr (hd.append_right a).isReadable, k, rfl⟩

/-- Two operands with an operator between them that is no minus sign. -/
theorem tame_between (a b : String) {d : String} (hd : HasForeign d) (k : Rank) :
    Outcome.IsTame w (.value (a ++ d ++ b) (.int k)) :=
  ⟨.inr ((hd.append_right a).append_left b).isReadable, k, rfl⟩

theorem tame_word (h : HasForeign code) (k : Rank) : Outcome.IsTame w (.value code (.int k)) :=
  ⟨.inr h.isReadable, k, rfl⟩

/-- A helper routine and what is done with its name. -/
theorem yields_provide {α : Type} {Q : α → Prop} (key : String) (template : String → List String)
    {f : String → Gen α} (hf : ∀ name, Yields w s Q (f name)) :
    Yields w s Q (do f (← Gen.provide (.text key) (template (← Gen.placeholder)))) := by
  refine Yields.placeholder.bind fun placeholder _ => ?_
  exact (Yields.provide (.inr ⟨key, rfl⟩) _).bind fun name _ => hf name

/-- A statement of one line. -/
theorem yields_line (h : HasForeign code) :
    Yields w s (Outcome.IsTame w) (do return .statement (← Gen.statement code)) := by
  refine (Yields.statement code).bind ?_
  rintro _ rfl
  exact .pure ((h.append_left _).append_left _)

end Codes

variable {kind : String}

section Logic

theorem ifChain_tame : ifChain.IsTame w s kind := by
  intro site h _ _
  refine (h.shapeOr "elseif" (.int 0)).bind ?_
  rintro _ rfl
  refine (Yields.pure (Q := (· = (0 : Int))) rfl).bind ?_
  rintro _ rfl
  refine (h.shapeOr "else" (.int 0)).bind ?_
  rintro _ rfl
  refine (Yields.mapM (Q := HasForeign) fun n _ => ?_).bind fun arms harms => ?_
  · refine (h.valueOr _ _ (fits_of_ink (by decide))).bind fun condition _ => ?_
    refine (h.body _).bind fun body _ => .pure ?_
    exact HasForeign.append_right (by decide) _
  · -- without shape data there is the first arm and no other
    obtain ⟨arm, rfl⟩ := List.length_eq_one_iff.1 harms.1
    have harm : HasForeign arm := harms.2 arm List.mem_cons_self
    rw [String.join_cons]
    exact .pure (((harm.append_left _).append_left _).append_left _)

theorem comparison_tame : comparison.IsTame w s kind := by
  have htable : ∀ entry ∈ comparisons, HasForeign entry.2.1 := by
    decide
  intro site h _ _
  refine (h.option _ _).bind ?_
  rintro ⟨operator, rank⟩ ⟨word, hentry⟩
  refine (h.valueOr _ _ (fits_of_ink (by decide))).bind fun left _ => ?_
  refine (h.valueOr _ _ (fits_of_ink (by decide))).bind fun right _ => .pure ?_
  have hoperator : HasForeign operator := htable _ hentry
  exact tame_word (((hoperator.append_right _).append_left _).append_left _) rank

theorem connective_tame : connective.IsTame w s kind := by
  have htable : ∀ entry ∈ connectives, HasForeign entry.2.1 := by
    decide
  intro site h _ _
  refine (h.option _ _).bind ?_
  rintro ⟨operator, rank, neutral⟩ ⟨word, hentry⟩
  refine (h.value _ _).bind fun left _ => (h.value _ _).bind fun right _ => .pure ?_
  have hoperator : HasForeign operator := htable _ hentry
  exact tame_word (((hoperator.append_right _).append_left _).append_left _) rank

theorem negation_tame : negation.IsTame w s kind := by
  intro site h _ _
  refine (h.valueOr _ _ (fits_of_ink (by decide))).bind fun operand _ => .pure ?_
  exact tame_word (HasForeign.append_left (by decide) operand) _

theorem truthLiteral_tame : truthLiteral.IsTame w s kind := by
  have htable : ∀ entry ∈ [("TRUE", "true"), ("FALSE", "false")], HasForeign entry.2 := by
    decide
  intro site h _ _
  refine (h.option _ _).bind ?_
  rintro code ⟨word, hentry⟩
  exact .pure (tame_word (htable _ hentry) _)

theorem nullLiteral_tame : nullLiteral.IsTame w s kind :=
  fun _ _ _ _ => .pure (tame_word (by decide) _)

theorem choice_tame : choice.IsTame w s kind := by
  intro site h _ _
  refine (h.valueOr _ _ (fits_of_ink (by decide))).bind fun condition _ => ?_
  refine (h.valueOr _ _ (fits_of_ink (by decide))).bind fun yes _ => ?_
  refine (h.valueOr _ _ (fits_of_ink (by decide))).bind fun no _ => .pure ?_
  exact tame_between _ no (by decide) _

end Logic

section Colour

theorem colourLiteral_tame : colourLiteral.IsTame w s kind := by
  intro site h _ _
  exact (h.fieldOr _ _).bind fun v _ => .pure (tame_ending _ (by decide) _)

theorem randomColour_tame : randomColour.IsTame w s kind := by
  intro site h _ _
  exact yields_provide _ randomColourHelper fun name => .pure (tame_ending _ (by decide) _)

theorem mix_tame : mix.IsTame w s kind := by
  intro site h _ _
  refine (h.valueOr _ _ (fits_of_ink (by decide))).bind fun red _ => ?_
  refine (h.valueOr _ _ (fits_of_ink (by decide))).bind fun green _ => ?_
  refine (h.valueOr _ _ (fits_of_ink (by decide))).bind fun blue _ => ?_
  exact yields_provide _ mixHelper fun name => .pure (tame_ending _ (by decide) _)

theorem blend_tame : blend.IsTame w s kind := by
  intro site h _ _
  refine (h.valueOr _ _ (fits_of_ink (by decide))).bind fun first _ => ?_
  refine (h.valueOr _ _ (fits_of_ink (by decide))).bind fun second _ => ?_
  refine (h.valueOr _ _ (fits_of_ink (by decide))).bind fun ratio _ => ?_
  exact yields_provide _ blendHelper fun name => .pure (tame_ending _ (by decide) _)

end Colour

section Variable

theorem variableValue_tame : variableValue.IsTame w s kind := by
  intro site h _ _
  refine (h.field "VAR").bind fun name hname => ?_
  exact (Yields.nameOf hname.1 .var).bind fun code hcode => .pure (tame_word hcode _)

theorem assign_tame : assign.IsTame w s kind := by
  intro site h _ _
  refine (h.valueOr _ _ (fits_of_ink (by decide))).bind fun value _ => ?_
  refine (h.field "VAR").bind fun name hname => (Yields.nameOf hname.1 .var).bind fun code hcode => ?_
  exact yields_line ((hcode.append_left _).append_left _)

end Variable

section Number

theorem fits_numberCode {x : Binary64} {code : String} {rank : Rank}
    (h : numberCode? x = some (code, rank)) : w.Fits code := by
  unfold numberCode? at h
  split at h
  · cases h
  · split at h <;> cases h <;> exact fits_of_ink (by decide)
  · cases h
    exact .inr (isReadable_numberText x)

theorem numberLiteral_tame : numberLiteral.IsTame w s kind := by
  intro site h _ _
  refine (h.fieldOr "NUM" (.int 0)).bind fun raw hraw => ?_
  have hrange : raw.toReal ≠ .error .beyondRange := by
    rcases hraw.2 with rfl | ⟨text, rfl⟩
    · rintro ⟨⟩
    · rw [Value.toReal]
      cases Reading.real? text <;> rintro ⟨⟩
  dsimp only
  split
  · next hbeyond => exact absurd hbeyond hrange
  · exact .throw rfl
  · next x _ =>
    split
    · next code rank hcode => exact .pure ⟨fits_numberCode hcode, rank, rfl⟩
    · exact .throw rfl

/-- A difference has white space behind its minus sign. -/
theorem tame_difference (a b : String) (k : Rank) :
    Outcome.IsTame w (.value (a ++ " - " ++ b) (.int k)) := by
  have hsplit : a ++ " - " ++ b = a ++ " " ++ "- " ++ b := by
    simp only [String.append_assoc]
    rfl
  rw [hsplit]
  exact ⟨.inr (isReadable_loose_minus _ b), k, rfl⟩

theorem arithmetic_tame : arithmetic.IsTame w s kind := by
  have htable : ∀ entry ∈ arithmetics, ∀ sign ∈ entry.2.sign, sign = " - " ∨ HasForeign sign := by
    decide
  intro site h _ _
  refine (h.option _ _).bind ?_
  rintro ⟨sign, rank, right⟩ ⟨word, hentry⟩
  refine (h.valueOr _ _ (fits_of_ink (by decide))).bind fun left _ => ?_
  refine (h.valueOr _ _ (fits_of_ink (by decide))).bind fun right _ => ?_
  cases sign with
  | none => exact .pure (tame_ending _ (by decide) _)
  | some sign =>
    rcases htable _ hentry sign rfl with rfl | hsign
    · exact .pure (tame_difference left right rank)
    · exact .pure (tame_between left right hsign rank)

theorem fits_minus {code : String} (h : w.Fits code) : w.Fits ("-" ++ spaceMinus code) := by
  unfold spaceMinus
  split
  · have hsplit : "-" ++ (" " ++ code) = "" ++ "- " ++ code := by
      rw [← String.append_assoc]
      rfl
    rw [hsplit]
    exact .inr (isReadable_loose_minus "" code)
  · exact h.minus

theorem single_tame : single.IsTame w s kind := by
  have hcalls : ∀ entry ∈ singleCalls, HasForeign entry.2.after := by
    decide
  have hquotients : ∀ entry ∈ singleQuotients, HasForeign entry.2.after := by
    decide
  have hframe : ∀ {table : List (String × Frame)} {op : Option String} {frame : Frame},
      (∀ entry ∈ table, HasForeign entry.2.after) → op.bind (table.lookup ·) = some frame →
        HasForeign frame.after := by
    intro table op frame htable hfound
    obtain ⟨word, hmem⟩ := exists_mem_of_lookup hfound
    exact htable _ hmem
  intro site h _ _
  refine (h.field "OP").bind fun op hop => ?_
  dsimp only
  split
  · refine (h.valueOr _ _ (fits_of_ink (by decide))).bind fun operand hoperand => ?_
    exact .pure ⟨fits_minus hoperand, _, rfl⟩
  · refine (h.valueOr _ _ (fits_of_ink (by decide))).bind fun operand _ => ?_
    rw [hop.1.isKey]
    simp only [Bool.not_true, Bool.false_eq_true, if_false]
    split
    · next frame _ hfound => exact .pure (tame_ending _ (hframe hcalls hfound) _)
    · next frame _ hfound => exact .pure (tame_ending _ (hframe hquotients hfound) _)
    · exact .throw rfl

theorem constant_tame : constant.IsTame w s kind := by
  have htable : ∀ entry ∈ constants, HasForeign entry.2.1 := by
    decide
  intro site h _ _
  refine (h.option _ _).bind ?_
  rintro ⟨code, rank⟩ ⟨word, hentry⟩
  exact .pure (tame_word (htable _ hentry) rank)

theorem numberTest_tame : numberTest.IsTame w s kind := by
  have htable : ∀ entry ∈ numberTests, ∀ frame rank, entry.2 = .remainder frame rank →
      HasForeign frame.after := by
    simp only [numberTests, List.forall_mem_cons, List.not_mem_nil, IsEmpty.forall_iff, implies_true,
      and_true]
    refine ⟨?_, ?_, ?_, ?_, ?_, ?_, ?_⟩ <;> rintro _ _ ⟨⟩ <;> decide
  intro site h _ _
  refine (h.option _ _).bind ?_
  rintro test ⟨word, hentry⟩
  cases test with
  | prime =>
    refine (h.valueOr _ _ (fits_of_ink (by decide))).bind fun number _ => ?_
    exact yields_provide _ primeHelper fun name => .pure (tame_ending _ (by decide) _)
  | whole =>
    refine (h.valueOr _ _ (fits_of_ink (by decide))).bind fun number _ => .pure ?_
    exact tame_ending _ (by decide) _
  | divisible =>
    refine (h.valueOr _ _ (fits_of_ink (by decide))).bind fun number _ => ?_
    refine (h.valueOr _ _ (fits_of_ink (by decide))).bind fun divisor _ => .pure ?_
    exact tame_ending _ (by decide) _
  | remainder frame rank =>
    refine (h.valueOr _ _ (fits_of_ink (by decide))).bind fun number _ => .pure ?_
    exact tame_ending _ (htable _ hentry frame rank rfl) rank

theorem aggregate_tame : aggregate.IsTame w s kind := by
  intro site h _ _
  refine (h.field "OP").bind fun op hop => ?_
  refine (h.valueOr _ _ (fits_of_ink (by decide))).bind fun items _ => ?_
  rw [hop.1.isKey]
  simp only [Bool.not_true, Bool.false_eq_true, if_false]
  split
  · exact .pure (tame_ending _ (by decide) _)
  · refine (h.option _ _).bind ?_
    rintro ⟨key, template⟩ -
    exact yields_provide _ template fun name => .pure (tame_ending _ (by decide) _)

theorem remainder_tame : remainder.IsTame w s kind := by
  intro site h _ _
  refine (h.valueOr _ _ (fits_of_ink (by decide))).bind fun dividend _ => ?_
  refine (h.valueOr _ _ (fits_of_ink (by decide))).bind fun divisor _ => .pure ?_
  exact tame_between dividend divisor (by decide) _

theorem clamp_tame : clamp.IsTame w s kind := by
  intro site h _ _
  refine (h.valueOr _ _ (fits_of_ink (by decide))).bind fun number _ => ?_
  refine (h.valueOr _ _ (fits_of_ink (by decide))).bind fun low _ => ?_
  refine (h.valueOr _ _ (fits_of_ink (by decide))).bind fun high _ => .pure ?_
  exact tame_ending _ (by decide) _

theorem randomInteger_tame : randomInteger.IsTame w s kind := by
  intro site h _ _
  refine (h.valueOr _ _ (fits_of_ink (by decide))).bind fun low _ => ?_
  refine (h.valueOr _ _ (fits_of_ink (by decide))).bind fun high _ => ?_
  exact yields_provide _ randomIntegerHelper fun name => .pure (tame_ending _ (by decide) _)

theorem randomFraction_tame : randomFraction.IsTame w s kind :=
  fun _ _ _ _ => .pure (tame_word (by decide) _)

theorem change_tame : change.IsTame w s kind := by
  intro site h _ _
  refine (h.valueOr _ _ (fits_of_ink (by decide))).bind fun delta _ => ?_
  refine (h.field "VAR").bind fun name hname => (Yields.nameOf hname.1 .var).bind fun code hcode => ?_
  exact yields_line (HasForeign.append_left (HasForeign.append_right (by decide) _) delta)

end Number

section Loop

theorem countedLoop_yields {last : String} (name body : String) (hlast : w.Fits last) :
    Yields w s HasForeign (countedLoop name last body) := by
  have hforms (rises : Bool) : HasForeign
      (if rises then countingForm name last body else testedForm name last body) := by
    cases rises <;> exact HasForeign.append_right (by decide) _
  unfold countedLoop
  split
  · next hnumber =>
    exact (Yields.readNumber hlast hnumber).bind fun bound _ => .pure (hforms _)
  · exact .pure (hforms _)

theorem cached_yields {code : String} (base : String) (h : w.Fits code) :
    Yields w s (fun answer => w.Fits answer.1) (cached code base) := by
  unfold cached
  split
  · exact .pure h
  · refine (Yields.temporary (.inr ⟨base, rfl⟩)).bind fun name hname => ?_
    exact (Yields.statement _).bind fun _ _ => .pure (Allowance.fits_of_foreign hname)

/-- The loop that takes for granted that its field is a number. -/
theorem repeatFixed_tame (hcounts : w.counts) : repeatFixed.IsTame w s "controls_repeat" := by
  intro site h henabled hkind
  refine (h.fieldOr "TIMES" (.int 0)).bind fun raw hraw => ?_
  have hread : Yields w s (fun _ => True) (Gen.ofExcept raw.toReal) := by
    rcases hraw with ⟨hfield, rfl | ⟨text, rfl⟩⟩
    · exact .pure trivial
    · intro r hr
      rw [exec_ofExcept, Value.toReal]
      cases hreal : Reading.real? text with
      | some x => exact ⟨hr, trivial⟩
      | none =>
        have hrepeats : site.head.Repeats text :=
          ⟨henabled, hkind, h.head.field_of_entryOr hfield⟩
        exact ⟨hr, .inr ⟨text, rfl, h.times hcounts text hrepeats hreal⟩⟩
  refine hread.bind fun times _ => (Yields.temporary (.inr ⟨"count", rfl⟩)).bind fun name _ => ?_
  refine (h.loopBody "DO").bind fun body _ => ?_
  exact (countedLoop_yields name body (.inr (isReadable_numberText times))).bind
    fun loop hloop => .pure hloop

theorem repeatComputed_tame : repeatComputed.IsTame w s kind := by
  intro site h _ _
  refine (h.valueOr _ _ (fits_of_ink (by decide))).bind fun times htimes => ?_
  refine (Yields.temporary (.inr ⟨"count", rfl⟩)).bind fun name _ => ?_
  refine (cached_yields "repeat_end" htimes).bind fun last hlast => ?_
  refine (h.loopBody "DO").bind fun body _ => ?_
  exact (countedLoop_yields name body hlast).bind fun loop hloop => .pure (hloop.append_right _)

theorem whileLoop_tame : whileLoop.IsTame w s kind := by
  intro site h _ _
  refine (h.option _ _).bind fun until_ _ => ?_
  have hrest (condition : String) : Yields w s (Outcome.IsTame w) (do
      let body ← site.loopBody "DO"
      return .statement ("WHILE (" ++ condition ++ ")\n" ++ body ++ "END\n")) :=
    (h.loopBody "DO").bind fun body _ => .pure (HasForeign.append_right (by decide) _)
  dsimp only
  split
  · exact (h.valueOr _ _ (fits_of_ink (by decide))).bind fun condition _ => hrest ("!" ++ condition)
  · exact (h.valueOr _ _ (fits_of_ink (by decide))).bind fun condition _ => hrest condition

theorem hasForeign_computedCount (name first last step indent turn body : String) :
    HasForeign (computedCount name first last step indent turn body) := by
  unfold computedCount
  exact HasForeign.append_right (by decide) _

theorem stepSize_yields {code : String} (h : w.Fits code) :
    Yields w s (fun _ => True) (stepSize code) := by
  unfold stepSize
  split
  · next hnumber => exact (Yields.readNumber h hnumber).bind fun _ _ => .pure trivial
  · exact .pure trivial

/-- The bounds and the step of a count can be read where they are numbers. -/
structure CountParts.IsTame (w : Allowance) (p : CountParts) : Prop where
  first : w.Fits p.first
  last : w.Fits p.last
  increment : w.Fits p.increment

theorem countParts_tame {site : Site} (h : site.IsTame w s) :
    Yields w s (CountParts.IsTame w) (countParts site) := by
  refine (h.field "VAR").bind fun var hvar => (Yields.nameOf hvar.1 .var).bind fun name _ => ?_
  refine (h.valueOr _ _ (fits_of_ink (by decide))).bind fun first hfirst => ?_
  refine (h.valueOr _ _ (fits_of_ink (by decide))).bind fun last hlast => ?_
  refine (h.valueOr _ _ (fits_of_ink (by decide))).bind fun increment hincrement => ?_
  exact (h.loopBody "DO").bind fun body _ => .pure ⟨hfirst, hlast, hincrement⟩

namespace CountParts.IsTame

variable {p : CountParts} (h : CountParts.IsTame w p)
include h

theorem literal (hliteral : p.isLiteral = true) : Yields w s (Outcome.IsTame w) p.literal := by
  simp only [CountParts.isLiteral, Bool.and_eq_true] at hliteral
  refine (Yields.readNumber h.increment hliteral.2).bind fun x _ => ?_
  refine (Yields.readNumber h.first hliteral.1.1).bind fun a _ => ?_
  refine (Yields.readNumber h.last hliteral.1.2).bind fun b _ => .pure ?_
  exact HasForeign.append_right (by decide) _

theorem computed : Yields w s (Outcome.IsTame w) p.computed := by
  refine (cached_yields _ h.first).bind fun start _ => ?_
  refine (cached_yields _ h.last).bind fun finish _ => ?_
  refine (Yields.temporary (.inr ⟨_, rfl⟩)).bind fun step _ => ?_
  refine (stepSize_yields h.increment).bind fun size _ => ?_
  refine (Yields.statement _).bind fun setup _ => (Yields.statement _).bind fun turn _ => ?_
  refine Yields.indent.bind fun indent _ => .pure ?_
  exact (hasForeign_computedCount p.name start.1 finish.1 step indent turn p.body).append_right _

end CountParts.IsTame

theorem count_tame : count.IsTame w s kind := by
  intro site h _ _
  refine (countParts_tame h).bind fun p hp => ?_
  unfold CountParts.code
  split
  · next hliteral => exact hp.literal hliteral
  · exact hp.computed

theorem jump_tame : jump.IsTame w s kind := by
  have htable : ∀ entry ∈ [("BREAK", "BREAK"), ("CONTINUE", "CONTINUE")], HasForeign entry.2 := by
    decide
  intro site h _ _
  refine (h.option _ _).bind ?_
  rintro word ⟨flow, hentry⟩
  exact yields_line (htable _ hentry)

end Loop

section Process

theorem processDefinition_tame : processDefinition.IsTame w s kind := by
  intro site h _ _
  refine (h.field "NAME").bind fun raw hraw => (Yields.nameOf hraw.1 .procedure).bind fun name _ => ?_
  refine (h.body "STACK").bind fun stack _ => .read_bind ?_
  refine (h.value "RETURN" _).bind fun value _ => ?_
  have hrest (result : String) : Yields w s (Outcome.IsTame w) (do
      let arguments ← Gen.ofExcept site.head.arguments
      let names ← arguments.mapM fun argument => Gen.variableName (.text argument)
      let code ← site.sequence (processText name (", ".intercalate names)
        (insertionLines s.config.indent s.config.trap site.id ++
          (insertionLines s.config.indent s.config.before site.id ++ stack)) result)
      Gen.define (processKey name) code
      return .nothing) := by
    refine h.arguments.bind ?_
    rintro _ rfl
    refine (Yields.pure (Q := fun _ => True) trivial).bind fun names _ => ?_
    refine (h.sequence _).bind fun code _ => ?_
    exact (Yields.define (.inr ⟨_, rfl⟩) code).bind fun _ _ => .pure trivial
  dsimp only
  split
  · exact hrest ""
  · exact (Yields.statement _).bind fun line _ => hrest _

theorem callCode_yields {site : Site} (h : site.IsTame w s) :
    Yields w s HasForeign (callCode site) := by
  refine (h.field "NAME").bind fun raw hraw => (Yields.nameOf hraw.1 .procedure).bind fun name _ => ?_
  refine h.arguments.bind ?_
  rintro _ rfl
  refine (Yields.pure (Q := fun _ => True) trivial).bind fun values _ => .pure ?_
  exact HasForeign.append_right (by decide) _

theorem callValue_tame : callValue.IsTame w s kind := by
  intro site h _ _
  exact (callCode_yields h).bind fun code hcode => .pure (tame_word hcode _)

theorem callStatement_tame : callStatement.IsTame w s kind := by
  intro site h _ _
  exact (callCode_yields h).bind fun code hcode => yields_line hcode

theorem earlyReturn_tame : earlyReturn.IsTame w s kind := by
  intro site h _ _
  refine (h.valueOr _ _ (fits_of_ink (by decide))).bind fun condition _ => ?_
  have hrest (code : String) : Yields w s (Outcome.IsTame w) (do
      let result ← Gen.statement code
      return .statement
        ("IF (" ++ condition ++ ")\n" ++ (← Gen.indent) ++ result ++ "END\n")) := by
    refine (Yields.statement _).bind fun result _ => Yields.indent.bind fun indent _ => .pure ?_
    exact HasForeign.append_right (by decide) _
  refine (h.shapeOr _ _).bind fun shape _ => ?_
  dsimp only
  split
  · exact (h.valueOr _ _ (fits_of_ink (by decide))).bind fun value _ => hrest _
  · exact hrest "RETURN"

end Process

section Phrase

theorem hasForeign_literal (text : String) : HasForeign (Text.literal text) := by
  unfold HasForeign Text.literal Text.literalChars
  rw [String.toList_ofList, List.any_cons]
  rfl

theorem textLiteral_tame : textLiteral.IsTame w s kind := by
  intro site h _ _
  exact (h.fieldOr _ _).bind fun v _ => .pure (tame_word (hasForeign_literal _) _)

theorem textJoin_tame : textJoin.IsTame w s kind := by
  intro site h _ _
  refine (h.shapeOr "items" (.int 0)).bind ?_
  rintro _ rfl
  exact .pure_bind (.pure (tame_word (by decide) _))

theorem textAppend_tame : textAppend.IsTame w s kind := by
  intro site h _ _
  refine (h.field "VAR").bind fun name hname => (Yields.nameOf hname.1 .var).bind fun code hcode => ?_
  refine (h.valueOr _ _ (fits_of_ink (by decide))).bind fun value _ => ?_
  exact yields_line (HasForeign.append_left (HasForeign.append_right (by decide) _) value)

theorem textCall_tame (function socket : String) : (textCall function socket).IsTame w s kind := by
  intro site h _ _
  refine (h.valueOr _ _ (fits_of_ink (by decide))).bind fun value _ => .pure ?_
  exact tame_ending _ (by decide) _

theorem textSearch_tame : textSearch.IsTame w s kind := by
  intro site h _ _
  refine (h.option _ _).bind ?_
  rintro ⟨key, builtin⟩ -
  refine (h.valueOr _ _ (fits_of_ink (by decide))).bind fun find _ => ?_
  refine (h.valueOr _ _ (fits_of_ink (by decide))).bind fun value _ => ?_
  exact yields_provide _ (searchHelper · builtin) fun name => .pure (tame_ending _ (by decide) _)

theorem shiftedPosition_yields {code : String} (h : w.Fits code) :
    Yields w s (fun _ => True) (shiftedPosition code) := by
  unfold shiftedPosition
  split
  · next hnumber => exact (Yields.readNumber h hnumber).bind fun _ _ => .pure trivial
  · exact .pure trivial

theorem textLetter_tame : textLetter.IsTame w s kind := by
  intro site h _ _
  refine (h.field "WHERE").bind fun raw _ => ?_
  dsimp only
  split
  · exact .throw rfl
  · next word _ =>
    refine (h.valueOr _ _ (fits_of_ink (by decide))).bind fun value _ => ?_
    have hletter (position : String) :
        Outcome.IsTame w (.value (letterCode value position) (.int Rank.functionCall)) :=
      tame_ending _ (by decide) _
    split
    · exact .pure (hletter _)
    · split
      · exact .pure (hletter _)
      · split
        · exact yields_provide _ randomLetterHelper fun name => .pure (tame_ending _ (by decide) _)
        · split
          · refine (h.valueOr _ _ (fits_of_ink (by decide))).bind fun at_ hat => ?_
            exact (shiftedPosition_yields hat).bind fun position _ => .pure (hletter position)
          · exact (h.valueOr _ _ (fits_of_ink (by decide))).bind fun at_ _ => .pure (hletter _)

theorem cutPosition_yields (site : Site) (field : String) (raw : Value) :
    Yields w s (fun _ => True) (cutPosition site field raw) := by
  unfold cutPosition
  split
  · exact .pure trivial
  · exact .throw rfl

theorem textCut_tame : textCut.IsTame w s kind := by
  intro site h _ _
  refine (h.field "WHERE1").bind fun raw1 _ => (h.field "WHERE2").bind fun raw2 _ => ?_
  split
  · refine (h.valueOr _ _ (fits_of_ink (by decide))).bind fun value hvalue => .pure ?_
    exact ⟨hvalue, _, rfl⟩
  · refine (h.valueOr _ _ (fits_of_ink (by decide))).bind fun value _ => ?_
    refine (cutPosition_yields site _ raw1).bind fun where1 _ => ?_
    refine (cutPosition_yields site _ raw2).bind fun where2 _ => ?_
    refine (h.valueOr _ _ (fits_of_ink (by decide))).bind fun at1 _ => ?_
    refine (h.valueOr _ _ (fits_of_ink (by decide))).bind fun at2 _ => ?_
    exact yields_provide _ cutHelper fun name => .pure (tame_ending _ (by decide) _)

theorem textFrame_tame (field : String) {table : List (String × Frame)}
    (htable : ∀ entry ∈ table, HasForeign entry.2.after) : (textFrame field table).IsTame w s kind := by
  intro site h _ _
  refine (h.option _ _).bind ?_
  rintro frame ⟨word, hentry⟩
  refine (h.valueOr _ _ (fits_of_ink (by decide))).bind fun value _ => .pure ?_
  exact tame_ending _ (htable _ hentry) _

theorem printText_tame : printText.IsTame w s kind := by
  intro site h _ _
  refine (h.valueOr _ _ (fits_of_ink (by decide))).bind fun value _ => .pure ?_
  exact HasForeign.append_left (HasForeign.append_left (by decide) value) _

theorem promptCode_yields {site : Site} (h : site.IsTame w s) (message : String) :
    Yields w s HasForeign (promptCode site message) := by
  refine (h.field "TYPE").bind fun type _ => ?_
  split
  · exact .pure (HasForeign.append_right (by decide) _)
  · exact .pure (HasForeign.append_right (by decide) _)

theorem promptFixed_tame : promptFixed.IsTame w s kind := by
  intro site h _ _
  refine (h.fieldOr _ _).bind fun text _ => ?_
  exact (promptCode_yields h _).bind fun code hcode => .pure (tame_word hcode _)

theorem promptComputed_tame : promptComputed.IsTame w s kind := by
  intro site h _ _
  refine (h.valueOr _ _ (fits_of_ink (by decide))).bind fun message _ => ?_
  exact (promptCode_yields h message).bind fun code hcode => .pure (tame_word hcode _)

end Phrase

end Rules

namespace Rulebook

open Rules

variable {w : Allowance} {s : Setting}

theorem tame_own {name : String} {own : List (String × Rule)}
    (h : ∀ entry ∈ own, entry.2.IsTame w s entry.1) : Rulebook.IsTame w s (.mk name own []) :=
  fun _ _ => RuleTable.forall_own (P := fun kind rule => rule.IsTame w s kind) h

theorem tame_parents {name : String} {parents : List Rulebook}
    (h : ∀ table ∈ parents, Rulebook.IsTame w s table) : Rulebook.IsTame w s (.mk name [] parents) :=
  fun _ _ => RuleTable.forall_parents h

theorem common_tame : ∀ table ∈ Dialect.commonRules, Rulebook.IsTame w s table := by
  simp only [Dialect.commonRules, List.forall_mem_cons, List.not_mem_nil, IsEmpty.forall_iff,
    implies_true, and_true]
  refine ⟨tame_own ?_, tame_own ?_, tame_own ?_, tame_own ?_⟩ <;>
    simp only [List.forall_mem_cons, List.not_mem_nil, IsEmpty.forall_iff, implies_true, and_true]
  · exact ⟨ifChain_tame, comparison_tame, connective_tame, negation_tame, truthLiteral_tame,
      nullLiteral_tame, choice_tame⟩
  · exact ⟨colourLiteral_tame, randomColour_tame, mix_tame, blend_tame⟩
  · exact ⟨variableValue_tame, assign_tame⟩
  · exact ⟨numberLiteral_tame, arithmetic_tame, single_tame, single_tame, single_tame, constant_tame,
      numberTest_tame, change_tame, aggregate_tame, remainder_tame, clamp_tame, randomInteger_tame,
      randomFraction_tame⟩

theorem loops_tame (hcounts : w.counts) : Rulebook.IsTame w s loops := by
  refine tame_own ?_
  simp only [List.forall_mem_cons, List.not_mem_nil, IsEmpty.forall_iff, implies_true, and_true]
  exact ⟨repeatFixed_tame hcounts, repeatComputed_tame, whileLoop_tame, count_tame, jump_tame⟩

theorem processes_tame : Rulebook.IsTame w s processes := by
  refine tame_own ?_
  simp only [List.forall_mem_cons, List.not_mem_nil, IsEmpty.forall_iff, implies_true, and_true]
  exact ⟨processDefinition_tame, processDefinition_tame, callValue_tame, callStatement_tame,
    earlyReturn_tame⟩

theorem phrases_tame : Rulebook.IsTame w s phrases := by
  refine tame_own ?_
  simp only [List.forall_mem_cons, List.not_mem_nil, IsEmpty.forall_iff, implies_true, and_true]
  exact ⟨textLiteral_tame, textJoin_tame, textAppend_tame, textCall_tame _ _, textCall_tame _ _,
    textSearch_tame, textLetter_tame, textCut_tame, textFrame_tame _ (by decide),
    textFrame_tame _ (by decide), printText_tame, promptFixed_tame, promptComputed_tame⟩

/-- Only one of the two languages has the loop that counts by a field. -/
theorem dialect_tame {language : Language} (h : language = .divGames → w.counts) :
    Rulebook.IsTame w s language.dialect.rules := by
  cases language with
  | divGames =>
    refine tame_parents (List.forall_mem_append.2 ⟨common_tame, ?_⟩)
    simp only [List.forall_mem_cons, List.not_mem_nil, IsEmpty.forall_iff, implies_true, and_true]
    exact ⟨loops_tame (h rfl), processes_tame⟩
  | fuzeBasic =>
    refine tame_parents (List.forall_mem_append.2 ⟨common_tame, ?_⟩)
    simp only [List.forall_mem_cons, List.not_mem_nil, IsEmpty.forall_iff, implies_true, and_true]
    exact phrases_tame

end Rulebook

/-- The fields, the comments and the variables of a workspace are texts, and there is no shape data. -/
structure Workspace.IsTextual (ws : Workspace) : Prop where
  heads : ∀ p ∈ ws.blocks, p.block.head.IsTextual
  names : ∀ name ∈ ws.variableNames, ∃ text, name = .text text

/-- Without variables, what fails is the code of the blocks. -/
theorem Gen.exec_generate_fault {rules : Rulebook} {ws : Workspace} {s : Setting} {fault : Fault}
    (hnames : ws.variableNames = [])
    (h : ∀ r, (exec (ws.top.mapM (topCode rules)) s r).1 = .error fault) {r : Run} :
    (exec (generate rules ws) s r).1 = .error fault := by
  rw [generate, exec_bind, exec_read]
  dsimp only
  rw [exec_bind, report, exec_modify]
  dsimp only
  rw [exec_bind, exec_start, hnames, List.mapM_nil, exec_pure]
  dsimp only
  rw [exec_bind]
  generalize Run.mk _ _ _ = q
  obtain ⟨log, hlog⟩ := exec_loggingFaults (ws.top.mapM (topCode rules)) q
  rw [hlog]
  dsimp only
  rw [h q]

namespace Generator

/-- What a workspace in the language may fail with besides the generation itself. -/
def allowance (language : Language) (ws : Workspace) : Allowance where
  unread text := Reading.real? text = none ∧
    ((language = .divGames ∧ ∃ p ∈ ws.blocks, p.block.head.Repeats text) ∨
      isNumber text = true ∧ ∃ p ∈ ws.blocks, p.PassesOn)
  counts := language = .divGames
  loose := ∃ p ∈ ws.blocks, p.PassesOn
  unread_of_loose := fun hloose _ hnumber hreal => ⟨hreal, .inr ⟨hnumber, hloose⟩⟩

/-- A loop that is to run as often as the text says, and nothing else. -/
def repeating (text : String) : Block :=
  .mk { kind := .text "controls_repeat", fields := .map [("TIMES", .text text)], id := .text "a" } []
    [] none

theorem exec_code_repeating {text : String} (h : Reading.real? text = none) (s : Setting) (r : Run) :
    exec (Block.code Language.divGames.dialect.rules (repeating text)) s r =
      (.error (.unreadableReal text), r) := by
  have hrule : Rulebook.ruleFor Language.divGames.dialect.rules (.text "controls_repeat") =
      .ok (some Rules.repeatFixed) := by
    rfl
  have hfield : (Value.map [("TIMES", .text text)]).entryOr "TIMES" (.int 0) = .ok (.text text) := by
    rfl
  have hread : (Value.text text).toReal = .error (.unreadableReal text) := by
    rw [Value.toReal, h]
  have hfails (site : Site) (hsite : site.head.fields = .map [("TIMES", .text text)]) :
      exec (Rules.repeatFixed site) s r = (.error (.unreadableReal text), r) := by
    rw [Rules.repeatFixed, exec_bind, Site.fieldOr, exec_ofExcept, hsite, hfield]
    dsimp only
    rw [exec_bind, exec_ofExcept, hread]
  have hkind : ((repeating text).site Language.divGames.dialect.rules).head.kind =
      .text "controls_repeat" := by
    rfl
  have houtcome : exec (Site.outcome Language.divGames.dialect.rules
      ((repeating text).site Language.divGames.dialect.rules)) s r =
        (.error (.unreadableReal text), r) := by
    rw [Site.outcome, exec_bind, exec_ofExcept, hkind, hrule]
    exact hfails _ rfl
  rw [Block.code, Site.emit_of_enabled (by rfl), exec_bind, houtcome]

/-- A program whose data are texts comes to its text or to a fault of the generation. There are two
ways out: a loop is to run as often as a text says that is no number, or a literal is asked for its
value that a disabled block passed on with information separators in a comment around it. Such a loop
fails whatever its text is. Texts are made of characters, and lone surrogates are none: a name with one
of them has no bytes to be escaped by, which is a third way out that no text takes. -/
theorem textual_refused_within (language : Language) (config : Config) :
    let g : Generator := ⟨language.dialect, config⟩
    (∀ (s : Session) (program : Program) (ws : Workspace),
      (program.toWorkspace s.nextBlock).1 = .ok ws → ws.IsTextual →
      ∀ fault, (s.generate g program).1 = .error fault →
        fault.isGeneration = true ∨
          ∃ text, fault = .unreadableReal text ∧ Reading.real? text = none ∧
            ((language = .divGames ∧ ∃ p ∈ ws.blocks, p.block.head.Repeats text) ∨
              isNumber text = true ∧ ∃ p ∈ ws.blocks, p.PassesOn)) ∧
    (language = .divGames → ∀ (s : Session) (text : String), Reading.real? text = none →
      (s.generate g (.workspace { top := [repeating text] })).1 = .error (.unreadableReal text)) := by
  intro g
  constructor
  · intro s program ws hws htextual fault hfault
    rw [(Session.generate_of_workspace g hws).1] at hfault
    have hrules : Rulebook.IsTame (allowance language ws) g.setting language.dialect.rules :=
      Rulebook.dialect_tame id
    refine Gen.generate_accepted hrules (fun p hp => ?_) (fun name hname => ?_) hfault
    · exact
        { head := htextual.heads p hp
          times := fun hdiv text hrepeats hreal => ⟨hreal, .inl ⟨hdiv, p, hp, hrepeats⟩⟩
          skips := fun hpasses => ⟨p, hp, hpasses⟩ }
    · exact .inr (htextual.names name hname)
  · rintro rfl s text hreal
    have hcode (r : Run) : exec ([repeating text].mapM (topCode g.dialect.rules)) g.setting r =
        (.error (.unreadableReal text), r) := by
      refine exec_mapM_cons_error ?_
      rw [topCode_eq, exec_bind, exec_code_repeating hreal]
    have hws : (Program.toWorkspace s.nextBlock (.workspace { top := [repeating text] })).1 =
        .ok { top := [repeating text] } := by
      rfl
    rw [(Session.generate_of_workspace g hws).1]
    exact exec_generate_fault rfl fun r => by rw [hcode]

/-- A variable that is set to a number which is none. -/
def misnumbered : Workspace :=
  let number : Block :=
    .mk { kind := "math_number", fields := .map [("NUM", "1_")], id := "b" } [] [] none
  { top :=
      [.mk { kind := "variables_set", fields := .map [("VAR", "x")], id := "a" }
        [("VALUE", some number)] [] none] }

theorem misnumbered_refused :
    let g : Generator := ⟨Language.fuzeBasic.dialect, {}⟩
    misnumbered.IsTextual ∧ ∃ fault,
      (({} : Session).generate g (.workspace misnumbered)).1 = .error fault ∧
        fault.isGeneration = true := by
  intro g
  have htextual : misnumbered.IsTextual := by
    refine ⟨?_, nofun⟩
    simp only [misnumbered, Workspace.blocks, Block.descendants, List.flatMap_cons,
      List.flatMap_nil, Block.descendantsAt, Block.socketDescendants, Block.linkDescendants,
      List.append_nil, List.forall_mem_cons, List.not_mem_nil, IsEmpty.forall_iff,
      implies_true, and_true]
    exact ⟨⟨⟨_, rfl⟩, ⟨_, rfl, List.forall_mem_singleton.2 ⟨_, rfl⟩⟩, rfl, nofun⟩,
      ⟨⟨_, rfl⟩, ⟨_, rfl, List.forall_mem_singleton.2 ⟨_, rfl⟩⟩, rfl, nofun⟩⟩
  have hanswer : (({} : Session).generate g (.workspace misnumbered)).1 =
      .error (.unhandledValue "math_number" "NUM" "1_" none) := by
    rfl
  refine ⟨htextual, _, hanswer, ?_⟩
  have hrefused := (textual_refused_within .fuzeBasic {}).1 {} (.workspace misnumbered) misnumbered
    rfl htextual _ hanswer
  rcases hrefused with hgeneration | ⟨text, hfault, -⟩
  · exact hgeneration
  · cases hfault

/-- A letter at a position that a disabled block passes on, behind a comment that is an information
separator. -/
def passedOn : Workspace :=
  let number : BlockHead :=
    { kind := "math_number", fields := .map [("NUM", "5")], comment := "\x1c", id := "c" }
  let off : Block :=
    .mk { kind := "off", disabled := .bool true, id := "b" } [] [] (some (.mk number [] [] none))
  { top :=
      [.mk { kind := "text_charAt", fields := .map [("WHERE", "FROM_START")], id := "a" }
        [("AT", some off)] [] none] }

/-- The text that was found to be no number. -/
def unread? : Except Fault String → Option String
  | .error (.unreadableReal text) => some text
  | _ => none

theorem eq_of_unread? {answer : Except Fault String} {text : String}
    (h : unread? answer = some text) : answer = .error (.unreadableReal text) := by
  unfold unread? at h
  split at h
  · cases h
    rfl
  · cases h

/-- Both ways out: a loop that is to run as often as a text says, and a literal behind a separator. -/
theorem unread_texts_escape :
    (({} : Session).generate ⟨Language.divGames.dialect, {}⟩
        (.workspace { top := [repeating "abc"] })).1 = .error (.unreadableReal "abc") ∧
      (({} : Session).generate ⟨Language.fuzeBasic.dialect, { commentMark := some "" }⟩
        (.workspace passedOn)).1 = .error (.unreadableReal "\x1c\n5") ∧
      ∀ text, Fault.isGeneration (.unreadableReal text) = false := by
  refine ⟨?_, ?_, fun _ => rfl⟩
  · exact eq_of_unread? (by decide +kernel)
  · exact eq_of_unread? (by decide +kernel)

end Generator

end BlockCode
