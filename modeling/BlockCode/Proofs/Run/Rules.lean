import BlockCode.Dialect.Registry
import BlockCode.Proofs.Number.Ink
import BlockCode.Proofs.Run.Pairing

namespace BlockCode

open Text

/-- The rule for a kind of the shape keeps to every pairing, at sites of that kind or, if bare lines
do not matter, at any. -/
def Rule.Pairs (traps : Bool) (shape : Shape) (kind : String) (rule : Rule) : Prop :=
  ∀ {s t : Setting} (p : Pairing s t) {u v : Site}, p.bare ∨ u.head.kind = .text kind →
    p.Sees traps u v → p.Relates (p.Outcome shape) (rule u) (rule v)

namespace Rules

open Pairing

variable {traps : Bool} (kind : String)

section Logic

/-- Arms end with a brace, which the next arm goes on behind. -/
def Arm {s t : Setting} (p : Pairing s t) (a b : String) : Prop :=
  ∃ x y, a = x ++ "\x7d" ∧ b = y ++ "\x7d" ∧ p.Continues x y

section Arms

variable {s t : Setting} {p : Pairing s t} {a b x y : String}

theorem arm_of_lines (hxy : p.code x y) {d : String} (hd : OpensBody d) (h : p.lines a b) :
    Arm p (x ++ d ++ a ++ "\x7d") (y ++ d ++ b ++ "\x7d") :=
  ⟨_, _, rfl, rfl, (continues_code hxy).body hd h⟩

theorem Arm.continues (h : Arm p a b) : p.Continues a b := by
  obtain ⟨x, y, rfl, rfl, hxy⟩ := h
  exact hxy.append (continues_code (p.code_same "\x7d"))

theorem Arm.behind (h : Arm p a b) (hxy : p.Continues x y) : Arm p (x ++ a) (y ++ b) := by
  obtain ⟨u, v, rfl, rfl, huv⟩ := h
  rw [← String.append_assoc, ← String.append_assoc]
  exact ⟨_, _, rfl, rfl, hxy.append huv⟩

theorem Arm.join {as bs : List String} (hab : Arm p a b) (h : List.Forall₂ (Arm p) as bs) :
    Arm p (String.join (a :: as)) (String.join (b :: bs)) := by
  induction h generalizing a b with
  | nil =>
    rw [String.join_cons, String.join_cons, String.join_nil, String.append_empty,
      String.append_empty]
    exact hab
  | cons hnext _ ih =>
    rw [String.join_cons, String.join_cons (l := _ :: _)]
    exact (ih hnext).behind hab.continues

theorem Arm.whole (h : Arm p a b) : p.Whole (a ++ "\n") (b ++ "\n") := by
  obtain ⟨x, y, rfl, rfl, hxy⟩ := h
  exact hxy.whole (p.value_of_ink rfl)

end Arms

theorem ifChain_pairs : Rule.Pairs traps .statement "controls_if" ifChain := by
  intro s t p u v hkind h
  refine (h.shapeOr _ _).bind_same fun elseif helseif => ?_
  refine (p.ofExcept elseif.fits_toInteger).bind_same fun further hfurther => ?_
  refine (h.shapeOr _ _).bind_same fun last hlast => ?_
  refine Gen.Tracks.bind (Gen.Tracks.given (.mapM_same (Q := Arm p) _ fun n _ => ?_)) ?_
  · refine (h.valueOr _ _ (by rfl)).bind fun a b hab => (h.body _).bind fun x y hxy => ?_
    have hlead := p.code_append (p.code_same ((if n = 0 then "if" else " else if") ++ " ("))
      (p.value_code hab)
    exact .pure (arm_of_lines hlead (by decide) hxy)
  rintro arms arms' ⟨harms, hcount, -⟩
  have hcount := hcount.length_mapM
  dsimp only
  split
  · refine (h.body _).bind fun a b hab => .pure (outcome_whole ?_)
    have hlast := arm_of_lines (p.code_same "") (d := " else \x7b\n") (by decide) hab
    rw [String.empty_append] at hlast
    exact (hlast.behind (continues_join (harms.imp fun _ _ => Arm.continues))).whole
  · next hset =>
    refine .pure ?_
    cases harms with
    | nil =>
      refine .inr ⟨?_, rfl, rfl⟩
      rcases hkind with hbare | hkind
      · exact hbare
      · have hnone : further < 0 := by
          simp only [List.length_nil, List.length_range] at hcount
          omega
        have hset : last.isSet = false := by simpa using hset
        apply h.bare
        simp [BlockHead.isArmless, hkind, helseif, hlast, hfurther, hnone, hset, bind, Except.bind]
    | cons hab habs =>
      rw [String.append_empty, String.append_empty]
      exact outcome_whole (hab.join habs).whole

theorem comparison_pairs : Rule.Pairs traps .value kind comparison := by
  intro s t p u v _ h
  refine (h.option _ _).bind_same fun entry _ => ?_
  refine (h.valueOr _ _ (by rfl)).bind fun left left' hleft => ?_
  refine (h.valueOr _ _ (by rfl)).bind fun right right' hright => .pure (outcome_value ?_ _)
  have hcode := p.value_code hleft
  exact p.value_append (by apply_rules [p.code_same, p.code_append]) hright

theorem endsInk_neutral : ∀ entry ∈ connectives, EndsInk entry.2.2.2 := by
  decide

theorem connective_pairs : Rule.Pairs traps .value kind connective := by
  intro s t p u v _ h
  refine (h.option _ _).bind_same fun entry hentry => ?_
  refine (h.value _ _).bind fun left left' hleft => ?_
  refine (h.value _ _).bind fun right right' hright => .pure (outcome_value ?_ _)
  have hl := code_eq_empty hleft.1
  have hr := code_eq_empty hright.1
  have hmissing : EndsInk (if left = "" ∧ right = "" then "false" else entry.2.2) := by
    obtain ⟨word, hmem⟩ := hentry
    split
    · rfl
    · exact endsInk_neutral _ hmem
  simp only [← hl, ← hr]
  have hfirst := p.value_code (value_orElse hleft.1 hleft.2 hmissing)
  exact p.value_append (by apply_rules [p.code_same, p.code_append])
    (value_orElse hright.1 hright.2 hmissing)

theorem negation_pairs : Rule.Pairs traps .value kind negation := by
  intro s t p u v _ h
  refine (h.valueOr _ _ (by rfl)).bind fun a b hab => .pure (outcome_value ?_ _)
  exact p.value_append (p.code_same _) hab

theorem truthLiteral_pairs : Rule.Pairs traps .value kind truthLiteral := by
  intro s t p u v _ h
  refine (h.option _ _).bind_same fun code hcode => .pure (outcome_value (p.value_of_ink ?_) _)
  obtain ⟨word, hmem⟩ := hcode
  have hends : ∀ entry ∈ [("TRUE", "true"), ("FALSE", "false")], EndsInk entry.2 := by decide
  exact hends _ hmem

theorem nullLiteral_pairs : Rule.Pairs traps .value kind nullLiteral := by
  intro s t p u v _ _
  exact .pure (outcome_value (p.value_of_ink (by rfl)) _)

theorem choice_pairs : Rule.Pairs traps .value kind choice := by
  intro s t p u v _ h
  refine (h.valueOr _ _ (by rfl)).bind fun condition condition' hcondition => ?_
  refine (h.valueOr _ _ (by rfl)).bind fun yes yes' hyes => ?_
  refine (h.valueOr _ _ (by rfl)).bind fun no no' hno => .pure (outcome_value ?_ _)
  have hif := p.value_code hcondition
  have hthen := p.value_code hyes
  exact p.value_append (by apply_rules [p.code_same, p.code_append]) hno

end Logic

section Variable

theorem variableValue_pairs : Rule.Pairs traps .value kind variableValue := by
  intro s t p u v _ h
  exact (h.field _).bind_same fun var hvar => (p.variableName (h.asks_field hvar)).bind_same
    fun name hname => .pure (outcome_value hname _)

theorem assign_pairs : Rule.Pairs traps .statement kind assign := by
  intro s t p u v _ h
  refine (h.valueOr _ _ (by rfl)).bind fun a b hab => (h.field _).bind_same fun var hvar => ?_
  refine (p.variableName (h.asks_field hvar)).bind_same fun name _ => ?_
  exact line (p.value_append (p.code_same _) hab)

end Variable

section Colour

theorem colourLiteral_pairs : Rule.Pairs traps .value kind colourLiteral := by
  intro s t p u v _ h
  exact (h.fieldOr _ _).bind_same fun _ _ =>
    .pure (outcome_value (value_ends (p.code_same _) (by rfl)) _)

theorem randomColour_pairs : Rule.Pairs traps .value kind randomColour := by
  intro s t p u v _ h
  refine p.placeholder.bind_eq fun _ => (p.provide _ _).bind_eq fun name => ?_
  exact .pure (outcome_value (value_ends (p.code_same _) (by rfl)) _)

theorem mix_pairs : Rule.Pairs traps .value kind mix := by
  intro s t p u v _ h
  refine (h.valueOr _ _ (by rfl)).bind fun red red' hred => ?_
  refine (h.valueOr _ _ (by rfl)).bind fun green green' hgreen => ?_
  refine (h.valueOr _ _ (by rfl)).bind fun blue blue' hblue => ?_
  refine p.placeholder.bind_eq fun _ => (p.provide _ _).bind_eq fun name => ?_
  have hr := p.value_code hred
  have hg := p.value_code hgreen
  have hb := p.value_code hblue
  exact .pure (outcome_value
    (value_ends (by apply_rules [p.code_same, p.code_append]) (by rfl)) _)

theorem blend_pairs : Rule.Pairs traps .value kind blend := by
  intro s t p u v _ h
  refine (h.valueOr _ _ (by rfl)).bind fun first first' hfirst => ?_
  refine (h.valueOr _ _ (by rfl)).bind fun second second' hsecond => ?_
  refine (h.valueOr _ _ (by rfl)).bind fun ratio ratio' hratio => ?_
  refine p.placeholder.bind_eq fun _ => (p.provide _ _).bind_eq fun name => ?_
  have h1 := p.value_code hfirst
  have h2 := p.value_code hsecond
  have hr := p.value_code hratio
  exact .pure (outcome_value
    (value_ends (by apply_rules [p.code_same, p.code_append]) (by rfl)) _)

end Colour

section Number

theorem numberLiteral_pairs : Rule.Pairs traps .value kind numberLiteral := by
  intro s t p u v _ h
  refine (h.fieldOr _ _).bind_same fun raw _ => ?_
  dsimp only
  rw [h.kind_eq]
  split
  · exact p.throw rfl
  · exact p.throw rfl
  · split
    · next code rank hcode =>
      exact .pure (outcome_value (p.value_of_ink (endsInk_numberCode hcode)) _)
    · exact p.throw rfl

theorem arithmetic_pairs : Rule.Pairs traps .value kind arithmetic := by
  intro s t p u v _ h
  refine (h.option _ _).bind_same fun op _ => ?_
  refine (h.valueOr _ _ (by rfl)).bind fun left left' hleft => ?_
  refine (h.valueOr _ _ (by rfl)).bind fun right right' hright => ?_
  have hl := p.value_code hleft
  have hr := p.value_code hright
  split
  · exact .pure (outcome_value
      (p.value_append (by apply_rules [p.code_same, p.code_append]) hright) _)
  · exact .pure (outcome_value
      (value_ends (by apply_rules [p.code_same, p.code_append]) (by rfl)) _)

section Frames

variable {s t : Setting} {p : Pairing s t} {a b : String}

theorem value_spaceMinus (h : p.value a b) : p.value (spaceMinus a) (spaceMinus b) := by
  have hhead := p.code_head (p.value_code h)
  unfold spaceMinus
  rw [hhead]
  split
  · exact p.value_append (p.code_same _) h
  · exact h

theorem value_around {frame : Frame} (h : EndsInk frame.after) (hab : p.code a b) :
    p.value (frame.around a) (frame.around b) :=
  value_ends (p.code_append (p.code_same _) hab) h

end Frames

theorem endsInk_singleCalls : ∀ entry ∈ singleCalls, EndsInk entry.2.after := by
  decide

theorem endsInk_singleQuotients : ∀ entry ∈ singleQuotients, EndsInk entry.2.after := by
  decide

theorem single_pairs : Rule.Pairs traps .value kind single := by
  intro s t p u v _ h
  refine (h.field _).bind_same fun op _ => ?_
  dsimp only
  split
  · refine (h.valueOr _ _ (by rfl)).bind fun a b hab => .pure (outcome_value ?_ _)
    exact p.value_append (p.code_same _) (value_spaceMinus hab)
  · refine (h.valueOr _ _ (by rfl)).bind fun a b hab => ?_
    have hcode := p.value_code hab
    rw [h.kind_eq]
    split
    · exact p.throw rfl
    · split
      · next frame _ hframe =>
        obtain ⟨key, hmem⟩ := exists_mem_of_lookup hframe
        exact .pure (outcome_value (value_around (endsInk_singleCalls _ hmem) hcode) _)
      · next frame _ hframe =>
        obtain ⟨key, hmem⟩ := exists_mem_of_lookup hframe
        exact .pure (outcome_value (value_around (endsInk_singleQuotients _ hmem) hcode) _)
      · exact p.throw rfl

theorem endsInk_constants : ∀ entry ∈ constants, EndsInk entry.2.1 := by
  decide

theorem constant_pairs : Rule.Pairs traps .value kind constant := by
  intro s t p u v _ h
  refine (h.option _ _).bind_same fun entry hentry => ?_
  obtain ⟨word, hmem⟩ := hentry
  exact .pure (outcome_value (p.value_of_ink (endsInk_constants _ hmem)) _)

theorem remainder_pairs : Rule.Pairs traps .value kind remainder := by
  intro s t p u v _ h
  refine (h.valueOr _ _ (by rfl)).bind fun dividend dividend' hdividend => ?_
  refine (h.valueOr _ _ (by rfl)).bind fun divisor divisor' hdivisor => .pure (outcome_value ?_ _)
  exact p.value_append (p.code_append (p.value_code hdividend) (p.code_same _)) hdivisor

theorem clamp_pairs : Rule.Pairs traps .value kind clamp := by
  intro s t p u v _ h
  refine (h.valueOr _ _ (by rfl)).bind fun number number' hnumber => ?_
  refine (h.valueOr _ _ (by rfl)).bind fun low low' hlow => ?_
  refine (h.valueOr _ _ (by rfl)).bind fun high high' hhigh => .pure (outcome_value ?_ _)
  have hn := p.value_code hnumber
  have hl := p.value_code hlow
  have hh := p.value_code hhigh
  exact value_ends (by apply_rules [p.code_same, p.code_append]) (by rfl)

theorem randomFraction_pairs : Rule.Pairs traps .value kind randomFraction := by
  intro s t p u v _ _
  exact .pure (outcome_value (p.value_of_ink (by rfl)) _)

/-- The tests that are written around the number end with ink. -/
theorem endsInk_numberTests {word : String} {frame : Frame} {rank : Rank}
    (h : (word, NumberTest.remainder frame rank) ∈ numberTests) : EndsInk frame.after := by
  simp only [numberTests, List.mem_cons, Prod.mk.injEq, NumberTest.remainder.injEq, reduceCtorEq,
    and_false, List.not_mem_nil, or_false, false_or] at h
  rcases h with ⟨-, rfl, -⟩ | ⟨-, rfl, -⟩ | ⟨-, rfl, -⟩ | ⟨-, rfl, -⟩ <;> rfl

theorem numberTest_pairs : Rule.Pairs traps .value kind numberTest := by
  intro s t p u v _ h
  refine (h.option _ _).bind_same fun test htest => ?_
  cases test with
  | prime =>
    refine (h.valueOr _ _ (by rfl)).bind fun a b hab => ?_
    refine p.placeholder.bind_eq fun _ => (p.provide _ _).bind_eq fun name => ?_
    have hcode := p.value_code hab
    exact .pure (outcome_value (value_ends (p.code_append (p.code_same _) hcode) (by rfl)) _)
  | whole =>
    refine (h.valueOr _ _ (by rfl)).bind fun a b hab => .pure (outcome_value ?_ _)
    exact value_ends (p.code_append (p.code_same _) (p.value_code hab)) (by rfl)
  | divisible =>
    refine (h.valueOr _ _ (by rfl)).bind fun number number' hnumber => ?_
    refine (h.valueOr _ _ (by rfl)).bind fun divisor divisor' hdivisor => .pure (outcome_value ?_ _)
    have hn := p.value_code hnumber
    have hd := p.value_code hdivisor
    exact value_ends (by apply_rules [p.code_same, p.code_append]) (by rfl)
  | remainder frame rank =>
    obtain ⟨word, hmem⟩ := htest
    refine (h.valueOr _ _ (by rfl)).bind fun a b hab => .pure (outcome_value ?_ _)
    exact value_around (endsInk_numberTests hmem) (p.value_code hab)

theorem aggregate_pairs : Rule.Pairs traps .value kind aggregate := by
  intro s t p u v _ h
  refine (h.field _).bind_same fun op _ => (h.valueOr _ _ (by rfl)).bind fun a b hab => ?_
  have hcode := p.value_code hab
  dsimp only
  split
  · exact p.throw rfl
  · split
    · exact .pure (outcome_value (value_ends (p.code_append (p.code_same _) hcode) (by rfl)) _)
    · refine (h.option _ _).bind_same fun helper _ => p.placeholder.bind_eq fun _ => ?_
      refine (p.provide _ _).bind_eq fun name => .pure (outcome_value ?_ _)
      exact value_ends (p.code_append (p.code_same _) hcode) (by rfl)

theorem randomInteger_pairs : Rule.Pairs traps .value kind randomInteger := by
  intro s t p u v _ h
  refine (h.valueOr _ _ (by rfl)).bind fun low low' hlow => ?_
  refine (h.valueOr _ _ (by rfl)).bind fun high high' hhigh => ?_
  refine p.placeholder.bind_eq fun _ => (p.provide _ _).bind_eq fun name => ?_
  have hl := p.value_code hlow
  have hh := p.value_code hhigh
  exact .pure (outcome_value
    (value_ends (by apply_rules [p.code_same, p.code_append]) (by rfl)) _)

theorem change_pairs : Rule.Pairs traps .statement kind change := by
  intro s t p u v _ h
  refine (h.valueOr _ _ (by rfl)).bind fun a b hab => (h.field _).bind_same fun var hvar => ?_
  refine (p.variableName (h.asks_field hvar)).bind_same fun name _ => ?_
  exact line (p.value_append (p.code_same _) hab)

end Number

section Loop

variable {s t : Setting} {p : Pairing s t} {a b x y : String}

/-- The lines of a body between a head and an end. -/
theorem whole_ended (hxy : p.code x y) {d : String} (hd : OpensBody d) (h : p.lines a b) :
    p.Whole (x ++ d ++ a ++ "END\n") (y ++ d ++ b ++ "END\n") :=
  ((continues_code hxy).body hd h).ended

theorem readNumber_pairs (code : String) : p.Relates Eq (readNumber code) (readNumber code) :=
  (p.ofExcept (Value.fits_toReal _)).imp fun _ _ hab => hab.1

theorem countedLoop_pairs (name : String) (hxy : p.code x y) (h : p.lines a b) :
    p.Relates p.Whole (countedLoop name x a) (countedLoop name y b) := by
  unfold countedLoop
  cases hx : Operand.isNumber x with
  | true =>
    obtain rfl := eq_of_isNumber hxy hx
    simp only [hx, if_true]
    refine (readNumber_pairs x).bind_eq fun bound => .pure ?_
    split
    · exact whole_ended (p.code_same _) (by decide) h
    · exact whole_ended (p.code_same _) (by decide) h
  | false =>
    simp only [← isNumber_eq hxy, hx]
    exact .pure (whole_ended (by apply_rules [p.code_same, p.code_append]) (by decide) h)

/-- What stands for the code, and the statement that it may need in front of it. -/
theorem cached_pairs (base : String) (h : p.code a b) :
    p.Relates (fun c d => p.code c.1 d.1 ∧ p.code c.2 d.2) (cached a base) (cached b base) := by
  unfold cached
  rw [← isSimple_eq h]
  split
  · exact .pure ⟨h, p.code_same _⟩
  · refine (p.temporary _).bind_eq fun name => (p.statement _ _).bind ?_
    rintro _ _ ⟨rfl, rfl⟩
    exact .pure ⟨p.code_same _, by apply_rules [p.code_same, p.code_append]⟩

theorem repeatFixed_pairs : Rule.Pairs true .statement kind repeatFixed := by
  intro s t p u v _ h
  refine (h.fieldOr _ _).bind_same fun raw _ => (p.ofExcept raw.fits_toReal).bind_same fun times _ => ?_
  refine (p.temporary _).bind_eq fun name => (h.loopBody rfl _).bind fun a b hab => ?_
  exact (countedLoop_pairs name (p.code_same _) hab).bind fun _ _ hloop =>
    .pure (outcome_whole hloop)

theorem repeatComputed_pairs : Rule.Pairs true .statement kind repeatComputed := by
  intro s t p u v _ h
  refine (h.valueOr _ _ (by rfl)).bind fun times times' htimes => (p.temporary _).bind_eq fun name => ?_
  refine (cached_pairs "repeat_end" (p.value_code htimes)).bind fun last last' hlast => ?_
  refine (h.loopBody rfl _).bind fun a b hab => ?_
  exact (countedLoop_pairs name hlast.1 hab).bind fun _ _ hloop =>
    .pure (outcome_whole (hloop.behind hlast.2))

theorem whileLoop_pairs : Rule.Pairs true .statement kind whileLoop := by
  intro s t p u v _ h
  refine (h.option _ _).bind_same fun until_ _ => ?_
  have hloop : ∀ {a b x y}, p.code x y → p.lines a b →
      p.Whole ("WHILE (" ++ x ++ ")\n" ++ a ++ "END\n") ("WHILE (" ++ y ++ ")\n" ++ b ++ "END\n") := by
    intro a b x y hxy hab
    exact whole_ended (p.code_append (p.code_same _) hxy) (by decide) hab
  dsimp only
  split
  · refine (h.valueOr _ _ (by rfl)).bind fun x y hxy => (h.loopBody rfl _).bind fun a b hab => ?_
    exact .pure (outcome_whole (hloop (p.code_append (p.code_same "!") (p.value_code hxy)) hab))
  · refine (h.valueOr _ _ (by rfl)).bind fun x y hxy => (h.loopBody rfl _).bind fun a b hab => ?_
    exact .pure (outcome_whole (hloop (p.value_code hxy) hab))

theorem jump_pairs : Rule.Pairs traps .statement kind jump := by
  intro s t p u v _ h
  refine (h.option _ _).bind_same fun word hword => line (p.value_of_ink ?_)
  obtain ⟨flow, hmem⟩ := hword
  have hends : ∀ entry ∈ [("BREAK", "BREAK"), ("CONTINUE", "CONTINUE")], EndsInk entry.2 := by
    decide
  exact hends _ hmem

/-- Which way to count is decided in a line of its own, in front of the loop. -/
theorem whole_computedCount (name step code : String) {first first' last last' : String}
    (hfirst : p.code first first') (hlast : p.code last last') (h : p.lines a b) :
    p.Whole (computedCount name first last step s.config.indent (code ++ "\n") a)
      (computedCount name first' last' step t.config.indent (code ++ "\n") b) := by
  have hcond : p.code ("IF (" ++ first ++ " > " ++ last) ("IF (" ++ first' ++ " > " ++ last') := by
    apply_rules [p.code_same, p.code_append]
  have hhead := (continues_code hcond).indented (d := ")\n") (by decide) (p.code_same code)
  refine Continues.ended (Continues.body ?_ (d := ")\n") (by decide) h)
  iterate 21 refine Continues.append ?_ (continues_code (by first | exact p.code_same _ | assumption))
  exact hhead

/-- The loop with a step of its own, and in front of it the statements that set it up. -/
theorem computedCount_pairs (name step : String)
    {front front' first first' last last' size size' : String} (hfront : p.code front front')
    (hfirst : p.code first first') (hlast : p.code last last') (hsize : p.code size size')
    (h : p.lines a b) :
    p.Relates (p.Outcome .statement)
      (do
        let setup ← Gen.statement (step ++ " = " ++ size)
        let turn ← Gen.statement (step ++ " = -" ++ step)
        return .statement
          (front ++ setup ++ computedCount name first last step (← Gen.indent) turn a))
      (do
        let setup ← Gen.statement (step ++ " = " ++ size')
        let turn ← Gen.statement (step ++ " = -" ++ step)
        return .statement
          (front' ++ setup ++ computedCount name first' last' step (← Gen.indent) turn b)) := by
  refine (p.statement _ _).bind ?_
  rintro _ _ ⟨rfl, rfl⟩
  refine (p.statement _ _).bind ?_
  rintro _ _ ⟨rfl, rfl⟩
  refine p.indent.bind ?_
  rintro _ _ ⟨rfl, rfl⟩
  refine .pure (outcome_whole ((whole_computedCount name step _ hfirst hlast h).behind ?_))
  apply_rules [p.code_same, p.code_append]

theorem stepSize_pairs (h : p.code a b) : p.Relates p.code (stepSize a) (stepSize b) := by
  unfold stepSize
  rw [← isNumber_eq h]
  split
  · next hnumber =>
    obtain rfl := eq_of_isNumber h hnumber
    exact (readNumber_pairs _).bind_eq fun _ => .pure (p.code_same _)
  · exact .pure (p.code_append (p.code_append (p.code_same _) h) (p.code_same _))

/-- Two counts of one variable, with parts that go together. -/
structure CountParts.Pair (p : Pairing s t) (x y : CountParts) : Prop where
  var : x.var = y.var
  name : x.name = y.name
  first : p.code x.first y.first
  last : p.code x.last y.last
  increment : p.code x.increment y.increment
  body : p.lines x.body y.body

theorem countParts_pairs {u v : Site} (h : p.Sees true u v) :
    p.Relates (CountParts.Pair p) (countParts u) (countParts v) := by
  refine (h.field _).bind_same fun var hvar => ?_
  refine (p.variableName (h.asks_field hvar)).bind_same fun name _ => ?_
  refine (h.valueOr _ _ (by rfl)).bind fun first first' hfirst => ?_
  refine (h.valueOr _ _ (by rfl)).bind fun last last' hlast => ?_
  refine (h.valueOr _ _ (by rfl)).bind fun increment increment' hincrement => ?_
  refine (h.loopBody rfl _).bind fun a b hab => .pure ?_
  exact ⟨rfl, rfl, p.value_code hfirst, p.value_code hlast, p.value_code hincrement, hab⟩

namespace CountParts.Pair

variable {x y : CountParts} (h : CountParts.Pair p x y)
include h

theorem isLiteral_eq : x.isLiteral = y.isLiteral := by
  unfold CountParts.isLiteral
  rw [isNumber_eq h.first, isNumber_eq h.last, isNumber_eq h.increment]

/-- Three literals are the same on both sides. -/
theorem literal (hliteral : x.isLiteral = true) :
    p.Relates (p.Outcome .statement) x.literal y.literal := by
  simp only [CountParts.isLiteral, Bool.and_eq_true] at hliteral
  unfold CountParts.literal
  rw [← h.name, ← eq_of_isNumber h.first hliteral.1.1, ← eq_of_isNumber h.last hliteral.1.2,
    ← eq_of_isNumber h.increment hliteral.2]
  refine (readNumber_pairs _).bind_eq fun _ => (readNumber_pairs _).bind_eq fun _ => ?_
  exact (readNumber_pairs _).bind_eq fun _ =>
    .pure (outcome_whole (whole_ended (p.code_same _) (by decide) h.body))

theorem computed : p.Relates (p.Outcome .statement) x.computed y.computed := by
  unfold CountParts.computed
  rw [← h.var, ← h.name]
  refine (cached_pairs _ h.first).bind fun start start' hstart => ?_
  refine (cached_pairs _ h.last).bind fun finish finish' hfinish => ?_
  refine (p.temporary _).bind_eq fun step => ?_
  refine (stepSize_pairs h.increment).bind fun size size' hsize => ?_
  exact computedCount_pairs _ step (p.code_append hstart.2 hfinish.2) hstart.1 hfinish.1 hsize h.body

theorem code : p.Relates (p.Outcome .statement) x.code y.code := by
  unfold CountParts.code
  rw [← h.isLiteral_eq]
  split
  · next hliteral => exact h.literal hliteral
  · exact h.computed

end CountParts.Pair

theorem count_pairs : Rule.Pairs true .statement kind count := by
  intro s t p u v _ h
  exact (countParts_pairs h).bind fun _ _ hparts => hparts.code

end Loop

section Process

theorem earlyReturn_pairs : Rule.Pairs traps .statement kind earlyReturn := by
  intro s t p u v _ h
  refine (h.valueOr _ _ (by rfl)).bind fun condition condition' hcondition => ?_
  have hlead := continues_code (p.code_append (p.code_same "IF (") (p.value_code hcondition))
  have hreturn : ∀ {a b}, p.code a b → p.Relates (p.Outcome .statement)
      (do
        return .statement
          ("IF (" ++ condition ++ ")\n" ++ (← Gen.indent) ++ (a ++ "\n") ++ "END\n"))
      (do
        return .statement
          ("IF (" ++ condition' ++ ")\n" ++ (← Gen.indent) ++ (b ++ "\n") ++ "END\n")) := by
    intro a b hab
    refine p.indent.bind ?_
    rintro _ _ ⟨rfl, rfl⟩
    exact .pure (outcome_whole (hlead.indented (by decide) hab).ended)
  dsimp only
  rw [h.hasInput_eq]
  refine (h.shapeOr _ _).bind_same fun shape _ => ?_
  split
  · refine (h.valueOr _ _ (by rfl)).bind fun value value' hvalue => (p.statement _ _).bind ?_
    rintro _ _ ⟨rfl, rfl⟩
    have hcode := p.value_code hvalue
    exact hreturn (by apply_rules [p.code_same, p.code_append])
  · refine (p.statement _ _).bind ?_
    rintro _ _ ⟨rfl, rfl⟩
    exact hreturn (p.code_same _)

/-- The text of a procedure goes to the definitions. -/
theorem processText_pairs {s t : Setting} {p : Pairing s t} {u v : Site} (h : p.Sees true u v)
    (name : String) {a b x y : String} (hab : p.lines a b) (hxy : p.lines x y) :
    p.Relates (p.Outcome .statement)
      (do
        let arguments ← Gen.ofExcept u.head.arguments
        let names ← arguments.mapM fun argument => Gen.variableName (.text argument)
        let code ← u.sequence (processText name (", ".intercalate names) a x)
        Gen.define (processKey name) code
        return .nothing)
      (do
        let arguments ← Gen.ofExcept v.head.arguments
        let names ← arguments.mapM fun argument => Gen.variableName (.text argument)
        let code ← v.sequence (processText name (", ".intercalate names) b y)
        Gen.define (processKey name) code
        return .nothing) := by
  refine h.arguments.bind_same fun arguments harguments => ?_
  refine Gen.Tracks.bind (.mapM_same arguments fun argument hmem =>
    p.variableName (h.asks_argument harguments argument hmem)) ?_
  intro names names' hnames
  rw [← (same_of_forall₂ hnames).1]
  have hwhole := whole_ended (p.code_same ("PROCESS " ++ name ++ "(" ++ ", ".intercalate names))
    (d := ")\nBEGIN\n") (by decide) (p.lines_append (h.joins rfl) hab hxy)
  rw [← String.append_assoc, ← String.append_assoc] at hwhole
  refine (h.sequence hwhole).bind fun code code' hcode => ?_
  exact (p.define _ hcode).bind_eq fun _ => .pure trivial

theorem processDefinition_pairs : Rule.Pairs true .statement kind processDefinition := by
  intro s t p u v _ h
  refine (h.field _).bind_same fun var _ => (p.procedureName _).bind_same fun name _ => ?_
  refine (h.body _).bind fun a b hab => .read_bind ?_
  have hjoins := h.joins rfl
  have hbody := p.lines_append hjoins (h.trap rfl) (p.lines_append hjoins (h.before rfl) hab)
  refine (h.value _ _).bind fun value value' hvalue => ?_
  have hempty := code_eq_empty hvalue.1
  by_cases hv : value = ""
  · simp only [if_pos hv, if_pos (hempty.1 hv)]
    exact processText_pairs h name hbody p.lines_empty
  · simp only [if_neg hv, if_neg (mt hempty.2 hv)]
    refine (p.statement _ _).bind ?_
    rintro _ _ ⟨rfl, rfl⟩
    have hcode := hvalue.1
    exact processText_pairs h name hbody
      (p.lines_indented (by apply_rules [p.code_same, p.code_append]))

theorem callCode_pairs {s t : Setting} {p : Pairing s t} {u v : Site} (h : p.Sees traps u v) :
    p.Relates p.value (callCode u) (callCode v) := by
  refine (h.field _).bind_same fun var _ => (p.procedureName _).bind_same fun name _ => ?_
  refine h.arguments.bind_same fun arguments _ => ?_
  refine Gen.Tracks.bind (.mapM_same _ fun i _ => h.valueOr _ _ (by rfl)) ?_
  intro values values' hvalues
  have hcode := code_join ", " (hvalues.imp fun _ _ => p.value_code)
  exact .pure (value_ends (p.code_append (p.code_same _) hcode) (by rfl))

theorem callValue_pairs : Rule.Pairs traps .value kind callValue := by
  intro s t p u v _ h
  exact (callCode_pairs h).bind fun _ _ hab => .pure (outcome_value hab _)

theorem callStatement_pairs : Rule.Pairs traps .statement kind callStatement := by
  intro s t p u v _ h
  exact (callCode_pairs h).bind fun _ _ hab => line hab

end Process

section Phrase

theorem endsInk_literal (text : String) : EndsInk (literal text) := by
  unfold EndsInk literal literalChars
  rw [String.toList_ofList, ← List.cons_append, List.getLast?_concat]
  rfl

theorem textLiteral_pairs : Rule.Pairs traps .value kind textLiteral := by
  intro s t p u v _ h
  exact (h.fieldOr _ _).bind_same fun _ _ =>
    .pure (outcome_value (p.value_of_ink (endsInk_literal _)) _)

theorem textJoin_pairs : Rule.Pairs traps .value kind textJoin := by
  intro s t p u v _ h
  refine (h.shapeOr _ _).bind_same fun items _ => ?_
  refine (p.ofExcept items.fits_toInteger).bind_same fun count _ => ?_
  split
  · exact .pure (outcome_value (p.value_of_ink (by rfl)) _)
  · split
    · exact (h.valueOr _ _ (by rfl)).bind fun _ _ hab => .pure (outcome_value hab _)
    · refine (h.valueOr _ _ (by rfl)).bind fun first first' hfirst => ?_
      refine Gen.Tracks.bind (.mapM_same _ fun n _ => h.valueOr _ _ (by rfl)) ?_
      intro rest rest' hrest
      exact .pure (outcome_value (value_join _ hfirst hrest) _)

theorem textCall_pairs (function socket : String) :
    Rule.Pairs traps .value kind (textCall function socket) := by
  intro s t p u v _ h
  refine (h.valueOr _ _ (by rfl)).bind fun a b hab => .pure (outcome_value ?_ _)
  exact value_ends (p.code_append (p.code_same _) (p.value_code hab)) (by rfl)

theorem shiftedPosition_pairs {s t : Setting} {p : Pairing s t} {a b : String} (h : p.code a b) :
    p.Relates p.code (shiftedPosition a) (shiftedPosition b) := by
  unfold shiftedPosition
  rw [← isNumber_eq h]
  split
  · next hnumber =>
    obtain rfl := eq_of_isNumber h hnumber
    exact (readNumber_pairs _).bind_eq fun _ => .pure (p.code_same _)
  · exact .pure (p.code_append h (p.code_same _))

theorem textFrame_pairs (field : String) {table : List (String × Frame)}
    (htable : ∀ entry ∈ table, EndsInk entry.2.after) :
    Rule.Pairs traps .value kind (textFrame field table) := by
  intro s t p u v _ h
  refine (h.option _ _).bind_same fun frame hframe => ?_
  obtain ⟨word, hmem⟩ := hframe
  exact (h.valueOr _ _ (by rfl)).bind fun _ _ hab =>
    .pure (outcome_value (value_around (htable _ hmem) (p.value_code hab)) _)

theorem printText_pairs : Rule.Pairs traps .statement kind printText := by
  intro s t p u v _ h
  exact (h.valueOr _ _ (by rfl)).bind fun _ _ hab =>
    .pure (outcome_whole (whole_of_value (p.value_append (p.code_same _) hab)))

theorem promptCode_pairs {s t : Setting} {p : Pairing s t} {u v : Site} (h : p.Sees traps u v)
    {a b : String} (hab : p.code a b) : p.Relates p.value (promptCode u a) (promptCode v b) := by
  refine (h.field _).bind_same fun type _ => ?_
  split
  · exact .pure (value_ends (by apply_rules [p.code_same, p.code_append]) (by rfl))
  · exact .pure (value_ends (p.code_append (p.code_same _) hab) (by rfl))

theorem promptFixed_pairs : Rule.Pairs traps .value kind promptFixed := by
  intro s t p u v _ h
  exact (h.fieldOr _ _).bind_same fun _ _ => (promptCode_pairs h (p.code_same _)).bind
    fun _ _ hab => .pure (outcome_value hab _)

theorem promptComputed_pairs : Rule.Pairs traps .value kind promptComputed := by
  intro s t p u v _ h
  exact (h.valueOr _ _ (by rfl)).bind fun _ _ hxy => (promptCode_pairs h (p.value_code hxy)).bind
    fun _ _ hab => .pure (outcome_value hab _)

theorem cutPosition_pairs {s t : Setting} {p : Pairing s t} {u v : Site} (h : p.Sees traps u v)
    (field : String) (raw : Value) :
    p.Relates Eq (cutPosition u field raw) (cutPosition v field raw) := by
  unfold cutPosition
  rw [h.kind_eq]
  split
  · exact .pure rfl
  · exact p.throw rfl

theorem textAppend_pairs : Rule.Pairs traps .statement kind textAppend := by
  intro s t p u v _ h
  refine (h.field _).bind_same fun var hvar => ?_
  refine (p.variableName (h.asks_field hvar)).bind_same fun name _ => ?_
  exact (h.valueOr _ _ (by rfl)).bind fun _ _ hab => line (p.value_append (p.code_same _) hab)

theorem textSearch_pairs : Rule.Pairs traps .value kind textSearch := by
  intro s t p u v _ h
  refine (h.option _ _).bind_same fun entry _ => ?_
  refine (h.valueOr _ _ (by rfl)).bind fun find find' hfind => ?_
  refine (h.valueOr _ _ (by rfl)).bind fun value value' hvalue => ?_
  refine p.placeholder.bind_eq fun _ => (p.provide _ _).bind_eq fun name => ?_
  have hf := p.value_code hfind
  have hv := p.value_code hvalue
  exact .pure (outcome_value
    (value_ends (by apply_rules [p.code_same, p.code_append]) (by rfl)) _)

theorem textLetter_pairs : Rule.Pairs traps .value kind textLetter := by
  intro s t p u v _ h
  refine (h.field _).bind_same fun raw _ => ?_
  dsimp only
  rw [h.kind_eq]
  split
  · exact p.throw rfl
  · refine (h.valueOr _ _ (by rfl)).bind fun value value' hvalue => ?_
    have hv := p.value_code hvalue
    have hletter : ∀ {x y}, p.code x y → p.Relates (p.Outcome .value)
        (pure (.value (letterCode value x) Rank.functionCall))
        (pure (.value (letterCode value' y) Rank.functionCall)) := by
      intro x y hxy
      exact .pure (outcome_value
        (value_ends (by apply_rules [p.code_same, p.code_append]) (by rfl)) _)
    split
    · exact hletter (p.code_same _)
    · split
      · exact hletter (p.code_same _)
      · split
        · refine p.placeholder.bind_eq fun _ => (p.provide _ _).bind_eq fun name => ?_
          exact .pure (outcome_value (value_ends (p.code_append (p.code_same _) hv) (by rfl)) _)
        · split
          · refine (h.valueOr _ _ (by rfl)).bind fun x y hxy => ?_
            exact (shiftedPosition_pairs (p.value_code hxy)).bind fun _ _ hpos => hletter hpos
          · refine (h.valueOr _ _ (by rfl)).bind fun x y hxy => hletter ?_
            exact p.code_append (p.code_same _) (p.value_code (value_spaceMinus hxy))

theorem textCut_pairs : Rule.Pairs traps .value kind textCut := by
  intro s t p u v _ h
  refine (h.field _).bind_same fun raw1 _ => (h.field _).bind_same fun raw2 _ => ?_
  split
  · exact (h.valueOr _ _ (by rfl)).bind fun _ _ hab => .pure (outcome_value hab _)
  · refine (h.valueOr _ _ (by rfl)).bind fun value value' hvalue => ?_
    refine (cutPosition_pairs h _ _).bind_eq fun where1 => ?_
    refine (cutPosition_pairs h _ _).bind_eq fun where2 => ?_
    refine (h.valueOr _ _ (by rfl)).bind fun at1 at1' hat1 => ?_
    refine (h.valueOr _ _ (by rfl)).bind fun at2 at2' hat2 => ?_
    refine p.placeholder.bind_eq fun _ => (p.provide _ _).bind_eq fun name => ?_
    have hv := p.value_code hvalue
    have h1 := p.value_code hat1
    have h2 := p.value_code hat2
    exact .pure (outcome_value
      (value_ends (by apply_rules [p.code_same, p.code_append]) (by rfl)) _)

end Phrase

end Rules

/-- Whether a rule of the language inserts the trap. -/
def Language.setsTraps : Language → Bool
  | .divGames => true
  | .fuzeBasic => false

/-- Every rule of the book keeps to every pairing, in the shape that its kind is for. -/
def Rulebook.Pairs (traps : Bool) (rules : Rulebook) : Prop :=
  ∀ kind rule, rules.lookup kind = some rule → ∃ shape, Rule.Pairs traps shape kind rule

namespace RuleTable

variable {P : String → Rule → Prop}

theorem forall_own {name : String} {own : List (String × Rule)}
    (h : ∀ entry ∈ own, P entry.1 entry.2) {kind : String} {rule : Rule}
    (hl : lookup kind (.mk name own []) = some rule) : P kind rule := by
  unfold lookup at hl
  cases hg : Entries.get? kind own with
  | none => simp [hg, lookupFirst] at hl
  | some found =>
    simp only [hg, Option.some.injEq] at hl
    subst hl
    exact h _ (Entries.mem_of_get? hg)

theorem forall_lookupFirst {tables : List Rulebook}
    (h : ∀ table ∈ tables, ∀ kind rule, lookup kind table = some rule → P kind rule) {kind : String}
    {rule : Rule} (hl : lookupFirst kind tables = some rule) : P kind rule := by
  induction tables with
  | nil => simp [lookupFirst] at hl
  | cons table rest ih =>
    unfold lookupFirst at hl
    cases ht : lookup kind table with
    | none =>
      simp only [ht] at hl
      exact ih (fun t hm => h t (List.mem_cons_of_mem _ hm)) hl
    | some found =>
      simp only [ht, Option.some.injEq] at hl
      subst hl
      exact h table List.mem_cons_self kind found ht

theorem forall_parents {name : String} {parents : List Rulebook}
    (h : ∀ table ∈ parents, ∀ kind rule, lookup kind table = some rule → P kind rule)
    {kind : String} {rule : Rule} (hl : lookup kind (.mk name [] parents) = some rule) :
    P kind rule := by
  unfold lookup at hl
  exact forall_lookupFirst h hl

end RuleTable

namespace Rulebook

variable {traps : Bool}

theorem pairs_own {name : String} {own : List (String × Rule)}
    (h : ∀ entry ∈ own, ∃ shape, Rule.Pairs traps shape entry.1 entry.2) :
    Rulebook.Pairs traps (.mk name own []) :=
  fun _ _ => RuleTable.forall_own (P := fun kind rule => ∃ shape, Rule.Pairs traps shape kind rule) h

theorem pairs_parents {name : String} {parents : List Rulebook}
    (h : ∀ table ∈ parents, Rulebook.Pairs traps table) :
    Rulebook.Pairs traps (.mk name [] parents) :=
  fun _ _ => RuleTable.forall_parents h

open Rules

theorem common_pairs : ∀ table ∈ Dialect.commonRules, Rulebook.Pairs traps table := by
  simp only [Dialect.commonRules, List.forall_mem_cons, List.not_mem_nil, IsEmpty.forall_iff,
    implies_true, and_true]
  refine ⟨pairs_own ?_, pairs_own ?_, pairs_own ?_, pairs_own ?_⟩ <;>
    simp only [List.forall_mem_cons, List.not_mem_nil, IsEmpty.forall_iff, implies_true, and_true]
  · exact ⟨⟨_, ifChain_pairs⟩, ⟨_, comparison_pairs _⟩, ⟨_, connective_pairs _⟩,
      ⟨_, negation_pairs _⟩, ⟨_, truthLiteral_pairs _⟩, ⟨_, nullLiteral_pairs _⟩,
      ⟨_, choice_pairs _⟩⟩
  · exact ⟨⟨_, colourLiteral_pairs _⟩, ⟨_, randomColour_pairs _⟩, ⟨_, mix_pairs _⟩,
      ⟨_, blend_pairs _⟩⟩
  · exact ⟨⟨_, variableValue_pairs _⟩, ⟨_, assign_pairs _⟩⟩
  · exact ⟨⟨_, numberLiteral_pairs _⟩, ⟨_, arithmetic_pairs _⟩, ⟨_, single_pairs _⟩,
      ⟨_, single_pairs _⟩, ⟨_, single_pairs _⟩, ⟨_, constant_pairs _⟩, ⟨_, numberTest_pairs _⟩,
      ⟨_, change_pairs _⟩, ⟨_, aggregate_pairs _⟩, ⟨_, remainder_pairs _⟩, ⟨_, clamp_pairs _⟩,
      ⟨_, randomInteger_pairs _⟩, ⟨_, randomFraction_pairs _⟩⟩

theorem loops_pairs : Rulebook.Pairs true loops := by
  refine pairs_own ?_
  simp only [List.forall_mem_cons, List.not_mem_nil, IsEmpty.forall_iff, implies_true, and_true]
  exact ⟨⟨_, repeatFixed_pairs _⟩, ⟨_, repeatComputed_pairs _⟩, ⟨_, whileLoop_pairs _⟩,
    ⟨_, count_pairs _⟩, ⟨_, jump_pairs _⟩⟩

theorem processes_pairs : Rulebook.Pairs true processes := by
  refine pairs_own ?_
  simp only [List.forall_mem_cons, List.not_mem_nil, IsEmpty.forall_iff, implies_true, and_true]
  exact ⟨⟨_, processDefinition_pairs _⟩, ⟨_, processDefinition_pairs _⟩, ⟨_, callValue_pairs _⟩,
    ⟨_, callStatement_pairs _⟩, ⟨_, earlyReturn_pairs _⟩⟩

theorem phrases_pairs : Rulebook.Pairs traps phrases := by
  refine pairs_own ?_
  simp only [List.forall_mem_cons, List.not_mem_nil, IsEmpty.forall_iff, implies_true, and_true]
  exact ⟨⟨_, textLiteral_pairs _⟩, ⟨_, textJoin_pairs _⟩, ⟨_, textAppend_pairs _⟩,
    ⟨_, textCall_pairs _ _ _⟩, ⟨_, textCall_pairs _ _ _⟩, ⟨_, textSearch_pairs _⟩,
    ⟨_, textLetter_pairs _⟩, ⟨_, textCut_pairs _⟩, ⟨_, textFrame_pairs _ _ (by decide)⟩,
    ⟨_, textFrame_pairs _ _ (by decide)⟩, ⟨_, printText_pairs _⟩, ⟨_, promptFixed_pairs _⟩,
    ⟨_, promptComputed_pairs _⟩⟩

theorem dialect_pairs {language : Language} (h : language.setsTraps = true → traps = true) :
    Rulebook.Pairs traps language.dialect.rules := by
  cases language with
  | divGames =>
    refine pairs_parents ?_
    rw [List.forall_mem_append, h rfl]
    refine ⟨common_pairs, ?_⟩
    simp only [List.forall_mem_cons, List.not_mem_nil, IsEmpty.forall_iff, implies_true, and_true]
    exact ⟨loops_pairs, processes_pairs⟩
  | fuzeBasic =>
    refine pairs_parents ?_
    rw [List.forall_mem_append]
    refine ⟨common_pairs, ?_⟩
    simp only [List.forall_mem_cons, List.not_mem_nil, IsEmpty.forall_iff, implies_true, and_true]
    exact phrases_pairs

end Rulebook

end BlockCode
