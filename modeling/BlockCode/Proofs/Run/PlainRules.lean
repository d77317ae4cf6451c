import BlockCode.Proofs.Run.Watch

namespace BlockCode

open Gen

namespace Gen

variable {α β : Type} {Q : β → Prop}

/-- Whatever the action gives is of this kind. -/
def GivesOnly (Q : α → Prop) (x : Gen α) : Prop :=
  ∀ a, CanGive x a → Q a

theorem GivesOnly.pure {b : β} (h : Q b) : GivesOnly Q (Pure.pure b) :=
  fun _ hgive => hgive.of_pure ▸ h

theorem GivesOnly.bind {x : Gen α} {f : α → Gen β} (h : ∀ a, GivesOnly Q (f a)) :
    GivesOnly Q (x >>= f) := by
  intro b hgive
  obtain ⟨a, -, hgive⟩ := hgive.of_bind
  exact h a b hgive

/-- Nothing follows an action that never gives anything. -/
theorem GivesOnly.first {x : Gen α} {f : α → Gen β} (h : GivesOnly (fun _ => False) x) :
    GivesOnly Q (x >>= f) := by
  intro b hgive
  obtain ⟨a, hgive, -⟩ := hgive.of_bind
  exact (h a hgive).elim

end Gen

/-- The rule does not look at the comments of its site, and does not keep its code back. -/
structure Rule.IsPlain (rule : Rule) : Prop where
  inline : ∀ (site : Site) (inline : Bool), rule { site with inline } = rule site
  gives : ∀ site, GivesOnly (· ≠ .nothing) (rule site)

/-- Rules for values keep nothing back. -/
theorem Rule.IsPlain.value {rule : Rule} (h : ∀ kind, Rule.Pairs true .value kind rule)
    (hinline : ∀ (site : Site) (inline : Bool), rule { site with inline } = rule site) :
    rule.IsPlain where
  inline := hinline
  gives := by
    rintro site _ hgive rfl
    have hpairs : Rule.Pairs true .value "" rule := h ""
    obtain ⟨s, hvalue⟩ := hpairs.outcome hgive
    exact hvalue

namespace Rules

theorem ifChain_plain : Rule.IsPlain ifChain where
  inline := fun _ _ => rfl
  gives := by
    intro site
    unfold ifChain
    refine .bind fun _ => .bind fun _ => .bind fun _ => .bind fun _ => ?_
    split
    · exact .bind fun _ => .bind fun _ => .pure nofun
    · exact .bind fun _ => .pure nofun

theorem assign_plain : Rule.IsPlain assign where
  inline := fun _ _ => rfl
  gives := fun _ => .bind fun _ => .bind fun _ => .bind fun _ => .bind fun _ => .pure nofun

theorem change_plain : Rule.IsPlain change where
  inline := fun _ _ => rfl
  gives := fun _ => .bind fun _ => .bind fun _ => .bind fun _ => .bind fun _ => .pure nofun

theorem repeatFixed_plain : Rule.IsPlain repeatFixed where
  inline := fun _ _ => rfl
  gives := fun _ =>
    .bind fun _ => .bind fun _ => .bind fun _ => .bind fun _ => .bind fun _ => .pure nofun

theorem repeatComputed_plain : Rule.IsPlain repeatComputed where
  inline := fun _ _ => rfl
  gives := fun _ =>
    .bind fun _ => .bind fun _ => .bind fun _ => .bind fun _ => .bind fun _ => .pure nofun

theorem whileLoop_plain : Rule.IsPlain whileLoop where
  inline := fun _ _ => rfl
  gives := by
    intro site
    unfold whileLoop
    refine .bind fun _ => ?_
    split
    · exact .bind fun _ => .bind fun _ => .bind fun _ => .pure nofun
    · exact .bind fun _ => .bind fun _ => .pure nofun

theorem count_plain : Rule.IsPlain count where
  inline := fun _ _ => rfl
  gives := by
    intro site
    refine .bind fun p => ?_
    unfold CountParts.code
    split
    · exact .bind fun _ => .bind fun _ => .bind fun _ => .pure nofun
    · exact .bind fun _ => .bind fun _ => .bind fun _ => .bind fun _ => .bind fun _ => .bind fun _ =>
        .bind fun _ => .pure nofun

theorem jump_plain : Rule.IsPlain jump where
  inline := fun _ _ => rfl
  gives := fun _ => .bind fun _ => .bind fun _ => .pure nofun

theorem callStatement_plain : Rule.IsPlain callStatement where
  inline := fun _ _ => rfl
  gives := fun _ => .bind fun _ => .bind fun _ => .pure nofun

theorem earlyReturn_plain : Rule.IsPlain earlyReturn where
  inline := fun _ _ => rfl
  gives := by
    intro site
    unfold earlyReturn
    refine .bind fun _ => .bind fun _ => ?_
    split
    · exact .bind fun _ => .bind fun _ => .bind fun _ => .pure nofun
    · exact .bind fun _ => .bind fun _ => .pure nofun

theorem textAppend_plain : Rule.IsPlain textAppend where
  inline := fun _ _ => rfl
  gives := fun _ => .bind fun _ => .bind fun _ => .bind fun _ => .bind fun _ => .pure nofun

theorem printText_plain : Rule.IsPlain printText where
  inline := fun _ _ => rfl
  gives := fun _ => .bind fun _ => .pure nofun

end Rules

namespace Rulebook

/-- Only definitions are kept back. -/
def KeepsDefinitions (rules : Rulebook) : Prop :=
  ∀ kind rule, rules.lookup kind = some rule → rule = Rules.processDefinition ∨ rule.IsPlain

open Rules

theorem keepsDefinitions_own {name : String} {own : List (String × Rule)}
    (h : ∀ entry ∈ own, entry.2 = processDefinition ∨ Rule.IsPlain entry.2) :
    KeepsDefinitions (.mk name own []) :=
  fun _ _ => RuleTable.forall_own
    (P := fun _ rule => rule = processDefinition ∨ Rule.IsPlain rule) h

theorem keepsDefinitions_parents {name : String} {parents : List Rulebook}
    (h : ∀ table ∈ parents, KeepsDefinitions table) : KeepsDefinitions (.mk name [] parents) :=
  fun _ _ => RuleTable.forall_parents h

theorem common_keepsDefinitions : ∀ table ∈ Dialect.commonRules, KeepsDefinitions table := by
  simp only [Dialect.commonRules, List.forall_mem_cons, List.not_mem_nil, IsEmpty.forall_iff,
    implies_true, and_true]
  refine ⟨keepsDefinitions_own ?_, keepsDefinitions_own ?_, keepsDefinitions_own ?_,
      keepsDefinitions_own ?_⟩ <;>
    simp only [List.forall_mem_cons, List.not_mem_nil, IsEmpty.forall_iff, implies_true, and_true]
  · exact ⟨.inr ifChain_plain, .inr (.value comparison_pairs fun _ _ => rfl),
      .inr (.value connective_pairs fun _ _ => rfl),
      .inr (.value negation_pairs fun _ _ => rfl),
      .inr (.value truthLiteral_pairs fun _ _ => rfl),
      .inr (.value nullLiteral_pairs fun _ _ => rfl),
      .inr (.value choice_pairs fun _ _ => rfl)⟩
  · exact ⟨.inr (.value colourLiteral_pairs fun _ _ => rfl),
      .inr (.value randomColour_pairs fun _ _ => rfl),
      .inr (.value mix_pairs fun _ _ => rfl), .inr (.value blend_pairs fun _ _ => rfl)⟩
  · exact ⟨.inr (.value variableValue_pairs fun _ _ => rfl), .inr assign_plain⟩
  · exact ⟨.inr (.value numberLiteral_pairs fun _ _ => rfl),
      .inr (.value arithmetic_pairs fun _ _ => rfl),
      .inr (.value single_pairs fun _ _ => rfl),
      .inr (.value single_pairs fun _ _ => rfl),
      .inr (.value single_pairs fun _ _ => rfl),
      .inr (.value constant_pairs fun _ _ => rfl),
      .inr (.value numberTest_pairs fun _ _ => rfl), .inr change_plain,
      .inr (.value aggregate_pairs fun _ _ => rfl),
      .inr (.value remainder_pairs fun _ _ => rfl),
      .inr (.value clamp_pairs fun _ _ => rfl),
      .inr (.value randomInteger_pairs fun _ _ => rfl),
      .inr (.value randomFraction_pairs fun _ _ => rfl)⟩

theorem loops_keepsDefinitions : KeepsDefinitions loops := by
  refine keepsDefinitions_own ?_
  simp only [List.forall_mem_cons, List.not_mem_nil, IsEmpty.forall_iff, implies_true, and_true]
  exact ⟨.inr repeatFixed_plain, .inr repeatComputed_plain, .inr whileLoop_plain, .inr count_plain,
    .inr jump_plain⟩

theorem processes_keepsDefinitions : KeepsDefinitions processes := by
  refine keepsDefinitions_own ?_
  simp only [List.forall_mem_cons, List.not_mem_nil, IsEmpty.forall_iff, implies_true, and_true]
  exact ⟨.inl trivial, .inl trivial, .inr (.value callValue_pairs fun _ _ => rfl),
    .inr callStatement_plain, .inr earlyReturn_plain⟩

theorem phrases_keepsDefinitions : KeepsDefinitions phrases := by
  refine keepsDefinitions_own ?_
  simp only [List.forall_mem_cons, List.not_mem_nil, IsEmpty.forall_iff, implies_true, and_true]
  exact ⟨.inr (.value textLiteral_pairs fun _ _ => rfl),
    .inr (.value textJoin_pairs fun _ _ => rfl), .inr textAppend_plain,
    .inr (.value (textCall_pairs · _ _) fun _ _ => rfl),
    .inr (.value (textCall_pairs · _ _) fun _ _ => rfl),
    .inr (.value textSearch_pairs fun _ _ => rfl), .inr (.value textLetter_pairs fun _ _ => rfl),
    .inr (.value textCut_pairs fun _ _ => rfl),
    .inr (.value (textFrame_pairs · _ (by decide)) fun _ _ => rfl),
    .inr (.value (textFrame_pairs · _ (by decide)) fun _ _ => rfl), .inr printText_plain,
    .inr (.value promptFixed_pairs fun _ _ => rfl),
    .inr (.value promptComputed_pairs fun _ _ => rfl)⟩

theorem dialect_keepsDefinitions (language : Language) :
    KeepsDefinitions language.dialect.rules := by
  cases language with
  | divGames =>
    refine keepsDefinitions_parents ?_
    rw [List.forall_mem_append]
    refine ⟨common_keepsDefinitions, ?_⟩
    simp only [List.forall_mem_cons, List.not_mem_nil, IsEmpty.forall_iff, implies_true, and_true]
    exact ⟨loops_keepsDefinitions, processes_keepsDefinitions⟩
  | fuzeBasic =>
    refine keepsDefinitions_parents ?_
    rw [List.forall_mem_append]
    refine ⟨common_keepsDefinitions, ?_⟩
    simp only [List.forall_mem_cons, List.not_mem_nil, IsEmpty.forall_iff, implies_true, and_true]
    exact phrases_keepsDefinitions

end Rulebook

end BlockCode
