import BlockCode.Proofs.Loop.Counting

namespace BlockCode

open Rank Gen Loop Operand Binary64

namespace Value

variable {n : Int} (h : n.natAbs < 2 ^ 53)
include h

theorem toReal_int : (Value.int n).toReal = .ok (whole n) := by
  rw [toReal, ofInt?_whole h]

theorem toReal_text : (Value.text (toString n)).toReal = .ok (whole n) := by
  rw [toReal, Reading.real?_int h]

end Value

namespace Rules

theorem readNumber_whole {n : Int} (h : n.natAbs < 2 ^ 53) :
    readNumber (toString n) = pure (whole n) := by
  rw [readNumber, Value.toReal_text h]
  rfl

theorem trimmed_int (n : Int) : Text.trimmed (toString n) = toString n :=
  Text.trimmed_of_ink (not_isBlank_int n)

theorem stepToward_whole {m n k : Int} (hm : m.natAbs < 2 ^ 53) (hn : n.natAbs < 2 ^ 53)
    (hk : k.natAbs < 2 ^ 53) (hne : k ≠ 0) :
    stepToward (whole m) (whole n) (whole k) = whole (stride m n k) := by
  have hsize : (k.natAbs : Int) ≠ 0 := by omega
  unfold stepToward stride
  rw [lt_whole hn hm, abs_whole hk, neg_whole hsize hk]
  by_cases h : n < m
  · rw [decide_eq_true h, if_pos rfl, if_pos h]
  · rw [decide_eq_false h, if_neg Bool.false_ne_true, if_neg h]

theorem numberText_stepToward {m n k : Int} (hm : m.natAbs < 2 ^ 53) (hn : n.natAbs < 2 ^ 53)
    (hk : k.natAbs < 2 ^ 53) (hne : k ≠ 0) :
    numberText (stepToward (whole m) (whole n) (whole k)) = toString (stride m n k) := by
  have hsmall : (stride m n k).natAbs < 2 ^ 53 := by
    unfold stride
    split <;> omega
  rw [stepToward_whole hm hn hk hne, numberText_whole hsmall]

end Rules

namespace Loop

/-- Counting by literals. -/
def literalCode (counter : String) (first last step : Int) : Code :=
  ⟨[], counter, .counting (.number first) (.number last) (some (.number step))⟩

theorem literalCode_text (s : Setting) (counter : String) (first last step : Int) (body : String) :
    (literalCode counter first last step).text s body =
      Rules.literalCount counter (toString first) (toString last) (toString step) body := by
  unfold Rules.literalCount
  rw [Rules.trimmed_int, Rules.trimmed_int]
  simp only [literalCode, Code.text, Head.text_counting, Option.elim_some, Term.text, List.map_nil,
    String.join_nil, String.empty_append, String.append_assoc]

theorem towards_text (counter step : String) (last : Term) :
    (towards counter step last).text =
      step ++ " >= 0 && " ++ counter ++ " <= " ++ last.text ++ " || " ++ step ++ " < 0 && " ++
        counter ++ " >= " ++ last.text := by
  have hup : (" >= 0 && " : String) = " " ++ (">=" ++ (" " ++ (toString (0 : Int) ++ " && "))) := rfl
  have hmost : (" <= " : String) = " " ++ ("<=" ++ " ") := rfl
  have hdown : (" < 0 && " : String) = " " ++ ("<" ++ (" " ++ (toString (0 : Int) ++ " && "))) := rfl
  have hleast : (" >= " : String) = " " ++ (">=" ++ " ") := rfl
  rw [hup, hmost, hdown, hleast]
  simp only [towards, Condition.text, List.map_cons, List.map_nil, Test.text, Relation.sign, Term.text,
    String.intercalate_cons_cons, String.intercalate_singleton, String.append_assoc]

theorem computedCode_text (s : Setting) (copies more : List Statement) (start finish size : Term)
    (counter step body : String) :
    (computedCode copies more start finish size counter step).text s body =
      String.join (copies.map (Statement.text s)) ++ String.join (more.map (Statement.text s)) ++
        s.statement (step ++ " = " ++ size.text) ++
        Rules.computedCount counter start.text finish.text step s.config.indent
          (s.statement (step ++ " = -" ++ step)) body := by
  have habove : (" > " : String) = " " ++ (">" ++ " ") := rfl
  have hminus : (" = -" : String) = " = " ++ "-" := rfl
  unfold Rules.computedCount
  rw [habove, hminus]
  simp only [computedCode, Code.text, Head.text_tested, Option.elim_some, towards_text,
    Statement.text, Test.text, Relation.sign, Term.text, List.map_append, List.map_cons, List.map_nil,
    String.join_append, String.join_cons, String.join_nil, String.append_empty, String.append_assoc]

end Loop

/-- The term for the size of a step. -/
theorem Rules.exists_stepSize {config : Config} {c : Context} {size : Bound} {e : Term}
    (h : size.IsShown c.names e) (hc : c.Sound config) (hsmall : size.value.natAbs < 2 ^ 53) :
    ∃ t : Term, stepSize e.text = pure t.text ∧ (∀ σ, t.eval σ = (e.eval σ).natAbs) ∧
      t.names = e.names := by
  unfold stepSize
  rw [h.isNumber hc]
  cases size with
  | literal k =>
    obtain rfl := h
    have hk : k.natAbs < 2 ^ 53 := hsmall
    have habs : ((k.natAbs : Int)).natAbs < 2 ^ 53 := hk
    refine ⟨.number k.natAbs, ?_, fun _ => rfl, rfl⟩
    simp only [Bound.isLiteral, if_true, Term.text, readNumber_whole hk, pure_bind, abs_whole hk,
      numberText_whole habs]
  | named x n =>
    obtain ⟨name, -, rfl⟩ := h
    exact ⟨.size name, rfl, fun _ => rfl, rfl⟩

section Count

open Rules

variable {s : Setting} {site : Site} {c : Context} {parts : CountParts} {first last size : Bound}
  {e₁ e₂ e₃ : Term}

/-- The rule emits a counting loop if all bounds are literals and a tested loop otherwise, and the loop
goes from the first value toward the last one. -/
def Site.EmitsCount (s : Setting) (site : Site) (first last size : Bound) :
    Outcome → Context → Prop :=
  site.EmitsLoop s [first, last, size] (progression first.value last.value size.value) fun head =>
    head.isCounting = (first.isLiteral && last.isLiteral && size.isLiteral)

/-- What is known when the parts of a loop have been generated: the counter has its name, the bounds
are terms, and the body came last. -/
structure Site.Prepares (s : Setting) (site : Site) (c : Context) (parts : CountParts)
    (first last size : Bound) (e₁ e₂ e₃ : Term) : Prop where
  orderly : c.Orderly s.config
  gave : c.names.Gave parts.name
  first_eq : parts.first = e₁.text
  last_eq : parts.last = e₂.text
  increment_eq : parts.increment = e₃.text
  shows_first : first.IsShown c.names e₁
  shows_last : last.IsShown c.names e₂
  shows_size : size.IsShown c.names e₃
  other : parts.name ∉ e₂.names
  body : ∃ p q, exec (site.loopBody "DO") s p = (.ok parts.body, q) ∧ q.context = some c

namespace Site.Prepares

variable (h : site.Prepares s c parts first last size e₁ e₂ e₃)
include h

theorem isLiteral_eq :
    parts.isLiteral = (first.isLiteral && last.isLiteral && size.isLiteral) := by
  rw [CountParts.isLiteral, h.first_eq, h.last_eq, h.increment_eq, h.shows_first.isNumber h.orderly.1,
    h.shows_last.isNumber h.orderly.1, h.shows_size.isNumber h.orderly.1]

variable (hne : size.value ≠ 0)
include hne

theorem emits_literal {m n k : Int} (hm : first = .literal m) (hn : last = .literal n)
    (hk : size = .literal k) :
    site.EmitsCount s first last size
      (.statement ((literalCode parts.name m n (stride m n k)).text s parts.body)) c := by
  subst hm hn hk
  have hk₀ : k ≠ 0 := hne
  obtain ⟨p, q, hbody, hq⟩ := h.body
  refine ⟨_, parts.body, p, q, c, hbody, hq, rfl, rfl, ?_⟩
  intro body σ hspared _ visited
  rw [Code.visits_counting rfl (stride_ne_zero hk₀) rfl fun τ => hspared τ _ (.inl rfl)]
  simp only [Term.eval_number, remaining_stride hk₀]
  rfl

/-- With copies of the bounds or the bounds themselves, and with a name for the step that was not given
before. -/
theorem emits_computed (hall : (first.isLiteral && last.isLiteral && size.isLiteral) = false)
    {c₁ c₂ c₃ : Context} (h₁ : c.Follows s.config c₁) (h₂ : c₁.Follows s.config c₂)
    (h₃ : c₂.Follows s.config c₃) {start finish t : Term} {copies more : List Statement}
    (hstart : Copies c.names c₁.names e₁ start copies)
    (hfinish : Copies c₁.names c₂.names e₂ finish more) {step : String}
    (hstep : ¬ c₂.names.Gave step) (ht : ∀ σ, t.eval σ = (e₃.eval σ).natAbs)
    (hnames : t.names = e₃.names) :
    site.EmitsCount s first last size
      (.statement ((computedCode copies more start finish t parts.name step).text s parts.body))
      c₃ := by
  obtain ⟨p, q, hbody, hq⟩ := h.body
  refine ⟨_, parts.body, p, q, c, hbody, hq, rfl, hall.symm, ?_⟩
  intro body σ hspared hholds visited
  have hlater := (h₁.trans (h₂.trans h₃)).grows
  have hfirst := (h.shows_first.grows hlater).eval (hholds first (by simp))
  have hlast := (h.shows_last.grows hlater).eval (hholds last (by simp))
  have hsize := (h.shows_size.grows hlater).eval (hholds size (by simp))
  have haccounts : c.names.Accounts := h.orderly.2.1
  rw [computedCode_visits h₁.grows h₂.grows hstart hfinish hstep (h.shows_first.gave haccounts)
    (h.shows_last.gave haccounts) (hnames ▸ h.shows_size.gave haccounts)
    ((ht σ).trans (congrArg (fun n : Int => (n.natAbs : Int)) hsize)) hne h.gave h.other hspared,
    hfirst, hlast]

variable (hsmall : ∀ bound ∈ [first, last, size], bound.value.natAbs < 2 ^ 53)
include hsmall

theorem literal_eq (hall : (first.isLiteral && last.isLiteral && size.isLiteral) = true) :
    ∃ outcome, parts.literal = pure outcome ∧ site.EmitsCount s first last size outcome c := by
  simp only [Bool.and_eq_true] at hall
  obtain ⟨m, hm, rfl⟩ := h.shows_first.exists_literal hall.1.1
  obtain ⟨n, hn, rfl⟩ := h.shows_last.exists_literal hall.1.2
  obtain ⟨k, hk, rfl⟩ := h.shows_size.exists_literal hall.2
  have hemits := h.emits_literal hne hm hn hk
  unfold CountParts.literal
  rw [h.first_eq, h.last_eq, h.increment_eq]
  subst hm hn hk
  simp only [List.forall_mem_cons, Bound.value] at hsmall hne
  obtain ⟨hm, hn, hk, -⟩ := hsmall
  rw [literalCode_text, ← numberText_stepToward hm hn hk hne] at hemits
  simp only [Term.text, readNumber_whole hm, readNumber_whole hn, readNumber_whole hk, pure_bind]
  exact ⟨_, rfl, hemits⟩

variable {c₀ : Context} (hc₀ : c₀.Follows s.config c)
include hc₀

/-- The step is the last name to be asked for, so its name is apart from those of the copies. -/
theorem computed_leads (hall : (first.isLiteral && last.isLiteral && size.isLiteral) = false) :
    Leads s c parts.computed (site.EmitsCount s first last size) (site.LoopFault s c₀) := by
  unfold CountParts.computed
  rw [h.first_eq, h.last_eq, h.increment_eq]
  refine (cached_leads h.orderly (.exhausted hc₀) e₁ _).bind ?_
  rintro _ c₁ ⟨h₁, start, copies, rfl, hstart⟩
  have hc₁ := hc₀.trans h₁
  refine (cached_leads h₁.orderly (.exhausted hc₁) e₂ _).bind ?_
  rintro _ c₂ ⟨h₂, finish, more, rfl, hfinish⟩
  refine (Leads.temporary h₂.orderly (.exhausted (hc₁.trans h₂)) _).bind ?_
  rintro step c₃ ⟨h₃, hnew, -⟩
  obtain ⟨t, ht, htEval, htNames⟩ :=
    exists_stepSize h.shows_size h.orderly.1 (hsmall size (by simp))
  have hemits := h.emits_computed hne hall h₁ h₂ h₃ hstart hfinish hnew htEval htNames
  rw [computedCode_text] at hemits
  rw [ht]
  exact .pure_bind (.read_bind (.read_bind (.read_bind (.pure hemits))))

theorem code_leads :
    Leads s c parts.code (site.EmitsCount s first last size) (site.LoopFault s c₀) := by
  unfold CountParts.code
  rw [h.isLiteral_eq]
  split
  · next hall =>
    obtain ⟨outcome, hliteral, hemits⟩ := h.literal_eq hne hsmall hall
    rw [hliteral]
    exact .pure hemits
  · next hall => exact h.computed_leads hne hsmall hc₀ (Bool.not_eq_true _ ▸ hall)

end Site.Prepares

end Count

section Repeat

/-- What is emitted is a loop that runs its body as often as the bound says, and not at all if that is
below one. -/
def Site.EmitsRepeat (s : Setting) (site : Site) (bound : Bound) (outcome : Outcome) (d : Context) :
    Prop :=
  ∃ values, values.length = bound.value.toNat ∧
    site.EmitsLoop s [bound] values (fun _ => True) outcome d

namespace Loop

/-- A loop that counts from one up to the last value: a counting loop only where it would not count
down, which can be told of literals alone. -/
inductive CountsUp (counter : String) (last : Term) : Head → Prop where
  | counting {n : Int} (hlast : last = .number n) (hn : 1 ≤ n) :
    CountsUp counter last (.counting (.number 1) last none)
  | tested : CountsUp counter last (.tested (.number 1) (upTo counter last) none)

/-- Where the last value is below one there is no turn at all. -/
theorem CountsUp.visits {code : Code} {last : Term} (h : CountsUp code.counter last code.head)
    (hcounter : code.counter ∉ last.names) {a : Allocator} {body : Store → Store}
    (hspared : code.IsSparedBy a body) (σ : Store) (visited : List Int) :
    code.Visits body σ visited ↔ visited = walk 1 1 (last.eval (code.entry σ)).toNat := by
  generalize hhead : code.head = head at h
  cases h with
  | counting hlast hn =>
    subst hlast
    have hstep : code.head.step (code.entry σ) σ = 1 := by
      rw [hhead]
      exact if_neg (Int.not_lt.2 hn)
    rw [Code.visits_counting hhead Int.one_ne_zero hstep fun τ => hspared τ _ (.inl rfl)]
    simp only [Term.eval_number, remaining_one]
  | tested =>
    have hbody : ∀ τ, ∀ x ∈ code.counter :: last.names, body τ x = τ x := by
      intro τ x hx
      refine hspared τ x ?_
      rcases List.mem_cons.1 hx with rfl | hx
      · exact .inl rfl
      · refine .inr (.inl ?_)
        simp [hhead, Head.bounds, upTo, hx]
    rw [Code.visits_upTo hhead hcounter hbody]
    simp only [Term.eval_number, remaining_one]

end Loop

namespace Rules

theorem countingForm_eq (counter text : String) (n : Int) :
    countingForm counter (toString n) text =
      (Head.counting (.number 1) (.number n) none).text counter ++ text ++ "END\n" := by
  have hone : (" = 1 TO " : String) = " = " ++ (toString (1 : Int) ++ " TO ") := rfl
  unfold countingForm
  rw [trimmed_int, hone]
  simp only [Head.text_counting, Option.elim_none, Term.text, String.append_empty,
    String.append_assoc]

theorem testedForm_eq (counter text : String) (last : Term) :
    testedForm counter last.text text =
      (Head.tested (.number 1) (upTo counter last) none).text counter ++ text ++ "END\n" := by
  have hone : (" = 1; " : String) = " = " ++ (toString (1 : Int) ++ "; ") := rfl
  have hmost : (" <= " : String) = " " ++ ("<=" ++ " ") := rfl
  have hplus : ("++)\n" : String) = "++" ++ ")\n" := rfl
  unfold testedForm
  rw [hone, hmost, hplus]
  simp only [Head.text_tested, Option.elim_none, upTo, Condition.text, List.map_cons, List.map_nil,
    Test.text, Relation.sign, Term.text, String.intercalate_singleton, String.append_assoc]

theorem countedLoop_literal {n : Int} (h : n.natAbs < 2 ^ 53) (counter text : String) :
    ∃ head, CountsUp counter (.number n) head ∧
      countedLoop counter (toString n) text = pure (head.text counter ++ text ++ "END\n") := by
  have hone : Binary64.ofRatio false 1 1 = whole 1 := rfl
  have hloop : countedLoop counter (toString n) text =
      pure (if decide (1 ≤ n) then countingForm counter (toString n) text
        else testedForm counter (toString n) text) := by
    rw [← le_whole (by decide) h]
    unfold countedLoop
    rw [isNumber_int, if_pos rfl, readNumber_whole h, hone]
    rfl
  by_cases hn : 1 ≤ n
  · refine ⟨_, .counting rfl hn, ?_⟩
    rw [hloop, decide_eq_true hn, if_pos rfl, countingForm_eq]
  · refine ⟨_, .tested, ?_⟩
    rw [hloop, decide_eq_false hn, if_neg Bool.false_ne_true]
    exact congrArg pure (testedForm_eq counter text (.number n))

theorem countedLoop_foreign {e : Term} (h : HasForeign e.text) (counter text : String) :
    ∃ head, CountsUp counter e head ∧
      countedLoop counter e.text text = pure (head.text counter ++ text ++ "END\n") := by
  refine ⟨_, .tested, ?_⟩
  rw [← testedForm_eq]
  unfold countedLoop
  rw [h.isNumber]
  rfl

end Rules

end Repeat

section Rules

variable {s : Setting} {c : Context} (hc : c.Orderly s.config) {b : Block}
include hc

theorem Rules.countParts_leads {var : String} {first last size : Bound}
    (hvar : b.head.field "VAR" = .ok (.text var)) (hfirst : first.Fills (b.plugged "FROM"))
    (hlast : last.Fills (b.plugged "TO")) (hsize : size.Fills (b.plugged "BY"))
    (hother : ∀ x n, last = .named x n → x ≠ var)
    (hsmall : ∀ bound ∈ [first, last, size], bound.value.natAbs < 2 ^ 53) :
    let site := b.site Language.divGames.dialect.rules
    Leads s c (countParts site)
      (fun parts d => c.Follows s.config d ∧
        ∃ e₁ e₂ e₃, site.Prepares s d parts first last size e₁ e₂ e₃)
      (site.LoopFault s c) := by
  intro site
  unfold countParts Site.field
  rw [Block.site_head, hvar]
  refine .pure_bind ((Leads.variableName hc (.exhausted (.refl hc)) var).bind fun counter c₁ h₁ => ?_)
  refine (Block.valueOr_leads h₁.1.orderly (.exhausted h₁.1) hfirst (hsmall _ (by simp))
    .divGames).bind ?_
  rintro _ c₂ ⟨h₂, e₁, rfl, hshown₁⟩
  have hc₂ := h₁.1.trans h₂
  refine (Block.valueOr_leads h₂.orderly (.exhausted hc₂) hlast (hsmall _ (by simp))
    .divGames).bind ?_
  rintro _ c₃ ⟨h₃, e₂, rfl, hshown₂⟩
  have hc₃ := hc₂.trans h₃
  refine (Block.valueOr_leads h₃.orderly (.exhausted hc₃) hsize (hsmall _ (by simp))
    .divGames).bind ?_
  rintro _ c₄ ⟨h₄, e₃, rfl, hshown₃⟩
  have hc₄ := hc₃.trans h₄
  refine (Block.loopBody_leads h₄.orderly (Rulebook.dialect_pairs fun _ => rfl) b
    (.body hc₄)).bind ?_
  rintro text c₅ ⟨h₅, hbody⟩
  have hcounter := (h₂.trans (h₃.trans (h₄.trans h₅))).names h₁.2
  have hlast₅ := hshown₂.grows (h₄.trans h₅).grows
  refine .pure ⟨hc₄.trans h₅, e₁, e₂, e₃, ?_⟩
  exact
    { orderly := h₅.orderly
      gave := hcounter.gave h₅.orderly.2.1
      first_eq := rfl
      last_eq := rfl
      increment_eq := rfl
      shows_first := hshown₁.grows (h₃.trans (h₄.trans h₅)).grows
      shows_last := hlast₅
      shows_size := hshown₃.grows h₅.grows
      other := hlast₅.ne h₅.orderly.2.2 hother hcounter
      body := hbody }

theorem Rules.count_leads {var : String} {first last size : Bound}
    (hvar : b.head.field "VAR" = .ok (.text var)) (hfirst : first.Fills (b.plugged "FROM"))
    (hlast : last.Fills (b.plugged "TO")) (hsize : size.Fills (b.plugged "BY"))
    (hother : ∀ x n, last = .named x n → x ≠ var)
    (hsmall : ∀ bound ∈ [first, last, size], bound.value.natAbs < 2 ^ 53) (hne : size.value ≠ 0) :
    let site := b.site Language.divGames.dialect.rules
    Leads s c (Rules.count site) (site.EmitsCount s first last size) (site.LoopFault s c) := by
  intro site
  refine (countParts_leads hc hvar hfirst hlast hsize hother hsmall).bind ?_
  rintro parts d ⟨hd, e₁, e₂, e₃, hparts⟩
  exact hparts.code_leads hne hsmall hd

theorem Rules.repeatFixed_leads {v : Value} {n : Int}
    (hv : b.head.fields.entryOr "TIMES" (.int 0) = .ok v) (hn : v.toReal = .ok (whole n))
    (hsmall : n.natAbs < 2 ^ 53) :
    let site := b.site Language.divGames.dialect.rules
    Leads s c (Rules.repeatFixed site) (site.EmitsRepeat s (.literal n)) (site.LoopFault s c) := by
  intro site
  unfold Rules.repeatFixed Site.fieldOr
  rw [Block.site_head, hv]
  refine .pure_bind ?_
  rw [hn]
  refine .pure_bind ((Leads.temporary hc (.exhausted (.refl hc)) "count").bind ?_)
  rintro counter c₁ ⟨h₁, -, hgave, -⟩
  refine (Block.loopBody_leads h₁.orderly (Rulebook.dialect_pairs fun _ => rfl) b (.body h₁)).bind ?_
  rintro text c₂ ⟨h₂, p, q, hbody, hq⟩
  obtain ⟨head, hhead, hloop⟩ := countedLoop_literal hsmall counter text
  rw [numberText_whole hsmall, hloop]
  refine .pure_bind (.pure ⟨walk 1 1 n.toNat, length_walk 1 1 _, ⟨[], counter, head⟩, text, p, q, c₂,
    hbody, hq, ?_, trivial, ?_⟩)
  · simp only [Code.text, List.map_nil, String.join_nil, String.empty_append]
  · intro body σ hspared _ visited
    exact CountsUp.visits hhead (by simp) hspared σ visited

theorem Rules.repeatComputed_leads {bound : Bound} (hbound : bound.Fills (b.plugged "TIMES"))
    (hsmall : bound.value.natAbs < 2 ^ 53) :
    let site := b.site Language.divGames.dialect.rules
    Leads s c (Rules.repeatComputed site) (site.EmitsRepeat s bound) (site.LoopFault s c) := by
  intro site
  unfold Rules.repeatComputed
  refine (Block.valueOr_leads hc (.exhausted (.refl hc)) hbound hsmall .divGames).bind ?_
  rintro _ c₁ ⟨h₁, e, rfl, hshown⟩
  refine (Leads.temporary h₁.orderly (.exhausted h₁) "count").bind ?_
  rintro counter c₂ ⟨h₂, hfresh, hgave, -⟩
  have hc₂ := h₁.trans h₂
  refine (cached_leads h₂.orderly (.exhausted hc₂) e "repeat_end").bind ?_
  rintro _ c₃ ⟨h₃, copy, setup, rfl, hcopy⟩
  refine (Block.loopBody_leads h₃.orderly (Rulebook.dialect_pairs fun _ => rfl) b
    (.body (hc₂.trans h₃))).bind ?_
  rintro text c₄ ⟨h₄, p, q, hbody, hq⟩
  have hloop : ∃ head, CountsUp counter copy head ∧
      countedLoop counter copy.text text = pure (head.text counter ++ text ++ "END\n") := by
    cases hcopy with
    | itself =>
      rcases hshown.literal_or_foreign h₁.orderly.1 with ⟨n, rfl, rfl⟩ | ⟨-, hforeign⟩
      · exact countedLoop_literal hsmall counter text
      · exact countedLoop_foreign hforeign counter text
    | @copied t _ _ hforeign => exact countedLoop_foreign (e := .name t) hforeign counter text
  have hcounter : counter ∉ copy.names :=
    hcopy.not_mem_names hgave fun hmem => hfresh (hshown.gave h₁.orderly.2.1 _ hmem)
  obtain ⟨head, hhead, hloop⟩ := hloop
  rw [hloop]
  refine .pure_bind (.pure ⟨walk 1 1 bound.value.toNat, length_walk 1 1 _, ⟨setup, counter, head⟩,
    text, p, q, c₄, hbody, hq, ?_, trivial, ?_⟩)
  · simp only [Code.text, String.append_assoc]
  · intro body σ hspared hholds visited
    have hvalue := (hshown.grows (h₂.trans (h₃.trans h₄)).grows).eval
      (hholds bound List.mem_cons_self)
    rw [CountsUp.visits hhead hcounter hspared]
    dsimp only [Code.entry]
    rw [hcopy.eval, hvalue]

end Rules

theorem Block.outcome_eq {rules : Rulebook} {b : Block} {kind : String} {rule : Rule}
    (hrule : rules.lookup kind = some rule) (hkind : b.head.kind = .text kind) :
    (b.site rules).outcome rules = rule (b.site rules) := by
  rw [Site.outcome, b.site_head, hkind, Rulebook.ruleFor, hrule]
  rfl

namespace Generator

/-- Loops emitted for literals and loops emitted for variables that hold the same numbers visit the same
values: those from the first bound toward the last one in steps of the given size, whatever its sign.
Only the last bound must not be the variable that counts. Repetitions run their body as often as they
are to, be the count a field, a literal or a variable. Loops are refused only for want of an identifier
or because of their body. All this goes for orderly contexts, and there are no others in a session. -/
theorem emitted_loops_agree (config : Config) :
    let g : Generator := ⟨Language.divGames.dialect, config⟩
    let s := g.setting
    let rules := g.dialect.rules
    (∀ earlier, (Session.after g earlier).run.Keeps (Context.Orderly config)) ∧
    ∀ c : Context, c.Orderly config →
    (∀ (b : Block) (var : String) (first last size : Bound),
      b.head.kind = .text "controls_for" → b.head.field "VAR" = .ok (.text var) →
      first.Fills (b.plugged "FROM") → last.Fills (b.plugged "TO") → size.Fills (b.plugged "BY") →
      (∀ x n, last = .named x n → x ≠ var) →
      (∀ bound ∈ [first, last, size], bound.value.natAbs < 2 ^ 53) → size.value ≠ 0 →
        Leads s c ((b.site rules).outcome rules) ((b.site rules).EmitsCount s first last size)
          ((b.site rules).LoopFault s c)) ∧
    (∀ (b : Block) (v : Value) (n : Int),
      b.head.kind = .text "controls_repeat" →
      b.head.fields.entryOr "TIMES" (.int 0) = .ok v → v.toReal = .ok (whole n) →
      n.natAbs < 2 ^ 53 →
        Leads s c ((b.site rules).outcome rules) ((b.site rules).EmitsRepeat s (.literal n))
          ((b.site rules).LoopFault s c)) ∧
    ∀ (b : Block) (bound : Bound),
      b.head.kind = .text "controls_repeat_ext" → bound.Fills (b.plugged "TIMES") →
      bound.value.natAbs < 2 ^ 53 →
        Leads s c ((b.site rules).outcome rules) ((b.site rules).EmitsRepeat s bound)
          ((b.site rules).LoopFault s c) := by
  intro g s rules
  have hcount : rules.lookup "controls_for" = some Rules.count := rfl
  have hfixed : rules.lookup "controls_repeat" = some Rules.repeatFixed := rfl
  have hcomputed : rules.lookup "controls_repeat_ext" = some Rules.repeatComputed := rfl
  refine ⟨Session.after_orderly .divGames config, fun c hc => ⟨?_, ?_, ?_⟩⟩
  · intro b var first last size hkind hvar hfirst hlast hsize hother hsmall hne
    rw [Block.outcome_eq hcount hkind]
    exact Rules.count_leads hc hvar hfirst hlast hsize hother hsmall hne
  · intro b v n hkind hv hn hsmall
    rw [Block.outcome_eq hfixed hkind]
    exact Rules.repeatFixed_leads hc hv hn hsmall
  · intro b bound hkind hbound hsmall
    rw [Block.outcome_eq hcomputed hkind]
    exact Rules.repeatComputed_leads hc hbound hsmall

/-- The value block with one field. -/
def leaf (kind field : String) (v : Value) : Option Block :=
  some (.mk { kind := .text kind, fields := .map [(field, v)], id := .text kind } [] [] none)

/-- Counts down from a variable, in steps that do not come out even. -/
def countdown : Block :=
  .mk { kind := .text "controls_for", fields := .map [("VAR", .text "i")], id := .text "loop" }
    [("FROM", leaf "variables_get" "VAR" (.text "n")), ("TO", leaf "math_number" "NUM" (.int 2)),
      ("BY", leaf "math_number" "NUM" (.int (-3)))] [] none

/-- Repeats nothing twice. -/
def twice : Block :=
  .mk { kind := .text "controls_repeat", fields := .map [("TIMES", .int 2)], id := .text "two" } [] []
    none

/-- Repeats nothing as often as a variable says. -/
def oftenEnough : Block :=
  .mk { kind := .text "controls_repeat_ext", id := .text "often" }
    [("TIMES", leaf "variables_get" "VAR" (.text "n"))] [] none

theorem countdown_agrees :
    let g : Generator := ⟨Language.divGames.dialect, {}⟩
    let s := g.setting
    let rules := g.dialect.rules
    let c := s.newContext
    progression 10 2 (-3) = [10, 7, 4] ∧
      (exec (topCode rules countdown) s { context := some ⟨{}, {}⟩ }).1.toOption =
        some ("i_inc = 3;\nIF (n > 2)\n  i_inc = -i_inc;\nEND\n" ++
          "FOR (i = n; i_inc >= 0 && i <= 2 || i_inc < 0 && i >= 2; i += i_inc)\nEND\n") ∧
      Leads s c ((countdown.site rules).outcome rules)
        ((countdown.site rules).EmitsCount s (.named "n" 10) (.literal 2) (.literal (-3)))
        ((countdown.site rules).LoopFault s c) ∧
      Leads s c ((twice.site rules).outcome rules) ((twice.site rules).EmitsRepeat s (.literal 2))
        ((twice.site rules).LoopFault s c) ∧
      Leads s c ((oftenEnough.site rules).outcome rules)
        ((oftenEnough.site rules).EmitsRepeat s (.named "n" (-1)))
        ((oftenEnough.site rules).LoopFault s c) := by
  intro g s rules c
  have hcode : (exec (topCode rules countdown) s { context := some ⟨{}, {}⟩ }).1.toOption =
      some ("i_inc = 3;\nIF (n > 2)\n  i_inc = -i_inc;\nEND\n" ++
        "FOR (i = n; i_inc >= 0 && i <= 2 || i_inc < 0 && i >= 2; i += i_inc)\nEND\n") := by
    decide +kernel
  have htwo : (Value.int 2).toReal = .ok (whole 2) := Value.toReal_int (by decide)
  have hthree : (Value.int (-3)).toReal = .ok (whole (-3)) := Value.toReal_int (by decide)
  have hsmall : ∀ bound ∈ [Bound.named "n" 10, .literal 2, .literal (-3)],
      bound.value.natAbs < 2 ^ 53 := by
    decide
  obtain ⟨hcount, hfixed, hcomputed⟩ :=
    (emitted_loops_agree {}).2 c (Context.Orderly.newContext s)
  refine ⟨by decide, hcode, ?_, ?_, ?_⟩
  · exact hcount countdown "i" _ _ _ rfl rfl ⟨_, rfl, ⟨rfl, rfl, rfl⟩, rfl⟩
      ⟨_, _, rfl, ⟨rfl, rfl, rfl⟩, rfl, htwo⟩ ⟨_, _, rfl, ⟨rfl, rfl, rfl⟩, rfl, hthree⟩ nofun hsmall
      (by decide)
  · exact hfixed twice _ 2 rfl rfl htwo (by decide)
  · exact hcomputed oftenEnough (.named "n" (-1)) rfl ⟨_, rfl, ⟨rfl, rfl, rfl⟩, rfl⟩ (by decide)

end Generator

end BlockCode
