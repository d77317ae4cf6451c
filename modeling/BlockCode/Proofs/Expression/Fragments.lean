import BlockCode.Proofs.Expression.Ranks
import BlockCode.Proofs.Run.Comments

namespace BlockCode

open Gen

namespace Site

variable {s : Setting} {rules : Rulebook} {site : Site}

/-- A site whose value sockets give values within their ranks. -/
theorem isRanked_of_plugged (hvalues : ∀ socket branch, plugged site.inputs socket = some branch →
      Ensures (Context.Guarded s) s Emission.IsRanked branch.code)
    (hcolour : ∀ v, site.head.field "COLOUR" = .ok v → '\'' ∉ v.written.toList) :
    site.IsRanked s := by
  refine ⟨fun socket required => ?_, hcolour⟩
  unfold value valueAt
  split
  · exact .pure (.inl rfl)
  · next branch hbranch =>
    refine (hvalues socket branch hbranch).bind fun emission hemission => ?_
    cases emission with
    | value code rank =>
      obtain ⟨order, rfl, hcode⟩ := hemission
      exact .pure (.inr (hcode.place required))
    | statement code =>
      dsimp only
      split
      · exact .pure (.inl rfl)
      · exact .throw _

theorem outcome_ranked (hrules : rules.Ranks s) (hsite : site.IsRanked s) {r : Run}
    (hr : r.Keeps (Context.Guarded s)) {outcome : Outcome}
    (h : (exec (site.outcome rules) s r).1 = .ok outcome) : outcome.IsRanked := by
  rw [Site.outcome, exec_bind, exec_ofExcept] at h
  cases hrule : rules.ruleFor site.head.kind with
  | error fault =>
    rw [hrule] at h
    cases h
  | ok found =>
    rw [hrule] at h
    cases found with
    | none => cases h
    | some rule =>
      unfold Rulebook.ruleFor at hrule
      split at hrule
      · next kind _ => exact hrules kind rule (Except.ok.inj hrule) site hsite r hr outcome h
      · split at hrule <;> cases hrule

theorem placed_ranked (hcomments : ∀ mark, site.commentLines mark = .ok "")
    (hnext : site.next = none) {outcome : Outcome} (houtcome : outcome.IsRanked) {r : Run}
    {emission : Emission} (h : (exec (site.placed outcome) s r).1 = .ok emission) :
    emission.IsRanked := by
  cases outcome with
  | value code rank =>
    rw [placed_value hcomments hnext] at h
    cases h
    exact houtcome
  | nothing =>
    cases h
    trivial
  | misfit what => cases h
  | statement code =>
    rw [placed, exec_bind, exec_read] at h
    dsimp only at h
    rw [exec_bind] at h
    generalize exec (site.sequence (site.wrapped s.config code)) s r = result at h
    obtain ⟨fault | text, r'⟩ := result <;> cases h
    trivial

/-- What stands alone and without comments is emitted within its rank. -/
theorem emit_ranked (hrules : rules.Ranks s) (hsite : site.IsRanked s)
    (hcomments : ∀ mark, site.commentLines mark = .ok "") (hnext : site.next = none) {r : Run}
    (hr : r.Keeps (Context.Guarded s)) {emission : Emission}
    (h : (exec (site.emit rules) s r).1 = .ok emission) : emission.IsRanked := by
  cases hdisabled : site.head.isDisabled with
  | true =>
    rw [emit, hdisabled, if_pos rfl, skipped, hnext] at h
    cases h
    trivial
  | false =>
    have houtcome : ∀ outcome, (exec (site.outcome rules) s r).1 = .ok outcome → outcome.IsRanked :=
      fun _ => outcome_ranked hrules hsite hr
    rw [emit_of_enabled hdisabled, exec_bind] at h
    generalize exec (site.outcome rules) s r = result at h houtcome
    obtain ⟨fault | outcome, r'⟩ := result
    · cases h
    · exact placed_ranked hcomments hnext (houtcome outcome rfl) h

end Site

namespace Block

/-- A block with nothing chained after it, without a comment and with a colour that can be quoted; and
so are the blocks below it, as far as they are in value sockets. -/
inductive IsBare : Block → Prop where
  | mk {head : BlockHead} {inputs statements : List (String × Option Block)}
    (uncommented : head.comment.isSet = false)
    (quotable : ∀ v, head.field "COLOUR" = .ok v → '\'' ∉ v.written.toList)
    (below : ∀ socket ∈ inputs, ∀ b ∈ socket.2, IsBare b) :
    IsBare (.mk head inputs statements none)

theorem socketComments_eq_nil {sockets : List (String × Option Block)}
    (h : ∀ socket ∈ sockets, ∀ b ∈ socket.2, valueComments b = []) :
    socketComments sockets = [] := by
  induction sockets with
  | nil => rfl
  | cons socket rest ih =>
    obtain ⟨name, plug⟩ := socket
    rw [List.forall_mem_cons] at h
    rw [socketComments, ih h.2]
    cases plug with
    | none => rfl
    | some b =>
      rw [linkComments, h.1 b rfl]
      rfl

theorem IsBare.valueComments_eq {b : Block} (h : b.IsBare) : valueComments b = [] := by
  induction h with
  | mk uncommented _ _ ih =>
    rw [valueComments, uncommented, socketComments_eq_nil ih]
    rfl

section Code

variable {s : Setting} {rules : Rulebook}
  (hagrees : Rulebook.Agrees true (Context.Guarded s) rules) (hrules : rules.Ranks s)
include hagrees

theorem branchAt_keeps (b : Block) (inline : Bool) {r : Run} (hr : r.Keeps (Context.Guarded s)) :
    (exec (branchAt rules inline b).code s r).2.Keeps (Context.Guarded s) := by
  have hlink : (Comparison.exact hagrees.kept Eq s).Link inline (some (branchAt rules inline b))
      (some (branchAt rules inline b)) :=
    branchAt_link (R := Eq) hagrees (fun _ _ hij => hij ▸ fun _ _ => rfl)
      (alike_refl (fun _ => rfl) b)
  exact Relates.keeps hlink hr

include hrules

theorem IsBare.ensures_ranked {b : Block} (h : b.IsBare) (inline : Bool) :
    Ensures (Context.Guarded s) s Emission.IsRanked (branchAt rules inline b).code := by
  induction h generalizing inline with
  | @mk head inputs statements uncommented quotable below ih =>
    intro r hr
    -- what is kept holds of any block; the induction down the value sockets is for the ranks
    refine ⟨branchAt_keeps hagrees _ inline hr, fun emission hemission => ?_⟩
    rw [branchAt] at hemission
    refine Site.emit_ranked hrules (Site.isRanked_of_plugged ?_ quotable) ?_ rfl hr hemission
    · intro socket branch hbranch
      rw [plugged_socketBranches] at hbranch
      obtain ⟨b, hb, rfl⟩ := Option.map_eq_some_iff.1 hbranch
      exact ih (socket, some b) (mem_of_lookup (Option.join_eq_some_iff.1 hb)) b rfl true
    · intro mark
      refine Site.commentLines_of_none mark uncommented ?_
      rw [List.flatMap_def, socketBranches_comments, flatten_linkComments]
      exact socketComments_eq_nil fun socket hsocket b hb =>
        (below socket hsocket b hb).valueComments_eq

end Code

end Block

namespace Dialect

/-- DIV Games with the rules for texts. -/
def divWithText : Dialect where
  conventions := { divConventions with generator := "DivWithText" }
  rules := .mk "divtext" [] [divRules, Rules.phrases]

/-- The dialects that come with the library, and DIV Games with the rules for texts. -/
def extended : List Dialect :=
  [divGames, fuzeBasic, divWithText]

variable {dialect : Dialect} (h : dialect ∈ extended)
include h

theorem extended_pairs : Rulebook.Pairs true dialect.rules := by
  revert dialect
  simp only [extended, List.forall_mem_cons, List.not_mem_nil, IsEmpty.forall_iff, implies_true,
    and_true]
  have hlanguage (language : Language) : Rulebook.Pairs true language.dialect.rules :=
    Rulebook.dialect_pairs fun _ => rfl
  refine ⟨hlanguage .divGames, hlanguage .fuzeBasic, Rulebook.pairs_parents ?_⟩
  simp only [List.forall_mem_cons, List.not_mem_nil, IsEmpty.forall_iff, implies_true, and_true]
  exact ⟨hlanguage .divGames, Rulebook.phrases_pairs⟩

theorem extended_ranks {s : Setting} (hs : s.SparesOperators) : dialect.rules.Ranks s := by
  revert dialect
  simp only [extended, List.forall_mem_cons, List.not_mem_nil, IsEmpty.forall_iff, implies_true,
    and_true]
  have hcommon := Rulebook.common_ranks hs
  have hdiv : divRules.Ranks s := by
    refine Rulebook.ranks_parents (List.forall_mem_append.2 ⟨hcommon, ?_⟩)
    simp only [List.forall_mem_cons, List.not_mem_nil, IsEmpty.forall_iff, implies_true, and_true]
    exact ⟨Rulebook.loops_ranks, Rulebook.processes_ranks hs⟩
  refine ⟨hdiv, Rulebook.ranks_parents (List.forall_mem_append.2 ⟨hcommon, ?_⟩),
    Rulebook.ranks_parents ?_⟩ <;>
    simp only [List.forall_mem_cons, List.not_mem_nil, IsEmpty.forall_iff, implies_true, and_true]
  · exact Rulebook.phrases_ranks hs
  · exact ⟨hdiv, Rulebook.phrases_ranks hs⟩

/-- The words that would read as operators are reserved. -/
theorem extended_sparesOperators {config : Config} (hlead : config.variablePrefix = "") :
    (Generator.mk dialect config).setting.SparesOperators := by
  have hwords : ∀ word ∈ Token.frontWords.map Prod.fst, word ∈ helperWords := by
    decide
  have hreserved : helperWords ⊆ dialect.conventions.reserved := by
    revert dialect
    simp only [extended, List.forall_mem_cons, List.not_mem_nil, IsEmpty.forall_iff, implies_true,
      and_true]
    have happend (own : List String) : helperWords ⊆ (own ++ helperWords).eraseDups :=
      fun _ hword => List.mem_eraseDups.2 (List.mem_append_right _ hword)
    simp only [divWithText, divGames, divConventions, fuzeBasic, fuzeConventions]
    exact ⟨happend divWords, happend basicWords, happend divWords⟩
  refine ⟨hlead, fun word hword => ?_⟩
  exact List.mem_eraseDups.2 (List.mem_append_left _ (hreserved (hwords word hword)))

end Dialect

/-- A value and its rank, if that is an integer. -/
def Emission.ranked? : Emission → Option (String × Rank)
  | .value code (.int rank) => some (code, rank)
  | _ => none

theorem Emission.eq_of_ranked? {answer : Except Fault Emission} {code : String} {rank : Rank}
    (h : answer.toOption.bind ranked? = some (code, rank)) :
    answer = .ok (.value code (.int rank)) := by
  obtain ⟨emission, hemission, hranked⟩ := Option.bind_eq_some_iff.1 h
  cases answer with
  | error fault => cases hemission
  | ok emission =>
    cases hemission
    unfold ranked? at hranked
    split at hranked
    · cases hranked
      rfl
    · cases hranked

namespace Generator

/-- Whatever was done before, the brackets of the code that a value block gives match, and every
operator outside them has a rank that is not looser than the one given with the code. -/
theorem value_code_balanced_and_ranked (dialect : Dialect) (hdialect : dialect ∈ Dialect.extended)
    (config : Config) (hlead : config.variablePrefix = "") (earlier : List Operation) (b : Block)
    (hb : b.IsBare) (inline : Bool) (code : String) (rank : Value) :
    let g : Generator := ⟨dialect, config⟩
    ((Session.after g earlier).perform g (b.branchAt g.dialect.rules inline).code).1 =
        .ok (.value code rank) →
      ∃ order, rank = .int order ∧ ∃ tokens, Token.ofText? code = some tokens ∧
        Token.Balanced tokens ∧ Token.Ranked order tokens := by
  intro g hanswer
  have hs : g.setting.SparesOperators := Dialect.extended_sparesOperators hdialect hlead
  have hagrees : Rulebook.Agrees true (Context.Guarded g.setting) g.dialect.rules :=
    ⟨Context.Guarded.kept _, (Dialect.extended_pairs hdialect).compares⟩
  have hguarded := Session.after_guarded hagrees earlier
  have hcode := hb.ensures_ranked hagrees (Dialect.extended_ranks hdialect hs) inline
  obtain ⟨order, hrank, hwithin⟩ := (hcode _ hguarded).2 _ hanswer
  exact ⟨order, hrank, hwithin.exists_tokens⟩

/-- A block with nothing but its data and its value sockets. -/
def valueBlock (kind : String) (fields mutation : List (String × Value))
    (inputs : List (String × Option Block)) : Block :=
  .mk { kind := .text kind, fields := .map fields, mutation := .map mutation, id := .text kind }
    inputs [] none

theorem isBare_valueBlock {kind : String} {fields mutation : List (String × Value)}
    {inputs : List (String × Option Block)}
    (hcolour : '\'' ∉ ((fields.lookup "COLOUR").getD .null).written.toList)
    (hinputs : ∀ b ∈ inputs.filterMap Prod.snd, b.IsBare) :
    (valueBlock kind fields mutation inputs).IsBare := by
  refine .mk rfl ?_ fun socket hsocket b hb => ?_
  · rintro _ ⟨⟩
    exact hcolour
  · exact hinputs b (List.mem_filterMap.2 ⟨socket, hsocket, hb⟩)

/-- Three texts in a row: a choice with two sockets empty, a colour and a text, the last two with
brackets in their quotes. -/
def joinedTexts : Block :=
  let number := valueBlock "math_number" [("NUM", .int (-3))] [] []
  let minus := valueBlock "math_single" [("OP", .text "NEG")] [] [("NUM", some number)]
  let even := valueBlock "math_number_property" [("PROPERTY", .text "EVEN")] []
    [("NUMBER_TO_CHECK", none)]
  let either := valueBlock "logic_ternary" [] []
    [("IF", some even), ("THEN", some minus), ("ELSE", none)]
  let colour := valueBlock "colour_picker" [("COLOUR", .text "#)(")] [] []
  let text := valueBlock "text" [("TEXT", .text "\") - ('")] [] []
  valueBlock "text_join" [] [("items", .int 3)]
    [("ADD0", some either), ("ADD1", some colour), ("ADD2", some text)]

theorem joinedTexts_balanced_and_ranked :
    let g : Generator := ⟨.divWithText, {}⟩
    let code := "(0 % 2 == 0 ? - -3 : null) + '#)(' + \"\\\") - ('\""
    joinedTexts.IsBare ∧
      ((Session.after g [.start (.blocks [])]).perform g
        (joinedTexts.branchAt g.dialect.rules false).code).1 = .ok (.value code (.int 6)) ∧
      ∃ tokens, Token.ofText? code = some tokens ∧ Token.Balanced tokens ∧
        Token.Ranked 6 tokens := by
  intro g code
  have hbare : joinedTexts.IsBare := by
    have hdata {kind : String} {fields mutation : List (String × Value)}
        (hcolour : '\'' ∉ ((fields.lookup "COLOUR").getD .null).written.toList) :
        (valueBlock kind fields mutation []).IsBare :=
      isBare_valueBlock hcolour fun _ h => nomatch h
    refine isBare_valueBlock (by decide) ?_
    refine List.forall_mem_cons.2 ⟨isBare_valueBlock (by decide) ?_,
      List.forall_mem_cons.2 ⟨hdata (by decide), List.forall_mem_singleton.2 (hdata (by decide))⟩⟩
    refine List.forall_mem_cons.2 ⟨isBare_valueBlock (by decide) fun _ h => (nomatch h),
      List.forall_mem_singleton.2 (isBare_valueBlock (by decide) ?_)⟩
    exact List.forall_mem_singleton.2 (hdata (by decide))
  have hanswer := Emission.eq_of_ranked? (by decide +kernel :
    (((Session.after g [.start (.blocks [])]).perform g
      (joinedTexts.branchAt g.dialect.rules false).code).1.toOption.bind Emission.ranked?) =
      some (code, 6))
  have hdialect : Dialect.divWithText ∈ Dialect.extended := by simp [Dialect.extended]
  obtain ⟨order, horder, htokens⟩ := value_code_balanced_and_ranked .divWithText hdialect {} rfl
    [.start (.blocks [])] joinedTexts hbare false code (.int 6) hanswer
  cases horder
  exact ⟨hbare, hanswer, htokens⟩

end Generator

end BlockCode
