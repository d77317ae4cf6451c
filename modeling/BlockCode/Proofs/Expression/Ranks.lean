import BlockCode.Proofs.Expression.Emission
import BlockCode.Proofs.Expression.Numeral
import BlockCode.Proofs.Run.Chains
import BlockCode.Proofs.Run.Ensures
import BlockCode.Proofs.Run.Watch

namespace BlockCode

open Rank Gen

/-- No identifier of a run reads as an operator. -/
structure Setting.SparesOperators (s : Setting) : Prop where
  lead : s.config.variablePrefix = ""
  reserved : ∀ word ∈ Token.frontWords.map Prod.fst, word ∈ s.reserved

/-- A value comes with a rank, and its code is within it. -/
def Outcome.IsRanked : Outcome → Prop
  | .value code rank => ∃ order, rank = .int order ∧ Within order code
  | _ => True

def Emission.IsRanked : Emission → Prop
  | .value code rank => ∃ order, rank = .int order ∧ Within order code
  | .statement _ => True

/-- What a rule gets from the site is within the rank that it requires, and the colour is one that can be
quoted. -/
structure Site.IsRanked (s : Setting) (site : Site) : Prop where
  value : ∀ socket required, Ensures (Context.Guarded s) s
    (fun code => code = "" ∨ Within required code) (site.value socket required)
  colour : ∀ v, site.head.field "COLOUR" = .ok v → '\'' ∉ v.written.toList

/-- The values of a rule are within their ranks. -/
def Rule.Ranks (s : Setting) (rule : Rule) : Prop :=
  ∀ site : Site, site.IsRanked s → ∀ r : Run, r.Keeps (Context.Guarded s) →
    ∀ outcome, (exec (rule site) s r).1 = .ok outcome → outcome.IsRanked

theorem Within.orElse {required : Rank} {code default : String}
    (h : code = "" ∨ Within required code) (hdefault : Within required default) :
    Within required (BlockCode.orElse code default) := by
  unfold BlockCode.orElse
  split
  · exact hdefault
  · next hne => exact h.resolve_left hne

namespace Rule.Ranks

variable {s : Setting} {rule : Rule}

theorem of_ensures (h : ∀ site : Site, site.IsRanked s →
    Ensures (Context.Guarded s) s Outcome.IsRanked (rule site)) : rule.Ranks s :=
  fun site hsite r hr => (h site hsite r hr).2

/-- Rules for statements give no values. -/
theorem of_statement {kind : String} (h : Rule.Pairs true .statement kind rule) : rule.Ranks s := by
  intro site _ r _ outcome houtcome
  obtain ⟨t, hshape⟩ := Rule.Pairs.outcome h ⟨s, r, houtcome⟩
  cases outcome with
  | value code rank => exact hshape.elim
  | _ => trivial

end Rule.Ranks

theorem Site.IsRanked.valueOr {s : Setting} {site : Site} (h : site.IsRanked s) (socket : String)
    {required : Rank} {default : String} (hdefault : Within required default) :
    Ensures (Context.Guarded s) s (Within required) (site.valueOr socket required default) :=
  (h.value socket required).bind fun _ hcode => .pure (.orElse hcode hdefault)

namespace Setting.SparesOperators

variable {s : Setting} (hs : s.SparesOperators)
include hs

theorem word {x : String} (h : Name.isLegal x = true ∧ x ∉ s.reserved) : Within atomic x :=
  .word h.1 fun hmem => h.2 (hs.reserved x hmem)

theorem nameOf (type : NameType) (name : Value) :
    Ensures (Context.Guarded s) s (Within atomic) (Gen.nameOf type name) :=
  (Ensures.nameOf hs.lead type name).imp fun _ => hs.word

/-- A helper routine and what is done with its name. -/
theorem provide {α : Type} {Q : α → Prop} (key : Value) (template : String → List String)
    {f : String → Gen α}
    (hf : ∀ name, Within functionCall name → Ensures (Context.Guarded s) s Q (f name)) :
    Ensures (Context.Guarded s) s Q (do f (← Gen.provide key (template (← Gen.placeholder)))) := by
  have hplaceholder : Ensures (Context.Guarded s) s (fun _ => True) Gen.placeholder :=
    fun _ hr => ⟨hr, fun _ _ => trivial⟩
  refine hplaceholder.bind fun placeholder _ => ?_
  refine (Ensures.provide key (template placeholder)).bind fun name hname => hf name ?_
  exact (hs.word hname).mono (by decide)

end Setting.SparesOperators

namespace Rules

variable {s : Setting}

open Within

theorem comma_joins : joins comma ", " = true := by
  decide

theorem callTwo {name a b : String} (hname : Within functionCall name) (ha : Within comma a)
    (hb : Within comma b) : Within functionCall (name ++ "(" ++ a ++ ", " ++ b ++ ")") := by
  have hcall := hname.call (join comma_joins ha hb)
  simpa only [String.append_assoc] using hcall

theorem callThree {name a b c : String} (hname : Within functionCall name) (ha : Within comma a)
    (hb : Within comma b) (hc : Within comma c) :
    Within functionCall (name ++ "(" ++ a ++ ", " ++ b ++ ", " ++ c ++ ")") := by
  have hcall := callTwo hname (join comma_joins ha hb) hc
  simpa only [String.append_assoc] using hcall

theorem comparison_ranks : comparison.Ranks s := by
  have htable : ∀ entry ∈ comparisons, isWithin (entry.2.2 - 1) "0" = true ∧
      joins entry.2.2 (" " ++ entry.2.1 ++ " ") = true := by
    decide
  refine .of_ensures fun site h => (Ensures.option site _ _).bind ?_
  rintro ⟨operator, rank⟩ ⟨word, hentry⟩
  obtain ⟨hzero, hjoins⟩ := htable _ hentry
  have hle : rank - 1 ≤ rank := Int.sub_le_self rank (by decide)
  refine (h.valueOr "A" (of_isWithin hzero)).bind fun left hleft => ?_
  refine (h.valueOr "B" (of_isWithin hzero)).bind fun right hright => .pure ⟨rank, rfl, ?_⟩
  have hjoin := join hjoins (hleft.mono hle) (hright.mono hle)
  rwa [← String.append_assoc, ← String.append_assoc] at hjoin

theorem connective_ranks : connective.Ranks s := by
  have htable : ∀ entry ∈ connectives, isWithin entry.2.2.1 "false" = true ∧
      isWithin entry.2.2.1 entry.2.2.2 = true ∧
        joins entry.2.2.1 (" " ++ entry.2.1 ++ " ") = true := by
    decide
  refine .of_ensures fun site h => (Ensures.option site _ _).bind ?_
  rintro ⟨operator, rank, neutral⟩ ⟨word, hentry⟩
  obtain ⟨hfalse, hneutral, hjoins⟩ := htable _ hentry
  refine (h.value "A" rank).bind fun left hleft => ?_
  refine (h.value "B" rank).bind fun right hright => .pure ⟨rank, rfl, ?_⟩
  have hmissing : Within rank (if left = "" ∧ right = "" then "false" else neutral) := by
    split
    · exact of_isWithin hfalse
    · exact of_isWithin hneutral
  have hjoin := join hjoins (.orElse hleft hmissing) (.orElse hright hmissing)
  rwa [← String.append_assoc, ← String.append_assoc] at hjoin

theorem negation_ranks : negation.Ranks s :=
  .of_ensures fun _ h => (h.valueOr "BOOL" (of_isWithin (by decide))).bind fun _ hoperand =>
    .pure ⟨logicalNot, rfl, hoperand.negated⟩

theorem truthLiteral_ranks : truthLiteral.Ranks s := by
  refine .of_ensures fun site _ => (Ensures.option site _ _).bind ?_
  rintro code ⟨word, hentry⟩
  have htable : ∀ entry ∈ [("TRUE", "true"), ("FALSE", "false")], isWithin atomic entry.2 = true := by
    decide
  exact .pure ⟨atomic, rfl, of_isWithin (htable _ hentry)⟩

theorem nullLiteral_ranks : nullLiteral.Ranks s :=
  .of_ensures fun _ _ => .pure ⟨atomic, rfl, of_isWithin (by decide)⟩

theorem choice_ranks : choice.Ranks s := by
  refine .of_ensures fun site h => ?_
  refine (h.valueOr "IF" (of_isWithin (by decide))).bind fun condition hcondition => ?_
  refine (h.valueOr "THEN" (of_isWithin (by decide))).bind fun yes hyes => ?_
  refine (h.valueOr "ELSE" (of_isWithin (by decide))).bind fun no hno => .pure ⟨conditional, rfl, ?_⟩
  have hthen : Within conditional (condition ++ " ? " ++ yes) :=
    join (by decide) (hcondition.mono (by decide)) hyes
  exact join (by decide) hthen hno

theorem colourLiteral_ranks : colourLiteral.Ranks s := by
  refine .of_ensures fun site h => ?_
  -- the rule reads an absent colour as black, the field as null
  have hcolour : ∀ v, site.head.fields.entryOr "COLOUR" (.text "#000000") = .ok v →
      '\'' ∉ v.written.toList := by
    intro v hv
    cases hfields : site.head.fields with
    | map entries =>
      rw [hfields, Value.entryOr] at hv
      cases hlookup : entries.lookup "COLOUR" with
      | none =>
        rw [hlookup] at hv
        cases hv
        decide
      | some found =>
        rw [hlookup] at hv
        cases hv
        exact h.colour found (by rw [BlockHead.field, hfields, Value.entryOr, hlookup]; rfl)
    | _ =>
      rw [hfields] at hv
      cases hv
  exact (Ensures.ofExcept hcolour).bind fun v hv => .pure ⟨atomic, rfl, .quoted hv⟩

section Helpers

variable (hs : s.SparesOperators)
include hs

theorem randomColour_ranks : randomColour.Ranks s :=
  .of_ensures fun _ _ => hs.provide _ _ fun _ hname => .pure ⟨functionCall, rfl, hname.callNothing⟩

theorem mix_ranks : mix.Ranks s := by
  refine .of_ensures fun site h => ?_
  refine (h.valueOr "RED" (of_isWithin (by decide))).bind fun red hred => ?_
  refine (h.valueOr "GREEN" (of_isWithin (by decide))).bind fun green hgreen => ?_
  refine (h.valueOr "BLUE" (of_isWithin (by decide))).bind fun blue hblue => ?_
  refine hs.provide _ _ fun name hname => ?_
  exact .pure ⟨functionCall, rfl, callThree hname hred hgreen hblue⟩

theorem blend_ranks : blend.Ranks s := by
  refine .of_ensures fun site h => ?_
  refine (h.valueOr "COLOUR1" (of_isWithin (by decide))).bind fun first hfirst => ?_
  refine (h.valueOr "COLOUR2" (of_isWithin (by decide))).bind fun second hsecond => ?_
  refine (h.valueOr "RATIO" (of_isWithin (by decide))).bind fun ratio hratio => ?_
  refine hs.provide _ _ fun name hname => ?_
  exact .pure ⟨functionCall, rfl, callThree hname hfirst hsecond hratio⟩

theorem variableValue_ranks : variableValue.Ranks s :=
  .of_ensures fun _ _ => (Ensures.any _).bind fun _ _ => (hs.nameOf _ _).bind fun _ hname =>
    .pure ⟨atomic, rfl, hname⟩

end Helpers

theorem numberCode?_within {x : Binary64} {code : String} {rank : Rank}
    (h : numberCode? x = some (code, rank)) : Within rank code := by
  have htext := Within.numberText x
  match x with
  | .nan => cases h
  | .infinite false =>
    cases h
    exact of_isWithin (by decide)
  | .infinite true =>
    cases h
    exact of_isWithin (by decide)
  | .finite negative m e =>
    cases h
    split
    · exact htext.1
    · next hsign => exact htext.2 (Bool.eq_false_iff.2 hsign)

theorem numberLiteral_ranks : numberLiteral.Ranks s := by
  refine .of_ensures fun site _ => (Ensures.any _).bind fun raw _ => ?_
  dsimp only
  split
  · exact .throw _
  · exact .throw _
  · split
    · next hcode => exact .pure ⟨_, rfl, numberCode?_within hcode⟩
    · exact .throw _

theorem arithmetic_ranks : arithmetic.Ranks s := by
  have htable : ∀ entry ∈ arithmetics, isWithin entry.2.rank "0" = true ∧
      isWithin entry.2.right "0" = true ∧ entry.2.right ≤ entry.2.rank ∧
      (∀ sign ∈ entry.2.sign, joins entry.2.rank sign = true) ∧
      (entry.2.sign = none → entry.2.rank = comma) := by
    decide
  refine .of_ensures fun site h => (Ensures.option site _ _).bind ?_
  rintro op ⟨word, hentry⟩
  obtain ⟨hleft, hright, hle, hjoins, hpower⟩ := htable _ hentry
  refine (h.valueOr "A" (of_isWithin hleft)).bind fun left hleft => ?_
  refine (h.valueOr "B" (of_isWithin hright)).bind fun right hright => ?_
  have hright := hright.mono hle
  split
  · next sign hsign => exact .pure ⟨op.rank, rfl, join (hjoins sign hsign) hleft hright⟩
  · next hsign =>
    rw [hpower hsign] at hleft hright
    have hcall : Within functionCall ("pow(" ++ (left ++ ", " ++ right) ++ ")") :=
      framed (by decide) (join comma_joins hleft hright)
    exact .pure ⟨functionCall, rfl, by simpa only [String.append_assoc] using hcall⟩

theorem single_ranks : single.Ranks s := by
  have hcalls : ∀ entry ∈ singleCalls,
      frames functionCall loosest entry.2.before entry.2.after = true := by
    decide +kernel
  have hquotients : ∀ entry ∈ singleQuotients,
      frames division loosest entry.2.before entry.2.after = true := by
    decide +kernel
  refine .of_ensures fun site h => (Ensures.any _).bind fun op _ => ?_
  dsimp only
  split
  · refine (h.valueOr "NUM" (of_isWithin (by decide))).bind fun operand hoperand => ?_
    exact .pure ⟨unaryNegation, rfl, hoperand.minus⟩
  · -- what is required of the operand of a sine does not matter inside the brackets of the call
    have hrequired : division ≤ (if wordOf op ∈ [some "SIN", some "COS", some "TAN"] then division
        else loosest) ∧ (if wordOf op ∈ [some "SIN", some "COS", some "TAN"] then division
        else loosest) ≤ loosest := by
      split <;> decide
    have hzero : Within division "0" := of_isWithin (by decide)
    refine (h.valueOr "NUM" (hzero.mono hrequired.1)).bind fun operand hoperand => ?_
    have hoperand := hoperand.mono hrequired.2
    split
    · exact .throw _
    · split
      · next frame hframe =>
        obtain ⟨key, hentry⟩ := exists_mem_of_lookup hframe
        exact .pure ⟨functionCall, rfl, framed (hcalls _ hentry) hoperand⟩
      · next frame hframe =>
        obtain ⟨key, hentry⟩ := exists_mem_of_lookup hframe
        exact .pure ⟨division, rfl, framed (hquotients _ hentry) hoperand⟩
      · exact .throw _

theorem constant_ranks : constant.Ranks s := by
  have htable : ∀ entry ∈ constants, isWithin entry.2.2 entry.2.1 = true := by
    decide +kernel
  refine .of_ensures fun site _ => (Ensures.option site _ _).bind ?_
  rintro ⟨code, rank⟩ ⟨word, hentry⟩
  exact .pure ⟨rank, rfl, of_isWithin (htable _ hentry)⟩

theorem remainder_ranks : remainder.Ranks s := by
  refine .of_ensures fun site h => ?_
  refine (h.valueOr "DIVIDEND" (of_isWithin (by decide))).bind fun dividend hdividend => ?_
  refine (h.valueOr "DIVISOR" (of_isWithin (by decide))).bind fun divisor hdivisor => ?_
  exact .pure ⟨modulus, rfl, join (by decide) hdividend (hdivisor.mono (by decide))⟩

theorem clamp_ranks : clamp.Ranks s := by
  refine .of_ensures fun site h => ?_
  refine (h.valueOr "VALUE" (of_isWithin (by decide))).bind fun number hnumber => ?_
  refine (h.valueOr "LOW" (of_isWithin (by decide))).bind fun low hlow => ?_
  refine (h.valueOr "HIGH" (of_isWithin (by decide))).bind fun high hhigh => ?_
  -- one call inside the other; the texts of the rule run across the two
  have hmax : Within comma ("max(" ++ (number ++ ", " ++ low) ++ ")") :=
    framed (by decide) (join comma_joins hnumber hlow)
  have hmin : Within functionCall
      ("min(" ++ ("max(" ++ (number ++ ", " ++ low) ++ ")" ++ ", " ++ high) ++ ")") :=
    framed (by decide) (join comma_joins hmax hhigh)
  have hbefore : "min(max(" = "min(" ++ "max(" := rfl
  have hbetween : "), " = ")" ++ ", " := rfl
  refine .pure ⟨functionCall, rfl, ?_⟩
  rw [hbefore, hbetween]
  simpa only [String.append_assoc] using hmin

theorem randomFraction_ranks : randomFraction.Ranks s :=
  .of_ensures fun _ _ => .pure ⟨division, rfl, of_isWithin (by decide)⟩

section Helpers

variable (hs : s.SparesOperators)
include hs

theorem numberTest_ranks : numberTest.Ranks s := by
  have htable : ∀ entry ∈ numberTests, ∀ frame rank, entry.2 = .remainder frame rank →
      frames rank modulus frame.before frame.after = true := by
    simp only [numberTests, List.forall_mem_cons, List.not_mem_nil, IsEmpty.forall_iff, implies_true,
      and_true]
    refine ⟨?_, ?_, ?_, ?_, ?_, ?_, ?_⟩ <;> rintro _ _ ⟨⟩ <;> decide
  refine .of_ensures fun site h => (Ensures.option site _ _).bind ?_
  rintro test ⟨word, hentry⟩
  cases test with
  | prime =>
    refine (h.valueOr "NUMBER_TO_CHECK" (of_isWithin (by decide))).bind fun number hnumber => ?_
    exact hs.provide _ _ fun _ hname => .pure ⟨functionCall, rfl, hname.call hnumber⟩
  | whole =>
    refine (h.valueOr "NUMBER_TO_CHECK" (of_isWithin (by decide))).bind fun number hnumber => ?_
    exact .pure ⟨functionCall, rfl, framed (by decide) hnumber⟩
  | divisible =>
    refine (h.valueOr "NUMBER_TO_CHECK" (of_isWithin (by decide))).bind fun number hnumber => ?_
    refine (h.valueOr "DIVISOR" (of_isWithin (by decide))).bind fun divisor hdivisor => ?_
    have hremainder : Within modulus (number ++ " % " ++ divisor) :=
      join (by decide) hnumber (hdivisor.mono (by decide))
    exact .pure ⟨equality, rfl, followed (by decide) hremainder⟩
  | remainder frame rank =>
    refine (h.valueOr "NUMBER_TO_CHECK" (of_isWithin (by decide))).bind fun number hnumber => ?_
    exact .pure ⟨rank, rfl, framed (htable _ hentry frame rank rfl) hnumber⟩

theorem aggregate_ranks : aggregate.Ranks s := by
  have hbuiltins : ∀ entry ∈ listBuiltins, isWithin functionCall entry.2 = true := by
    decide
  refine .of_ensures fun site h => (Ensures.any _).bind fun op _ => ?_
  refine (h.valueOr "LIST" (of_isWithin (by decide))).bind fun items hitems => ?_
  dsimp only
  split
  · exact .throw _
  · split
    · next function hfunction =>
      obtain ⟨key, hentry⟩ := exists_mem_of_lookup hfunction
      exact .pure ⟨functionCall, rfl, (of_isWithin (hbuiltins _ hentry)).call hitems⟩
    · refine (Ensures.option site _ _).bind fun entry _ => ?_
      exact hs.provide _ entry.2 fun _ hname => .pure ⟨functionCall, rfl, hname.call hitems⟩

theorem randomInteger_ranks : randomInteger.Ranks s := by
  refine .of_ensures fun site h => ?_
  refine (h.valueOr "FROM" (of_isWithin (by decide))).bind fun low hlow => ?_
  refine (h.valueOr "TO" (of_isWithin (by decide))).bind fun high hhigh => ?_
  refine hs.provide _ _ fun name hname => ?_
  exact .pure ⟨functionCall, rfl, callTwo hname hlow hhigh⟩

theorem callValue_ranks : callValue.Ranks s := by
  refine .of_ensures fun site h => ?_
  have hcode : Ensures (Context.Guarded s) s (Within functionCall) (callCode site) := by
    refine (Ensures.any _).bind fun _ _ => (hs.nameOf _ _).bind fun name hname => ?_
    have hname := hname.mono (by decide : atomic ≤ functionCall)
    refine (Ensures.any _).bind fun arguments _ => ?_
    have hvalues := Ensures.mapM (fun i => h.valueOr ("ARG" ++ toString i)
      (of_isWithin (by decide : isWithin comma "null" = true))) (List.range arguments.length)
    refine hvalues.bind fun values hvalues => .pure ?_
    cases values with
    | nil =>
      rw [String.intercalate_nil, String.append_empty, String.append_assoc]
      exact hname.callNothing
    | cons first rest =>
      rw [List.forall_mem_cons] at hvalues
      exact hname.call (intercalate comma_joins hvalues.1 hvalues.2)
  exact hcode.bind fun _ hcode => .pure ⟨functionCall, rfl, hcode⟩

end Helpers

theorem textLiteral_ranks : textLiteral.Ranks s :=
  .of_ensures fun _ _ => (Ensures.any _).bind fun _ _ => .pure ⟨atomic, rfl, .literal _⟩

theorem emptyText_within (order : Rank) (h : atomic ≤ order) : Within order emptyText :=
  (of_isWithin (by decide) : Within atomic emptyText).mono h

theorem textJoin_ranks : textJoin.Ranks s := by
  refine .of_ensures fun site h => (Ensures.any _).bind fun items _ => ?_
  refine (Ensures.any _).bind fun count _ => ?_
  split
  · exact .pure ⟨atomic, rfl, emptyText_within _ (by decide)⟩
  · split
    · exact (h.valueOr "ADD0" (emptyText_within _ (by decide))).bind fun _ hvalue =>
        .pure ⟨atomic, rfl, hvalue⟩
    · refine (h.valueOr "ADD0" (emptyText_within _ (by decide))).bind fun first hfirst => ?_
      refine (Ensures.mapM (fun n => h.valueOr ("ADD" ++ toString (n + 1))
        (emptyText_within (addition - 1) (by decide))) _).bind fun rest hrest => ?_
      have hjoined := intercalate (by decide : joins addition " + " = true) hfirst
        fun b hb => (hrest b hb).mono (by decide)
      exact .pure ⟨addition, rfl, hjoined⟩

theorem textCall_ranks {function : String} (hfunction : isWithin functionCall function = true)
    (socket : String) : (textCall function socket).Ranks s :=
  .of_ensures fun _ h => (h.valueOr socket (emptyText_within _ (by decide))).bind fun _ hvalue =>
    .pure ⟨functionCall, rfl, (of_isWithin hfunction).call hvalue⟩

theorem textFrame_ranks (field : String) {table : List (String × Frame)}
    (htable : ∀ entry ∈ table, frames functionCall loosest entry.2.before entry.2.after = true) :
    (textFrame field table).Ranks s := by
  refine .of_ensures fun site h => (Ensures.option site _ _).bind ?_
  rintro frame ⟨word, hentry⟩
  refine (h.valueOr "TEXT" (emptyText_within _ (by decide))).bind fun value hvalue => ?_
  exact .pure ⟨functionCall, rfl, framed (htable _ hentry) hvalue⟩

theorem promptCode_within {I : Context → Prop} (site : Site) {message : String}
    (h : Within loosest message) : Ensures I s (Within functionCall) (promptCode site message) := by
  have hline : Within functionCall ("readline(" ++ message ++ ")") := framed (by decide) h
  refine (Ensures.any _).bind fun kind _ => ?_
  split
  · exact .pure (framed (by decide) hline)
  · exact .pure hline

theorem promptFixed_ranks : promptFixed.Ranks s := by
  refine .of_ensures fun site _ => (Ensures.any _).bind fun text _ => ?_
  exact (promptCode_within site ((literal _).mono (by decide))).bind fun _ hcode =>
    .pure ⟨functionCall, rfl, hcode⟩

theorem promptComputed_ranks : promptComputed.Ranks s := by
  refine .of_ensures fun site h => ?_
  refine (h.valueOr "TEXT" (emptyText_within _ (by decide))).bind fun message hmessage => ?_
  exact (promptCode_within site hmessage).bind fun _ hcode => .pure ⟨functionCall, rfl, hcode⟩

theorem letterCode_within {value position : String} (hvalue : Within comma value)
    (hposition : Within comma position) : Within functionCall (letterCode value position) := by
  have hcall : Within functionCall ("substr(" ++ (value ++ ", " ++ position) ++ ", 1)") :=
    framed (by decide) (join comma_joins hvalue hposition)
  simpa only [letterCode, String.append_assoc] using hcall

theorem shiftedPosition_within {I : Context → Prop} {code : String} (h : Within subtraction code) :
    Ensures I s (Within comma) (shiftedPosition code) := by
  unfold shiftedPosition
  split
  · exact (Ensures.any _).bind fun _ _ => .pure ((Within.numberText _).1.mono (by decide))
  · exact .pure (followed (by decide) h)

section Helpers

variable (hs : s.SparesOperators)
include hs

theorem textSearch_ranks : textSearch.Ranks s := by
  refine .of_ensures fun site h => (Ensures.option site _ _).bind fun entry _ => ?_
  refine (h.valueOr "FIND" (emptyText_within _ (by decide))).bind fun find hfind => ?_
  refine (h.valueOr "VALUE" (emptyText_within _ (by decide))).bind fun value hvalue => ?_
  refine hs.provide _ (searchHelper · entry.2) fun name hname => ?_
  exact .pure ⟨functionCall, rfl, callTwo hname hvalue hfind⟩

theorem textLetter_ranks : textLetter.Ranks s := by
  refine .of_ensures fun site h => (Ensures.any _).bind fun raw _ => ?_
  dsimp only
  split
  · exact .throw _
  · refine (h.valueOr "VALUE" (emptyText_within _ (by decide))).bind fun value hvalue => ?_
    have hletter : ∀ position, Within comma position →
        Ensures (Context.Guarded s) s Outcome.IsRanked
          (pure (.value (letterCode value position) (.int functionCall))) :=
      fun position hposition => .pure ⟨functionCall, rfl, letterCode_within hvalue hposition⟩
    split
    · exact hletter "0" (of_isWithin (by decide))
    · split
      · exact hletter "-1" (of_isWithin (by decide))
      · split
        · exact hs.provide _ _ fun _ hname => .pure ⟨functionCall, rfl, hname.call hvalue⟩
        · split
          · refine (h.valueOr "AT" (of_isWithin (by decide))).bind fun place hplace => ?_
            exact (shiftedPosition_within hplace).bind hletter
          · refine (h.valueOr "AT" (of_isWithin (by decide))).bind fun place hplace => ?_
            exact hletter _ (hplace.minus.mono (by decide))

theorem textCut_ranks : textCut.Ranks s := by
  have hpositions : ∀ word ∈ cutPositions, '\'' ∉ word.toList := by
    decide
  have hposition : ∀ (site : Site) (field : String) (raw : Value),
      Ensures (Context.Guarded s) s (fun word => Within comma ("'" ++ word ++ "'"))
        (cutPosition site field raw) := by
    intro site field raw
    unfold cutPosition
    split
    · next word hword =>
      have hmem := of_decide_eq_true (Option.filter_eq_some_iff.1 hword).2
      exact .pure ((quoted (hpositions word hmem)).mono (by decide))
    · exact .throw _
  refine .of_ensures fun site h => (Ensures.any _).bind fun raw1 _ => ?_
  refine (Ensures.any _).bind fun raw2 _ => ?_
  split
  · exact (h.valueOr "STRING" (emptyText_within _ (by decide))).bind fun _ hvalue =>
      .pure ⟨atomic, rfl, hvalue⟩
  · refine (h.valueOr "STRING" (emptyText_within _ (by decide))).bind fun value hvalue => ?_
    refine (hposition _ _ _).bind fun where1 hwhere1 => ?_
    refine (hposition _ _ _).bind fun where2 hwhere2 => ?_
    refine (h.valueOr "AT1" (of_isWithin (by decide))).bind fun at1 hat1 => ?_
    refine (h.valueOr "AT2" (of_isWithin (by decide))).bind fun at2 hat2 => ?_
    refine hs.provide _ _ fun name hname => .pure ⟨functionCall, rfl, ?_⟩
    have hcall := hname.call (join comma_joins (join comma_joins (join comma_joins
      (join comma_joins hvalue hwhere1) hat1) hwhere2) hat2)
    have hbefore : ", '" = ", " ++ "'" := rfl
    have hbehind : "', " = "'" ++ ", " := rfl
    rw [hbefore, hbehind]
    simpa only [String.append_assoc] using hcall

end Helpers

end Rules

/-- The rules of a table give values within their ranks. -/
def Rulebook.Ranks (s : Setting) (rules : Rulebook) : Prop :=
  ∀ kind rule, rules.lookup kind = some rule → rule.Ranks s

namespace Rulebook

variable {s : Setting}

theorem ranks_own {name : String} {own : List (String × Rule)}
    (h : ∀ entry ∈ own, entry.2.Ranks s) : Rulebook.Ranks s (.mk name own []) :=
  fun _ _ => RuleTable.forall_own (P := fun _ rule => rule.Ranks s) h

theorem ranks_parents {name : String} {parents : List Rulebook}
    (h : ∀ table ∈ parents, Rulebook.Ranks s table) : Rulebook.Ranks s (.mk name [] parents) :=
  fun _ _ => RuleTable.forall_parents h

open Rules

theorem loops_ranks : Rulebook.Ranks s loops := by
  refine ranks_own ?_
  simp only [List.forall_mem_cons, List.not_mem_nil, IsEmpty.forall_iff, implies_true, and_true]
  exact ⟨.of_statement (repeatFixed_pairs "controls_repeat"),
    .of_statement (repeatComputed_pairs "controls_repeat_ext"),
    .of_statement (whileLoop_pairs "controls_whileUntil"), .of_statement (count_pairs "controls_for"),
    .of_statement (jump_pairs "controls_flow_statements")⟩

variable (hs : s.SparesOperators)
include hs

theorem common_ranks : ∀ table ∈ Dialect.commonRules, Rulebook.Ranks s table := by
  simp only [Dialect.commonRules, List.forall_mem_cons, List.not_mem_nil, IsEmpty.forall_iff,
    implies_true, and_true]
  refine ⟨ranks_own ?_, ranks_own ?_, ranks_own ?_, ranks_own ?_⟩ <;>
    simp only [List.forall_mem_cons, List.not_mem_nil, IsEmpty.forall_iff, implies_true, and_true]
  · exact ⟨.of_statement ifChain_pairs, comparison_ranks, connective_ranks, negation_ranks,
      truthLiteral_ranks, nullLiteral_ranks, choice_ranks⟩
  · exact ⟨colourLiteral_ranks, randomColour_ranks hs, mix_ranks hs, blend_ranks hs⟩
  · exact ⟨variableValue_ranks hs, .of_statement (assign_pairs "variables_set")⟩
  · exact ⟨numberLiteral_ranks, arithmetic_ranks, single_ranks, single_ranks, single_ranks,
      constant_ranks, numberTest_ranks hs, .of_statement (change_pairs "math_change"), aggregate_ranks hs,
      remainder_ranks, clamp_ranks, randomInteger_ranks hs, randomFraction_ranks⟩

theorem processes_ranks : Rulebook.Ranks s processes := by
  refine ranks_own ?_
  simp only [List.forall_mem_cons, List.not_mem_nil, IsEmpty.forall_iff, implies_true, and_true]
  exact ⟨.of_statement (processDefinition_pairs "procedures_defreturn"),
    .of_statement (processDefinition_pairs "procedures_defnoreturn"), callValue_ranks hs,
    .of_statement (callStatement_pairs "procedures_callnoreturn"),
    .of_statement (earlyReturn_pairs "procedures_ifreturn")⟩

theorem phrases_ranks : Rulebook.Ranks s phrases := by
  refine ranks_own ?_
  simp only [List.forall_mem_cons, List.not_mem_nil, IsEmpty.forall_iff, implies_true, and_true]
  exact ⟨textLiteral_ranks, textJoin_ranks, .of_statement (textAppend_pairs "text_append"),
    textCall_ranks (by decide) _, textCall_ranks (by decide) _, textSearch_ranks hs,
    textLetter_ranks hs, textCut_ranks hs, textFrame_ranks _ (by decide), textFrame_ranks _ (by decide),
    .of_statement (printText_pairs "text_print"), promptFixed_ranks, promptComputed_ranks⟩

end Rulebook

end BlockCode
