import BlockCode.Proofs.Number.Ink
import BlockCode.Proofs.Run.Indentation
import Mathlib.Data.List.Chain

namespace BlockCode

open Text

namespace Text

variable {c : Char}

theorem exists_zero (h : isDigit c = true) : ∃ z ∈ zeros, z ≤ c.toNat ∧ c.toNat < z + 10 := by
  obtain ⟨value, hvalue⟩ := Option.isSome_iff_exists.1 h
  obtain ⟨z, hz, -⟩ := Option.map_eq_some_iff.1 hvalue
  have hrange := List.find?_some hz
  simp only [Bool.and_eq_true, decide_eq_true_eq] at hrange
  exact ⟨z, List.mem_of_find?_eq_some hz, hrange⟩

theorem isBlank_of_isDigit (h : isDigit c = true) : isBlank c = false := by
  have hzeros : ∀ z ∈ zeros, ∀ d < 10, isBlank (Char.ofNat (z + d)) = false := by
    decide +kernel
  obtain ⟨z, hz, hle, hlt⟩ := exists_zero h
  have hink := hzeros z hz (c.toNat - z) (by omega)
  rwa [Nat.add_sub_cancel' hle, Char.ofNat_toNat] at hink

theorem isDigit_of_startsLegal (h : Name.startsLegal c = true) : isDigit c = false := by
  have hzeros : ∀ z ∈ zeros, z = 48 ∨ 128 ≤ z := by
    decide
  have hrange : 58 ≤ c.toNat ∧ c.toNat < 128 := by
    rw [Name.startsLegal] at h
    delta Char.isAlpha Char.isUpper Char.isLower at h
    simp only [Bool.or_eq_true, Bool.and_eq_true, decide_eq_true_eq, beq_iff_eq,
      UInt32.le_iff_toNat_le, ge_iff_le] at h
    rcases h with (h | h) | rfl
    · exact ⟨Nat.le_trans (by decide) h.1, Nat.lt_of_le_of_lt h.2 (by decide)⟩
    · exact ⟨Nat.le_trans (by decide) h.1, Nat.lt_of_le_of_lt h.2 (by decide)⟩
    · decide
  rw [← Bool.not_eq_true]
  intro hdigit
  obtain ⟨z, hz, hle, hlt⟩ := exists_zero hdigit
  rcases hzeros z hz with rfl | hz <;> omega

theorem toLower_of_isDigit (h : isDigit c = true) : c.toLower = c := by
  refine dif_neg fun hupper => ?_
  have hstarts : Name.startsLegal c = true := by
    rw [Name.startsLegal]
    delta Char.isAlpha Char.isUpper
    rw [decide_eq_true hupper]
    rfl
  rw [isDigit_of_startsLegal hstarts] at h
  cases h

end Text

namespace Operand

/-- Characters that stand in no literal and not around one. -/
def isForeign (c : Char) : Bool :=
  !(isBlank c || isDigit c || c == '-' || c == '.')

def HasForeign (code : String) : Prop :=
  code.toList.any isForeign = true

instance (code : String) : Decidable (HasForeign code) :=
  inferInstanceAs (Decidable (_ = true))

variable {a b code : String} {cs before number after : List Char}

theorem HasForeign.append_left (h : HasForeign a) (b : String) : HasForeign (a ++ b) := by
  unfold HasForeign at h ⊢
  rw [String.toList_append, List.any_append, h, Bool.true_or]

theorem HasForeign.append_right (h : HasForeign b) (a : String) : HasForeign (a ++ b) := by
  unfold HasForeign at h ⊢
  rw [String.toList_append, List.any_append, h, Bool.or_true]

/-- Identifiers are no numbers. -/
theorem hasForeign_of_isLegal (h : Name.isLegal code = true) : HasForeign code := by
  unfold Name.isLegal at h
  unfold HasForeign
  cases hcs : code.toList with
  | nil =>
    rw [hcs] at h
    cases h
  | cons c cs =>
    rw [hcs, Name.isLegalChars, Bool.and_eq_true] at h
    have hblank := Lexeme.isBlank_of_isAsciiWord (Name.isAsciiWord_of_startsLegal h.1)
    have hsigns : c ≠ '-' ∧ c ≠ '.' := by
      constructor <;> (rintro rfl; exact absurd h.1 (by decide))
    simp [isForeign, hblank, isDigit_of_startsLegal h.1, hsigns]

/-- A literal between its margins. -/
theorem exists_parts (h : isNumber code = true) : ∃ before number after : List Char,
    code.toList = before ++ number ++ after ∧ (∀ c ∈ before, isBlank c = true) ∧
      (∀ c ∈ after, isBlank c = true) ∧ isPlainDecimal (dropMinus number) = true := by
  refine ⟨code.toList.takeWhile isBlank, trim code.toList,
    (trimStart code.toList).rtakeWhile isBlank, ?_, ?_, ?_, h⟩
  · rw [List.append_assoc, trim, trimEnd_eq, List.rdropWhile_append_rtakeWhile, trimStart,
      List.takeWhile_append_dropWhile]
  · exact fun c => List.mem_takeWhile_imp
  · exact fun c => List.mem_rtakeWhile_imp

/-- The sign of a literal, if it has one, is in front of a digit. -/
theorem dropMinus_cases (h : isPlainDecimal (dropMinus number) = true) :
    ∃ decimal, isPlainDecimal decimal = true ∧ (number = decimal ∨ number = '-' :: decimal) := by
  refine ⟨dropMinus number, h, ?_⟩
  unfold dropMinus
  split
  · exact .inr rfl
  · exact .inl rfl

theorem dropMinus_of_isPlainDecimal (h : isPlainDecimal cs = true) : dropMinus cs = cs := by
  unfold dropMinus
  split
  · exact absurd h (by simp [isPlainDecimal, isDigit, digitValue?, zeros])
  · rfl

theorem isBlank_of_isPlainDecimal (h : isPlainDecimal cs = true) : ∀ c ∈ cs, isBlank c = false := by
  intro c hc
  rcases isDigit_of_isPlainDecimal h c hc with hdigit | rfl
  · exact isBlank_of_isDigit hdigit
  · rfl

theorem isBlank_number (h : isPlainDecimal (dropMinus number) = true) :
    ∀ c ∈ number, isBlank c = false := by
  obtain ⟨decimal, hdecimal, rfl | rfl⟩ := dropMinus_cases h
  · exact isBlank_of_isPlainDecimal hdecimal
  · exact List.forall_mem_cons.2 ⟨rfl, isBlank_of_isPlainDecimal hdecimal⟩

theorem isNumber_of_parts (hcode : code.toList = before ++ number ++ after)
    (hbefore : ∀ c ∈ before, isBlank c = true) (hafter : ∀ c ∈ after, isBlank c = true)
    (h : isPlainDecimal (dropMinus number) = true) : isNumber code = true := by
  have hink := isBlank_number h
  have hstart : trimStart (before ++ number ++ after) = number ++ after := by
    cases number with
    | nil => exact absurd h (by decide)
    | cons c number =>
      rw [trimStart, List.append_assoc, List.dropWhile_append_of_pos hbefore, List.cons_append,
        List.dropWhile_cons_of_neg (by simp [hink c List.mem_cons_self])]
  have hend : trimEnd (number ++ after) = number := by
    rw [trimEnd, List.reverse_append, List.dropWhile_append_of_pos (by simpa using hafter)]
    refine (List.reverse_eq_iff).2 (List.dropWhile_eq_self_iff.2 fun hne => ?_)
    exact Bool.eq_false_iff.1 (hink _ (List.mem_reverse.1 (List.getElem_mem hne)))
  rw [isNumber, hcode, trim, hstart, hend, h]

theorem HasForeign.isNumber (h : HasForeign code) : isNumber code = false := by
  obtain ⟨c, hmem, hc⟩ := List.any_eq_true.1 h
  simp only [isForeign, Bool.not_eq_true', Bool.or_eq_false_iff, beq_eq_false_iff_ne] at hc
  obtain ⟨⟨⟨hblank, hdigit⟩, hminus⟩, hpoint⟩ := hc
  rw [← Bool.not_eq_true]
  intro hnumber
  obtain ⟨before, number, after, hcode, hbefore, hafter, hdecimal⟩ := exists_parts hnumber
  have hcases : c ∈ number := by
    rw [hcode, List.mem_append, List.mem_append] at hmem
    rcases hmem with (hmem | hmem) | hmem
    · rw [hbefore c hmem] at hblank
      cases hblank
    · exact hmem
    · rw [hafter c hmem] at hblank
      cases hblank
  obtain ⟨decimal, hplain, heq⟩ := dropMinus_cases hdecimal
  have hin : c ∈ decimal := by
    rcases heq with rfl | rfl
    · exact hcases
    · exact (List.mem_cons.1 hcases).resolve_left hminus
  rcases isDigit_of_isPlainDecimal hplain c hin with hd | hd
  · rw [hd] at hdigit
    cases hdigit
  · exact hpoint hd

/-- White space does not follow a minus sign in a literal. -/
theorem isChain_of_isNumber (h : isNumber code = true) :
    code.toList.IsChain fun c d => c = '-' → isBlank d = false := by
  obtain ⟨before, number, after, hcode, hbefore, hafter, hdecimal⟩ := exists_parts h
  obtain ⟨decimal, hplain, heq⟩ := dropMinus_cases hdecimal
  have hfree : ∀ {cs : List Char}, (∀ c ∈ cs, c ≠ '-') →
      cs.IsChain fun c d => c = '-' → isBlank d = false := by
    intro cs hcs
    refine (List.pairwise_of_forall_mem_list fun c hc d _ hminus => ?_).isChain
    exact absurd hminus (hcs c hc)
  have hblank : ∀ {cs : List Char}, (∀ c ∈ cs, isBlank c = true) → ∀ c ∈ cs, c ≠ '-' := by
    rintro cs hcs c hc rfl
    exact absurd (hcs _ hc) (by decide)
  have hrest : ∀ c ∈ decimal ++ after, c ≠ '-' := by
    intro c hc
    rcases List.mem_append.1 hc with hc | hc
    · rintro rfl
      rcases isDigit_of_isPlainDecimal hplain _ hc with hd | hd
      · exact absurd hd (by decide)
      · exact absurd hd (by decide)
    · exact hblank hafter c hc
  rw [hcode, List.append_assoc]
  refine (hfree (hblank hbefore)).append ?_ fun c hc d _ hminus =>
    absurd hminus (hblank hbefore c (List.mem_of_getLast? hc))
  rcases heq with rfl | rfl
  · exact hfree hrest
  · refine List.IsChain.cons (hfree hrest) fun d hd _ => ?_
    cases decimal with
    | nil => exact absurd hplain (by decide)
    | cons c decimal =>
      cases hd
      exact isBlank_of_isPlainDecimal hplain _ List.mem_cons_self

theorem isNumber_loose_minus (a b : String) : isNumber (a ++ "- " ++ b) = false := by
  rw [← Bool.not_eq_true]
  intro h
  have hchain := isChain_of_isNumber h
  rw [String.toList_append, String.toList_append, List.append_assoc] at hchain
  have hspace := (List.isChain_append_cons_cons.1 hchain).2.1 rfl
  cases hspace

/-- What is behind the minus sign of a literal is a literal. -/
theorem isNumber_of_minus (h : isNumber ("-" ++ code) = true) : isNumber code = true := by
  obtain ⟨before, number, after, hcode, hbefore, hafter, hdecimal⟩ := exists_parts h
  obtain ⟨decimal, hplain, heq⟩ := dropMinus_cases hdecimal
  have hminus : "-" ++ code = String.ofList ('-' :: code.toList) := by
    rw [String.ofList_cons, String.ofList_toList]
    rfl
  rw [hminus, String.toList_ofList] at hcode
  cases before with
  | cons c before =>
    injection hcode with hc _
    exact absurd (hbefore c List.mem_cons_self) (hc ▸ by decide)
  | nil =>
    rcases heq with rfl | rfl
    · cases number with
      | nil => exact absurd hplain (by decide)
      | cons c number =>
        injection hcode with hc _
        subst hc
        exact absurd (dropMinus_of_isPlainDecimal hplain) (by simp [dropMinus])
    · injection hcode with _ hrest
      have hparts : code.toList = [] ++ decimal ++ after := hrest
      refine isNumber_of_parts hparts nofun hafter ?_
      rwa [dropMinus_of_isPlainDecimal hplain]

end Operand

namespace Reading

variable {digits rest : List Char}

theorem digitsFrom_append (value count : Nat) (h : ∀ c ∈ digits, isDigit c = true)
    (hrest : ∀ c ∈ rest.head?, c = '.') :
    ∃ total, digitsFrom value count (digits ++ rest) = (total, count + digits.length, rest) := by
  induction digits generalizing value count with
  | nil =>
    refine ⟨value, ?_⟩
    cases rest with
    | nil => rfl
    | cons c rest =>
      obtain rfl := hrest c rfl
      have hpoint : digitValue? '.' = none := by decide
      rw [List.nil_append, digitsFrom, hpoint]
      simp
  | cons c digits ih =>
    obtain ⟨d, hd⟩ := Option.isSome_iff_exists.1 (h c List.mem_cons_self)
    obtain ⟨total, htotal⟩ :=
      ih (10 * value + d) (count + 1) fun e he => h e (List.mem_cons_of_mem _ he)
    refine ⟨total, ?_⟩
    rw [List.cons_append, digitsFrom, hd]
    simp only [htotal, List.length_cons, Nat.add_assoc, Nat.add_comm 1]

theorem isSome_unsignedReal? (negative : Bool) {cs : List Char}
    (h : Operand.isPlainDecimal cs = true) : (unsignedReal? negative cs).isSome = true := by
  simp only [Operand.isPlainDecimal, Bool.and_eq_true] at h
  obtain ⟨hhead, hrest⟩ := h
  have hsplit : cs = cs.takeWhile isDigit ++ cs.dropWhile isDigit :=
    List.takeWhile_append_dropWhile.symm
  have hdigits : ∀ c ∈ cs.takeWhile isDigit, isDigit c = true := fun c => List.mem_takeWhile_imp
  have hcount : 0 < (cs.takeWhile isDigit).length := by
    cases cs with
    | nil => cases hhead
    | cons c cs =>
      have hc : isDigit c = true := hhead
      rw [List.takeWhile_cons_of_pos hc]
      exact Nat.succ_pos _
  generalize cs.takeWhile isDigit = digits at hsplit hdigits hcount
  generalize cs.dropWhile isDigit = rest at hsplit hrest
  subst hsplit
  have hpoint : ∀ c ∈ rest.head?, c = '.' := by
    split at hrest
    · rintro c ⟨⟩
    · rintro c ⟨⟩
      rfl
    · cases hrest
  obtain ⟨total, htotal⟩ := digitsFrom_append 0 0 hdigits hpoint
  have hfraction : ∃ total' count', fraction total rest = (total', count', []) := by
    split at hrest
    · exact ⟨total, 0, rfl⟩
    · next fs =>
      rw [Bool.and_eq_true, List.all_eq_true] at hrest
      have hnothing : ∀ c ∈ ([] : List Char).head?, c = '.' := by
        rintro c ⟨⟩
      obtain ⟨total', htotal'⟩ := digitsFrom_append total 0 hrest.2 hnothing
      rw [List.append_nil] at htotal'
      exact ⟨total', _, htotal'⟩
    · cases hrest
  obtain ⟨total', count', hfraction⟩ := hfraction
  simp only [unsignedReal?, htotal, hfraction, Nat.zero_add]
  rw [if_neg (by omega)]
  rfl

theorem sign_of_digit {d : Char} (hd : isDigit d = true) (ds : List Char) :
    sign (d :: ds) = (false, d :: ds) := by
  unfold sign
  split
  · next heq =>
    cases heq
    exact absurd hd (by decide)
  · next heq =>
    cases heq
    exact absurd hd (by decide)
  · rfl

/-- What starts with a digit behind its sign is none of the words that stand for numbers. -/
theorem real?_of_digit {s : String} {negative : Bool} {d : Char} {ds : List Char}
    (hsign : sign (dropMargins s.toList) = (negative, d :: ds)) (hd : isDigit d = true) :
    real? s = unsignedReal? negative (d :: ds) := by
  have hword : ∀ word : String, word.toList.head?.any isDigit = false →
      String.ofList ((d :: ds).map Char.toLower) ≠ word := by
    rintro _ hword rfl
    rw [String.toList_ofList, List.map_cons, toLower_of_isDigit hd] at hword
    exact absurd hd (Bool.eq_false_iff.1 hword)
  simp only [real?, hsign]
  rw [if_neg (not_or.2 ⟨hword _ rfl, hword _ rfl⟩), if_neg (hword _ rfl)]

/-- A literal is read by its digits if no information separator is around it. -/
theorem real?_of_isNumber {code : String} (h : Operand.isNumber code = true)
    (hmargin : ∀ c ∈ code.toList, isMargin c = isBlank c) :
    ∃ negative decimal, Operand.isPlainDecimal decimal = true ∧
      real? code = unsignedReal? negative decimal := by
  have hdrop : ∀ {cs : List Char}, (∀ c ∈ cs, isMargin c = isBlank c) →
      cs.dropWhile isMargin = cs.dropWhile isBlank := by
    intro cs hcs
    induction cs with
    | nil => rfl
    | cons c cs ih =>
      rw [List.dropWhile_cons, List.dropWhile_cons, hcs c List.mem_cons_self,
        ih fun d hd => hcs d (List.mem_cons_of_mem _ hd)]
  have htrim : dropMargins code.toList = trim code.toList := by
    rw [dropMargins, trim, trimEnd, trimStart, hdrop hmargin, hdrop]
    intro c hc
    exact hmargin c ((List.dropWhile_sublist _).mem (List.mem_reverse.1 hc))
  have hnumber : Operand.isPlainDecimal (Operand.dropMinus (trim code.toList)) = true := h
  obtain ⟨decimal, hplain, hsigned⟩ := Operand.dropMinus_cases hnumber
  obtain ⟨d, ds, rfl⟩ : ∃ d ds, decimal = d :: ds := by
    refine List.exists_cons_of_ne_nil ?_
    rintro rfl
    exact absurd hplain (by decide)
  have hd : isDigit d = true := (Bool.and_eq_true_iff.1 hplain).1
  rcases hsigned with heq | heq
  · exact ⟨false, d :: ds, hplain, real?_of_digit (by rw [htrim, heq, sign_of_digit hd]) hd⟩
  · exact ⟨true, d :: ds, hplain, real?_of_digit (by rw [htrim, heq, sign]) hd⟩

/-- A literal can be read if no information separator is around it. -/
theorem isSome_real? {code : String} (h : Operand.isNumber code = true)
    (hmargin : ∀ c ∈ code.toList, isMargin c = isBlank c) : (real? code).isSome = true := by
  obtain ⟨negative, decimal, hplain, hreal⟩ := real?_of_isNumber h hmargin
  rw [hreal]
  exact isSome_unsignedReal? negative hplain

end Reading

namespace Operand

variable {a b code : String}

/-- Code that can be read if it is a literal. -/
def IsReadable (code : String) : Prop :=
  isNumber code = true → ∀ c ∈ code.toList, Reading.isMargin c = isBlank c

theorem IsReadable.isSome (h : IsReadable code) (hnumber : isNumber code = true) :
    (Reading.real? code).isSome = true :=
  Reading.isSome_real? hnumber (h hnumber)

theorem HasForeign.isReadable (h : HasForeign code) : IsReadable code := by
  intro hnumber
  rw [h.isNumber] at hnumber
  cases hnumber

theorem isReadable_loose_minus (a b : String) : IsReadable (a ++ "- " ++ b) := by
  intro hnumber
  rw [isNumber_loose_minus] at hnumber
  cases hnumber

theorem IsReadable.minus (h : IsReadable code) : IsReadable ("-" ++ code) := by
  intro hnumber c hc
  rcases List.mem_append.1 (String.toList_append ▸ hc) with hc | hc
  · obtain rfl : c = '-' := List.mem_singleton.1 hc
    rfl
  · exact h (isNumber_of_minus hnumber) c hc

theorem isReadable_of_ink (h : ∀ c ∈ code.toList, isBlank c = false) : IsReadable code := by
  intro _ c hc
  rw [Reading.isMargin, h c hc, Bool.false_and]

/-- For closed texts, since this is a check of their own characters only. -/
theorem not_isBlank_of_all {cs : List Char} (h : (cs.all fun c => !isBlank c) = true) :
    ∀ c ∈ cs, isBlank c = false := by
  simpa using h

theorem not_isBlank_text (x : Binary64) : ∀ c ∈ x.text.toList, isBlank c = false := by
  have hfinite (m : Nat) (e : Int) : ∀ c ∈ Binary64.finiteText m e, isBlank c = false := by
    unfold Binary64.finiteText
    split
    · exact not_isBlank_of_all (by decide)
    · refine Binary64.not_isBlank_layDigits (fun d hd => ?_) _
      have hmem := List.mem_reverse.1 ((List.dropWhile_sublist _).mem (List.mem_reverse.1 hd))
      exact Binary64.not_isBlank_digit hmem
  match x with
  | .nan => exact not_isBlank_of_all (by decide)
  | .infinite true => exact not_isBlank_of_all (by decide)
  | .infinite false => exact not_isBlank_of_all (by decide)
  | .finite false m e =>
    rw [Binary64.text, String.toList_ofList]
    exact hfinite m e
  | .finite true m e =>
    rw [Binary64.text, String.toList_ofList]
    exact List.forall_mem_cons.2 ⟨rfl, hfinite m e⟩

theorem not_isBlank_int (n : Int) : ∀ c ∈ (toString n).toList, isBlank c = false := by
  have hnat (n : Nat) : ∀ c ∈ (toString n).toList, isBlank c = false := by
    have hdigits : (toString n).toList = Nat.toDigits 10 n := String.toList_ofList
    rw [hdigits]
    exact fun c => Binary64.not_isBlank_digit
  cases n with
  | ofNat n => exact hnat n
  | negSucc n =>
    have hminus : toString (Int.negSucc n) = "-" ++ toString (n + 1) := rfl
    rw [hminus, String.toList_append]
    exact List.forall_mem_append.2 ⟨not_isBlank_of_all (by decide), hnat _⟩

theorem isReadable_numberText (x : Binary64) : IsReadable (Rules.numberText x) := by
  refine isReadable_of_ink ?_
  unfold Rules.numberText
  split
  · split
    · exact not_isBlank_int _
    · exact not_isBlank_text x
  · exact not_isBlank_text x

end Operand

end BlockCode
