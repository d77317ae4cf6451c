import BlockCode.Proofs.Run.Taxonomy

namespace BlockCode

open Text Operand

namespace Binary64

theorem ofRatio_ne_nan (negative : Bool) (num den : Nat) :
    ofRatio negative num den ≠ .nan := by
  unfold ofRatio
  split
  · rintro ⟨⟩
  · dsimp only
    split
    · split <;> simp
    · split <;> simp

theorem ofDecimal_ne_nan (negative : Bool) (digits : Nat) (exponent : Int) :
    ofDecimal negative digits exponent ≠ .nan := by
  simp only [ofDecimal]
  split
  · rintro ⟨⟩
  · split
    · rintro ⟨⟩
    · split <;> exact ofRatio_ne_nan _ _ _

end Binary64

namespace Reading

/-- The information separators, which are white space and may not stand around a number. -/
def isSeparator (c : Char) : Bool :=
  0x1c ≤ c.toNat && c.toNat ≤ 0x1f

/-- Code with an information separator, which may stand around a literal and is no numeral. -/
def HasSeparator (code : String) : Prop :=
  code.toList.any isSeparator = true

instance (code : String) : Decidable (HasSeparator code) :=
  inferInstanceAs (Decidable (_ = true))

theorem isMargin_eq (c : Char) : isMargin c = (isBlank c && !isSeparator c) :=
  rfl

/-- The characters that numbers are spelled with: digits, signs, and the letters of an exponent and of
the words for what is not finite. -/
def isSpelled (c : Char) : Bool :=
  isDigit c || "+-._einftya".toList.contains c.toLower

theorem isSpelled_of_isSeparator {c : Char} (h : isSeparator c = true) : isSpelled c = false := by
  have hall : ∀ k < 4, isSpelled (Char.ofNat (0x1c + k)) = false := by
    decide
  rw [isSeparator, Bool.and_eq_true, decide_eq_true_eq, decide_eq_true_eq] at h
  have hfound := hall (c.toNat - 0x1c) (by omega)
  rwa [Nat.add_sub_cancel' h.1, Char.ofNat_toNat] at hfound

section Spelling

variable {c : Char} {cs : List Char}

theorem mem_sign (h : c ∈ cs) : c ∈ (sign cs).2 ∨ isSpelled c = true := by
  unfold sign
  split
  · rcases List.mem_cons.1 h with rfl | h
    · exact .inr (by decide)
    · exact .inl h
  · rcases List.mem_cons.1 h with rfl | h
    · exact .inr (by decide)
    · exact .inl h
  · exact .inl h

theorem mem_digitsFrom (h : c ∈ cs) (value count : Nat) :
    c ∈ (digitsFrom value count cs).2.2 ∨ isSpelled c = true := by
  induction cs generalizing value count with
  | nil => cases h
  | cons d cs ih =>
    rw [digitsFrom]
    cases hd : digitValue? d with
    | some v =>
      rcases List.mem_cons.1 h with rfl | h
      · exact .inr (by rw [isSpelled, isDigit, hd]; rfl)
      · exact ih h _ _
    | none =>
      dsimp only
      split
      · next hunder =>
        rcases List.mem_cons.1 h with rfl | h
        · exact .inr (hunder.1 ▸ by decide)
        · exact ih h _ _
      · exact .inl h

theorem mem_fraction (h : c ∈ cs) (value : Nat) :
    c ∈ (fraction value cs).2.2 ∨ isSpelled c = true := by
  unfold fraction
  split
  · rcases List.mem_cons.1 h with rfl | h
    · exact .inr (by decide)
    · exact mem_digitsFrom h value 0
  · exact .inl h

theorem mem_exponent? {e : Int} {rest : List Char} (h : c ∈ cs)
    (hcs : exponent? cs = some (e, rest)) : c ∈ rest ∨ isSpelled c = true := by
  cases cs with
  | nil => cases h
  | cons d cs =>
    rw [exponent?] at hcs
    split at hcs
    · next hd =>
      dsimp only at hcs
      split at hcs
      · cases hcs
      · obtain rfl := (Prod.mk.inj (Option.some.inj hcs)).2
        rcases List.mem_cons.1 h with rfl | h
        · exact .inr (by rcases hd with rfl | rfl <;> decide)
        · rcases mem_sign h with h | h
          · exact mem_digitsFrom h 0 0
          · exact .inr h
    · cases hcs
      exact .inl h

theorem isSpelled_of_unsignedReal? {negative : Bool} {x : Binary64}
    (hcs : unsignedReal? negative cs = some x) (h : c ∈ cs) : isSpelled c = true := by
  simp only [unsignedReal?] at hcs
  split at hcs
  · cases hcs
  · split at hcs
    · next e hexponent =>
      rcases mem_digitsFrom h 0 0 with h | h
      · rcases mem_fraction h _ with h | h
        · rcases mem_exponent? h hexponent with h | h
          · cases h
          · exact h
        · exact h
      · exact h
    · cases hcs

/-- Whatever a number is read from is made of margins and of what numbers are spelled with. -/
theorem isSpelled_of_real? {s : String} {x : Binary64} (hs : real? s = some x)
    (h : c ∈ dropMargins s.toList) : isSpelled c = true := by
  rcases mem_sign h with h | h
  · have hword (word : String) (hletters : word.toList.all ("+-._einftya".toList.contains ·) = true)
        (heq : String.ofList ((sign (dropMargins s.toList)).2.map Char.toLower) = word) :
        isSpelled c = true := by
      subst heq
      rw [String.toList_ofList, List.all_map, List.all_eq_true] at hletters
      rw [isSpelled, Bool.or_eq_true]
      exact .inr (hletters c h)
    simp only [real?] at hs
    split at hs
    · next hinfinite =>
      rcases hinfinite with heq | heq
      · exact hword _ (by decide) heq
      · exact hword _ (by decide) heq
    · split at hs
      · next heq => exact hword _ (by decide) heq
      · exact isSpelled_of_unsignedReal? hs h
  · exact h

theorem mem_dropMargins (h : c ∈ cs) (hc : isMargin c = false) : c ∈ dropMargins cs := by
  rw [dropMargins, List.mem_reverse]
  exact mem_dropWhile hc (List.mem_reverse.2 (mem_dropWhile hc h))

end Spelling

variable {code : String}

/-- No text with a separator in it is a number. -/
theorem real?_of_hasSeparator (h : HasSeparator code) : real? code = none := by
  obtain ⟨c, hmem, hc⟩ := List.any_eq_true.1 h
  cases hreal : real? code with
  | none => rfl
  | some x =>
    have hmargin : isMargin c = false := by
      rw [isMargin_eq, hc, Bool.not_true, Bool.and_false]
    have hspelled := isSpelled_of_real? hreal (mem_dropMargins hmem hmargin)
    rw [isSpelled_of_isSeparator hc] at hspelled
    cases hspelled

theorem isMargin_of_not_hasSeparator (h : ¬ HasSeparator code) :
    ∀ c ∈ code.toList, isMargin c = isBlank c := by
  intro c hc
  cases hseparator : isSeparator c with
  | true => exact absurd (List.any_eq_true.2 ⟨c, hc, hseparator⟩) h
  | false => rw [isMargin_eq, hseparator, Bool.not_false, Bool.and_true]

theorem unsignedReal?_ne_nan (negative : Bool) (cs : List Char) :
    unsignedReal? negative cs ≠ some .nan := by
  simp only [unsignedReal?]
  split
  · rintro ⟨⟩
  · split
    · exact fun h => Binary64.ofDecimal_ne_nan _ _ _ (Option.some.inj h)
    · rintro ⟨⟩

/-- A literal without separators is a number, and not one of the words for what is none. -/
theorem exists_real? (h : isNumber code = true) (hfree : ¬ HasSeparator code) :
    ∃ x, real? code = some x ∧ x ≠ .nan := by
  have hmargin := isMargin_of_not_hasSeparator hfree
  obtain ⟨x, hx⟩ := Option.isSome_iff_exists.1 (isSome_real? h hmargin)
  obtain ⟨negative, decimal, -, hreal⟩ := real?_of_isNumber h hmargin
  refine ⟨x, hx, ?_⟩
  rintro rfl
  exact unsignedReal?_ne_nan negative decimal (hreal.symm.trans hx)

end Reading

namespace Rules

open Reading

/-- A number is asked for its integer only if it has one. -/
theorem formatNumber_real (x : Binary64) : formatNumber (.real x) = .ok (numberText x) := by
  cases x with
  | nan => rfl
  | infinite negative => rfl
  | finite negative m e =>
    obtain ⟨n, hn, hinteger⟩ : ∃ n, (Binary64.finite negative m e).truncate? = some n ∧
        (Value.real (.finite negative m e)).toInteger = .ok n :=
      ⟨_, rfl, rfl⟩
    unfold formatNumber numberText
    rw [Value.toReal, hinteger, hn]
    generalize Binary64.finite negative m e = x
    dsimp only [bind, Except.bind]
    cases x.isInteger <;> rfl

/-- Whatever rules ask of the literal is answered, as it is for the number. -/
structure Serves (code : String) (x : Binary64) : Prop where
  reads : readNumber code = pure x
  written : formatNumber (.real x.abs) = .ok (numberText x.abs)
  written_turned : formatNumber (.real x.abs.neg) = .ok (numberText x.abs.neg)
  /-- As the step between two literals that are read. -/
  counts : ∀ {p : CountParts} {a b : Binary64}, p.increment = code → readNumber p.first = pure a →
    readNumber p.last = pure b → p.literal =
      pure (.statement (literalCount p.name p.first p.last (numberText (stepToward a b x)) p.body))
  /-- As the step of a loop whose bounds are not all literals. -/
  steps : stepSize code = pure (numberText x.abs)
  /-- As a bound that is compared with one. -/
  bounds : ∀ name body, countedLoop name code body =
    pure (if Binary64.le (.ofRatio false 1 1) x then countingForm name code body
      else testedForm name code body)
  written_shifted : formatNumber (.real (x.sub (.ofRatio false 1 1))) =
    .ok (numberText (x.sub (.ofRatio false 1 1)))
  /-- As a position that is counted from one. -/
  shifts : shiftedPosition code = pure (numberText (x.sub (.ofRatio false 1 1)))

/-- Whatever rules ask of the literal, they find that it is no number. -/
structure Refuses (code : String) : Prop where
  reads : readNumber code = throw (.unreadableReal code)
  counts : ∀ {p : CountParts}, p.increment = code → p.literal = throw (.unreadableReal code)
  steps : stepSize code = throw (.unreadableReal code)
  bounds : ∀ name body, countedLoop name code body = throw (.unreadableReal code)
  shifts : shiftedPosition code = throw (.unreadableReal code)

section Literals

variable {code : String} (hnumber : isNumber code = true)
include hnumber

theorem serves_of_real? {x : Binary64} (h : real? code = some x) : Serves code x := by
  have hreads : readNumber code = pure x := by
    rw [readNumber, Value.toReal, h]
    rfl
  exact
    { reads := hreads
      written := formatNumber_real _
      written_turned := formatNumber_real _
      counts := by
        rintro p a b rfl hfirst hlast
        rw [CountParts.literal, hreads, hfirst, hlast]
        simp only [pure_bind]
      steps := by
        rw [stepSize, if_pos hnumber, hreads, pure_bind]
      bounds := by
        intro name body
        rw [countedLoop, if_pos hnumber, hreads]
        simp only [pure_bind]
      written_shifted := formatNumber_real _
      shifts := by
        rw [shiftedPosition, if_pos hnumber, hreads, pure_bind] }

theorem refuses_of_real? (h : real? code = none) : Refuses code := by
  have hreads : readNumber code = throw (.unreadableReal code) := by
    rw [readNumber, Value.toReal, h]
    rfl
  exact
    { reads := hreads
      counts := by
        rintro p rfl
        rw [CountParts.literal, hreads]
        rfl
      steps := by
        rw [stepSize, if_pos hnumber, hreads]
        rfl
      bounds := by
        intro name body
        rw [countedLoop, if_pos hnumber, hreads]
        rfl
      shifts := by
        rw [shiftedPosition, if_pos hnumber, hreads]
        rfl }

/-- A literal that passes the check serves rules as a number just if no information separator is among
its characters, and with one it is refused wherever it is used. -/
theorem literal_serves_unless_separated :
    (¬ HasSeparator code → ∃ x, x ≠ .nan ∧ Serves code x) ∧ (HasSeparator code → Refuses code) ∧
      ∀ site, count site = countParts site >>= CountParts.code := by
  refine ⟨fun hfree => ?_, fun hseparator => ?_, fun _ => rfl⟩
  · obtain ⟨x, hx, hne⟩ := exists_real? hnumber hfree
    exact ⟨x, hne, serves_of_real? hnumber hx⟩
  · exact refuses_of_real? hnumber (real?_of_hasSeparator hseparator)

end Literals

/-- A literal that is too great to be finite. -/
def endless : String :=
  String.ofList ('-' :: List.replicate 400 '9')

theorem toList_endless : endless.toList = '-' :: List.replicate 400 '9' :=
  String.toList_ofList

theorem real?_endless : real? endless = some (.infinite true) := by
  have hsign : sign (dropMargins endless.toList) = (true, '9' :: List.replicate 399 '9') := by
    rw [toList_endless]
    decide +kernel
  rw [real?_of_digit hsign (by decide)]
  decide +kernel

theorem endless_serves :
    real? endless = some (.infinite true) ∧ (∃ x, x ≠ .nan ∧ Serves endless x) ∧
      Refuses "5\x1c" := by
  have hendless : isNumber endless = true := by
    unfold isNumber
    rw [toList_endless]
    decide +kernel
  have hfree : ¬ HasSeparator endless := by
    unfold HasSeparator
    rw [toList_endless]
    decide +kernel
  have hseparated : isNumber "5\x1c" = true := by decide
  refine ⟨real?_endless, ?_, ?_⟩
  · exact (literal_serves_unless_separated hendless).1 hfree
  · exact (literal_serves_unless_separated hseparated).2.1 (by decide)

end Rules

namespace Generator

/-- A loop that runs as often as a disabled block passes on, behind a comment that is an information
separator. -/
def separatedTimes : Workspace :=
  let number : BlockHead :=
    { kind := "math_number", fields := .map [("NUM", .int 3)], comment := "\x1c", id := "c" }
  let off : Block :=
    .mk { kind := "off", disabled := .bool true, id := "b" } [] [] (some (.mk number [] [] none))
  { top := [.mk { kind := "controls_repeat_ext", id := "a" } [("TIMES", some off)] [] none] }

/-- The check is passed, and then the loop fails as its literal is no number. -/
theorem separatedTimes_unread :
    isNumber "\x1c\n3" = true ∧
      (({} : Session).generate ⟨Language.divGames.dialect, { commentMark := some "" }⟩
        (.workspace separatedTimes)).1 = .error (.unreadableReal "\x1c\n3") := by
  refine ⟨by decide, ?_⟩
  exact eq_of_unread? (by decide +kernel)

end Generator

end BlockCode
