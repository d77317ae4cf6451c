import BlockCode.Proofs.Number.Literal
import BlockCode.Proofs.Number.Whole
import BlockCode.Rules.Loop

namespace BlockCode

open Text

namespace Binary64

/-- The number nearest to an integer, which for those of 53 bits is the integer. -/
def whole (n : Int) : Binary64 :=
  ofRatio (n < 0) n.natAbs 1

variable {m n : Int}

theorem whole_zero : whole 0 = zero :=
  rfl

theorem whole_eq (hn : n ≠ 0) (h : n.natAbs < 2 ^ 53) :
    whole n = .finite (n < 0) (n.natAbs * 2 ^ slack n.natAbs) (-Int.ofNat (slack n.natAbs)) :=
  ofRatio_whole (Int.natAbs_ne_zero.2 hn) h _

theorem ofInt?_whole (h : n.natAbs < 2 ^ 53) : ofInt? n = some (whole n) := by
  by_cases hn : n = 0
  · subst hn
    rw [ofInt?, ← whole, whole_zero, zero]
  · rw [ofInt?, ← whole, whole_eq hn h]

/-- At any common exponent the integer counts as a multiple of the same unit. -/
theorem exists_finite (h : n.natAbs < 2 ^ 53) : ∃ s k x, whole n = .finite s k x ∧ x ≤ 0 ∧
    ∀ e ≤ x, atExponent s k x e = n * Int.ofNat (twoPow (-e).toNat) := by
  by_cases hn : n = 0
  · subst hn
    refine ⟨false, 0, leastExponent, whole_zero, by decide, fun e _ => ?_⟩
    simp [atExponent]
  · refine ⟨_, _, _, whole_eq hn h, by simp, fun e he => ?_⟩
    generalize slack n.natAbs = k at he
    have hexponent : k + (-Int.ofNat k - e).toNat = (-e).toNat := by
      simp only [Int.ofNat_eq_natCast] at he ⊢
      omega
    have hunits : n.natAbs * 2 ^ k * twoPow (-Int.ofNat k - e).toNat =
        n.natAbs * twoPow (-e).toNat := by
      show n.natAbs * 2 ^ k * 2 ^ _ = n.natAbs * 2 ^ _
      rw [Nat.mul_assoc, ← Nat.pow_add, hexponent]
    rw [atExponent, hunits]
    simp only [Int.ofNat_eq_natCast, Int.natCast_mul, decide_eq_true_eq]
    split
    · next hneg => rw [← Int.neg_mul, Int.ofNat_natAbs_of_nonpos (Int.le_of_lt hneg), Int.neg_neg]
    · next hpos => rw [Int.natAbs_of_nonneg (Int.not_lt.1 hpos)]

theorem numberText_whole (h : n.natAbs < 2 ^ 53) : Rules.numberText (whole n) = toString n := by
  obtain ⟨x, hx, hcode⟩ := Rules.numberCode?_whole h
  obtain ⟨s, k, e, hn, -⟩ := exists_finite h
  rw [ofInt?_whole h] at hx
  cases hx
  rw [hn] at hcode ⊢
  exact congrArg Prod.fst (Option.some.inj hcode)

theorem lt_whole (hm : m.natAbs < 2 ^ 53) (hn : n.natAbs < 2 ^ 53) :
    (whole m).lt (whole n) = decide (m < n) := by
  obtain ⟨s, k, x, hx, hx0, hfirst⟩ := exists_finite hm
  obtain ⟨t, l, y, hy, hy0, hsecond⟩ := exists_finite hn
  have hunit : (0 : Int) < Int.ofNat (twoPow (-min x y).toNat) :=
    Int.natCast_pos.2 (Nat.two_pow_pos _)
  rw [hx, hy, lt, hfirst _ (Int.min_le_left x y), hsecond _ (Int.min_le_right x y)]
  exact decide_eq_decide.2 (Int.mul_lt_mul_right hunit)

theorem le_whole (hm : m.natAbs < 2 ^ 53) (hn : n.natAbs < 2 ^ 53) :
    (whole m).le (whole n) = decide (m ≤ n) := by
  obtain ⟨s, k, x, hx, hx0, hfirst⟩ := exists_finite hm
  obtain ⟨t, l, y, hy, hy0, hsecond⟩ := exists_finite hn
  have hunit : (0 : Int) < Int.ofNat (twoPow (-min x y).toNat) :=
    Int.natCast_pos.2 (Nat.two_pow_pos _)
  rw [hx, hy, le, hfirst _ (Int.min_le_left x y), hsecond _ (Int.min_le_right x y)]
  exact decide_eq_decide.2 (Int.mul_le_mul_right hunit)

theorem abs_whole (h : n.natAbs < 2 ^ 53) : (whole n).abs = whole n.natAbs := by
  by_cases hn : n = 0
  · subst hn
    rfl
  · have hsize : (n.natAbs : Int) ≠ 0 := Int.natCast_ne_zero.2 (Int.natAbs_ne_zero.2 hn)
    rw [whole_eq hn h, whole_eq hsize h, abs, Int.natAbs_natCast]
    simp

theorem neg_whole (hn : n ≠ 0) (h : n.natAbs < 2 ^ 53) : (whole n).neg = whole (-n) := by
  have hsign : (!decide (n < 0)) = decide (-n < 0) := by
    rw [← decide_not]
    exact decide_eq_decide.2 (by omega)
  rw [whole_eq hn h, whole_eq (Int.neg_ne_zero.2 hn) (n.natAbs_neg.symm ▸ h), n.natAbs_neg, neg,
    hsign]

/-- The digits of an integer read as the integer. -/
theorem ofDecimal_whole (h : n.natAbs < 2 ^ 53) : ofDecimal (n < 0) n.natAbs 0 = whole n := by
  by_cases hn : n = 0
  · subst hn
    rfl
  · have hcount : (Nat.toDigits 10 n.natAbs).length ≤ 16 :=
      (Nat.length_toDigits_le_iff (by decide) (by decide)).2 (Nat.lt_trans h (by decide))
    have hscale : n.natAbs * tenPow (0 : Int).toNat = n.natAbs := Nat.mul_one _
    unfold ofDecimal
    rw [if_neg (by simp only [Int.ofNat_eq_natCast]; omega),
      if_neg (by simp only [Int.ofNat_eq_natCast]; omega), if_pos (Int.le_refl 0), hscale, whole]

end Binary64

section Digits

variable {c : Char} {ds : List Char}

theorem Text.digitValue?_of_isDigit (h : c.isDigit = true) :
    digitValue? c = some (c.toNat - '0'.toNat) := by
  have hrange : 48 ≤ c.toNat ∧ c.toNat < 58 := by
    simp only [Char.isDigit, Bool.and_eq_true, decide_eq_true_eq, UInt32.le_iff_toNat_le] at h
    exact ⟨h.1, Nat.lt_succ_of_le h.2⟩
  rw [digitValue?, zeros, List.find?_cons_of_pos (by simpa using hrange)]
  rfl

theorem Text.isDigit_of_mem_toDigits {n : Nat} (h : c ∈ Nat.toDigits 10 n) : isDigit c = true := by
  have hdigit := Nat.isDigit_of_mem_toDigits (by decide) (by decide) h
  rw [isDigit, digitValue?_of_isDigit hdigit]
  rfl

theorem Reading.digitsFrom_digits (value count : Nat) (h : ∀ c ∈ ds, c.isDigit = true) :
    digitsFrom value count ds = (Nat.ofDigitChars 10 ds value, count + ds.length, []) := by
  induction ds generalizing value count with
  | nil => rfl
  | cons c ds ih =>
    rw [digitsFrom, digitValue?_of_isDigit (h c List.mem_cons_self)]
    simp only [ih _ _ fun d hd => h d (List.mem_cons_of_mem _ hd), Nat.ofDigitChars_cons,
      List.length_cons, Nat.add_assoc, Nat.add_comm 1]

end Digits

/-- The text of an integer: its sign, if it is below zero, and the digits of its size. -/
theorem toList_toString (n : Int) : (toString n).toList =
    (if n < 0 then ['-'] else []) ++ Nat.toDigits 10 n.natAbs := by
  cases n with
  | ofNat n => exact String.toList_ofList
  | negSucc n =>
    have hminus : toString (Int.negSucc n) = "-" ++ toString (n + 1) := rfl
    have hdigits : (toString (n + 1)).toList = Nat.toDigits 10 (n + 1) := String.toList_ofList
    rw [hminus, String.toList_append, hdigits, if_pos (Int.negSucc_lt_zero n)]
    rfl

namespace Operand

variable (n : Int)

theorem isPlainDecimal_toDigits (n : Nat) : isPlainDecimal (Nat.toDigits 10 n) = true := by
  have hdigits : ∀ c ∈ Nat.toDigits 10 n, isDigit c = true := fun _ => isDigit_of_mem_toDigits
  have hrest : (Nat.toDigits 10 n).dropWhile isDigit = [] := List.dropWhile_eq_nil_iff.2 hdigits
  have hhead : (Nat.toDigits 10 n).head?.any isDigit = true := by
    cases hds : Nat.toDigits 10 n with
    | nil => exact absurd hds Nat.toDigits_ne_nil
    | cons d ds => exact hdigits d (hds ▸ List.mem_cons_self)
  rw [isPlainDecimal, hrest, hhead]
  rfl

theorem isNumber_int : isNumber (toString n) = true := by
  have hparts : (toString n).toList = [] ++ (toString n).toList ++ [] := by simp
  refine isNumber_of_parts hparts nofun nofun ?_
  rw [toList_toString]
  split
  · exact isPlainDecimal_toDigits n.natAbs
  · rw [List.nil_append, dropMinus_of_isPlainDecimal (isPlainDecimal_toDigits _)]
    exact isPlainDecimal_toDigits n.natAbs

end Operand

/-- There is nothing to drop at either end. -/
theorem Text.dropWhile_ends {p : Char → Bool} {cs : List Char} (h : ∀ c ∈ cs, p c = false) :
    ((cs.dropWhile p).reverse.dropWhile p).reverse = cs := by
  have hdrop : ∀ {cs : List Char}, (∀ c ∈ cs, p c = false) → cs.dropWhile p = cs :=
    fun hcs => List.dropWhile_eq_self_iff.2 fun _ =>
      Bool.eq_false_iff.1 (hcs _ (List.getElem_mem _))
  rw [hdrop h, hdrop fun c hc => h c (List.mem_reverse.1 hc), List.reverse_reverse]

theorem Text.trimmed_of_ink {s : String} (h : ∀ c ∈ s.toList, isBlank c = false) :
    trimmed s = s := by
  rw [trimmed, trim, trimEnd, trimStart, dropWhile_ends h, String.ofList_toList]

namespace Reading

open Binary64

theorem unsignedReal?_toDigits {n : Int} (h : n.natAbs < 2 ^ 53) :
    unsignedReal? (n < 0) (Nat.toDigits 10 n.natAbs) = some (whole n) := by
  have hdigits : ∀ c ∈ Nat.toDigits 10 n.natAbs, c.isDigit = true := fun _ =>
    Nat.isDigit_of_mem_toDigits (by decide) (by decide)
  have hcount : (Nat.toDigits 10 n.natAbs).length ≠ 0 := fun hzero =>
    Nat.toDigits_ne_nil (List.length_eq_zero_iff.1 hzero)
  have hpart : fraction n.natAbs [] = (n.natAbs, 0, []) := rfl
  simp only [unsignedReal?, digitsFrom_digits 0 0 hdigits, Nat.ofDigitChars_ten_toDigits, hpart,
    Nat.zero_add, Nat.add_zero, if_neg hcount, exponent?]
  rw [← ofDecimal_whole h]
  rfl

/-- An integer reads as itself. -/
theorem real?_int {n : Int} (h : n.natAbs < 2 ^ 53) : real? (toString n) = some (whole n) := by
  have hink : ∀ c ∈ (toString n).toList, isMargin c = false := fun c hc => by
    rw [isMargin, Operand.not_isBlank_int n c hc, Bool.false_and]
  have hmargins : dropMargins (toString n).toList = (toString n).toList := Text.dropWhile_ends hink
  obtain ⟨d, ds, hds⟩ : ∃ d ds, Nat.toDigits 10 n.natAbs = d :: ds :=
    List.exists_cons_of_ne_nil Nat.toDigits_ne_nil
  have hd : isDigit d = true := isDigit_of_mem_toDigits (hds ▸ List.mem_cons_self)
  have hsign : sign (dropMargins (toString n).toList) = (decide (n < 0), d :: ds) := by
    rw [hmargins, toList_toString, hds]
    by_cases hn : n < 0
    · rw [if_pos hn, decide_eq_true hn]
      rfl
    · rw [if_neg hn, decide_eq_false hn, List.nil_append, sign_of_digit hd]
  rw [real?_of_digit hsign hd, ← hds, unsignedReal?_toDigits h]

end Reading

end BlockCode
