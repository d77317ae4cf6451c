import BlockCode.Proofs.Expression.Within
import BlockCode.Rules.Number
import Mathlib.Data.List.TakeWhile

namespace BlockCode

open Token

/-- Characters that go on with a number whatever was read of it. -/
def GoesOn (cs : List Char) : Prop :=
  ∀ exponent, ∃ exponent', scan (.number exponent) cs = some ([], .number exponent')

namespace GoesOn

theorem append {cs ds : List Char} (hcs : GoesOn cs) (hds : GoesOn ds) : GoesOn (cs ++ ds) := by
  intro exponent
  obtain ⟨exponent', hfirst⟩ := hcs exponent
  obtain ⟨exponent'', hrest⟩ := hds exponent'
  exact ⟨exponent'', scan_append hfirst hrest⟩

theorem of_digits {cs : List Char} (h : ∀ c ∈ cs, c.isDigit = true ∨ c = '.') : GoesOn cs := by
  induction cs with
  | nil => exact fun exponent => ⟨exponent, rfl⟩
  | cons c cs ih =>
    intro exponent
    have hc : Text.isAsciiWord c = true ∨ c = '.' :=
      (h c List.mem_cons_self).imp_left Name.isAsciiWord_of_isDigit
    have hread : (Pending.number exponent).read c = some ([], .number (c = 'e' ∨ c = 'E')) := by
      rw [Pending.read, Pending.extend?, if_pos (hc.imp_right .inl)]
    obtain ⟨exponent', hrest⟩ := ih (fun d hd => h d (List.mem_cons_of_mem _ hd)) _
    exact ⟨exponent', scan_cons hread hrest⟩

end GoesOn

/-- The characters of a number. -/
structure IsNumeral (cs : List Char) : Prop where
  starts : ∃ c ∈ cs.head?, c.isDigit = true
  goesOn : GoesOn cs.tail

theorem IsNumeral.append {cs ds : List Char} (h : IsNumeral cs) (hds : GoesOn ds) :
    IsNumeral (cs ++ ds) := by
  obtain ⟨⟨c, hc, hdigit⟩, hgoes⟩ := h
  cases cs with
  | nil => cases hc
  | cons d cs => exact ⟨⟨c, hc, hdigit⟩, hgoes.append hds⟩

theorem isNumeral_digits {cs : List Char} (hne : cs ≠ []) (h : ∀ c ∈ cs, c.isDigit = true) :
    IsNumeral cs := by
  cases cs with
  | nil => exact absurd rfl hne
  | cons c cs =>
    exact ⟨⟨c, rfl, h c List.mem_cons_self⟩,
      .of_digits fun d hd => .inl (h d (List.mem_cons_of_mem _ hd))⟩

theorem Within.numeral {cs : List Char} (h : IsNumeral cs) : Within Rank.atomic (String.ofList cs) := by
  obtain ⟨⟨c, hc, hdigit⟩, hgoes⟩ := h
  cases cs with
  | nil => cases hc
  | cons d cs =>
    cases hc
    have hne : ∀ e, Char.isDigit e = false → c ≠ e := by
      rintro e he rfl
      rw [hdigit] at he
      cases he
    have hstart : start c = some ([], .number false) := by
      rw [start, Lexeme.isBlank_of_isAsciiWord (Name.isAsciiWord_of_isDigit hdigit), hdigit,
        if_neg Bool.false_ne_true, if_neg (hne _ (by decide)), if_neg (hne _ (by decide)),
        if_neg (hne _ (by decide)), if_neg (hne _ (by decide)), if_pos rfl]
    have hread : Pending.nothing.read c = some ([], .number false) := by
      rw [Pending.read, Pending.extend?, hstart]
      rfl
    obtain ⟨exponent, hrest⟩ := hgoes false
    refine ⟨⟨[.literal], ?_, Within.literal_spans⟩, ?_⟩
    · rw [String.toList_ofList]
      exact ⟨[], .number exponent, scan_cons hread hrest, rfl, rfl⟩
    · rw [String.toList_ofList]
      simpa using hne '=' (by decide)

namespace Binary64

theorem isDigit_toDigits {n : Nat} {c : Char} (h : c ∈ Nat.toDigits 10 n) : c.isDigit = true :=
  Nat.isDigit_of_mem_toDigits (by decide) (by decide) h

theorem isDigit_zeroText {n : Nat} {c : Char} (h : c ∈ zeroText n) : c.isDigit = true := by
  rw [List.eq_of_mem_replicate h]
  decide

theorem goesOn_exponentText (x : Int) : GoesOn (exponentText x) := by
  intro exponent
  unfold exponentText
  have hdigits : GoesOn (zeroText (2 - (Nat.toDigits 10 x.natAbs).length) ++
      Nat.toDigits 10 x.natAbs) :=
    .append (.of_digits fun c hc => .inl (isDigit_zeroText hc))
      (.of_digits fun c hc => .inl (isDigit_toDigits hc))
  obtain ⟨exponent', hrest⟩ := hdigits false
  have hletter : (Pending.number exponent).read 'e' = some ([], .number true) := rfl
  have hsign : (Pending.number true).read (if x < 0 then '-' else '+') =
      some ([], .number false) := by
    split <;> rfl
  exact ⟨exponent', scan_cons hletter (scan_cons hsign hrest)⟩

/-- Digits make a numeral wherever the point is, if there are any in front of an exponent. -/
theorem isNumeral_layDigits {ds : List Char} (h : ∀ c ∈ ds, c.isDigit = true) {point : Int}
    (hne : point ≤ -4 ∨ 16 < point → ds ≠ []) : IsNumeral (layDigits ds point) := by
  have hpoint : ∀ {cs : List Char}, (∀ c ∈ cs, c.isDigit = true) → GoesOn ('.' :: cs) := by
    intro cs hcs
    exact .of_digits (List.forall_mem_cons.2 ⟨.inr rfl, fun c hc => .inl (hcs c hc)⟩)
  have hdrop (n : Nat) : ∀ c ∈ ds.drop n, c.isDigit = true := fun c hc => h c (List.mem_of_mem_drop hc)
  have htake (n : Nat) : ∀ c ∈ ds.take n, c.isDigit = true := fun c hc => h c (List.mem_of_mem_take hc)
  unfold layDigits
  split
  · next hexponent =>
    have hfirst : ds.take 1 ≠ [] := by simpa using hne hexponent
    refine ((isNumeral_digits hfirst (htake 1)).append ?_).append (goesOn_exponentText _)
    split
    · exact .of_digits nofun
    · exact hpoint (hdrop 1)
  · split
    · refine ⟨⟨'0', rfl, rfl⟩, hpoint fun c hc => ?_⟩
      rcases List.mem_append.1 hc with hc | hc
      · exact isDigit_zeroText hc
      · exact h c hc
    · next hwhole =>
      dsimp only
      split
      · next hlength =>
        have hnonempty : ds ++ zeroText (point.toNat - ds.length) ≠ [] := by
          rw [← List.length_pos_iff, List.length_append, zeroText, List.length_replicate]
          omega
        refine (isNumeral_digits hnonempty fun c hc => ?_).append (hpoint (by simp))
        rcases List.mem_append.1 hc with hc | hc
        · exact h c hc
        · exact isDigit_zeroText hc
      · next hlength =>
        have hnonempty : ds.take point.toNat ≠ [] := by
          rw [← List.length_pos_iff, List.length_take]
          omega
        exact (isNumeral_digits hnonempty (htake _)).append (hpoint (hdrop _))

/-- The neighbour of a number other than zero that reads back as it is not zero. -/
theorem neighbour?_ne_zero {m d : Nat} {e k : Int} (hm : m ≠ 0) (h : neighbour? m e k = some d) :
    d ≠ 0 := by
  rintro rfl
  unfold neighbour? at h
  dsimp only at h
  split at h
  · next hlow =>
    rw [Option.some.inj h] at hlow
    have hzero : ofDecimal false 0 k = .finite false 0 leastExponent := rfl
    rw [hzero] at hlow
    cases hlow.1
    exact hm rfl
  · split at h
    · cases h
    · cases h

theorem shortest_ne_zero {m : Nat} {e : Int} (hm : m ≠ 0) :
    (shortest m e).1 ≠ 0 ∨ shortest m e = (0, 0) := by
  unfold shortest
  dsimp only
  cases hfound : (List.range 17).findSome? _ with
  | none => exact .inr rfl
  | some found =>
    obtain ⟨n, -, hn⟩ := List.exists_of_findSome?_eq_some hfound
    obtain ⟨d, hd, rfl⟩ := Option.map_eq_some_iff.1 hn
    exact .inl (neighbour?_ne_zero hm hd)

theorem ofDigitChars_zeros {cs : List Char} (h : ∀ c ∈ cs, c = '0') :
    Nat.ofDigitChars 10 cs 0 = 0 := by
  induction cs with
  | nil => rfl
  | cons c cs ih =>
    rw [h c List.mem_cons_self, Nat.ofDigitChars_cons]
    exact ih fun d hd => h d (List.mem_cons_of_mem _ hd)

theorem dropZeros_toDigits_ne_nil {n : Nat} (hn : n ≠ 0) : dropZeros (Nat.toDigits 10 n) ≠ [] := by
  intro h
  have hzeros : ∀ c ∈ Nat.toDigits 10 n, c = '0' := by
    simpa [dropZeros, List.dropWhile_eq_nil_iff] using h
  exact hn (Nat.ofDigitChars_ten_toDigits.symm.trans (ofDigitChars_zeros hzeros))

theorem isNumeral_finiteText (m : Nat) (e : Int) : IsNumeral (finiteText m e) := by
  unfold finiteText
  split
  · have hrest : ∀ c ∈ ['.', '0'], c.isDigit = true ∨ c = '.' :=
      List.forall_mem_cons.2 ⟨.inr rfl, List.forall_mem_singleton.2 (.inl rfl)⟩
    exact ⟨⟨'0', rfl, rfl⟩, .of_digits hrest⟩
  · next hm =>
    dsimp only
    refine isNumeral_layDigits ?_ fun hexponent => ?_
    · intro c hc
      have hmem := List.mem_reverse.1 ((List.dropWhile_sublist _).mem (List.mem_reverse.1 hc))
      exact isDigit_toDigits hmem
    · rcases shortest_ne_zero (e := e) hm with hne | hzero
      · exact dropZeros_toDigits_ne_nil hne
      · rw [hzero] at hexponent
        exact absurd hexponent (by decide)

theorem isNegative_finite (s : Bool) {m : Nat} (e : Int) (hm : m ≠ 0) :
    (Binary64.finite s m e).isNegative = s := by
  have hv : 0 < m * twoPow (e - min e leastExponent).toNat :=
    Nat.mul_pos (Nat.pos_of_ne_zero hm) (Nat.pow_pos (by decide))
  cases s <;> simp [isNegative, lt, zero, atExponent] <;> omega

end Binary64

namespace Within

open Rank Rules

theorem nat (n : Nat) : Within atomic (toString n) :=
  numeral (isNumeral_digits Nat.toDigits_ne_nil fun _ => Binary64.isDigit_toDigits)

/-- A numeral behind a minus sign. -/
theorem minusNumeral {cs : List Char} (h : IsNumeral cs) :
    Within unaryNegation ("-" ++ String.ofList cs) := by
  have hminus := minus ((numeral h).mono (by decide : atomic ≤ unaryNegation))
  rwa [if_neg] at hminus
  obtain ⟨c, hc, hdigit⟩ := h.starts
  rw [String.toList_ofList]
  intro hhead
  cases hc.symm.trans hhead
  exact absurd hdigit (by decide)

theorem finiteText (m : Nat) (e : Int) : Within atomic (String.ofList (Binary64.finiteText m e)) :=
  numeral (Binary64.isNumeral_finiteText m e)

theorem int (n : Int) : Within unaryNegation (toString n) ∧ (0 ≤ n → Within atomic (toString n)) := by
  cases n with
  | ofNat n => exact ⟨(nat n).mono (by decide), fun _ => nat n⟩
  | negSucc n =>
    have hnumeral : IsNumeral (Nat.toDigits 10 (n + 1)) :=
      isNumeral_digits Nat.toDigits_ne_nil fun _ => Binary64.isDigit_toDigits
    exact ⟨minusNumeral hnumeral, fun h => absurd h (by omega)⟩

/-- The text of a number is no looser than a minus sign in front of it, and if it is not negative there
is none. -/
theorem numberText (x : Binary64) : Within unaryNegation (numberText x) ∧
    (x.isNegative = false → Within atomic (numberText x)) := by
  match x with
  | .nan =>
    have hword : Within atomic "nan" := word (by decide) (by decide)
    exact ⟨hword.mono (by decide), fun _ => hword⟩
  | .infinite false =>
    have hword : Within atomic "inf" := word (by decide) (by decide)
    exact ⟨hword.mono (by decide), fun _ => hword⟩
  | .infinite true =>
    have hword : Within atomic "inf" := word (by decide) (by decide)
    exact ⟨minus (hword.mono (by decide)), fun h => nomatch h⟩
  | .finite s m e =>
    unfold Rules.numberText
    simp only [Binary64.truncate?]
    split
    · refine ⟨(int _).1, fun hnegative => (int _).2 ?_⟩
      cases s with
      | false => exact Int.natCast_nonneg _
      | true =>
        by_cases hm : m = 0
        · simp [hm]
        · rw [Binary64.isNegative_finite true e hm] at hnegative
          cases hnegative
    · next hwhole =>
      have hm : m ≠ 0 := by
        rintro rfl
        simp [Binary64.isInteger] at hwhole
      rw [Binary64.isNegative_finite s e hm, Binary64.text]
      cases s with
      | false => exact ⟨(finiteText m e).mono (by decide), fun _ => finiteText m e⟩
      | true =>
        rw [if_pos rfl, String.ofList_cons]
        exact ⟨minusNumeral (Binary64.isNumeral_finiteText m e), fun h => nomatch h⟩

end Within

end BlockCode
