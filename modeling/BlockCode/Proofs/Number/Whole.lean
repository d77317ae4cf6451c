import BlockCode.Rules.Number
import Mathlib.Algebra.Ring.Nat

namespace BlockCode

namespace Binary64

/-- The place of the last bit when a whole number fills all 53 bits. -/
def slack (m : Nat) : Nat :=
  52 - m.log2

theorem shifted_whole (m : Nat) :
    shifted m 1 (-Int.ofNat (slack m)) = (m * 2 ^ slack m, 1) := by
  unfold shifted
  cases slack m with
  | zero => simp [twoPow]
  | succ k =>
    have hneg : ¬ (0 ≤ -Int.ofNat (k + 1)) := by
      have hk : (0 : Int) < Int.ofNat (k + 1) := Int.natCast_pos.2 (Nat.succ_pos k)
      omega
    rw [if_neg hneg]
    simp [twoPow]

section Whole

variable {m : Nat} (hpos : m ≠ 0) (hlt : m < 2 ^ 53)
include hpos hlt

theorem log2_le : m.log2 ≤ 52 := by
  have h := (Nat.log2_lt hpos).2 hlt
  omega

theorem le_filled : 2 ^ 52 ≤ m * 2 ^ slack m := by
  have hlog := log2_le hpos hlt
  calc 2 ^ 52 = 2 ^ (m.log2 + slack m) := by rw [slack, Nat.add_sub_cancel' hlog]
    _ = 2 ^ m.log2 * 2 ^ slack m := Nat.pow_add 2 _ _
    _ ≤ m * 2 ^ slack m := Nat.mul_le_mul_right _ (Nat.log2_self_le hpos)

theorem filled_lt : m * 2 ^ slack m < 2 ^ 53 := by
  have hlog := log2_le hpos hlt
  calc m * 2 ^ slack m < 2 ^ (m.log2 + 1) * 2 ^ slack m :=
        Nat.mul_lt_mul_of_pos_right Nat.lt_log2_self (Nat.two_pow_pos _)
    _ = 2 ^ (m.log2 + 1 + slack m) := (Nat.pow_add 2 _ _).symm
    _ = 2 ^ 53 := by
      congr 1
      unfold slack
      omega

theorem placeOf_whole : placeOf m 1 = -Int.ofNat (slack m) := by
  have hlog := log2_le hpos hlt
  have hle := le_filled hpos hlt
  have he : Int.ofNat m.log2 - Int.ofNat (Nat.log2 1) - 52 = -Int.ofNat (slack m) := by
    have h1 : Nat.log2 1 = 0 := by decide
    rw [h1, slack]
    simp only [Int.ofNat_eq_natCast]
    omega
  have hfull : ¬ (m * 2 ^ slack m) / 1 < twoPow 52 := by
    rw [Nat.div_one]
    exact Nat.not_lt.2 hle
  unfold placeOf
  simp only [he, shifted_whole, if_neg hfull]
  unfold leastExponent slack
  simp only [Int.ofNat_eq_natCast]
  omega

/-- A whole number is not rounded. -/
theorem ofRatio_whole (negative : Bool) :
    ofRatio negative m 1 = .finite negative (m * 2 ^ slack m) (-Int.ofNat (slack m)) := by
  have hnearest : nearest (m * 2 ^ slack m) 1 = m * 2 ^ slack m := by
    simp [nearest, Nat.mod_one]
  have hbits : m * 2 ^ slack m ≠ twoPow 53 := Nat.ne_of_lt (filled_lt hpos hlt)
  have hrange : ¬ greatestExponent < -Int.ofNat (slack m) := by
    unfold greatestExponent
    simp only [Int.ofNat_eq_natCast]
    omega
  unfold ofRatio
  simp only [if_neg hpos, placeOf_whole hpos hlt, shifted_whole, hnearest, if_neg hbits,
    if_neg hrange]

end Whole

theorem truncate?_filled (negative : Bool) (m k : Nat) :
    truncate? (.finite negative (m * 2 ^ k) (-Int.ofNat k)) =
      some (if negative then -Int.ofNat m else Int.ofNat m) := by
  cases k with
  | zero => simp [truncate?, twoPow]
  | succ k =>
    have hneg : ¬ (0 ≤ -Int.ofNat (k + 1)) := by
      have hk : (0 : Int) < Int.ofNat (k + 1) := Int.natCast_pos.2 (Nat.succ_pos k)
      omega
    have hexp : (-(-Int.ofNat (k + 1))).toNat = k + 1 := by simp
    have hdiv : m * 2 ^ (k + 1) / twoPow (k + 1) = m :=
      Nat.mul_div_cancel m (Nat.two_pow_pos (k + 1))
    rw [truncate?, if_neg hneg, hexp, hdiv]

theorem isInteger_filled (negative : Bool) (m k : Nat) :
    isInteger (.finite negative (m * 2 ^ k) (-Int.ofNat k)) = true := by
  have hexp : (-(-Int.ofNat k)).toNat = k := by simp
  have hmod : m * 2 ^ k % twoPow k = 0 := Nat.mul_mod_left m (2 ^ k)
  rw [isInteger, hexp, hmod]
  simp

theorem isNegative_filled {m : Nat} (hpos : m ≠ 0) (negative : Bool) (k : Nat) :
    isNegative (.finite negative (m * 2 ^ k) (-Int.ofNat k)) = negative := by
  have hv : ∀ t : Nat, (0 : Int) < Int.ofNat (m * 2 ^ k * twoPow t) := fun t =>
    Int.natCast_pos.2 (Nat.mul_pos (Nat.mul_pos (Nat.pos_of_ne_zero hpos) (Nat.two_pow_pos k))
      (Nat.two_pow_pos t))
  simp only [isNegative, zero, lt, atExponent, Nat.zero_mul]
  cases negative with
  | true => exact decide_eq_true (Int.neg_neg_of_pos (hv _))
  | false => exact decide_eq_false (Int.not_lt.2 (Int.le_of_lt (hv _)))

end Binary64

namespace Rules

open Rank Binary64

/-- Where the integers are dense among the numbers, an integer is written as it is. -/
theorem numberCode?_whole {n : Int} (h : n.natAbs < 2 ^ 53) :
    ∃ x, Binary64.ofInt? n = some x ∧
      numberCode? x = some (toString n, if n < 0 then unaryNegation else atomic) := by
  by_cases hn : n.natAbs = 0
  · have hzero : n = 0 := Int.natAbs_eq_zero.1 hn
    subst hzero
    have hwhole : truncate? zero = some 0 := by simp [truncate?, zero]
    have hinteger : isInteger zero = true := by simp [isInteger, zero]
    have hnegative : isNegative zero = false := by simp [isNegative, lt, zero]
    have hcode : numberCode? zero = some (numberText zero,
        if isNegative zero then unaryNegation else atomic) := rfl
    refine ⟨zero, rfl, ?_⟩
    rw [hcode, numberText, hwhole, hinteger, hnegative]
    rfl
  · have hvalue : (if n < 0 then -Int.ofNat n.natAbs else Int.ofNat n.natAbs) = n := by
      simp only [Int.ofNat_eq_natCast]
      split <;> omega
    refine ⟨.finite (decide (n < 0)) (n.natAbs * 2 ^ slack n.natAbs) (-Int.ofNat (slack n.natAbs)),
      ?_, ?_⟩
    · rw [ofInt?, ofRatio_whole hn h]
    · simp only [numberCode?, numberText, truncate?_filled, isInteger_filled, isNegative_filled hn,
        if_true, decide_eq_true_eq, hvalue]

end Rules

end BlockCode
