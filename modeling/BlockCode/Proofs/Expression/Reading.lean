import BlockCode.Proofs.Expression.Tree
import BlockCode.Proofs.Name.Legal

namespace BlockCode

open Rank Grammar Lexeme

/-- The text reads, at the rank, as a formula that comes from the given one by regrouping. -/
def ReadsAs (k : Rank) (text : String) (t : Formula) : Prop :=
  ∃ u, Reads k (Lexeme.ofText text) u ∧ Regroups t u

namespace ReadsAs

variable {j k : Rank} {s l r : String} {t a b : Formula}

theorem loosen (h : ReadsAs j s t) (hjk : j ≤ k) : ReadsAs k s t := by
  obtain ⟨u, hu, ht⟩ := h
  exact ⟨u, .loosen hjk hu, ht⟩

theorem word {w : String} (h : isWord w.toList = true) : ReadsAs atomic w (.leaf w) := by
  refine ⟨.leaf w, ?_, .refl _⟩
  rw [ofText_word h]
  exact .leaf h

theorem group (h : ReadsAs loosest s t) : ReadsAs atomic ("(" ++ s ++ ")") t := by
  obtain ⟨u, hu, ht⟩ := h
  refine ⟨u, ?_, ht⟩
  rw [ofText_group]
  exact .group hu

theorem power (ha : ReadsAs (comma - 1) l a) (hb : ReadsAs (comma - 1) r b) :
    ReadsAs functionCall ("pow(" ++ l ++ ", " ++ r ++ ")") (.power a b) := by
  obtain ⟨u, hu, hau⟩ := ha
  obtain ⟨v, hv, hbv⟩ := hb
  refine ⟨.power u v, ?_, .power hau hbv⟩
  have hcall : "pow(" ++ l ++ ", " ++ r ++ ")" = "pow" ++ "(" ++ l ++ ", " ++ r ++ ")" := rfl
  rw [hcall, ofText_call (by decide)]
  exact .power hu hv

theorem minus (hs : Opens s) (h : ReadsAs unaryNegation s t) :
    ReadsAs unaryNegation ("-" ++ Rules.spaceMinus s) (.unary "-" t) := by
  obtain ⟨u, hu, ht⟩ := h
  refine ⟨.unary "-" u, ?_, .unary "-" ht⟩
  rw [Rules.spaceMinus, ofText_minus hs]
  exact .unary (by decide) hu

theorem not (hs : Opens s) (h : ReadsAs logicalNot s t) :
    ReadsAs logicalNot ("!" ++ s) (.unary "!" t) := by
  obtain ⟨u, hu, ht⟩ := h
  refine ⟨.unary "!" u, ?_, .unary "!" ht⟩
  rw [ofText_not hs]
  exact .unary (by decide) hu

theorem ofText_between {sign : String} (hs : (sign, k) ∈ binarySigns) (l r : String) :
    Lexeme.ofText (l ++ " " ++ sign ++ " " ++ r) =
      Lexeme.ofText l ++ sign :: Lexeme.ofText r := by
  have hall : ∀ entry ∈ binarySigns, Lexeme.ofText entry.1 = [entry.1] := by decide
  rw [ofText_blank, ofText_blank, hall _ hs, List.append_assoc, List.singleton_append]

/-- A sign with its operands at the ranks it requires. -/
theorem binary {sign : String} (hs : (sign, k) ∈ binarySigns) (hl : ReadsAs k l a)
    (hr : ReadsAs j r b) (hj : j ≤ k - 1 ∨ j = k ∧ sign ∈ chainedSigns) :
    ReadsAs k (l ++ " " ++ sign ++ " " ++ r) (.binary sign a b) := by
  obtain ⟨u, hu, hau⟩ := hl
  obtain ⟨v, hv, hbv⟩ := hr
  unfold ReadsAs
  rw [ofText_between hs]
  rcases hj with hj | ⟨hj, hc⟩
  · exact ⟨.binary sign u v, .binary hs hu (.loosen hj hv), .binary sign hau hbv⟩
  · obtain ⟨t, ht, hreg⟩ := hu.chain hs hc hv hj
    exact ⟨t, ht, .trans (.binary sign hau hbv) hreg⟩

theorem choice {c y n : String} {t u v : Formula} (hc : ReadsAs (conditional - 1) c t)
    (hy : ReadsAs conditional y u) (hn : ReadsAs conditional n v) :
    ReadsAs conditional (c ++ " ? " ++ y ++ " : " ++ n) (.choice t u v) := by
  obtain ⟨t', ht, hct⟩ := hc
  obtain ⟨u', hu, hyu⟩ := hy
  obtain ⟨v', hv, hnv⟩ := hn
  refine ⟨.choice t' u' v', ?_, .choice hct hyu hnv⟩
  have hsigns : c ++ " ? " ++ y ++ " : " ++ n =
      c ++ " " ++ "?" ++ " " ++ y ++ " " ++ ":" ++ " " ++ n := by
    have hq : (" ? " : String) = " " ++ "?" ++ " " := rfl
    have hc : (" : " : String) = " " ++ ":" ++ " " := rfl
    simp only [hq, hc, String.append_assoc]
  have hq : Lexeme.ofText "?" = ["?"] := rfl
  have hcolon : Lexeme.ofText ":" = [":"] := rfl
  rw [hsigns, ofText_blank, ofText_blank, ofText_blank, ofText_blank, hq, hcolon]
  simpa using Reads.choice ht hu hv

end ReadsAs

namespace Tree

/-- What an operator requires of its operands is what the grammar asks of them. -/
theorem binary_form (op : BinaryOp) :
    (op.form.sign, op.form.rank) ∈ binarySigns ∧ op.form.leftRank ≤ op.form.rank ∧
      atomic ≤ op.form.leftRank ∧ atomic ≤ op.form.rightRank ∧
      (op.form.rightRank ≤ op.form.rank - 1 ∨
        op.form.rightRank = op.form.rank ∧ op.form.sign ∈ chainedSigns) := by
  cases op <;> decide

theorem connective_form (op : Connective) :
    (op.form.sign, op.form.rank) ∈ binarySigns ∧ op.form.sign ∈ chainedSigns ∧
      atomic ≤ op.form.rank := by
  cases op <;> decide

theorem rank_le (e : Tree) : e.rank ≤ comma - 1 := by
  have hranks : ∀ k ∈ [atomic, functionCall, unaryNegation, conditional], k ≤ comma - 1 := by decide
  have hsigns : ∀ entry ∈ binarySigns, entry.2 ≤ comma - 1 := by decide
  cases e with
  | number n =>
    rw [rank]
    split
    · exact hranks unaryNegation (by simp)
    · exact hranks atomic (by simp)
  | binary op a b => exact hsigns _ (binary_form op).1
  | connective op a b => exact hsigns _ (connective_form op).1
  | power a b => exact hranks functionCall (by simp)
  | negative a => exact hranks unaryNegation (by simp)
  | negation a => exact hranks unaryNegation (by simp)
  | choice c y n => exact hranks conditional (by simp)
  | _ => exact hranks atomic (by simp)

/-- The code of a tree starts as an operand and reads as its formula. -/
def ReadsBack (spelling : String → String) (e : Tree) : Prop :=
  e.isBlank = false → Opens (e.code spelling) ∧
    ∀ default, ReadsAs e.rank (e.code spelling) (e.formula spelling default)

variable {spelling : String → String}

/-- Where `k` is required, code reads back at `k` or any rank that no code there is looser than. -/
theorem ReadsBack.operand {e : Tree} (h : e.ReadsBack spelling) {d : String}
    (hd : isWord d.toList = true) {k j : Rank} (hj : atomic ≤ j)
    (hk : e.rank ≤ k → e.rank ≤ j) :
    Opens (placedOr k d (e.code spelling) e.rank) ∧
      ReadsAs j (placedOr k d (e.code spelling) e.rank) (e.formula spelling d) := by
  cases hb : e.isBlank with
  | true =>
    cases e with
    | blank =>
      have hp : placedOr k d (blank.code spelling) blank.rank = d := by
        simp [placedOr, place, orElse, code]
      rw [hp]
      exact ⟨opens_word hd, (ReadsAs.word hd).loosen hj⟩
    | _ => cases hb
  | false =>
    obtain ⟨hopens, hreads⟩ := h hb
    have hne := hopens.ne_empty
    by_cases hr : k < e.rank
    · have hp : placedOr k d (e.code spelling) e.rank = "(" ++ e.code spelling ++ ")" := by
        have hbr : "(" ++ e.code spelling ++ ")" ≠ "" := by simp
        simp only [placedOr, place, orElse, if_pos (And.intro hne hr), if_neg hbr]
      rw [hp]
      have hloose : e.rank ≤ loosest := Int.le_trans e.rank_le (by decide)
      refine ⟨?_, (ReadsAs.group ((hreads d).loosen hloose)).loosen hj⟩
      rw [String.append_assoc]
      exact Opens.append ⟨'(', rfl, .inr (by simp)⟩ _
    · have hp : placedOr k d (e.code spelling) e.rank = e.code spelling := by
        simp only [placedOr, place, orElse, if_neg fun hc => hr (And.right hc), if_neg hne]
      rw [hp]
      exact ⟨hopens, (hreads d).loosen (hk (Int.not_lt.1 hr))⟩

theorem isWord_toString (n : Nat) : isWord (toString n).toList = true := by
  have hdigits : (toString n).toList = Nat.toDigits 10 n := by simp
  have hword : (Nat.toDigits 10 n).all Text.isAsciiWord = true := by
    rw [List.all_eq_true]
    intro c hc
    exact Name.isAsciiWord_of_isDigit (Nat.isDigit_of_mem_toDigits (by decide) (by decide) hc)
  rw [hdigits, isWord, hword]
  simp [Nat.toDigits_ne_nil]

theorem spaceMinus_word {w : String} (h : isWord w.toList = true) : Rules.spaceMinus w = w := by
  refine if_neg fun hm => ?_
  simp only [isWord, Bool.and_eq_true, List.all_eq_true] at h
  exact absurd (h.2 '-' (List.mem_of_mem_head? hm)) (by decide)

theorem number_readsBack (n : Int) : (number n).ReadsBack spelling := by
  intro _
  cases n with
  | ofNat m =>
    have hword := isWord_toString m
    exact ⟨opens_word hword, fun _ => .word hword⟩
  | negSucc m =>
    have hword := isWord_toString (m + 1)
    have hcode : toString (Int.negSucc m) = "-" ++ Rules.spaceMinus (toString (m + 1)) := by
      rw [spaceMinus_word hword]
      rfl
    simp only [code, rank, formula, if_pos (Int.negSucc_lt_zero m), hcode]
    refine ⟨Opens.append ⟨'-', rfl, .inr (by simp)⟩ _, fun _ => ?_⟩
    exact .minus (opens_word hword) ((ReadsAs.word hword).loosen (by decide))

theorem readsBack {e : Tree} (h : ∀ x ∈ e.names, isWord (spelling x).toList = true) :
    e.ReadsBack spelling := by
  have hzero : isWord "0".toList = true := by decide
  induction e with
  | blank =>
    intro hb
    cases hb
  | name x =>
    have hx := h x (by simp [names])
    exact fun _ => ⟨opens_word hx, fun _ => .word hx⟩
  | number n => exact number_readsBack n
  | truth b =>
    have hb : isWord (truthWord b).toList = true := by cases b <;> decide
    exact fun _ => ⟨opens_word hb, fun _ => .word hb⟩
  | binary op a b iha ihb =>
    simp only [names, List.forall_mem_append] at h
    obtain ⟨hsign, hle, hleft, hright, hj⟩ := binary_form op
    obtain ⟨hopens, hl⟩ := (iha h.1).operand hzero hleft id
    obtain ⟨-, hr⟩ := (ihb h.2).operand hzero hright id
    refine fun _ => ⟨?_, fun _ => .binary hsign (hl.loosen hle) hr hj⟩
    simp only [code, String.append_assoc]
    exact hopens.append _
  | connective op a b iha ihb =>
    simp only [names, List.forall_mem_append] at h
    obtain ⟨hsign, hchain, hrank⟩ := connective_form op
    have hmissing : isWord (missing op a b).toList = true := by
      unfold missing
      cases op <;> split <;> decide
    obtain ⟨hopens, hl⟩ := (iha h.1).operand hmissing hrank id
    obtain ⟨-, hr⟩ := (ihb h.2).operand hmissing hrank id
    refine fun _ => ⟨?_, fun _ => .binary hsign hl hr (.inr ⟨rfl, hchain⟩)⟩
    simp only [code, String.append_assoc]
    exact hopens.append _
  | power a b iha ihb =>
    simp only [names, List.forall_mem_append] at h
    obtain ⟨-, hl⟩ := (iha h.1).operand (k := comma) hzero (by decide) fun _ => a.rank_le
    obtain ⟨-, hr⟩ := (ihb h.2).operand (k := comma) hzero (by decide) fun _ => b.rank_le
    refine fun _ => ⟨?_, fun _ => .power hl hr⟩
    simp only [code, String.append_assoc]
    exact Opens.append ⟨'p', rfl, .inl (by decide)⟩ _
  | negative a iha =>
    obtain ⟨hopens, hreads⟩ := (iha h).operand (k := unaryNegation) hzero (by decide) id
    exact fun _ => ⟨Opens.append ⟨'-', rfl, .inr (by simp)⟩ _, fun _ => .minus hopens hreads⟩
  | negation a iha =>
    obtain ⟨hopens, hreads⟩ := (iha h).operand (k := logicalNot) (d := "true") (by decide)
      (by decide) id
    exact fun _ => ⟨Opens.append ⟨'!', rfl, .inr (by simp)⟩ _, fun _ => .not hopens hreads⟩
  | choice c y n ihc ihy ihn =>
    simp only [names, List.forall_mem_append] at h
    obtain ⟨hopens, hc⟩ := (ihc h.1.1).operand (k := conditional - 1) (d := "false")
      (by decide) (by decide) id
    obtain ⟨-, hy⟩ := (ihy h.1.2).operand (k := conditional) (d := "null") (by decide)
      (by decide) id
    obtain ⟨-, hn⟩ := (ihn h.2).operand (k := conditional) (d := "null") (by decide)
      (by decide) id
    refine fun _ => ⟨?_, fun _ => .choice hc hy hn⟩
    simp only [code, String.append_assoc]
    exact hopens.append _

end Tree

end BlockCode
