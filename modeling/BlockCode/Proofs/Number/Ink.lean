import BlockCode.Proofs.Expression.Lexeme
import BlockCode.Proofs.Name.Legal
import BlockCode.Proofs.Text.Lines
import BlockCode.Rules.Number

namespace BlockCode

open Text

namespace Binary64

theorem not_isBlank_digit {n : Nat} {d : Char} (h : d ∈ Nat.toDigits 10 n) : isBlank d = false :=
  Lexeme.isBlank_of_isAsciiWord
    (Name.isAsciiWord_of_isDigit (Nat.isDigit_of_mem_toDigits (by decide) (by decide) h))

theorem not_isBlank_exponentText {x : Int} {d : Char} (h : d ∈ exponentText x) :
    isBlank d = false := by
  simp only [exponentText, zeroText, List.mem_cons, List.mem_append, List.mem_replicate] at h
  rcases h with rfl | rfl | ⟨-, rfl⟩ | h
  · rfl
  · split <;> rfl
  · rfl
  · exact not_isBlank_digit h

theorem not_isBlank_layDigits {ds : List Char} (hds : ∀ d ∈ ds, isBlank d = false) (point : Int) :
    ∀ d ∈ layDigits ds point, isBlank d = false := by
  have hzero : isBlank '0' = false := rfl
  have hpoint : isBlank '.' = false := rfl
  intro d hd
  unfold layDigits zeroText at hd
  grind [List.mem_of_mem_take, List.mem_of_mem_drop, not_isBlank_exponentText]

theorem layDigits_ne_nil (ds : List Char) (point : Int) : layDigits ds point ≠ [] := by
  unfold layDigits
  split
  · simp [exponentText]
  · split
    · simp
    · dsimp only
      split <;> simp

theorem endsInk_finiteText (m : Nat) (e : Int) : EndsInk (String.ofList (finiteText m e)) := by
  unfold finiteText
  split
  · rfl
  · refine endsInk_of_forall (layDigits_ne_nil _ _) (not_isBlank_layDigits (fun d hd => ?_) _)
    have hmem := List.mem_reverse.1 ((List.dropWhile_sublist _).mem (List.mem_reverse.1 hd))
    exact not_isBlank_digit hmem

theorem endsInk_text (x : Binary64) : EndsInk x.text := by
  match x with
  | .nan => rfl
  | .infinite true => rfl
  | .infinite false => rfl
  | .finite false m e => exact endsInk_finiteText m e
  | .finite true m e =>
    have hsign : (Binary64.finite true m e).text = "-" ++ String.ofList (finiteText m e) := by
      rw [text, if_pos rfl, String.ofList_cons]
      rfl
    rw [hsign]
    exact (endsInk_finiteText m e).append "-"

end Binary64

namespace Rules

theorem endsInk_nat (n : Nat) : EndsInk (toString n) := by
  have hdigits : toString n = String.ofList (Nat.toDigits 10 n) := rfl
  rw [hdigits]
  exact endsInk_of_forall Nat.toDigits_ne_nil fun _ => Binary64.not_isBlank_digit

theorem endsInk_int : ∀ n : Int, EndsInk (toString n)
  | .ofNat n => endsInk_nat n
  | .negSucc n => (endsInk_nat (n + 1)).append "-"

theorem endsInk_numberText (x : Binary64) : EndsInk (numberText x) := by
  unfold numberText
  split
  · split
    · exact endsInk_int _
    · exact x.endsInk_text
  · exact x.endsInk_text

theorem endsInk_numberCode {x : Binary64} {code : String} {rank : Rank}
    (h : numberCode? x = some (code, rank)) : EndsInk code := by
  unfold numberCode? at h
  split at h
  · cases h
  · split at h <;> cases h <;> rfl
  · cases h
    exact endsInk_numberText _

end Rules

end BlockCode
