import BlockCode.Text.Template
import Mathlib.Data.List.Infix

namespace BlockCode.Text

variable {pattern replacement cs out : List Char}

/-- The text `out` is `cs` with the occurrences of the pattern replaced one after the other, each time
the leftmost one behind the last. -/
inductive Replaces (pattern replacement : List Char) : List Char → List Char → Prop
  | none {cs : List Char} (h : ¬ pattern <:+: cs) : Replaces pattern replacement cs cs
  | first {before behind out : List Char}
    (h : ∀ n < before.length, ¬ pattern <+: (before ++ pattern ++ behind).drop n) :
    Replaces pattern replacement behind out →
    Replaces pattern replacement (before ++ pattern ++ behind) (before ++ replacement ++ out)

/-- The whole text with every pattern replaced. The empty pattern occurs in front of every character
and at the end. -/
def IsReplaced (s pattern replacement out : String) : Prop :=
  if pattern = "" then
    out.toList = replacement.toList ++ s.toList.flatMap fun c => c :: replacement.toList
  else Replaces pattern.toList replacement.toList s.toList out.toList

/-- What is skipped leaves no trace. -/
theorem replaceFrom_skip (front rest : List Char) :
    replaceFrom pattern replacement front.length (front ++ rest) =
      replaceFrom pattern replacement 0 rest := by
  induction front with
  | nil => rfl
  | cons c front ih => exact ih

theorem replaceFrom_first (hpattern : pattern ≠ []) {before behind : List Char}
    (h : ∀ n < before.length, ¬ pattern <+: (before ++ pattern ++ behind).drop n) :
    replaceFrom pattern replacement 0 (before ++ pattern ++ behind) =
      before ++ replacement ++ replaceFrom pattern replacement 0 behind := by
  induction before with
  | nil =>
    obtain ⟨c, rest, rfl⟩ := List.exists_cons_of_ne_nil hpattern
    have hstart : (c :: rest).isPrefixOf (c :: (rest ++ behind)) = true :=
      List.isPrefixOf_iff_prefix.2 (List.prefix_append (c :: rest) behind)
    rw [List.nil_append, List.nil_append, List.cons_append, replaceFrom, if_pos hstart]
    exact congrArg (replacement ++ ·) (replaceFrom_skip rest behind)
  | cons c before ih =>
    have hhere : ¬ pattern.isPrefixOf (c :: (before ++ pattern ++ behind)) = true := fun hstart =>
      h 0 (Nat.zero_lt_succ _) <| List.isPrefixOf_iff_prefix.1 hstart
    have hrest := ih fun n hn => h (n + 1) (Nat.succ_lt_succ hn)
    rw [List.cons_append, List.cons_append, replaceFrom, if_neg hhere, hrest]
    rfl

/-- Wherever a pattern occurs, it has a first occurrence. -/
theorem exists_first_occurrence (h : pattern <:+: cs) :
    ∃ before behind, cs = before ++ pattern ++ behind ∧
      ∀ n < before.length, ¬ pattern <+: cs.drop n := by
  induction cs with
  | nil =>
    obtain rfl := List.infix_nil.1 h
    exact ⟨[], [], rfl, fun n hn => absurd hn (Nat.not_lt_zero n)⟩
  | cons c cs ih =>
    by_cases hstart : pattern <+: c :: cs
    · obtain ⟨behind, hbehind⟩ := hstart
      exact ⟨[], behind, hbehind.symm, fun n hn => absurd hn (Nat.not_lt_zero n)⟩
    · obtain ⟨before, behind, hcs, hfirst⟩ := ih ((List.infix_cons_iff.1 h).resolve_left hstart)
      refine ⟨c :: before, behind, by rw [hcs]; rfl, fun n hn => ?_⟩
      cases n with
      | zero => exact hstart
      | succ n => exact hfirst n (Nat.lt_of_succ_lt_succ hn)

theorem replaceFrom_of_absent (h : ¬ pattern <:+: cs) :
    replaceFrom pattern replacement 0 cs = cs := by
  induction cs with
  | nil => rfl
  | cons c cs ih =>
    rw [List.infix_cons_iff, not_or] at h
    have hp : pattern.isPrefixOf (c :: cs) = false := by
      rw [← Bool.not_eq_true, List.isPrefixOf_iff_prefix]
      exact h.1
    rw [replaceFrom, hp, if_neg Bool.false_ne_true, ih h.2]

/-- By the length of the text: behind the first occurrence there is less of it. -/
theorem replaces_replaceFrom (hpattern : pattern ≠ []) (cs : List Char) :
    Replaces pattern replacement cs (replaceFrom pattern replacement 0 cs) := by
  induction hlength : cs.length using Nat.strong_induction_on generalizing cs with
  | _ n ih =>
    by_cases h : pattern <:+: cs
    · obtain ⟨before, behind, rfl, hfirst⟩ := exists_first_occurrence h
      have hshorter : behind.length < n := by
        have hpos := List.length_pos_iff.2 hpattern
        simp only [List.length_append] at hlength
        omega
      rw [replaceFrom_first hpattern hfirst]
      exact .first hfirst (ih _ hshorter behind rfl)
    · rw [replaceFrom_of_absent h]
      exact .none h

/-- There is only one way to do it. -/
theorem Replaces.eq (hpattern : pattern ≠ []) (h : Replaces pattern replacement cs out) :
    out = replaceFrom pattern replacement 0 cs := by
  induction h with
  | none h => rw [replaceFrom_of_absent h]
  | first h _ ih => rw [replaceFrom_first hpattern h, ih]

theorem isReplaced_iff {s pattern replacement out : String} :
    IsReplaced s pattern replacement out ↔ out = replace s pattern replacement := by
  unfold IsReplaced replace replaceChars
  by_cases hp : pattern = ""
  · subst hp
    rw [if_pos rfl, ← String.toList_inj, String.toList_ofList]
    rfl
  · have hne : pattern.toList ≠ [] := by simpa [String.toList_eq_nil_iff] using hp
    have hempty : pattern.toList.isEmpty = false := by simpa using hne
    rw [if_neg hp, hempty, ← String.toList_inj, String.toList_ofList]
    constructor
    · exact Replaces.eq hne
    · intro h
      rw [h]
      exact replaces_replaceFrom hne _

end BlockCode.Text
