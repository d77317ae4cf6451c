import BlockCode.Proofs.Run.Sites
import BlockCode.Proofs.Text.Replacement
import Mathlib.Data.List.Forall2
import Mathlib.Data.List.TakeWhile

namespace BlockCode

namespace Text

section Count

variable {x : Char} {pattern old new : List Char}

theorem count_replaceFrom_le (h : old.count x ≤ new.count x) (skip : Nat) (cs : List Char) :
    (replaceFrom pattern old skip cs).count x ≤ (replaceFrom pattern new skip cs).count x := by
  induction cs generalizing skip with
  | nil => simp [replaceFrom]
  | cons c cs ih =>
    cases skip with
    | succ skip => exact ih skip
    | zero =>
      rw [replaceFrom, replaceFrom]
      split
      · rw [List.count_append, List.count_append]
        exact Nat.add_le_add h (ih _)
      · rw [List.count_cons, List.count_cons]
        exact Nat.add_le_add_right (ih 0) _

theorem count_replaceFrom_lt (h : old.count x < new.count x) {cs : List Char}
    (hp : pattern ≠ []) (hm : pattern <:+: cs) :
    (replaceFrom pattern old 0 cs).count x < (replaceFrom pattern new 0 cs).count x := by
  induction cs with
  | nil => exact (hp (List.infix_nil.1 hm)).elim
  | cons c cs ih =>
    rw [replaceFrom, replaceFrom]
    split
    · rw [List.count_append, List.count_append]
      exact Nat.add_lt_add_of_lt_of_le h (count_replaceFrom_le h.le _ _)
    · next hn =>
      rw [List.count_cons, List.count_cons]
      rw [List.infix_cons_iff, ← List.isPrefixOf_iff_prefix] at hm
      exact Nat.add_lt_add_right (ih (hm.resolve_left hn)) _

end Count

/-- Texts whose lines end at the same places. -/
def SameLines : List Char → List Char → Prop :=
  List.Forall₂ fun a b => a = '\n' ↔ b = '\n'

theorem SameLines.refl (cs : List Char) : SameLines cs cs :=
  List.forall₂_same.2 fun _ _ => Iff.rfl

theorem SameLines.append {as bs cs ds : List Char} (h : SameLines as bs) (k : SameLines cs ds) :
    SameLines (as ++ cs) (bs ++ ds) :=
  List.rel_append h k

theorem SameLines.replaceFrom {old new : List Char} (h : SameLines old new) (pattern : List Char)
    (skip : Nat) (cs : List Char) :
    SameLines (replaceFrom pattern old skip cs) (replaceFrom pattern new skip cs) := by
  induction cs generalizing skip with
  | nil => exact .nil
  | cons c cs ih =>
    cases skip with
    | succ skip => exact ih skip
    | zero =>
      rw [Text.replaceFrom, Text.replaceFrom]
      split
      · exact h.append (ih _)
      · exact .cons Iff.rfl (ih 0)

/-- A lead in front of every line adds as much to either text. -/
theorem SameLines.count_leadChars {cs ds : List Char} (h : SameLines cs ds) (lead : List Char)
    (x : Char) :
    (leadChars lead cs).count x + ds.count x = (leadChars lead ds).count x + cs.count x := by
  have hinner : (leadInner lead cs).count x + ds.count x =
      (leadInner lead ds).count x + cs.count x := by
    induction h with
    | nil => rfl
    | @cons a b cs ds hab hcs ih =>
      have hnil : cs ≠ [] ↔ ds ≠ [] := by
        cases hcs <;> simp
      simp only [leadInner, hab, hnil]
      split <;> simp only [List.count_cons, List.count_append] <;> omega
  rw [leadChars, leadChars, List.count_append, List.count_append]
  omega

section Layout

variable {x : Char}

theorem count_of_blank (hx : isBlank x = false) {cs : List Char} (h : ∀ c ∈ cs, isBlank c = true) :
    cs.count x = 0 := by
  rw [List.count_eq_zero]
  intro hm
  rw [h x hm] at hx
  cases hx

theorem count_dropBlankLines (hx : isBlank x = false) (cs : List Char) :
    (dropBlankLines cs).count x = cs.count x := by
  have hblank : ∀ c ∈ cs.takeWhile isBlank, isBlank c = true := fun c hc =>
    List.mem_takeWhile_imp hc
  have hkept : ∀ c ∈ ((cs.takeWhile isBlank).reverse.takeWhile (· ≠ '\n')).reverse,
      isBlank c = true := by
    intro c hc
    exact hblank c (List.mem_reverse.1 ((List.takeWhile_subset _ ) (List.mem_reverse.1 hc)))
  conv_rhs => rw [← List.takeWhile_append_dropWhile (p := isBlank) (l := cs)]
  rw [dropBlankLines, List.count_append, List.count_append, count_of_blank hx hblank,
    count_of_blank hx hkept]

theorem count_dropLineEnds (hx : isBlank x = false) (cs : List Char) :
    (dropLineEnds cs).count x = cs.count x := by
  induction cs with
  | nil => rfl
  | cons c cs ih =>
    rw [dropLineEnds]
    split
    · next h =>
      have hc : c ≠ x := by
        rintro rfl
        rcases h.1 with rfl | rfl <;> cases hx
      rw [ih, List.count_cons_of_ne hc]
    · rw [List.count_cons, List.count_cons, ih]

theorem count_trimEnd (hx : isBlank x = false) (cs : List Char) :
    (trimEnd cs).count x = cs.count x := by
  have hblank : ∀ c ∈ cs.reverse.takeWhile isBlank, isBlank c = true := fun c hc =>
    List.mem_takeWhile_imp hc
  have hsplit := List.takeWhile_append_dropWhile (p := isBlank) (l := cs.reverse)
  have hcount : cs.reverse.count x = (cs.reverse.dropWhile isBlank).count x := by
    conv_lhs => rw [← hsplit]
    rw [List.count_append, count_of_blank hx hblank, Nat.zero_add]
  rw [trimEnd, List.count_reverse, ← hcount, List.count_reverse]

/-- The layout of a program keeps its ink. -/
theorem count_layoutChars (hx : isBlank x = false) (cs : List Char) :
    (layoutChars cs).count x = cs.count x := by
  have hbody : (trimEnd (dropLineEnds (dropBlankLines cs))).count x = cs.count x := by
    rw [count_trimEnd hx, count_dropLineEnds hx, count_dropBlankLines hx]
  have hn : '\n' ≠ x := by
    rintro rfl
    cases hx
  rw [layoutChars]
  split
  · next he =>
    rw [← hbody, List.isEmpty_iff.1 he]
  · rw [List.count_append, hbody, List.count_cons_of_ne hn, List.count_nil, Nat.add_zero]

end Layout

end Text

/-- Whether a template refers to the identifier of its block. -/
def RefersToId (template : String) : Prop :=
  "%1".toList <:+: template.toList

/-- Whether code is inserted that shows the identifier of its block. -/
def Config.ShowsIds (config : Config) (traps : Bool) : Prop :=
  ∃ template, some template ∈ config.inserted traps ∧ RefersToId template

theorem withId_of_not_refers {template : String} (h : ¬ RefersToId template) (id : String) :
    withId template id = template := by
  have hc : Text.replaceChars "%1".toList ("'" ++ id ++ "'").toList template.toList =
      template.toList := Text.replaceFrom_of_absent h
  rw [withId, Text.replace, hc, String.ofList_toList]

theorem Config.blurs_of_not_shows {config : Config} {traps : Bool} (h : ¬ config.ShowsIds traps)
    (i j : String) : config.Blurs traps i j := by
  intro template ht
  cases template with
  | none => rfl
  | some t =>
    have hn : ¬ RefersToId t := fun hr => h ⟨t, ht, hr⟩
    simp only [insertion, withId_of_not_refers hn]

/-- How often a character stands in a text. -/
def ink (x : Char) (text : String) : Nat :=
  text.toList.count x

@[simp] theorem ink_append (x : Char) (s t : String) : ink x (s ++ t) = ink x s + ink x t := by
  rw [ink, String.toList_append, List.count_append]
  rfl

theorem ink_layout {x : Char} (hx : Text.isBlank x = false) (text : String) :
    ink x (Text.layout text) = ink x text := by
  rw [ink, Text.layout, String.toList_ofList, Text.count_layoutChars hx]
  rfl

section Ink

variable {x : Char} {i j : String} (hink : ink x i < ink x j)
  (hlines : Text.SameLines i.toList j.toList)

section

include hink

theorem ink_quoted_lt : ink x ("'" ++ i ++ "'") < ink x ("'" ++ j ++ "'") := by
  simp only [ink_append]
  omega

theorem ink_withId_le (template : String) :
    ink x (withId template i) ≤ ink x (withId template j) := by
  simp only [ink, withId, Text.replace, String.toList_ofList]
  exact Text.count_replaceFrom_le (ink_quoted_lt hink).le 0 _

theorem ink_withId_lt {template : String} (h : RefersToId template) :
    ink x (withId template i) < ink x (withId template j) := by
  simp only [ink, withId, Text.replace, String.toList_ofList]
  exact Text.count_replaceFrom_lt (ink_quoted_lt hink) (by simp) h

theorem ink_insertion_le (template : Option String) :
    ink x (insertion template i) ≤ ink x (insertion template j) := by
  cases template with
  | none => exact le_rfl
  | some t =>
    simp only [insertion]
    split
    · exact le_rfl
    · exact ink_withId_le hink t

theorem ink_insertion_lt {template : String} (h : RefersToId template) :
    ink x (insertion (some template) i) < ink x (insertion (some template) j) := by
  have hne : template ≠ "" := by
    rintro rfl
    simp [RefersToId] at h
  simp only [insertion, if_neg hne]
  exact ink_withId_lt hink h

end

include hlines

theorem ink_lead_withId (lead template : String) :
    ink x (Text.leadLines lead (withId template i)) + ink x (withId template j) =
      ink x (Text.leadLines lead (withId template j)) + ink x (withId template i) := by
  have hw : Text.SameLines (withId template i).toList (withId template j).toList := by
    simp only [withId, Text.replace, String.toList_ofList]
    refine Text.SameLines.replaceFrom ?_ _ 0 _
    simp only [String.toList_append]
    exact ((Text.SameLines.refl _).append hlines).append (Text.SameLines.refl _)
  simp only [ink, Text.leadLines, String.toList_ofList]
  exact hw.count_leadChars _ x

include hink

theorem ink_insertionLines_le (indent : String) (template : Option String) :
    ink x (insertionLines indent template i) ≤ ink x (insertionLines indent template j) := by
  cases template with
  | none => exact le_rfl
  | some t =>
    have hlead := ink_lead_withId (x := x) hlines indent t
    have hle := ink_withId_le hink t
    simp only [insertionLines]
    split
    · exact le_rfl
    · omega

theorem ink_insertionLines_lt (indent : String) {template : String} (h : RefersToId template) :
    ink x (insertionLines indent (some template) i) <
      ink x (insertionLines indent (some template) j) := by
  have hne : template ≠ "" := by
    rintro rfl
    simp [RefersToId] at h
  have hlead := ink_lead_withId (x := x) hlines indent template
  have hlt := ink_withId_lt hink h
  simp only [insertionLines, if_neg hne]
  omega

end Ink

end BlockCode
