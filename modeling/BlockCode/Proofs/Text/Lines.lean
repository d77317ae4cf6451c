import BlockCode.Text.Lines
import Mathlib.Data.List.Basic

namespace BlockCode.Text

section Ends

/-- The text ends with a newline. -/
def EndsLine (s : String) : Prop :=
  s.toList.getLast? = some '\n'

instance (s : String) : Decidable (EndsLine s) :=
  inferInstanceAs (Decidable (s.toList.getLast? = some '\n'))

/-- Whatever follows the text starts a line. -/
def Closed (s : String) : Prop :=
  s = "" ∨ EndsLine s

/-- The text ends with a character that is not white space. -/
def EndsInk (s : String) : Prop :=
  s.toList.getLast?.any (fun c => !isBlank c) = true

instance (s : String) : Decidable (EndsInk s) :=
  inferInstanceAs (Decidable (_ = true))

theorem EndsLine.append {b : String} (h : EndsLine b) (a : String) : EndsLine (a ++ b) := by
  unfold EndsLine at h ⊢
  rw [String.toList_append, List.getLast?_append, h, Option.some_or]

theorem endsLine_newline (a : String) : EndsLine (a ++ "\n") :=
  EndsLine.append (b := "\n") rfl a

theorem EndsLine.ne_empty {a : String} (h : EndsLine a) : a ≠ "" := by
  rintro rfl
  cases h

theorem EndsLine.closed {a : String} (h : EndsLine a) : Closed a :=
  .inr h

theorem closed_empty : Closed "" :=
  .inl rfl

theorem Closed.append {a b : String} (ha : Closed a) (hb : Closed b) : Closed (a ++ b) := by
  rcases hb with rfl | hb
  · rwa [String.append_empty]
  · exact .inr (hb.append a)

theorem EndsInk.append {b : String} (h : EndsInk b) (a : String) : EndsInk (a ++ b) := by
  unfold EndsInk at h ⊢
  rw [String.toList_append, List.getLast?_append]
  cases hb : b.toList.getLast? with
  | none => simp [hb] at h
  | some c => simpa [hb] using h

/-- A text without white space ends with ink unless it is empty. -/
theorem endsInk_of_forall {cs : List Char} (hne : cs ≠ []) (h : ∀ c ∈ cs, isBlank c = false) :
    EndsInk (String.ofList cs) := by
  unfold EndsInk
  rw [String.toList_ofList, List.getLast?_eq_some_getLast hne]
  simp [h _ (List.getLast_mem hne)]

end Ends

section Lines

def lines : List Char → List (List Char)
  | [] => []
  | c :: cs =>
    if c = '\n' then [] :: lines cs
    else
      match lines cs with
      | [] => [[c]]
      | l :: ls => (c :: l) :: ls

def unlines (ls : List (List Char)) : List Char :=
  ls.flatMap (· ++ ['\n'])

@[simp] theorem unlines_nil : unlines [] = [] := rfl

@[simp] theorem unlines_cons (l : List Char) (ls : List (List Char)) :
    unlines (l :: ls) = l ++ '\n' :: unlines ls := by
  simp [unlines]

@[simp] theorem unlines_append (ls ms : List (List Char)) :
    unlines (ls ++ ms) = unlines ls ++ unlines ms := by
  simp [unlines]

theorem lines_line {l : List Char} (hl : '\n' ∉ l) (cs : List Char) :
    lines (l ++ '\n' :: cs) = l :: lines cs := by
  induction l with
  | nil => simp [lines]
  | cons c l ih =>
    rw [List.mem_cons, not_or] at hl
    rw [List.cons_append, lines, if_neg fun h => hl.1 h.symm, ih hl.2]

theorem lines_unlines {ls : List (List Char)} (h : ∀ l ∈ ls, '\n' ∉ l) : lines (unlines ls) = ls := by
  induction ls with
  | nil => rfl
  | cons l ls ih =>
    rw [List.forall_mem_cons] at h
    rw [unlines_cons, lines_line h.1, ih h.2]

theorem not_mem_of_mem_lines {cs l : List Char} (h : l ∈ lines cs) : '\n' ∉ l := by
  induction cs generalizing l with
  | nil => cases h
  | cons c cs ih =>
    rw [lines] at h
    split at h
    · rcases List.mem_cons.1 h with rfl | h
      · exact List.not_mem_nil
      · exact ih h
    · next hc =>
      have hc' : '\n' ≠ c := fun h => hc h.symm
      split at h
      · rw [List.mem_singleton.1 h]
        simpa using hc'
      · next m ms hm =>
        rw [hm] at ih
        rcases List.mem_cons.1 h with rfl | h
        · have hmn := ih List.mem_cons_self
          simp [hc', hmn]
        · exact ih (List.mem_cons_of_mem _ h)

theorem lines_eq_nil {cs : List Char} (h : lines cs = []) : cs = [] := by
  cases cs with
  | nil => rfl
  | cons c cs =>
    rw [lines] at h
    split at h
    · cases h
    · split at h <;> cases h

/-- A text whose last line is not ended is the same once a newline ends it. -/
theorem lines_append_newline {cs : List Char} (hne : cs ≠ []) (h : cs.getLast? ≠ some '\n') :
    lines (cs ++ ['\n']) = lines cs := by
  induction cs with
  | nil => exact (hne rfl).elim
  | cons c cs ih =>
    cases cs with
    | nil =>
      have hc : c ≠ '\n' := by simpa using h
      simp [lines, hc]
    | cons d cs =>
      rw [List.getLast?_cons_cons] at h
      rw [List.cons_append, lines, lines, ih (List.cons_ne_nil _ _) h]

theorem unlines_lines {cs : List Char} (h : cs = [] ∨ cs.getLast? = some '\n') :
    unlines (lines cs) = cs := by
  induction cs with
  | nil => rfl
  | cons c cs ih =>
    rw [lines]
    split
    · next hc =>
      subst hc
      have hcs : cs = [] ∨ cs.getLast? = some '\n' := by
        cases cs with
        | nil => exact .inl rfl
        | cons d cs => exact .inr (by simpa using h)
      rw [unlines_cons, ih hcs, List.nil_append]
    · next hc =>
      cases cs with
      | nil => simp [hc] at h
      | cons d cs =>
        have hcs : (d :: cs).getLast? = some '\n' := by simpa using h
        have hu := ih (.inr hcs)
        cases hl : lines (d :: cs) with
        | nil => exact absurd (lines_eq_nil hl) (List.cons_ne_nil _ _)
        | cons l ls =>
          rw [hl, unlines_cons] at hu
          simp only [unlines_cons, List.cons_append, hu]

/-- A closed text is made of its lines. -/
theorem Closed.toList_eq {s : String} (h : Closed s) : s.toList = unlines (lines s.toList) := by
  refine (unlines_lines ?_).symm
  rcases h with rfl | h
  · exact .inl rfl
  · exact .inr h

theorem lines_unlines_append {ls : List (List Char)} (h : ∀ l ∈ ls, '\n' ∉ l) (cs : List Char) :
    lines (unlines ls ++ cs) = ls ++ lines cs := by
  induction ls with
  | nil => rfl
  | cons l ls ih =>
    rw [List.forall_mem_cons] at h
    rw [unlines_cons, List.append_assoc, List.cons_append, lines_line h.1, ih h.2, List.cons_append]

theorem Closed.lines_append {a : String} (h : Closed a) (b : String) :
    lines (a ++ b).toList = lines a.toList ++ lines b.toList := by
  rw [String.toList_append, h.toList_eq, lines_unlines_append fun _ hl => not_mem_of_mem_lines hl,
    lines_unlines fun _ hl => not_mem_of_mem_lines hl]

/-- Anything that ends with a newline is closed. -/
theorem closed_unlines (ls : List (List Char)) : Closed (String.ofList (unlines ls)) := by
  rcases List.eq_nil_or_concat ls with rfl | ⟨ms, l, rfl⟩
  · exact .inl rfl
  · refine .inr ?_
    unfold EndsLine
    rw [String.toList_ofList, List.concat_eq_append, unlines_append, unlines_cons, unlines_nil,
      ← List.append_assoc, List.getLast?_append, List.getLast?_singleton, Option.some_or]

end Lines

section Lead

theorem leadInner_line {l : List Char} (hl : '\n' ∉ l) (lead cs : List Char) :
    leadInner lead (l ++ '\n' :: cs) =
      l ++ '\n' :: (if cs = [] then [] else lead ++ leadInner lead cs) := by
  induction l with
  | nil =>
    by_cases hcs : cs = []
    · simp [leadInner, hcs]
    · simp [leadInner, hcs]
  | cons c l ih =>
    rw [List.mem_cons, not_or] at hl
    have hc : ¬ (c = '\n' ∧ l ++ '\n' :: cs ≠ []) := fun h => hl.1 h.1.symm
    rw [List.cons_append, leadInner, if_neg hc, ih hl.2, List.cons_append]

/-- The lead stands in front of every line. -/
theorem leadChars_unlines (lead : List Char) {ls : List (List Char)} (hne : ls ≠ [])
    (h : ∀ l ∈ ls, '\n' ∉ l) :
    leadChars lead (unlines ls) = ls.flatMap fun l => lead ++ l ++ ['\n'] := by
  induction ls with
  | nil => exact absurd rfl hne
  | cons l ls ih =>
    rw [List.forall_mem_cons] at h
    rw [leadChars, unlines_cons, leadInner_line h.1, List.flatMap_cons]
    cases ls with
    | nil => simp
    | cons m ms =>
      have hm : unlines (m :: ms) ≠ [] := by simp
      rw [if_neg hm, ← leadChars, ih (List.cons_ne_nil _ _) h.2]
      simp

variable {text : String}

theorem lines_leadLines (lead : String) (h : Closed text) (hne : text ≠ "") :
    lines (leadLines lead text).toList =
      (lines text.toList).flatMap fun l => lines (lead.toList ++ l ++ ['\n']) := by
  have hn : lines text.toList ≠ [] := fun hn => hne (String.toList_eq_nil_iff.1 (lines_eq_nil hn))
  rw [leadLines, String.toList_ofList, h.toList_eq,
    leadChars_unlines _ hn fun _ hl => not_mem_of_mem_lines hl,
    lines_unlines fun _ hl => not_mem_of_mem_lines hl]
  generalize lines text.toList = ls
  induction ls with
  | nil => rfl
  | cons l ls ih =>
    have hl : Closed (String.ofList (lead.toList ++ l ++ ['\n'])) :=
      .inr (by simp [EndsLine])
    have happ := hl.lines_append (String.ofList (ls.flatMap fun l => lead.toList ++ l ++ ['\n']))
    simp only [String.toList_append, String.toList_ofList] at happ
    rw [List.flatMap_cons, List.flatMap_cons, happ, ih]

theorem closed_leadLines (lead : String) (h : EndsLine text) : EndsLine (leadLines lead text) := by
  have hn : lines text.toList ≠ [] := fun hn =>
    h.ne_empty (String.toList_eq_nil_iff.1 (lines_eq_nil hn))
  unfold EndsLine
  rw [leadLines, String.toList_ofList, h.closed.toList_eq,
    leadChars_unlines _ hn fun _ hl => not_mem_of_mem_lines hl]
  generalize lines text.toList = ls at hn
  rcases List.eq_nil_or_concat ls with rfl | ⟨ms, l, rfl⟩
  · exact absurd rfl hn
  · rw [List.concat_eq_append, List.flatMap_append, List.flatMap_cons, List.flatMap_nil,
      List.append_nil, List.getLast?_append, List.getLast?_append, List.getLast?_singleton]
    rfl

end Lead

/-- The second list is the first without some of its members, all of which are in `P`. -/
inductive Deletes {α : Type} (P : α → Prop) : List α → List α → Prop
  | nil : Deletes P [] []
  | keep (a : α) {m n : List α} : Deletes P m n → Deletes P (a :: m) (a :: n)
  | drop {a : α} {m n : List α} : P a → Deletes P m n → Deletes P (a :: m) n

namespace Deletes

variable {α β : Type} {P : α → Prop} {m n : List α}

theorem refl (m : List α) : Deletes P m m := by
  induction m with
  | nil => exact nil
  | cons a m ih => exact keep a ih

theorem all (h : ∀ a ∈ m, P a) : Deletes P m [] := by
  induction m with
  | nil => exact nil
  | cons a m ih =>
    rw [List.forall_mem_cons] at h
    exact drop h.1 (ih h.2)

theorem append {m' n' : List α} (h : Deletes P m n) (h' : Deletes P m' n') :
    Deletes P (m ++ m') (n ++ n') := by
  induction h with
  | nil => exact h'
  | keep a _ ih => exact keep a ih
  | drop ha _ ih => exact drop ha ih

theorem flatMap {Q : β → Prop} {f : α → List β} (hf : ∀ a, P a → ∀ b ∈ f a, Q b)
    (h : Deletes P m n) : Deletes Q (m.flatMap f) (n.flatMap f) := by
  induction h with
  | nil => exact nil
  | keep a _ ih =>
    rw [List.flatMap_cons, List.flatMap_cons]
    exact (refl (f a)).append ih
  | drop ha _ ih =>
    rw [List.flatMap_cons]
    exact (all (hf _ ha)).append ih

theorem map {Q : β → Prop} {f : α → β} (hf : ∀ a, P a → Q (f a)) (h : Deletes P m n) :
    Deletes Q (m.map f) (n.map f) := by
  induction h with
  | nil => exact nil
  | keep a _ ih => exact keep (f a) ih
  | drop ha _ ih => exact drop (hf _ ha) ih

theorem trans {l : List α} (h : Deletes P l m) (h' : Deletes P m n) : Deletes P l n := by
  induction h generalizing n with
  | nil => exact h'
  | keep a _ ih =>
    cases h' with
    | keep _ h' => exact keep a (ih h')
    | drop ha h' => exact drop ha (ih h')
  | drop ha _ ih => exact drop ha (ih h')

theorem sublist (h : Deletes P m n) : List.Sublist n m := by
  induction h with
  | nil => exact .slnil
  | keep a _ ih => exact ih.cons_cons a
  | drop _ _ ih => exact ih.cons _

end Deletes

end BlockCode.Text
