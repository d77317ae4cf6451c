import BlockCode.Proofs.Text.Lines
import Mathlib.Data.List.DropRight

namespace BlockCode.Text

section Trim

variable {α : Type} {p : α → Bool}

theorem rdropWhile_append (m n : List α) :
    (m ++ n).rdropWhile p = if n.all p then m.rdropWhile p else m ++ n.rdropWhile p := by
  have hall : (n.reverse.dropWhile p).isEmpty = n.all p := by
    rw [Bool.eq_iff_iff, List.isEmpty_iff, List.dropWhile_eq_nil_iff, List.all_eq_true]
    simp
  rw [List.rdropWhile, List.reverse_append, List.dropWhile_append, hall]
  split
  · rfl
  · rw [List.reverse_append, List.reverse_reverse, List.rdropWhile]

theorem rdropWhile_cons (a : α) (m : List α) :
    (a :: m).rdropWhile p = if m.all p then [a].rdropWhile p else a :: m.rdropWhile p :=
  rdropWhile_append [a] m

theorem rdropWhile_eq_nil {m : List α} : m.rdropWhile p = [] ↔ m.all p = true := by
  rw [List.rdropWhile_eq_nil_iff, List.all_eq_true]

end Trim

def isGap (c : Char) : Bool :=
  c == ' ' || c == '\t'

/-- A line without the spaces and tabs at its end. -/
def trimGaps (l : List Char) : List Char :=
  l.rdropWhile isGap

theorem isBlank_of_isGap {c : Char} (h : isGap c = true) : isBlank c = true := by
  rw [isGap, Bool.or_eq_true, beq_iff_eq, beq_iff_eq] at h
  rcases h with rfl | rfl <;> rfl

theorem trimEnd_eq (cs : List Char) : trimEnd cs = cs.rdropWhile isBlank :=
  rfl

theorem trimEnd_append (cs ds : List Char) :
    trimEnd (cs ++ ds) = if isBare ds then trimEnd cs else cs ++ trimEnd ds :=
  rdropWhile_append cs ds

theorem isBare_append (cs ds : List Char) : isBare (cs ++ ds) = (isBare cs && isBare ds) :=
  List.all_append

/-- What is trimmed from a line is bare. -/
theorem exists_trimGaps (l : List Char) : ∃ gap, isBare gap = true ∧ l = trimGaps l ++ gap := by
  refine ⟨l.rtakeWhile isGap, ?_, (List.rdropWhile_append_rtakeWhile).symm⟩
  rw [isBare, List.all_eq_true]
  intro c hc
  exact isBlank_of_isGap (List.mem_rtakeWhile_imp hc)

theorem trimEnd_trimGaps (l : List Char) : trimEnd (trimGaps l) = trimEnd l := by
  obtain ⟨gap, hgap, hl⟩ := exists_trimGaps l
  conv_rhs => rw [hl, trimEnd_append, if_pos hgap]

theorem isBare_trimGaps (l : List Char) : isBare (trimGaps l) = isBare l := by
  obtain ⟨gap, hgap, hl⟩ := exists_trimGaps l
  conv_rhs => rw [hl, isBare_append, hgap, Bool.and_true]

section Steps

/-- The last line of a blank start. -/
theorem reverse_takeWhile_newline (cs ds : List Char) :
    ((cs ++ '\n' :: ds).reverse.takeWhile (· ≠ '\n')).reverse =
      (ds.reverse.takeWhile (· ≠ '\n')).reverse := by
  rw [List.reverse_append, List.reverse_cons, List.append_assoc, List.takeWhile_append]
  split
  · next hall =>
    rw [List.singleton_append, List.takeWhile_cons_of_neg (by simp), List.append_nil,
      List.IsPrefix.eq_of_length (List.takeWhile_prefix _) hall]
  · rfl

variable {l : List Char}

theorem dropBlankLines_of_bare (hbare : isBare l = true) (cs : List Char) :
    dropBlankLines (l ++ '\n' :: cs) = dropBlankLines cs := by
  rw [isBare, List.all_eq_true] at hbare
  have hnew : isBlank '\n' = true := rfl
  unfold dropBlankLines
  rw [List.takeWhile_append_of_pos hbare, List.takeWhile_cons, if_pos hnew,
    List.dropWhile_append_of_pos hbare, List.dropWhile_cons, if_pos hnew, reverse_takeWhile_newline]

variable (hl : '\n' ∉ l)
include hl

theorem takeWhile_newline_self : l.reverse.takeWhile (· ≠ '\n') = l.reverse := by
  rw [List.takeWhile_eq_self_iff]
  intro c hc
  have hne : c ≠ '\n' := fun h => hl (h ▸ List.mem_reverse.1 hc)
  simpa using hne

theorem dropBlankLines_of_ink (hink : isBare l = false) (cs : List Char) :
    dropBlankLines (l ++ cs) = l ++ cs := by
  have hlt : ¬ (l.takeWhile isBlank).length = l.length := by
    intro h
    have hself := (List.takeWhile_prefix isBlank).eq_of_length h
    rw [List.takeWhile_eq_self_iff, ← List.all_eq_true] at hself
    rw [isBare, hself] at hink
    cases hink
  have hdrop : ¬ (l.dropWhile isBlank).isEmpty = true := by
    rw [List.isEmpty_iff, List.dropWhile_eq_nil_iff, ← List.all_eq_true]
    simpa [isBare] using hink
  have hnew : '\n' ∉ l.takeWhile isBlank := fun h => hl ((List.takeWhile_prefix isBlank).mem h)
  unfold dropBlankLines
  rw [List.takeWhile_append, if_neg hlt, List.dropWhile_append, if_neg hdrop,
    takeWhile_newline_self hnew, List.reverse_reverse, ← List.append_assoc,
    List.takeWhile_append_dropWhile]

/-- A line on its own stays, blank or not. -/
theorem dropBlankLines_single : dropBlankLines l = l := by
  cases hb : isBare l with
  | false =>
    have h := dropBlankLines_of_ink hl hb []
    rwa [List.append_nil] at h
  | true =>
    rw [isBare, List.all_eq_true] at hb
    unfold dropBlankLines
    rw [List.takeWhile_eq_self_iff.2 hb, List.dropWhile_eq_nil_iff.2 hb, takeWhile_newline_self hl,
      List.reverse_reverse, List.append_nil]

theorem dropLineEnds_single : dropLineEnds l = l := by
  induction l with
  | nil => rfl
  | cons c l ih =>
    rw [List.mem_cons, not_or] at hl
    have hhead : l.head? ≠ some '\n' := fun h => hl.2 (List.mem_of_head? h)
    simp only [dropLineEnds, ih hl.2]
    rw [if_neg fun h => hhead h.2]

theorem dropLineEnds_line (cs : List Char) :
    dropLineEnds (l ++ '\n' :: cs) = trimGaps l ++ '\n' :: dropLineEnds cs := by
  induction l with
  | nil => simp [dropLineEnds, trimGaps]
  | cons c l ih =>
    rw [List.mem_cons, not_or] at hl
    simp only [List.cons_append, dropLineEnds, ih hl.2]
    rw [trimGaps, trimGaps, rdropWhile_cons]
    cases hall : l.all isGap with
    | true =>
      rw [rdropWhile_eq_nil.2 hall, if_pos rfl, List.rdropWhile_singleton]
      by_cases hgap : c = ' ' ∨ c = '\t' <;> simp [isGap, hgap]
    | false =>
      have hne : l.rdropWhile isGap ≠ [] := by
        rw [ne_eq, rdropWhile_eq_nil, hall]
        exact Bool.false_ne_true
      obtain ⟨d, m, hm⟩ := List.exists_cons_of_ne_nil hne
      have hd : d ≠ '\n' := fun h =>
        hl.2 ((List.rdropWhile_prefix isGap l).mem (by rw [hm, h]; exact List.mem_cons_self))
      rw [if_neg Bool.false_ne_true, if_neg fun h => hd (by simpa [hm] using h.2), List.cons_append]

end Steps

/-- The lines between the first and the last with ink on them. -/
def stripped (ls : List (List Char)) : List (List Char) :=
  (ls.dropWhile isBare).rdropWhile isBare

/-- Lines without spaces and tabs at their ends, the last without any white space there. -/
def trimLines (ls : List (List Char)) : List (List Char) :=
  ls.dropLast.map trimGaps ++ (ls.getLast?.map trimEnd).toList

section Lines

variable {ls : List (List Char)} (h : ∀ l ∈ ls, '\n' ∉ l)
include h

theorem dropBlankLines_unlines (cs : List Char) :
    dropBlankLines (unlines ls ++ cs) =
      if ls.all isBare then dropBlankLines cs else unlines (ls.dropWhile isBare) ++ cs := by
  induction ls with
  | nil => rfl
  | cons l ls ih =>
    rw [List.forall_mem_cons] at h
    rw [unlines_cons, List.append_assoc, List.cons_append, List.all_cons, List.dropWhile_cons]
    cases hb : isBare l with
    | true => rw [dropBlankLines_of_bare hb, ih h.2, Bool.true_and, if_pos rfl]
    | false =>
      rw [dropBlankLines_of_ink h.1 hb, Bool.false_and, if_neg Bool.false_ne_true,
        if_neg Bool.false_ne_true, unlines_cons, List.append_assoc, List.cons_append]

theorem dropLineEnds_unlines (cs : List Char) :
    dropLineEnds (unlines ls ++ cs) = unlines (ls.map trimGaps) ++ dropLineEnds cs := by
  induction ls with
  | nil => rfl
  | cons l ls ih =>
    rw [List.forall_mem_cons] at h
    rw [unlines_cons, List.append_assoc, List.cons_append, dropLineEnds_line h.1, ih h.2,
      List.map_cons, unlines_cons, List.append_assoc, List.cons_append]

end Lines

theorem isBare_newline : isBare ['\n'] = true := rfl

theorem isBare_line (l : List Char) : isBare (trimGaps l ++ ['\n']) = isBare l := by
  rw [isBare_append, isBare_trimGaps, isBare_newline, Bool.and_true]

theorem trimEnd_line (l : List Char) : trimEnd (trimGaps l ++ ['\n']) = trimEnd l := by
  rw [trimEnd_append, if_pos isBare_newline, trimEnd_trimGaps]

theorem trimEnd_eq_nil {l : List Char} : trimEnd l = [] ↔ isBare l = true :=
  rdropWhile_eq_nil

theorem trimLines_concat (ls : List (List Char)) (l : List Char) :
    trimLines (ls ++ [l]) = ls.map trimGaps ++ [trimEnd l] := by
  simp [trimLines]

/-- Trimming the end of a text leaves out its last lines up to one with ink. -/
theorem trimEnd_unlines (ls : List (List Char)) :
    (if (trimEnd (unlines (ls.map trimGaps))).isEmpty then []
      else trimEnd (unlines (ls.map trimGaps)) ++ ['\n']) =
        unlines (trimLines (ls.rdropWhile isBare)) := by
  induction ls using List.reverseRecOn with
  | nil => rfl
  | append_singleton ls l ih =>
    have hsplit : unlines ((ls ++ [l]).map trimGaps) =
        unlines (ls.map trimGaps) ++ (trimGaps l ++ ['\n']) := by
      simp [unlines_append]
    rw [hsplit, trimEnd_append, isBare_line, trimEnd_line]
    cases hb : isBare l with
    | true => rw [if_pos rfl, ih, List.rdropWhile_concat_pos _ _ _ hb]
    | false =>
      have hne : trimEnd l ≠ [] := fun h => by simp [trimEnd_eq_nil.1 h] at hb
      rw [if_neg Bool.false_ne_true, List.rdropWhile_concat_neg _ _ _ (by simp [hb]),
        trimLines_concat, unlines_append, unlines_cons, unlines_nil, if_neg (by simp [hne]),
        List.append_assoc]

theorem layoutChars_unlines {ls : List (List Char)} (h : ∀ l ∈ ls, '\n' ∉ l) :
    layoutChars (unlines ls) = unlines (trimLines (stripped ls)) := by
  have hstart : dropBlankLines (unlines ls) = unlines (ls.dropWhile isBare) := by
    have hd := dropBlankLines_unlines h []
    rw [List.append_nil, List.append_nil] at hd
    rw [hd]
    split
    · next hall =>
      rw [List.all_eq_true, ← List.dropWhile_eq_nil_iff] at hall
      rw [hall]
      rfl
    · rfl
  have hlines : ∀ l ∈ ls.dropWhile isBare, '\n' ∉ l :=
    fun l hl => h l ((List.dropWhile_suffix isBare).mem hl)
  have hends := dropLineEnds_unlines hlines []
  rw [List.append_nil, dropLineEnds, List.append_nil] at hends
  rw [stripped, ← trimEnd_unlines, layoutChars, hstart, hends]

/-- The last line need not be ended. -/
theorem layoutChars_open {ls : List (List Char)} (h : ∀ l ∈ ls, '\n' ∉ l) {l : List Char}
    (hl : '\n' ∉ l) : layoutChars (unlines ls ++ l) = layoutChars (unlines ls ++ (l ++ ['\n'])) := by
  have hlines : ∀ m ∈ ls.dropWhile isBare, '\n' ∉ m :=
    fun m hm => h m ((List.dropWhile_suffix isBare).mem hm)
  have hbody : trimEnd (dropLineEnds (dropBlankLines (unlines ls ++ l))) =
      trimEnd (dropLineEnds (dropBlankLines (unlines ls ++ (l ++ ['\n'])))) := by
    rw [dropBlankLines_unlines h, dropBlankLines_unlines h]
    split
    · rw [dropBlankLines_single hl, dropLineEnds_single hl]
      cases hb : isBare l with
      | true => rw [dropBlankLines_of_bare hb, trimEnd_eq_nil.2 hb]; rfl
      | false => rw [dropBlankLines_of_ink hl hb, dropLineEnds_line hl, dropLineEnds, trimEnd_line]
    · rw [dropLineEnds_unlines hlines, dropLineEnds_unlines hlines, dropLineEnds_single hl,
        dropLineEnds_line hl, dropLineEnds, trimEnd_append, trimEnd_append, isBare_line, trimEnd_line]
  rw [layoutChars, layoutChars, hbody]

theorem not_mem_of_mem_trimLines {ls : List (List Char)} (h : ∀ l ∈ ls, '\n' ∉ l) :
    ∀ l ∈ trimLines (stripped ls), '\n' ∉ l := by
  have hstripped : ∀ l ∈ stripped ls, '\n' ∉ l := fun l hl =>
    h l ((List.dropWhile_suffix isBare).mem ((List.rdropWhile_prefix isBare _).mem hl))
  intro l hl
  rw [trimLines, List.mem_append] at hl
  rcases hl with hl | hl
  · obtain ⟨m, hm, rfl⟩ := List.mem_map.1 hl
    exact fun hn => hstripped m ((List.dropLast_sublist _).mem hm)
      ((List.rdropWhile_prefix isGap m).mem hn)
  · rw [Option.mem_toList, Option.map_eq_some_iff] at hl
    obtain ⟨m, hm, rfl⟩ := hl
    exact fun hn => hstripped m (List.mem_of_getLast? hm) ((List.rdropWhile_prefix isBlank m).mem hn)

/-- The layout of a text, line by line. -/
theorem lines_layout (text : String) :
    lines (layout text).toList = trimLines (stripped (lines text.toList)) := by
  have hline : ∀ l ∈ lines text.toList, '\n' ∉ l := fun l hl => not_mem_of_mem_lines hl
  have hchars : layoutChars text.toList = unlines (trimLines (stripped (lines text.toList))) := by
    by_cases hclosed : text.toList = [] ∨ text.toList.getLast? = some '\n'
    · conv_lhs => rw [← unlines_lines hclosed]
      exact layoutChars_unlines hline
    · rw [not_or] at hclosed
      have hended := lines_append_newline hclosed.1 hclosed.2
      have hcs : unlines (lines text.toList) = text.toList ++ ['\n'] := by
        rw [← hended]
        exact unlines_lines (.inr (by simp))
      obtain ⟨ls, l, hls⟩ := (List.eq_nil_or_concat (lines text.toList)).resolve_left
        fun hnil => hclosed.1 (lines_eq_nil hnil)
      rw [List.concat_eq_append] at hls
      have hopen : text.toList = unlines ls ++ l := by
        rw [hls, unlines_append, unlines_cons, unlines_nil, ← List.append_assoc] at hcs
        exact (List.append_cancel_right hcs).symm
      rw [hls, List.forall_mem_append] at hline
      rw [hopen, layoutChars_open hline.1 (hline.2 l List.mem_cons_self), ← List.append_assoc,
        ← hopen, ← hcs]
      exact layoutChars_unlines fun l hl => not_mem_of_mem_lines hl
  rw [layout, String.toList_ofList, hchars, lines_unlines (not_mem_of_mem_trimLines hline)]

namespace Deletes

variable {α : Type} {P : α → Prop} {m n : List α}

theorem reverse (h : Deletes P m n) : Deletes P m.reverse n.reverse := by
  induction h with
  | nil => exact .nil
  | keep a _ ih =>
    rw [List.reverse_cons, List.reverse_cons]
    exact ih.append (refl [a])
  | @drop a m n ha _ ih =>
    rw [List.reverse_cons, ← List.append_nil n.reverse]
    exact ih.append (all (by simpa using ha))

/-- The last member of the first list is the last of the second, or it is gone. -/
theorem concat_cases {a : α} (h : Deletes P (m ++ [a]) n) :
    (∃ n', n = n' ++ [a] ∧ Deletes P m n') ∨ P a ∧ Deletes P m n := by
  have hr := h.reverse
  rw [List.reverse_append, List.reverse_singleton, List.singleton_append] at hr
  generalize hn : n.reverse = r at hr
  cases hr with
  | keep _ hr =>
    refine .inl ⟨_, ?_, by simpa using hr.reverse⟩
    rw [← List.reverse_reverse n, hn, List.reverse_cons]
  | drop ha hr =>
    refine .inr ⟨ha, ?_⟩
    rw [← List.reverse_reverse m, ← List.reverse_reverse n, hn]
    exact hr.reverse

variable {q : α → Bool} (hq : ∀ a, q a = true → P a)
include hq

theorem dropWhile_self (m : List α) : Deletes P m (m.dropWhile q) := by
  conv => arg 2; rw [← List.takeWhile_append_dropWhile (p := q) (l := m)]
  exact (all fun a ha => hq a (List.mem_takeWhile_imp ha)).append (refl _)

theorem dropWhile (h : Deletes P m n) : Deletes P (m.dropWhile q) (n.dropWhile q) := by
  induction h with
  | nil => exact .nil
  | keep a h ih =>
    rw [List.dropWhile_cons, List.dropWhile_cons]
    split
    · exact ih
    · exact keep a h
  | drop ha h ih =>
    rw [List.dropWhile_cons]
    split
    · exact ih
    · exact drop ha (h.trans (dropWhile_self hq _))

theorem rdropWhile (h : Deletes P m n) : Deletes P (m.rdropWhile q) (n.rdropWhile q) :=
  (h.reverse.dropWhile hq).reverse

end Deletes

theorem exists_last_ink {ls : List (List Char)} (h : ls.all isBare = false) :
    ∃ as l bs, ls = as ++ l :: bs ∧ isBare l = false ∧ bs.all isBare = true := by
  induction ls using List.reverseRecOn with
  | nil => simp at h
  | append_singleton ls l ih =>
    cases hl : isBare l with
    | false => exact ⟨ls, l, [], rfl, hl, rfl⟩
    | true =>
      obtain ⟨as, m, bs, rfl, hm, hbs⟩ := ih (by simpa [hl] using h)
      exact ⟨as, m, bs ++ [l], by simp, hm, by simp [hbs, hl]⟩

theorem stripped_ink (as : List (List Char)) {l : List Char} {bs : List (List Char)}
    (hl : isBare l = false) (hbs : bs.all isBare = true) :
    stripped (as ++ l :: bs) = as.dropWhile isBare ++ [l] := by
  have hdrop : (as ++ l :: bs).dropWhile isBare = as.dropWhile isBare ++ l :: bs := by
    rw [List.dropWhile_append, List.dropWhile_cons, hl, if_neg Bool.false_ne_true]
    split
    · next hnil => rw [List.isEmpty_iff.1 hnil, List.nil_append]
    · rfl
  rw [stripped, hdrop, rdropWhile_append, List.all_cons, hl, Bool.false_and,
    if_neg Bool.false_ne_true, rdropWhile_cons, if_pos hbs, List.rdropWhile_singleton, hl,
    if_neg Bool.false_ne_true]

theorem stripped_bare {ls : List (List Char)} (h : ls.all isBare = true) : stripped ls = [] := by
  rw [stripped, List.dropWhile_eq_nil_iff.2 (List.all_eq_true.1 h), List.rdropWhile_nil]

/-- How lists of lines end: white space at the end of the last line with ink of the second list is
of no account, or the first list ends in the same way. -/
inductive Ends (P : List Char → Prop) : List (List Char) → List (List Char) → Prop
  | tidy {ls as bs : List (List Char)} {l : List Char} (ink : isBare l = false)
    (trim : trimGaps l = trimEnd l) (rest : bs.all isBare = true) : Ends P ls (as ++ l :: bs)
  | shared {as cs bs : List (List Char)} {l : List Char} (ink : isBare l = false)
    (rest : bs.all isBare = true) (front : Deletes P as cs) :
    Ends P (as ++ l :: bs) (cs ++ l :: bs)

/-- The second list has no ink, or ends as it should. -/
def Settled (P : List Char → Prop) (ls ms : List (List Char)) : Prop :=
  ms.all isBare = true ∨ Ends P ls ms

/-- The same lines, white space at the end of the last one apart. -/
def SameButLastEnd (ls ms : List (List Char)) : Prop :=
  ls.dropLast = ms.dropLast ∧ ls.map trimEnd = ms.map trimEnd

section Shed

variable {P : List Char → Prop} {ls ms ns : List (List Char)}

theorem Ends.behind {xs ys : List (List Char)} (h : Ends P ls ms) (hxy : Deletes P xs ys) :
    Ends P (xs ++ ls) (ys ++ ms) := by
  cases h with
  | tidy ink trim rest =>
    rw [← List.append_assoc]
    exact .tidy ink trim rest
  | shared ink rest front =>
    rw [← List.append_assoc, ← List.append_assoc]
    exact .shared ink rest (hxy.append front)

theorem ends_of_ink (h : Deletes P ls ms) (hn : ns.all isBare = false) :
    Ends P (ls ++ ns) (ms ++ ns) := by
  obtain ⟨as, l, bs, rfl, hl, hbs⟩ := exists_last_ink hn
  rw [← List.append_assoc, ← List.append_assoc]
  exact .shared hl hbs (h.append (.refl as))

theorem Ends.append (hends : Ends P ls ms) (h : Deletes P ls ms) (ns : List (List Char)) :
    Ends P (ls ++ ns) (ms ++ ns) := by
  cases hn : ns.all isBare with
  | false => exact ends_of_ink h hn
  | true =>
    cases hends with
    | tidy ink trim rest =>
      rw [List.append_assoc, List.cons_append]
      exact .tidy ink trim (by rw [List.all_append, rest, hn, Bool.true_and])
    | shared ink rest front =>
      rw [List.append_assoc, List.append_assoc, List.cons_append]
      exact .shared ink (by rw [List.all_append, rest, hn, Bool.true_and]) front

theorem Settled.append (hends : Settled P ls ms) (h : Deletes P ls ms) (ns : List (List Char)) :
    Settled P (ls ++ ns) (ms ++ ns) := by
  rcases hends with hbare | hends
  · cases hn : ns.all isBare with
    | false => exact .inr (ends_of_ink h hn)
    | true => exact .inl (by rw [List.all_append, hbare, hn, Bool.true_and])
  · exact .inr (hends.append h ns)

theorem map_trimEnd_trimLines (ls : List (List Char)) :
    (trimLines ls).map trimEnd = ls.map trimEnd := by
  rcases List.eq_nil_or_concat ls with rfl | ⟨ms, l, rfl⟩
  · rfl
  · have htwice : trimEnd (trimEnd l) = trimEnd l := List.rdropWhile_idempotent isBlank l
    have hgaps : trimEnd ∘ trimGaps = trimEnd := funext trimEnd_trimGaps
    rw [List.concat_eq_append, trimLines_concat, List.map_append, List.map_append, List.map_map,
      hgaps, List.map_singleton, List.map_singleton, htwice]

theorem sameButLastEnd_trimLines (ls : List (List Char)) :
    SameButLastEnd (ls.map trimGaps) (trimLines ls) := by
  constructor
  · rcases List.eq_nil_or_concat ls with rfl | ⟨ms, l, rfl⟩
    · rfl
    · rw [List.concat_eq_append, trimLines_concat, List.map_append, List.map_singleton,
        List.dropLast_concat, List.dropLast_concat]
  · rw [map_trimEnd_trimLines, List.map_map]
    exact List.map_congr_left fun l _ => trimEnd_trimGaps l

theorem trimLines_of_tidy (h : ∀ l ∈ ls.getLast?, trimGaps l = trimEnd l) :
    trimLines ls = ls.map trimGaps := by
  rcases List.eq_nil_or_concat ls with rfl | ⟨as, l, rfl⟩
  · rfl
  · rw [List.concat_eq_append] at h ⊢
    rw [trimLines_concat, List.map_append, List.map_singleton, h l (by simp)]

variable {Q : List Char → Prop} (htrim : ∀ l, P l → Q (trimGaps l) ∧ Q (trimEnd l))
include htrim

theorem Deletes.map_trimGaps (h : Deletes P ls ms) :
    Deletes Q (ls.map trimGaps) (ms.map trimGaps) :=
  h.map fun l hl => (htrim l hl).1

/-- If the last line is deleted, another line is the last and is to be trimmed as such. -/
theorem Deletes.trimLines (h : Deletes P ls ms) :
    Deletes Q (trimLines ls) (trimLines ms) ∨ Deletes Q (trimLines ls) (ms.map trimGaps) := by
  rcases List.eq_nil_or_concat ls with rfl | ⟨as, l, rfl⟩
  · rw [List.sublist_nil.1 h.sublist]
    exact .inl .nil
  · rw [List.concat_eq_append] at h ⊢
    rcases h.concat_cases with ⟨bs, rfl, hfront⟩ | ⟨hl, hfront⟩
    · rw [trimLines_concat, trimLines_concat]
      exact .inl ((hfront.map_trimGaps htrim).append (.refl _))
    · rw [trimLines_concat, ← List.append_nil (ms.map trimGaps)]
      exact .inr ((hfront.map_trimGaps htrim).append (.all (by simpa using (htrim l hl).2)))

variable (hbare : ∀ l, isBare l = true → P l)
include hbare

/-- The layout of a text loses no more lines than the text, white space at the end of the last line
apart. -/
theorem Deletes.layout {a b : String} (h : Deletes P (lines a.toList) (lines b.toList)) :
    ∃ ls, SameButLastEnd ls (lines (layout b).toList) ∧ Deletes Q (lines (layout a).toList) ls := by
  have hstripped := (h.dropWhile hbare).rdropWhile hbare
  rw [lines_layout, lines_layout]
  rcases hstripped.trimLines htrim with htrimmed | htrimmed
  · exact ⟨_, ⟨rfl, rfl⟩, htrimmed⟩
  · exact ⟨_, sameButLastEnd_trimLines _, htrimmed⟩

/-- The layout of a text that ends as it should loses no more lines than the text. -/
theorem Settled.layout {a b : String} (hends : Settled P (lines a.toList) (lines b.toList))
    (h : Deletes P (lines a.toList) (lines b.toList)) :
    Deletes Q (lines (layout a).toList) (lines (layout b).toList) := by
  rw [lines_layout, lines_layout]
  generalize lines a.toList = ls at *
  generalize lines b.toList = ms at *
  have htidy : (∀ l ∈ (stripped ms).getLast?, trimGaps l = trimEnd l) →
      Deletes Q (Text.trimLines (stripped ls)) (Text.trimLines (stripped ms)) := by
    intro ht
    have hstripped := ((h.dropWhile hbare).rdropWhile hbare).trimLines htrim
    rwa [← stripped, ← stripped, ← trimLines_of_tidy ht, or_self] at hstripped
  rcases hends with hnone | hends
  · refine htidy ?_
    rw [stripped_bare hnone]
    simp
  · cases hends with
    | tidy ink trim rest =>
      refine htidy ?_
      rw [stripped_ink _ ink rest]
      simpa using trim
    | shared ink rest front =>
      rw [stripped_ink _ ink rest, stripped_ink _ ink rest, trimLines_concat, trimLines_concat]
      exact ((front.dropWhile hbare).map_trimGaps htrim).append (.refl _)

end Shed

end BlockCode.Text
