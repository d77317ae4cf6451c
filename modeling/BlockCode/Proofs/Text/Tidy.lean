import BlockCode.Proofs.Text.Layout
import Mathlib.Data.List.Chain

namespace BlockCode.Text

/-- The characters of a text that are not white space. -/
def ink (cs : List Char) : List Char :=
  cs.filter fun c => !isBlank c

/-- A text that needs no layout: it ends with ink and one newline, no space or tab stands before a
newline, and there is no blank line at its start. -/
structure IsTidy (cs : List Char) : Prop where
  ends : ∃ front c, cs = front ++ [c, '\n'] ∧ isBlank c = false
  lineEnds : ∀ front c rest, cs = front ++ c :: '\n' :: rest → c ≠ ' ' ∧ c ≠ '\t'
  start : '\n' ∉ cs.takeWhile isBlank

/-- The white space in front of the first ink of a text, as far as it stands on the same line. -/
def indentation (cs : List Char) : List Char :=
  (cs.takeWhile isBlank).rtakeWhile (· ≠ '\n')

section Ink

@[simp] theorem ink_append (cs ds : List Char) : ink (cs ++ ds) = ink cs ++ ink ds :=
  List.filter_append ..

theorem ink_eq_nil {cs : List Char} : ink cs = [] ↔ isBare cs = true := by
  simp [ink, isBare]

theorem ink_of_blank {cs : List Char} (h : ∀ c ∈ cs, isBlank c = true) : ink cs = [] := by
  rw [ink_eq_nil, isBare, List.all_eq_true]
  exact h

theorem isBlank_of_mem_indentation {cs : List Char} {c : Char} (h : c ∈ indentation cs) :
    isBlank c = true :=
  List.mem_takeWhile_imp ((List.rtakeWhile_suffix _ _).mem h)

theorem dropBlankLines_eq (cs : List Char) :
    dropBlankLines cs = indentation cs ++ cs.dropWhile isBlank :=
  rfl

theorem ink_dropBlankLines (cs : List Char) : ink (dropBlankLines cs) = ink cs := by
  have hstart : ink (indentation cs) = [] := ink_of_blank fun _ => isBlank_of_mem_indentation
  have hfront : ink (cs.takeWhile isBlank) = [] := ink_of_blank fun _ => List.mem_takeWhile_imp
  conv_rhs => rw [← List.takeWhile_append_dropWhile (p := isBlank) (l := cs)]
  rw [dropBlankLines_eq, ink_append, ink_append, hstart, hfront]

theorem ink_dropLineEnds (cs : List Char) : ink (dropLineEnds cs) = ink cs := by
  induction cs with
  | nil => rfl
  | cons c cs ih =>
    rw [dropLineEnds]
    split
    · next h =>
      have hc : isBlank c = true := isBlank_of_isGap (by simpa [isGap] using h.1)
      rw [ih, ink, ink, List.filter_cons_of_neg (by simp [hc])]
    · rw [← List.singleton_append, ink_append, ih, ← ink_append, List.singleton_append]

theorem ink_trimEnd (cs : List Char) : ink (trimEnd cs) = ink cs := by
  have hrest : ink (cs.rtakeWhile isBlank) = [] := ink_of_blank fun _ => List.mem_rtakeWhile_imp
  conv_rhs => rw [← List.rdropWhile_append_rtakeWhile (p := isBlank) (l := cs)]
  rw [ink_append, hrest, List.append_nil, trimEnd_eq]

/-- Nothing but white space is lost. -/
theorem ink_layoutChars (cs : List Char) : ink (layoutChars cs) = ink cs := by
  have hbody : ink (trimEnd (dropLineEnds (dropBlankLines cs))) = ink cs := by
    rw [ink_trimEnd, ink_dropLineEnds, ink_dropBlankLines]
  rw [layoutChars]
  split
  · next hempty =>
    rw [List.isEmpty_iff.1 hempty] at hbody
    exact hbody
  · rw [ink_append, hbody]
    exact List.append_nil _

theorem layoutChars_eq_nil {cs : List Char} : layoutChars cs = [] ↔ isBare cs = true := by
  rw [← ink_eq_nil]
  constructor
  · intro h
    rw [← ink_layoutChars, h]
    rfl
  · intro h
    rw [← ink_dropBlankLines, ← ink_dropLineEnds, ink_eq_nil, ← trimEnd_eq_nil] at h
    rw [layoutChars, h]
    rfl

end Ink

section LineEnds

/-- No space or tab stands directly before a newline. -/
def EndsClean (cs : List Char) : Prop :=
  cs.IsChain fun c d => d = '\n' → isGap c = false

theorem endsClean_iff {cs : List Char} :
    EndsClean cs ↔ ∀ front c rest, cs = front ++ c :: '\n' :: rest → c ≠ ' ' ∧ c ≠ '\t' := by
  rw [EndsClean, List.isChain_iff_forall_rel_of_append_cons_cons]
  constructor
  · intro h front c rest hcs
    simpa [isGap] using h hcs rfl
  · rintro h c _ front rest hcs rfl
    simpa [isGap] using h front c rest hcs

theorem endsClean_dropLineEnds (cs : List Char) : EndsClean (dropLineEnds cs) := by
  induction cs with
  | nil => exact List.isChain_nil
  | cons c cs ih =>
    rw [dropLineEnds]
    split
    · exact ih
    · next h =>
      refine List.isChain_cons.2 ⟨?_, ih⟩
      rintro _ hhead rfl
      have hc : ¬ (c = ' ' ∨ c = '\t') := fun hc => h ⟨hc, hhead⟩
      simpa [isGap, not_or] using hc

theorem EndsClean.dropLineEnds_eq {cs : List Char} (h : EndsClean cs) : dropLineEnds cs = cs := by
  induction cs with
  | nil => rfl
  | cons c cs ih =>
    obtain ⟨hc, hcs⟩ := List.isChain_cons.1 h
    rw [dropLineEnds, ih hcs, if_neg]
    rintro ⟨hgap, hhead⟩
    have hclean := hc '\n' hhead rfl
    rcases hgap with rfl | rfl <;> cases hclean

/-- Up to a character that is not white space, a line has no end to trim. -/
theorem dropLineEnds_of_ink {l : List Char} (hl : '\n' ∉ l) {c : Char} (hc : isBlank c = false)
    (cs : List Char) : dropLineEnds (l ++ c :: cs) = l ++ c :: dropLineEnds cs := by
  have hnew : c ≠ '\n' := by rintro rfl; cases hc
  induction l with
  | nil =>
    have hgap : ¬ (c = ' ' ∨ c = '\t') := by rintro (rfl | rfl) <;> cases hc
    rw [List.nil_append, dropLineEnds, if_neg fun h => hgap h.1]
    rfl
  | cons d l ih =>
    rw [List.mem_cons, not_or] at hl
    have hhead : (l ++ c :: dropLineEnds cs).head? ≠ some '\n' := by
      cases l with
      | nil => simpa using hnew
      | cons e l => simpa using fun h => hl.2 (by simp [h])
    rw [List.cons_append, dropLineEnds, ih hl.2, if_neg fun h => hhead h.2]
    rfl

end LineEnds

/-- What ends with ink is not trimmed. -/
theorem trimEnd_of_ink (l : List Char) {c : Char} (hc : isBlank c = false) (cs : List Char) :
    trimEnd (l ++ c :: cs) = l ++ c :: trimEnd cs := by
  have hl : trimEnd (l ++ [c]) = l ++ [c] := List.rdropWhile_concat_neg _ _ _ (by simp [hc])
  rw [List.append_cons, List.append_cons l c (trimEnd cs), trimEnd_append, hl]
  split
  · next hbare => rw [trimEnd_eq_nil.2 hbare, List.append_nil]
  · rfl

section Start

variable {cs : List Char}

theorem newline_not_mem_indentation (cs : List Char) : '\n' ∉ indentation cs :=
  fun hn => by simpa using List.mem_rtakeWhile_imp hn

/-- What stands in front of the indentation is whole lines. -/
theorem exists_takeWhile_eq (cs : List Char) :
    ∃ dropped, cs.takeWhile isBlank = dropped ++ indentation cs ∧
      (dropped = [] ∨ dropped.getLast? = some '\n') := by
  refine ⟨(cs.takeWhile isBlank).rdropWhile (· ≠ '\n'), List.rdropWhile_append_rtakeWhile.symm, ?_⟩
  by_cases hnil : (cs.takeWhile isBlank).rdropWhile (· ≠ '\n') = []
  · exact .inl hnil
  · have hlast := List.rdropWhile_last_not _ _ hnil
    rw [List.getLast?_eq_some_getLast hnil]
    exact .inr (by simpa using hlast)

theorem exists_first_ink (h : isBare cs = false) :
    ∃ c rest, cs.dropWhile isBlank = c :: rest ∧ isBlank c = false := by
  cases hdrop : cs.dropWhile isBlank with
  | nil =>
    rw [List.dropWhile_eq_nil_iff, ← List.all_eq_true] at hdrop
    rw [isBare, hdrop] at h
    cases h
  | cons c rest =>
    have hc := List.head?_dropWhile_not isBlank cs
    rw [hdrop] at hc
    exact ⟨c, rest, rfl, by simpa using hc⟩

/-- The layout of a text with ink. -/
theorem layoutChars_of_ink {c : Char} {rest : List Char} (hdrop : cs.dropWhile isBlank = c :: rest)
    (hc : isBlank c = false) :
    layoutChars cs = indentation cs ++ c :: (trimEnd (dropLineEnds rest) ++ ['\n']) := by
  rw [layoutChars, dropBlankLines_eq, hdrop, dropLineEnds_of_ink (newline_not_mem_indentation cs) hc,
    trimEnd_of_ink _ hc, if_neg (by simp), List.append_assoc, List.cons_append]

/-- The first line with ink on it keeps its indentation, and nothing stands in front of that. -/
theorem takeWhile_layoutChars (h : isBare cs = false) :
    (layoutChars cs).takeWhile isBlank = indentation cs := by
  obtain ⟨c, rest, hdrop, hc⟩ := exists_first_ink h
  rw [layoutChars_of_ink hdrop hc,
    List.takeWhile_append_of_pos fun _ => isBlank_of_mem_indentation,
    List.takeWhile_cons_of_neg (by simp [hc]), List.append_nil]

end Start

/-- The layout of a text with ink ends with ink and a newline, and its lines end clean. -/
theorem exists_layoutChars_eq {cs : List Char} (h : isBare cs = false) :
    ∃ front c, layoutChars cs = front ++ [c, '\n'] ∧ isBlank c = false ∧
      EndsClean (front ++ [c]) := by
  let body := trimEnd (dropLineEnds (dropBlankLines cs))
  have hne : body ≠ [] := by
    intro hnil
    rw [trimEnd_eq_nil, ← ink_eq_nil, ink_dropLineEnds, ink_dropBlankLines, ink_eq_nil, h] at hnil
    cases hnil
  have hbody : body.dropLast ++ [body.getLast hne] = body := List.dropLast_append_getLast hne
  refine ⟨body.dropLast, body.getLast hne, ?_, ?_, ?_⟩
  · rw [List.append_cons, hbody, layoutChars, if_neg (by simpa using hne)]
  · exact Bool.eq_false_iff.2 (List.rdropWhile_last_not _ _ hne)
  · obtain ⟨rest, hrest⟩ := List.rdropWhile_prefix isBlank (dropLineEnds (dropBlankLines cs))
    rw [hbody]
    exact List.IsChain.left_of_append (hrest ▸ endsClean_dropLineEnds (dropBlankLines cs))

theorem isTidy_layoutChars {cs : List Char} (h : isBare cs = false) : IsTidy (layoutChars cs) := by
  obtain ⟨front, c, hcs, hc, hclean⟩ := exists_layoutChars_eq h
  refine ⟨⟨front, c, hcs, hc⟩, endsClean_iff.1 ?_, ?_⟩
  · have hgap : isGap c = false := by
      cases hg : isGap c with
      | false => rfl
      | true => rw [isBlank_of_isGap hg] at hc; cases hc
    rw [hcs, List.append_cons]
    refine List.IsChain.append hclean (List.isChain_singleton _) fun d hd e _ _ => ?_
    rw [List.getLast?_concat, Option.mem_some_iff] at hd
    exact hd ▸ hgap
  · rw [takeWhile_layoutChars h]
    exact newline_not_mem_indentation cs

theorem IsTidy.layoutChars_eq {cs : List Char} (h : IsTidy cs) : layoutChars cs = cs := by
  obtain ⟨front, c, rfl, hc⟩ := h.ends
  have hstart : dropBlankLines (front ++ [c, '\n']) = front ++ [c, '\n'] := by
    rw [dropBlankLines, takeWhile_newline_self h.start, List.reverse_reverse,
      List.takeWhile_append_dropWhile]
  have hbody : trimEnd (front ++ [c, '\n']) = front ++ [c] := trimEnd_of_ink front hc ['\n']
  rw [layoutChars, hstart, (endsClean_iff.2 h.lineEnds).dropLineEnds_eq, hbody, if_neg (by simp),
    ← List.append_cons]

/-- The texts that are their own layout. -/
theorem layout_eq_self_iff {text : String} : layout text = text ↔ text = "" ∨ IsTidy text.toList := by
  rw [← String.toList_inj, layout, String.toList_ofList]
  constructor
  · intro h
    cases hbare : isBare text.toList with
    | true =>
      rw [layoutChars_eq_nil.2 hbare] at h
      exact .inl (String.toList_eq_nil_iff.1 h.symm)
    | false => exact .inr (h ▸ isTidy_layoutChars hbare)
  · rintro (rfl | htidy)
    · rfl
    · exact htidy.layoutChars_eq

/-- The layout of a text is its own layout, has the same ink, and is empty just if there is no ink.
Otherwise it ends with ink and one newline, no space or tab stands before a newline, and the white
space in front of its first ink is what stood there in the text, without the blank lines. -/
theorem layout_idempotent_clean_lossless (text : String) :
    layout (layout text) = layout text ∧
      ink (layout text).toList = ink text.toList ∧
      (layout text = "" ↔ isBare text.toList = true) ∧
      (layout text = "" ∨ IsTidy (layout text).toList ∧
        ∃ dropped, text.toList.takeWhile isBlank = dropped ++ (layout text).toList.takeWhile isBlank ∧
          (dropped = [] ∨ dropped.getLast? = some '\n')) := by
  have hchars : (layout text).toList = layoutChars text.toList := String.toList_ofList
  have hempty : layout text = "" ↔ isBare text.toList = true := by
    rw [← String.toList_eq_nil_iff, hchars, layoutChars_eq_nil]
  have htidy : layout text = "" ∨ IsTidy (layout text).toList ∧
      (layout text).toList.takeWhile isBlank = indentation text.toList := by
    cases hbare : isBare text.toList with
    | true => exact .inl (hempty.2 hbare)
    | false =>
      rw [hchars]
      exact .inr ⟨isTidy_layoutChars hbare, takeWhile_layoutChars hbare⟩
  refine ⟨layout_eq_self_iff.2 (htidy.imp_right And.left), ?_, hempty, htidy.imp_right ?_⟩
  · rw [hchars, ink_layoutChars]
  · rintro ⟨hself, hstart⟩
    rw [hstart]
    exact ⟨hself, exists_takeWhile_eq text.toList⟩

end BlockCode.Text
