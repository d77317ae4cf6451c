import BlockCode.Proofs.Text.Layout
import BlockCode.Text.Template

namespace BlockCode.Text

section Filling

/-- What starts a text and holds no newline leaves out the last newline. -/
theorem length_le_of_starts {p cs : List Char} (h : p <+: cs ++ ['\n']) (hp : '\n' ∉ p) :
    p.length ≤ cs.length := by
  by_contra hlong
  have hlen : p.length = (cs ++ ['\n']).length := by
    have hle := h.length_le
    simp only [List.length_append, List.length_singleton] at hle ⊢
    omega
  exact hp (by rw [h.eq_of_length hlen]; simp)

theorem prefix_concat {p cs : List Char} (h : p <+: cs) {c : Char}
    (hc : (cs.drop p.length).head? = some c) : p ++ [c] <+: cs := by
  obtain ⟨rest, rfl⟩ := h
  rw [List.drop_left, List.head?_eq_some_iff] at hc
  obtain ⟨rest, rfl⟩ := hc
  exact ⟨rest, by simp⟩

variable {cs : List Char} {skip : Nat}

theorem getLast?_replaceFrom {pattern : List Char} (hne : pattern ≠ []) (hp : '\n' ∉ pattern)
    (replacement : List Char) (hskip : skip ≤ cs.length) :
    (replaceFrom pattern replacement skip (cs ++ ['\n'])).getLast? = some '\n' := by
  induction cs generalizing skip with
  | nil =>
    obtain rfl : skip = 0 := by simpa using hskip
    have hpre : ¬ pattern.isPrefixOf ['\n'] = true := by
      rw [List.isPrefixOf_iff_prefix]
      intro h
      have hle : pattern.length ≤ ([] : List Char).length := length_le_of_starts h hp
      exact hne (List.length_eq_zero_iff.1 (Nat.le_zero.1 hle))
    rw [List.nil_append, replaceFrom, if_neg hpre, replaceFrom, List.getLast?_singleton]
  | cons c cs ih =>
    rw [List.cons_append]
    cases skip with
    | succ skip => exact ih (by simpa using hskip)
    | zero =>
      rw [replaceFrom]
      split
      · next hpre =>
        have hlen : pattern.length ≤ (c :: cs).length :=
          length_le_of_starts (List.isPrefixOf_iff_prefix.1 hpre) hp
        rw [List.getLast?_append, ih (by simp only [List.length_cons] at hlen; omega),
          Option.some_or]
      · rw [List.getLast?_cons, ih (Nat.zero_le _), Option.getD_some]

theorem EndsLine.exists_chars {s : String} (h : EndsLine s) : ∃ cs, s.toList = cs ++ ['\n'] :=
  ⟨_, (List.dropLast_append_getLast? _ h).symm⟩

theorem EndsLine.replace {s pattern : String} (h : EndsLine s) (hne : pattern ≠ "")
    (hp : '\n' ∉ pattern.toList) (replacement : String) :
    EndsLine (replace s pattern replacement) := by
  obtain ⟨cs, hcs⟩ := h.exists_chars
  have hne' : pattern.toList ≠ [] := fun hnil => hne (String.toList_eq_nil_iff.1 hnil)
  rw [EndsLine, Text.replace, String.toList_ofList, replaceChars, List.isEmpty_eq_false_iff.2 hne',
    if_neg Bool.false_ne_true, hcs]
  exact getLast?_replaceFrom hne' hp _ (Nat.zero_le _)

namespace Template

theorem leadingName_starts (cs : List Char) : leadingName cs <+: cs := by
  cases cs with
  | nil => exact List.prefix_refl []
  | cons c cs =>
    rw [leadingName]
    split
    · exact (List.prefix_cons_inj c).2 (List.takeWhile_prefix _)
    · exact List.nil_prefix

theorem not_mem_leadingName (cs : List Char) : '\n' ∉ leadingName cs := by
  cases cs with
  | nil => exact List.not_mem_nil
  | cons c cs =>
    rw [leadingName]
    split
    · next hc =>
      intro hm
      rcases List.mem_cons.1 hm with rfl | hm
      · exact absurd hc (by decide)
      · exact absurd (List.mem_takeWhile_imp hm) (by decide)
    · exact List.not_mem_nil

/-- A reference stops before the last newline. -/
theorem reference_le (name value cs : List Char) :
    (reference name value (cs ++ ['\n'])).2 ≤ cs.length := by
  have hname : (leadingName (cs ++ ['\n'])).length ≤ cs.length :=
    length_le_of_starts (leadingName_starts _) (not_mem_leadingName _)
  unfold reference
  split
  · next heq =>
    cases cs with
    | nil => cases heq
    | cons c cs => simp
  · next inner heq =>
    dsimp only
    split
    · next hfound =>
      cases cs with
      | nil => cases heq
      | cons c cs =>
        rw [List.cons_append, List.cons.injEq] at heq
        obtain ⟨rfl, rfl⟩ := heq
        have hfit := prefix_concat (leadingName_starts _) hfound.2
        have hle := length_le_of_starts hfit (by simp [not_mem_leadingName])
        simpa using hle
    · exact Nat.zero_le _
  · exact hname

theorem getLast?_fillFrom (name value : List Char) (hskip : skip ≤ cs.length) :
    (fillFrom name value skip (cs ++ ['\n'])).getLast? = some '\n' := by
  induction cs generalizing skip with
  | nil =>
    obtain rfl : skip = 0 := by simpa using hskip
    rfl
  | cons c cs ih =>
    rw [List.cons_append]
    cases skip with
    | succ skip => exact ih (by simpa using hskip)
    | zero =>
      rw [fillFrom]
      split
      · rw [List.getLast?_append, ih (reference_le name value cs), Option.some_or]
      · rw [List.getLast?_cons, ih (Nat.zero_le _), Option.getD_some]

theorem closed_fill {template : String} (h : Closed template) (name value : String) :
    Closed (fill template name value) := by
  rcases h with rfl | h
  · exact closed_empty
  · obtain ⟨cs, hcs⟩ := h.exists_chars
    refine .inr ?_
    rw [EndsLine, fill, String.toList_ofList, hcs]
    exact getLast?_fillFrom _ _ (Nat.zero_le _)

end Template

end Filling

section Joining

theorem intercalate_cons (sep a : String) (as : List String) :
    sep.intercalate (a :: as) = a ++ String.join (as.map (sep ++ ·)) := by
  induction as generalizing a with
  | nil => rw [String.intercalate_singleton, List.map_nil, String.join_nil, String.append_empty]
  | cons b as ih =>
    rw [String.intercalate_cons_cons, ih, List.map_cons, String.join_cons]
    simp only [String.append_assoc]

/-- Texts with a separator between them, and one more at the end. -/
theorem intercalate_append (sep : String) {as : List String} (hne : as ≠ []) :
    sep.intercalate as ++ sep = String.join (as.map (· ++ sep)) := by
  induction as with
  | nil => exact absurd rfl hne
  | cons a as ih =>
    rw [List.map_cons, String.join_cons]
    cases as with
    | nil => rw [String.intercalate_singleton, List.map_nil, String.join_nil, String.append_empty]
    | cons b as =>
      rw [String.intercalate_cons_cons, ← ih (List.cons_ne_nil b as)]
      simp only [String.append_assoc]

theorem closed_join {as : List String} (h : ∀ a ∈ as, Closed a) : Closed (String.join as) := by
  induction as with
  | nil => exact closed_empty
  | cons a as ih =>
    rw [List.forall_mem_cons] at h
    rw [String.join_cons]
    exact h.1.append (ih h.2)

theorem lines_join {as : List String} (h : ∀ a ∈ as, Closed a) :
    lines (String.join as).toList = as.flatMap fun a => lines a.toList := by
  induction as with
  | nil => rfl
  | cons a as ih =>
    rw [List.forall_mem_cons] at h
    rw [String.join_cons, h.1.lines_append, ih h.2, List.flatMap_cons]

end Joining

section Lead

variable {lead text : String}

/-- A lead without a newline stands in front of every line. -/
theorem lines_leadLines_map (hlead : '\n' ∉ lead.toList) (h : Closed text) (hne : text ≠ "") :
    lines (leadLines lead text).toList = (lines text.toList).map (lead.toList ++ ·) := by
  have hline : ∀ l ∈ lines text.toList, lines (lead.toList ++ l ++ ['\n']) = [lead.toList ++ l] := by
    intro l hl
    have hn : '\n' ∉ lead.toList ++ l := by simp [hlead, not_mem_of_mem_lines hl]
    rw [lines_line hn]
    rfl
  rw [lines_leadLines lead h hne, List.map_eq_flatMap]
  exact List.flatMap_congr hline

theorem leadInner_newline (lead : List Char) {cs : List Char} (h : cs.getLast? ≠ some '\n') :
    leadInner lead (cs ++ ['\n']) = leadInner lead cs ++ ['\n'] := by
  induction cs with
  | nil => rfl
  | cons c cs ih =>
    cases cs with
    | nil =>
      have hc : c ≠ '\n' := by simpa using h
      simp [leadInner, hc]
    | cons d cs =>
      rw [List.getLast?_cons_cons] at h
      rw [List.cons_append, leadInner, leadInner, ih h]
      by_cases hc : c = '\n'
      · simp [hc]
      · simp [hc]

/-- A newline at the end of the last line starts no further line. -/
theorem leadLines_newline (lead : String) (h : ¬ EndsLine text) :
    leadLines lead (text ++ "\n") = leadLines lead text ++ "\n" := by
  apply String.toList_inj.1
  rw [String.toList_append, leadLines, leadLines, String.toList_ofList, String.toList_ofList,
    String.toList_append, leadChars, leadChars]
  rw [List.append_assoc]
  exact congrArg _ (leadInner_newline lead.toList h)

end Lead

section Ink

theorem mem_of_mem_lines {cs l : List Char} (h : l ∈ lines cs) {c : Char} (hc : c ∈ l) : c ∈ cs := by
  induction cs generalizing l with
  | nil => cases h
  | cons d cs ih =>
    rw [lines] at h
    split at h
    · rcases List.mem_cons.1 h with rfl | h
      · cases hc
      · exact List.mem_cons_of_mem _ (ih h hc)
    · split at h
      · rw [List.mem_singleton.1 h, List.mem_singleton] at hc
        exact hc ▸ List.mem_cons_self
      · next m ms hm =>
        rw [hm] at ih
        rcases List.mem_cons.1 h with rfl | h
        · rcases List.mem_cons.1 hc with rfl | hc
          · exact List.mem_cons_self
          · exact List.mem_cons_of_mem _ (ih List.mem_cons_self hc)
        · exact List.mem_cons_of_mem _ (ih (List.mem_cons_of_mem _ h) hc)

/-- The lines of a bare text are bare. -/
theorem isBare_of_mem_lines {cs l : List Char} (hcs : isBare cs = true) (h : l ∈ lines cs) :
    isBare l = true := by
  rw [isBare, List.all_eq_true] at hcs ⊢
  exact fun c hc => hcs c (mem_of_mem_lines h hc)

/-- A text that ends with ink has a last line that does. -/
theorem EndsInk.lines_eq {a : String} (h : EndsInk a) :
    ∃ as l, lines (a ++ "\n").toList = as ++ [l] ∧ isBare l = false ∧ trimGaps l = trimEnd l := by
  have hclosed := (endsLine_newline a).closed.toList_eq
  obtain ⟨as, l, hlines⟩ := (List.eq_nil_or_concat (lines (a ++ "\n").toList)).resolve_left
    fun hnil => (endsLine_newline a).ne_empty (String.toList_eq_nil_iff.1 (lines_eq_nil hnil))
  rw [List.concat_eq_append] at hlines
  have hchars : a.toList = unlines as ++ l := by
    rw [hlines, String.toList_append, unlines_append, unlines_cons, unlines_nil,
      ← List.append_assoc] at hclosed
    exact List.append_cancel_right hclosed
  obtain ⟨c, hc, hink⟩ : ∃ c, l.getLast? = some c ∧ isBlank c = false := by
    rw [EndsInk, hchars, List.getLast?_append] at h
    cases hl : l.getLast? with
    | some c => exact ⟨c, rfl, by simpa [hl] using h⟩
    | none =>
      rw [hl, Option.none_or] at h
      rcases closed_unlines as with hnil | hends
      · rw [String.ofList_eq_empty_iff.1 hnil] at h
        cases h
      · rw [EndsLine, String.toList_ofList] at hends
        rw [hends] at h
        cases h
  refine ⟨as, l, hlines, ?_, ?_⟩
  · rw [isBare, List.all_eq_false]
    exact ⟨c, List.mem_of_getLast? hc, by simp [hink]⟩
  · have hgap : ¬ isGap c = true := fun h => by rw [isBlank_of_isGap h] at hink; cases hink
    obtain ⟨ds, rfl⟩ : ∃ ds, l = ds ++ [c] := ⟨_, (List.dropLast_append_getLast? _ hc).symm⟩
    rw [trimGaps, trimEnd_eq, List.rdropWhile_concat_neg _ _ _ hgap,
      List.rdropWhile_concat_neg _ _ _ (by simp [hink])]

end Ink

end BlockCode.Text
