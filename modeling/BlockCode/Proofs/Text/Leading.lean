import BlockCode.Proofs.Text.Margin

namespace BlockCode.Text

section Rows

variable {cs : List Char}

/-- The lines of a text. There is always a first one, and none behind a final newline. -/
def rows (cs : List Char) : List (List Char) :=
  (if cs.getLast? = some '\n' then cs.dropLast else cs).splitOn '\n'

/-- The text of the given lines, the last of which is ended or not. -/
def ofRows (ended : Bool) (ls : List (List Char)) : List Char :=
  ['\n'].intercalate ls ++ if ended then ['\n'] else []

theorem ofRows_rows (cs : List Char) : ofRows (cs.getLast? = some '\n') (rows cs) = cs := by
  rw [ofRows, rows, List.intercalate_splitOn]
  by_cases h : cs.getLast? = some '\n'
  · rw [if_pos h, if_pos (decide_eq_true h), List.dropLast_append_getLast? _ h]
  · rw [if_neg h, if_neg (by simpa using h), List.append_nil]

theorem not_mem_of_mem_splitOn {row : List Char} (h : row ∈ cs.splitOn '\n') : '\n' ∉ row := by
  rw [splitOn_eq, List.mem_append] at h
  rcases h with h | h
  · exact not_mem_of_mem_lines h
  · split at h
    · rw [List.mem_singleton.1 h]
      exact List.not_mem_nil
    · cases h

theorem rows_newline (cs : List Char) :
    rows ('\n' :: cs) = [] :: if cs = [] then [] else rows cs := by
  cases cs with
  | nil => rfl
  | cons d cs =>
    rw [if_neg (List.cons_ne_nil d cs), rows, rows, List.getLast?_cons_cons, ← splitOn_newline]
    split
    · rw [List.dropLast_cons_of_ne_nil (List.cons_ne_nil d cs)]
    · rfl

theorem rows_cons {c : Char} (hc : c ≠ '\n') (cs : List Char) :
    rows (c :: cs) = (rows cs).modifyHead (List.cons c) := by
  rw [rows, rows, ← splitOn_cons hc]
  cases cs with
  | nil => rw [List.getLast?_singleton, if_neg fun h => hc (Option.some.inj h), if_neg (by simp)]
  | cons d cs =>
    rw [List.getLast?_cons_cons]
    split
    · rw [List.dropLast_cons_of_ne_nil (List.cons_ne_nil d cs)]
    · rfl

theorem rows_append {l : List Char} (hl : '\n' ∉ l) (cs : List Char) :
    rows (l ++ cs) = (rows cs).modifyHead (l ++ ·) := by
  induction l with
  | nil => exact (congrFun List.modifyHead_id _).symm
  | cons c l ih =>
    rw [List.mem_cons, not_or] at hl
    rw [List.cons_append, rows_cons fun h => hl.1 h.symm, ih hl.2, List.modifyHead_modifyHead]
    rfl

end Rows

section Inner

variable {lead cs l : List Char}

theorem leadInner_eq_nil : leadInner lead cs = [] ↔ cs = [] := by
  cases cs with
  | nil => exact Iff.rfl
  | cons c cs =>
    rw [leadInner]
    split <;> simp

theorem append_leadInner_ne_nil (h : cs ≠ []) (front : List Char) :
    front ++ leadInner lead cs ≠ [] :=
  fun hnil => h (leadInner_eq_nil.1 (List.append_eq_nil_iff.1 hnil).2)

/-- Leads go behind newlines only. -/
theorem leadInner_append (hl : '\n' ∉ l) (cs : List Char) :
    leadInner lead (l ++ cs) = l ++ leadInner lead cs := by
  induction l with
  | nil => rfl
  | cons c l ih =>
    rw [List.mem_cons, not_or] at hl
    rw [List.cons_append, leadInner, if_neg fun h => hl.1 h.1.symm, ih hl.2, List.cons_append]

/-- The inner lead stands behind the outer one, and starts no line of its own. -/
theorem leadInner_leadInner (hlead : '\n' ∉ lead) (outer cs : List Char) :
    leadInner outer (leadInner lead cs) = leadInner (outer ++ lead) cs := by
  induction cs with
  | nil => rfl
  | cons c cs ih =>
    by_cases h : c = '\n' ∧ cs ≠ []
    · have hrest : lead ++ leadInner lead cs ≠ [] := append_leadInner_ne_nil h.2 lead
      rw [leadInner, if_pos h, leadInner, if_pos ⟨h.1, hrest⟩, leadInner_append hlead, ih, leadInner,
        if_pos h, List.append_assoc]
    · have hsame : ¬ (c = '\n' ∧ leadInner lead cs ≠ []) := by
        rwa [Ne, leadInner_eq_nil]
      rw [leadInner, if_neg h, leadInner, if_neg hsame, ih, leadInner, if_neg h]

/-- Behind a newline the lead starts anew. -/
theorem leadInner_split {bs : List Char} (hbs : bs ≠ []) (as : List Char) :
    leadInner lead (as ++ '\n' :: bs) = leadInner lead (as ++ ['\n']) ++ leadChars lead bs := by
  induction as with
  | nil => simp [leadInner, leadChars, hbs]
  | cons c as ih =>
    have hrest : c = '\n' ∧ as ++ '\n' :: bs ≠ [] ↔ c = '\n' ∧ as ++ ['\n'] ≠ [] := by
      simp
    rw [List.cons_append, List.cons_append, leadInner, leadInner, ih]
    simp only [hrest]
    split
    · rw [List.cons_append, List.append_assoc]
    · rfl

theorem getLast?_leadInner (lead cs : List Char) : (leadInner lead cs).getLast? = cs.getLast? := by
  induction cs with
  | nil => rfl
  | cons c cs ih =>
    rw [leadInner, List.getLast?_cons]
    split
    · next h =>
      have hlast := List.getLast?_eq_some_getLast h.2
      rw [List.getLast?_cons, List.getLast?_append, ih, hlast, Option.some_or]
    · rw [List.getLast?_cons, ih]

theorem count_leadInner (hlead : '\n' ∉ lead) (cs : List Char) :
    (leadInner lead cs).count '\n' = cs.count '\n' := by
  induction cs with
  | nil => rfl
  | cons c cs ih =>
    rw [leadInner]
    split
    · rw [List.count_cons, List.count_append, List.count_eq_zero.2 hlead, ih, Nat.zero_add,
        List.count_cons]
    · rw [List.count_cons, ih, List.count_cons]

/-- All rows but the first get the lead. -/
theorem rows_leadInner (hlead : '\n' ∉ lead) (cs : List Char) :
    ∃ row rest, rows cs = row :: rest ∧
      rows (leadInner lead cs) = row :: rest.map (lead ++ ·) := by
  induction cs with
  | nil => exact ⟨[], [], rfl, rfl⟩
  | cons c cs ih =>
    obtain ⟨row, rest, hrows, hled⟩ := ih
    rw [leadInner]
    by_cases hc : c = '\n'
    · subst hc
      by_cases hcs : cs = []
      · subst hcs
        exact ⟨[], [], rfl, rfl⟩
      · refine ⟨[], row :: rest, ?_, ?_⟩
        · rw [rows_newline, if_neg hcs, hrows]
        · rw [if_pos ⟨rfl, hcs⟩, rows_newline, if_neg (append_leadInner_ne_nil hcs lead),
            rows_append hlead, hled]
          rfl
    · refine ⟨c :: row, rest, ?_, ?_⟩
      · rw [rows_cons hc, hrows, List.modifyHead_cons]
      · rw [if_neg fun h => hc h.1, rows_cons hc, hled, List.modifyHead_cons]

end Inner

section Leads

variable {lead : List Char}

theorem leadChars_leadChars (hlead : '\n' ∉ lead) (outer cs : List Char) :
    leadChars outer (leadChars lead cs) = leadChars (outer ++ lead) cs := by
  rw [leadChars, leadChars, leadInner_append hlead, leadInner_leadInner hlead, leadChars,
    List.append_assoc]

theorem leadChars_append {bs : List Char} (hbs : bs ≠ []) (as : List Char) :
    leadChars lead (as ++ ['\n'] ++ bs) = leadChars lead (as ++ ['\n']) ++ leadChars lead bs := by
  rw [List.append_assoc, List.singleton_append, leadChars, leadInner_split hbs, ← List.append_assoc]
  rfl

theorem rows_leadChars (hlead : '\n' ∉ lead) (cs : List Char) :
    rows (leadChars lead cs) = (rows cs).map (lead ++ ·) := by
  obtain ⟨row, rest, hrows, hled⟩ := rows_leadInner hlead cs
  rw [leadChars, rows_append hlead, hled, hrows, List.modifyHead_cons, List.map_cons]

/-- The last line is ended or not, as before. -/
theorem getLast?_leadChars (hlead : '\n' ∉ lead) (cs : List Char) :
    (leadChars lead cs).getLast? = some '\n' ↔ cs.getLast? = some '\n' := by
  rw [leadChars, List.getLast?_append, getLast?_leadInner]
  cases hcs : cs.getLast? with
  | some c => rfl
  | none =>
    rw [Option.none_or]
    exact iff_of_false (fun hlast => hlead (List.mem_of_getLast? hlast)) (by simp)

/-- Every row is led, and the text is the same otherwise. -/
theorem leadChars_eq (hlead : '\n' ∉ lead) (cs : List Char) :
    leadChars lead cs = ofRows (cs.getLast? = some '\n') ((rows cs).map (lead ++ ·)) := by
  rw [← rows_leadChars hlead, ← decide_eq_decide.2 (getLast?_leadChars hlead cs), ofRows_rows]

/-- The text without as many characters at the start of every line. -/
def dropLeads (width : Nat) (text : String) : String :=
  String.ofList (['\n'].intercalate ((text.toList.splitOn '\n').map (List.drop width)))

theorem splitOn_eq_rows (cs : List Char) :
    cs.splitOn '\n' = rows cs ++ if cs.getLast? = some '\n' then [[]] else [] := by
  by_cases h : cs.getLast? = some '\n'
  · obtain ⟨front, rfl⟩ := List.getLast?_eq_some_iff.1 h
    rw [if_pos h, rows, if_pos h, List.dropLast_concat, List.splitOn_append_cons_self]
    rfl
  · rw [if_neg h, rows, if_neg h, List.append_nil]

theorem map_drop_splitOn (hlead : '\n' ∉ lead) (cs : List Char) :
    ((leadChars lead cs).splitOn '\n').map (List.drop lead.length) = cs.splitOn '\n' := by
  have hrows : ((rows cs).map (lead ++ ·)).map (List.drop lead.length) = rows cs := by
    rw [List.map_map]
    refine (List.map_congr_left fun row _ => ?_).trans (List.map_id _)
    exact List.drop_left
  rw [splitOn_eq_rows, rows_leadChars hlead, List.map_append, hrows, splitOn_eq_rows cs]
  congr 1
  simp only [getLast?_leadChars hlead]
  split
  · rw [List.map_singleton, List.drop_nil]
  · rfl

end Leads

/-- A lead without newlines goes in front of every line of a text, and a final newline starts no
further line. So two leads in turn are one, a text that ends a line is led on its own whatever follows
it, and the newlines and the text itself are still there to be read off. -/
theorem leadLines_composes_distributes_lossless {lead : String} (hlead : '\n' ∉ lead.toList) :
    (∀ outer text, leadLines outer (leadLines lead text) = leadLines (outer ++ lead) text) ∧
    (∀ a b, EndsLine a → b ≠ "" → leadLines lead (a ++ b) = leadLines lead a ++ leadLines lead b) ∧
    ∀ text,
      (text.toList = ofRows (EndsLine text) (rows text.toList) ∧
        (∀ row ∈ rows text.toList, '\n' ∉ row) ∧
        (leadLines lead text).toList =
          ofRows (EndsLine text) ((rows text.toList).map (lead.toList ++ ·))) ∧
      (leadLines lead text).toList.count '\n' = text.toList.count '\n' ∧
      dropLeads lead.length (leadLines lead text) = text := by
  refine ⟨fun outer text => ?_, fun a b ha hb => ?_, fun text => ⟨⟨?_, ?_, ?_⟩, ?_, ?_⟩⟩
  · apply String.toList_inj.1
    simp only [leadLines, String.toList_ofList, String.toList_append]
    exact leadChars_leadChars hlead _ _
  · obtain ⟨front, hfront⟩ := ha.exists_chars
    have hbs : b.toList ≠ [] := fun hnil => hb (String.toList_eq_nil_iff.1 hnil)
    apply String.toList_inj.1
    simp only [leadLines, String.toList_append, String.toList_ofList, hfront]
    exact leadChars_append hbs front
  · exact (ofRows_rows text.toList).symm
  · exact fun row => not_mem_of_mem_splitOn
  · rw [leadLines, String.toList_ofList]
    exact leadChars_eq hlead text.toList
  · rw [leadLines, String.toList_ofList, leadChars, List.count_append, List.count_eq_zero.2 hlead,
      Nat.zero_add, count_leadInner hlead]
  · rw [dropLeads, leadLines, String.toList_ofList, ← String.length_toList, map_drop_splitOn hlead,
      List.intercalate_splitOn, String.ofList_toList]

theorem commented_lines_indented :
    leadLines "  " (leadLines "// " "a\n\nb\n") = leadLines "  // " "a\n\nb\n" ∧
      leadLines "// " ("a\n" ++ "\n") = "// a\n" ++ "// \n" ∧
      rows "a\n\nb\n".toList = [['a'], [], ['b']] ∧
      leadLines "// " "a\n\nb\n" = "// a\n// \n// b\n" ∧
      dropLeads 3 "// a\n// \n// b\n" = "a\n\nb\n" := by
  have hlead : '\n' ∉ "// ".toList := by decide
  obtain ⟨hcompose, hdistribute, hled⟩ := leadLines_composes_distributes_lossless hlead
  have htext : leadLines "// " "a\n\nb\n" = "// a\n// \n// b\n" := by decide
  refine ⟨hcompose "  " _, ?_, by decide, htext, htext ▸ (hled "a\n\nb\n").2.2⟩
  exact hdistribute "a\n" "\n" (by decide) (by decide)

end BlockCode.Text
