import BlockCode.Proofs.Text.Closing
import BlockCode.Proofs.Text.Replacement

namespace BlockCode.Text

section Reading

/-- Whether a line is still in its margin behind the character, if it is in front of it. -/
def staysIn (margin : Bool) (c : Char) : Bool :=
  c == '\n' || margin && isBlank c

/-- Whether a text ends in the margin of a line, if it starts in one. -/
def endsIn (margin : Bool) (cs : List Char) : Bool :=
  cs.foldl staysIn margin

/-- A text without the margins of its lines; the first one may have ended before. -/
def dropMargins (margin : Bool) : List Char → List Char
  | [] => []
  | c :: cs =>
    if margin = true ∧ isBlank c = true ∧ c ≠ '\n' then dropMargins true cs
    else c :: dropMargins (staysIn margin c) cs

variable {margin : Bool} {cs ds : List Char}

theorem staysIn_newline : staysIn margin '\n' = true := by
  simp [staysIn]

theorem staysIn_blank {c : Char} (hc : isBlank c = true) : staysIn true c = true := by
  simp [staysIn, hc]

theorem staysIn_mono {m n : Bool} (hmn : m = true → n = true) {c : Char}
    (h : staysIn m c = true) : staysIn n c = true := by
  simp only [staysIn, Bool.or_eq_true, Bool.and_eq_true] at h ⊢
  exact h.imp_right fun h => ⟨hmn h.1, h.2⟩

@[simp] theorem endsIn_nil : endsIn margin [] = margin := rfl

theorem endsIn_cons (c : Char) : endsIn margin (c :: cs) = endsIn (staysIn margin c) cs := rfl

theorem endsIn_append : endsIn margin (cs ++ ds) = endsIn (endsIn margin cs) ds :=
  List.foldl_append

theorem dropMargins_blank {c : Char} (hc : isBlank c = true) (hn : c ≠ '\n') :
    dropMargins true (c :: cs) = dropMargins true cs := by
  rw [dropMargins, if_pos ⟨rfl, hc, hn⟩]

theorem dropMargins_keep {c : Char} (h : ¬ (margin = true ∧ isBlank c = true ∧ c ≠ '\n')) :
    dropMargins margin (c :: cs) = c :: dropMargins (staysIn margin c) cs := by
  rw [dropMargins, if_neg h]

theorem dropMargins_append :
    dropMargins margin (cs ++ ds) = dropMargins margin cs ++ dropMargins (endsIn margin cs) ds := by
  induction cs generalizing margin with
  | nil => rfl
  | cons c cs ih =>
    rw [List.cons_append, endsIn_cons]
    by_cases h : margin = true ∧ isBlank c = true ∧ c ≠ '\n'
    · obtain ⟨rfl, hc, hn⟩ := h
      rw [dropMargins_blank hc hn, dropMargins_blank hc hn, staysIn_blank hc, ih]
    · rw [dropMargins_keep h, dropMargins_keep h, ih, List.cons_append]

/-- A text that ends in a margin does so all the more if it starts in one. -/
theorem endsIn_mono {m n : Bool} (hmn : m = true → n = true) (h : endsIn m cs = true) :
    endsIn n cs = true := by
  induction cs generalizing m n with
  | nil => exact hmn h
  | cons c cs ih => exact ih (staysIn_mono hmn) h

theorem endsIn_of_false (h : endsIn false cs = true) : endsIn margin cs = true :=
  endsIn_mono (m := false) nofun h

theorem endsIn_of_endsLine (h : cs.getLast? = some '\n') : endsIn margin cs = true := by
  obtain ⟨front, rfl⟩ := List.getLast?_eq_some_iff.1 h
  rw [endsIn_append]
  rfl

theorem endsIn_of_ink {c : Char} (hc : isBlank c = false) : endsIn margin (cs ++ [c]) = false := by
  have hn : c ≠ '\n' := by
    rintro rfl
    cases hc
  rw [endsIn_append, endsIn_cons, endsIn_nil]
  simp [staysIn, hc, hn]

/-- Nothing is lost by leaving out margins first. -/
theorem dropMargins_dropMargins {m n : Bool} (hmn : m = true → n = true) :
    dropMargins n (dropMargins m cs) = dropMargins n cs ∧
      endsIn n (dropMargins m cs) = endsIn n cs := by
  induction cs generalizing m n with
  | nil => exact ⟨rfl, rfl⟩
  | cons c cs ih =>
    by_cases h : m = true ∧ isBlank c = true ∧ c ≠ '\n'
    · obtain ⟨rfl, hc, hn⟩ := h
      obtain rfl := hmn rfl
      rw [dropMargins_blank hc hn, endsIn_cons, staysIn_blank hc]
      exact ih fun _ => rfl
    · obtain ⟨hdrop, hends⟩ := ih (staysIn_mono hmn (c := c))
      rw [dropMargins_keep h, endsIn_cons, endsIn_cons, hends, dropMargins, dropMargins]
      refine ⟨?_, rfl⟩
      by_cases hn : n = true ∧ isBlank c = true ∧ c ≠ '\n'
      · obtain ⟨rfl, hc, -⟩ := id hn
        rw [if_pos hn, if_pos hn, ← staysIn_blank hc, hdrop]
      · rw [if_neg hn, if_neg hn, hdrop]

end Reading

section Leads

/-- White space for the margin of a line. -/
def IsMargin (lead : List Char) : Prop :=
  ∀ c ∈ lead, isBlank c = true ∧ c ≠ '\n'

instance (lead : List Char) : Decidable (IsMargin lead) :=
  List.decidableBAll (fun c => isBlank c = true ∧ c ≠ '\n') lead

theorem IsMargin.isBare {lead : List Char} (h : IsMargin lead) : isBare lead = true :=
  List.all_eq_true.2 fun c hc => (h c hc).1

/-- A unit of indentation that stays on its line. -/
structure Margin where
  text : String
  isMargin : IsMargin text.toList

variable {lead cs : List Char} (hlead : IsMargin lead)
include hlead

theorem dropMargins_lead : dropMargins true (lead ++ cs) = dropMargins true cs := by
  induction lead with
  | nil => rfl
  | cons c lead ih =>
    have hlead := List.forall_mem_cons.1 hlead
    rw [List.cons_append, dropMargins_blank hlead.1.1 hlead.1.2, ih hlead.2]

theorem endsIn_lead : endsIn true lead = true := by
  induction lead with
  | nil => rfl
  | cons c lead ih =>
    have hlead := List.forall_mem_cons.1 hlead
    rw [endsIn_cons, staysIn_blank hlead.1.1, ih hlead.2]

theorem dropMargins_leadInner {margin : Bool} :
    dropMargins margin (leadInner lead cs) = dropMargins margin cs ∧
      endsIn margin (leadInner lead cs) = endsIn margin cs := by
  induction cs generalizing margin with
  | nil => exact ⟨rfl, rfl⟩
  | cons c cs ih =>
    rw [leadInner]
    split
    · next h =>
      obtain ⟨rfl, -⟩ := h
      have hkeep : ¬ (margin = true ∧ isBlank '\n' = true ∧ '\n' ≠ '\n') := fun h => h.2.2 rfl
      rw [dropMargins_keep hkeep, dropMargins_keep hkeep, endsIn_cons, endsIn_cons, staysIn_newline,
        dropMargins_lead hlead, endsIn_append, endsIn_lead hlead, ih.1, ih.2]
      exact ⟨rfl, rfl⟩
    · rw [dropMargins, dropMargins, endsIn_cons, endsIn_cons, ih.1, ih.1, ih.2]
      exact ⟨rfl, rfl⟩

theorem dropMargins_leadChars :
    dropMargins true (leadChars lead cs) = dropMargins true cs ∧
      endsIn true (leadChars lead cs) = endsIn true cs := by
  rw [leadChars, dropMargins_lead hlead, endsIn_append, endsIn_lead hlead]
  exact dropMargins_leadInner hlead

end Leads

section Lines

theorem splitOn_newline (cs : List Char) :
    ('\n' :: cs).splitOn '\n' = [] :: cs.splitOn '\n' := by
  rw [List.splitOn, List.splitOnP_cons_eq_if_modifyHead, if_pos (by rfl)]
  rfl

theorem splitOn_cons {c : Char} (hc : c ≠ '\n') (cs : List Char) :
    (c :: cs).splitOn '\n' = (cs.splitOn '\n').modifyHead (List.cons c) := by
  rw [List.splitOn, List.splitOnP_cons_eq_if_modifyHead, if_neg (by simpa using hc)]
  rfl

theorem trimStart_blank {c : Char} (hc : isBlank c = true) (l : List Char) :
    trimStart (c :: l) = trimStart l :=
  List.dropWhile_cons_of_pos hc

theorem trimStart_ink {c : Char} (hc : isBlank c = false) (l : List Char) :
    trimStart (c :: l) = c :: l :=
  List.dropWhile_cons_of_neg (by simp [hc])

/-- Lines without their margins; the margin of the first may have ended before. -/
def trimMargins (margin : Bool) : List (List Char) → List (List Char)
  | [] => []
  | l :: ls => (if margin then trimStart l else l) :: ls.map trimStart

theorem trimMargins_true (ls : List (List Char)) : trimMargins true ls = ls.map trimStart := by
  cases ls <;> rfl

theorem splitOn_dropMargins (margin : Bool) (cs : List Char) :
    (dropMargins margin cs).splitOn '\n' = trimMargins margin (cs.splitOn '\n') := by
  induction cs generalizing margin with
  | nil => cases margin <;> rfl
  | cons c cs ih =>
    obtain ⟨l, ls, hls⟩ := List.exists_cons_of_ne_nil (List.splitOn_ne_nil '\n' cs)
    by_cases h : margin = true ∧ isBlank c = true ∧ c ≠ '\n'
    · obtain ⟨rfl, hc, hn⟩ := h
      rw [dropMargins_blank hc hn, ih, splitOn_cons hn, hls, List.modifyHead_cons, trimMargins,
        trimMargins, if_pos rfl, if_pos rfl, trimStart_blank hc]
    · rw [dropMargins_keep h]
      by_cases hn : c = '\n'
      · subst hn
        rw [splitOn_newline, splitOn_newline, staysIn_newline, ih, trimMargins_true, trimMargins]
        cases margin <;> rfl
      · have hink : margin = true → isBlank c = false := by simpa [hn] using h
        have hstays : staysIn margin c = false := by
          cases margin with
          | false => simp [staysIn, hn]
          | true => simp [staysIn, hn, hink]
        rw [splitOn_cons hn, splitOn_cons hn, hstays, ih, hls, trimMargins, List.modifyHead_cons,
          List.modifyHead_cons, trimMargins, if_neg Bool.false_ne_true]
        cases margin with
        | false => rfl
        | true => rw [if_pos rfl, trimStart_ink (hink rfl)]

/-- The lines of a closed text, and behind the last newline nothing. -/
theorem splitOn_eq (cs : List Char) :
    cs.splitOn '\n' = lines cs ++ if cs = [] ∨ cs.getLast? = some '\n' then [[]] else [] := by
  induction cs with
  | nil => rfl
  | cons c cs ih =>
    have hlast : (c :: cs = [] ∨ (c :: cs).getLast? = some '\n') ↔
        if cs = [] then c = '\n' else cs.getLast? = some '\n' := by
      cases cs <;> simp
    by_cases hc : c = '\n'
    · subst hc
      have hsame : ('\n' :: cs = [] ∨ ('\n' :: cs).getLast? = some '\n') ↔
          (cs = [] ∨ cs.getLast? = some '\n') := by
        rw [hlast]
        split
        · next h => simp [h]
        · next h => simp [h]
      rw [splitOn_newline, ih, lines, if_pos rfl, List.cons_append]
      simp only [hsame]
    · rw [splitOn_cons hc, ih, lines, if_neg hc]
      simp only [hlast]
      cases hls : lines cs with
      | nil =>
        rw [lines_eq_nil hls]
        simp [hc]
      | cons l ls =>
        have hne : cs ≠ [] := by
          rintro rfl
          cases hls
        simp [hne]

end Lines

section Layout

theorem trimStart_eq_nil {l : List Char} : trimStart l = [] ↔ isBare l = true := by
  rw [trimStart, List.dropWhile_eq_nil_iff, isBare, List.all_eq_true]

/-- Trimming a line at its end does not touch its margin. -/
theorem trimStart_rdropWhile {p : Char → Bool} (hp : ∀ c, p c = true → isBlank c = true)
    (l : List Char) : trimStart (l.rdropWhile p) = (trimStart l).rdropWhile p := by
  induction l with
  | nil => rfl
  | cons c l ih =>
    cases hc : isBlank c with
    | true =>
      rw [trimStart_blank hc, ← ih, rdropWhile_cons]
      cases hall : l.all p with
      | true =>
        have hone : trimStart ([c].rdropWhile p) = [] := by
          rw [trimStart_eq_nil, isBare, List.all_eq_true]
          intro d hd
          rw [List.mem_singleton.1 ((List.rdropWhile_prefix p [c]).mem hd), hc]
        rw [if_pos rfl, hone, rdropWhile_eq_nil.2 hall]
        rfl
      | false => rw [if_neg Bool.false_ne_true, trimStart_blank hc]
    | false =>
      have hkeep : ¬ p c = true := fun hpc => by rw [hp c hpc] at hc; cases hc
      obtain ⟨m, hm⟩ : ∃ m, (c :: l).rdropWhile p = c :: m := by
        rw [rdropWhile_cons, List.rdropWhile_singleton, if_neg hkeep]
        split
        · exact ⟨[], rfl⟩
        · exact ⟨_, rfl⟩
      rw [trimStart_ink hc, hm, trimStart_ink hc]

theorem trimStart_trimGaps (l : List Char) : trimStart (trimGaps l) = trimGaps (trimStart l) :=
  trimStart_rdropWhile (fun _ => isBlank_of_isGap) l

theorem trimStart_trimEnd (l : List Char) : trimStart (trimEnd l) = trimEnd (trimStart l) :=
  trimStart_rdropWhile (fun _ hc => hc) l

theorem isBare_trimStart (l : List Char) : isBare (trimStart l) = isBare l := by
  rw [Bool.eq_iff_iff, ← trimStart_eq_nil, ← trimStart_eq_nil, trimStart, trimStart,
    List.dropWhile_idempotent]

theorem stripped_map_trimStart (ls : List (List Char)) :
    stripped (ls.map trimStart) = (stripped ls).map trimStart := by
  have hbare : isBare ∘ trimStart = isBare := funext isBare_trimStart
  rw [stripped, stripped, List.dropWhile_map, hbare, List.rdropWhile, List.rdropWhile,
    ← List.map_reverse, List.dropWhile_map, hbare, List.map_reverse]

theorem trimLines_map_trimStart (ls : List (List Char)) :
    trimLines (ls.map trimStart) = (trimLines ls).map trimStart := by
  rcases List.eq_nil_or_concat ls with rfl | ⟨ms, l, rfl⟩
  · rfl
  · have hgaps : trimGaps ∘ trimStart = trimStart ∘ trimGaps :=
      funext fun l => (trimStart_trimGaps l).symm
    rw [List.concat_eq_append, List.map_append, List.map_singleton, trimLines_concat,
      trimLines_concat, List.map_append, List.map_map, List.map_map, hgaps, List.map_singleton,
      trimStart_trimEnd]

theorem stripped_splitOn (cs : List Char) : stripped (cs.splitOn '\n') = stripped (lines cs) := by
  rw [splitOn_eq]
  split
  · have hbare : isBare [] = true := rfl
    rw [stripped, stripped, List.dropWhile_append]
    split
    · next hnil =>
      rw [List.isEmpty_iff.1 hnil]
      rfl
    · rw [List.rdropWhile_concat_pos _ _ _ hbare]
  · rw [List.append_nil]

/-- A text is laid out line by line, margins apart. -/
theorem splitOn_layout (text : String) :
    (layout text).toList.splitOn '\n' =
      trimLines (stripped (text.toList.splitOn '\n')) ++ [[]] := by
  have hclosed : (layout text).toList = [] ∨ (layout text).toList.getLast? = some '\n' := by
    rw [layout, String.toList_ofList, layoutChars]
    split
    · exact .inl rfl
    · exact .inr (by simp)
  rw [splitOn_eq, if_pos hclosed, lines_layout, stripped_splitOn]

theorem trimStart_layout {a b : String}
    (h : dropMargins true a.toList = dropMargins true b.toList) :
    ((layout a).toList.splitOn '\n').map trimStart =
      ((layout b).toList.splitOn '\n').map trimStart := by
  have hlines : (a.toList.splitOn '\n').map trimStart = (b.toList.splitOn '\n').map trimStart := by
    rw [← trimMargins_true, ← trimMargins_true, ← splitOn_dropMargins, ← splitOn_dropMargins, h]
  rw [splitOn_layout, splitOn_layout, List.map_append, List.map_append, ← trimLines_map_trimStart,
    ← trimLines_map_trimStart, ← stripped_map_trimStart, ← stripped_map_trimStart, hlines]

end Layout

section Counting

/-- How often a character stands in lines, their margins apart. -/
def tally (x : Char) (ls : List (List Char)) : Nat :=
  (ls.map trimStart).flatten.count x

variable {x : Char}

theorem tally_append (ls ms : List (List Char)) :
    tally x (ls ++ ms) = tally x ls + tally x ms := by
  rw [tally, List.map_append, List.flatten_append, List.count_append, tally, tally]

theorem tally_splitOn (hx : x ≠ '\n') (cs : List Char) :
    tally x (cs.splitOn '\n') = (dropMargins true cs).count x := by
  have hcount : ∀ ds : List Char, (ds.splitOn '\n').flatten.count x = ds.count x := by
    intro ds
    induction ds with
    | nil => rfl
    | cons d ds ih =>
      by_cases hd : d = '\n'
      · rw [hd, splitOn_newline, List.flatten_cons, List.nil_append, ih,
          List.count_cons_of_ne hx.symm]
      · obtain ⟨l, ls, hls⟩ := List.exists_cons_of_ne_nil (List.splitOn_ne_nil '\n' ds)
        rw [splitOn_cons hd, hls, List.modifyHead_cons, List.flatten_cons, List.cons_append,
          List.count_cons, List.count_cons, ← ih, hls, List.flatten_cons]
  rw [tally, ← trimMargins_true, ← splitOn_dropMargins, hcount]

/-- Bare lines are all margin. -/
theorem tally_dropWhile_isBare (ls : List (List Char)) :
    tally x (ls.dropWhile isBare) = tally x ls := by
  induction ls with
  | nil => rfl
  | cons l ls ih =>
    rw [List.dropWhile_cons]
    split
    · next hbare =>
      rw [ih, tally, tally, List.map_cons, trimStart_eq_nil.2 hbare, List.flatten_cons,
        List.nil_append]
    · rfl

theorem tally_map_trimGaps (hx : isGap x = false) (ls : List (List Char)) :
    tally x (ls.map trimGaps) = tally x ls := by
  have hcount : ∀ l : List Char, (trimGaps l).count x = l.count x := by
    intro l
    have hgap : x ∉ l.rtakeWhile isGap := fun h => by
      rw [List.mem_rtakeWhile_imp h] at hx
      cases hx
    conv_rhs => rw [← List.rdropWhile_append_rtakeWhile (p := isGap) (l := l), List.count_append,
      List.count_eq_zero.2 hgap]
    rfl
  rw [tally, tally, List.count_flatten, List.count_flatten, List.map_map, List.map_map, List.map_map]
  refine congrArg List.sum (List.map_congr_left fun l _ => ?_)
  rw [Function.comp, Function.comp, Function.comp, trimStart_trimGaps, hcount]

/-- The layout of a text that ends with ink loses margins, spaces and tabs, but no other white space.
-/
theorem tally_layout (hx : x ≠ '\n') (hgap : isGap x = false) {a : String} (h : EndsInk a) :
    tally x ((layout (a ++ "\n")).toList.splitOn '\n') =
      (dropMargins true (a ++ "\n").toList).count x := by
  obtain ⟨as, l, hlines, hink, htrim⟩ := h.lines_eq
  have hlayout : trimLines (stripped (lines (a ++ "\n").toList)) =
      (as.dropWhile isBare ++ [l]).map trimGaps := by
    rw [hlines, stripped_ink as hink rfl, trimLines_concat, List.map_append, List.map_singleton, htrim]
  have hclosed : (a ++ "\n").toList = [] ∨ (a ++ "\n").toList.getLast? = some '\n' :=
    .inr (endsLine_newline a)
  rw [splitOn_layout, stripped_splitOn, hlayout, tally_append, tally_map_trimGaps hgap, tally_append,
    tally_dropWhile_isBare, ← tally_append, ← hlines, ← tally_append, ← tally_splitOn hx, splitOn_eq,
    if_pos hclosed]

end Counting

section Pieces

/-- Texts one behind the other, with the lead in front of every line. -/
def leadAll (lead : List Char) (ps : List (List Char)) : List Char :=
  ps.flatMap (leadChars lead)

/-- How many of the texts start in the middle of a line. -/
def breaks (margin : Bool) : List (List Char) → Nat
  | [] => 0
  | p :: ps => (if margin then 0 else 1) + breaks (endsIn margin p) ps

section Break

variable {x : Char} (hblank : isBlank x = true) (hx : x ≠ '\n')
include hblank hx

/-- Where a text starts in the middle of a line, its lead stays. -/
theorem count_lead (margin : Bool) (p : List Char) :
    (dropMargins margin (leadChars [x] p)).count x =
        (dropMargins margin p).count x + (if margin then 0 else 1) ∧
      endsIn margin (leadChars [x] p) = endsIn margin p := by
  have hlead : IsMargin [x] := by simp [IsMargin, hblank, hx]
  cases margin with
  | true => simp [dropMargins_leadChars hlead]
  | false =>
    have hstays : staysIn false x = false := by simp [staysIn, hx]
    have hcons : leadChars [x] p = x :: leadInner [x] p := rfl
    rw [hcons, dropMargins_keep (by simp), endsIn_cons, hstays, (dropMargins_leadInner hlead).1,
      (dropMargins_leadInner hlead).2, List.count_cons_self]
    simp

theorem count_leadAll (margin : Bool) (ps : List (List Char)) :
    (dropMargins margin (leadAll [x] ps)).count x =
        (dropMargins margin (leadAll [] ps)).count x + breaks margin ps ∧
      endsIn margin (leadAll [x] ps) = endsIn margin (leadAll [] ps) := by
  induction ps generalizing margin with
  | nil => exact ⟨rfl, rfl⟩
  | cons p ps ih =>
    obtain ⟨hcount, hends⟩ := count_lead hblank hx margin p
    have hnone : IsMargin [] := by simp [IsMargin]
    obtain ⟨hplain, hplainEnds⟩ : dropMargins margin (leadChars [] p) = dropMargins margin p ∧
        endsIn margin (leadChars [] p) = endsIn margin p := dropMargins_leadInner hnone
    obtain ⟨hrest, hrestEnds⟩ := ih (endsIn margin p)
    have hcons : ∀ lead, leadAll lead (p :: ps) = leadChars lead p ++ leadAll lead ps :=
      fun _ => List.flatMap_cons
    rw [hcons, hcons, dropMargins_append, dropMargins_append, endsIn_append, endsIn_append, hends,
      hplain, hplainEnds, List.count_append, List.count_append, hcount, hrest, hrestEnds, breaks]
    exact ⟨by omega, rfl⟩

/-- The same for texts between whole lines in front of them and anything behind them. -/
theorem count_between {a b front back : String} (hfront : EndsLine front) {ps : List (List Char)}
    (ha : a.toList = leadAll [x] ps) (hb : b.toList = leadAll [] ps) :
    (dropMargins true (front ++ a ++ back).toList).count x =
      (dropMargins true (front ++ b ++ back).toList).count x + breaks true ps := by
  obtain ⟨hcount, hends⟩ := count_leadAll hblank hx true ps
  simp only [String.toList_append, dropMargins_append, endsIn_append, endsIn_of_endsLine hfront, ha,
    hb, List.count_append, hcount, hends]
  omega

end Break

/-- If none but the last text may start in the middle of a line, the others leave their last lines
blank. -/
theorem endsIn_of_breaks {ps : List (List Char)} {q : List Char}
    (h : breaks true (ps ++ [q]) = 0) : ∀ p ∈ ps, endsIn true p = true := by
  induction ps with
  | nil => exact fun _ hp => nomatch hp
  | cons p ps ih =>
    rw [List.cons_append, breaks, if_pos rfl, Nat.zero_add] at h
    have hp : endsIn true p = true := by
      cases hends : endsIn true p with
      | true => rfl
      | false =>
        rw [hends] at h
        cases ps with
        | nil => simp [breaks] at h
        | cons p' ps => simp [breaks] at h
    rw [hp] at h
    exact List.forall_mem_cons.2 ⟨hp, ih h⟩

end Pieces

section Replacement

/-- What is replaced has ink at its end, and so has what it is replaced by: the last line of the text
is blank afterwards if it was before. -/
theorem Replaces.endsIn_eq {pattern replacement cs out : List Char} {c d : Char}
    (hc : isBlank c = false) (hd : isBlank d = false)
    (h : Replaces (pattern ++ [c]) (replacement ++ [d]) cs out) (margin : Bool) :
    endsIn margin out = endsIn margin cs := by
  induction h generalizing margin with
  | none h => rfl
  | @first before behind out h _ ih =>
    have hnew : endsIn margin (before ++ (replacement ++ [d])) = false := by
      rw [← List.append_assoc]
      exact endsIn_of_ink hd
    have hold : endsIn margin (before ++ (pattern ++ [c])) = false := by
      rw [← List.append_assoc]
      exact endsIn_of_ink hc
    calc endsIn margin (before ++ (replacement ++ [d]) ++ out)
        = endsIn false out := by rw [endsIn_append, hnew]
      _ = endsIn false behind := ih false
      _ = endsIn margin (before ++ (pattern ++ [c]) ++ behind) := by rw [endsIn_append, hold]

end Replacement

section Texts

/-- The same text up to the margins of its lines, whatever stands in front of it. -/
def Aligned (a b : String) : Prop :=
  dropMargins false a.toList = dropMargins false b.toList

/-- The same lines up to their margins. -/
def AlignedLines (a b : String) : Prop :=
  dropMargins true a.toList = dropMargins true b.toList

variable {a b d x y : String}

theorem Aligned.refl (a : String) : Aligned a a := rfl

theorem dropMargins_false (margin : Bool) (cs : List Char) :
    dropMargins margin (dropMargins false cs) = dropMargins margin cs ∧
      endsIn margin (dropMargins false cs) = endsIn margin cs :=
  dropMargins_dropMargins nofun

theorem Aligned.dropMargins_eq (h : Aligned a b) (margin : Bool) :
    dropMargins margin a.toList = dropMargins margin b.toList := by
  rw [← (dropMargins_false margin a.toList).1, h, (dropMargins_false margin b.toList).1]

theorem Aligned.endsIn_eq (h : Aligned a b) (margin : Bool) :
    endsIn margin a.toList = endsIn margin b.toList := by
  rw [← (dropMargins_false margin a.toList).2, h, (dropMargins_false margin b.toList).2]

theorem Aligned.lines (h : Aligned a b) : AlignedLines a b :=
  h.dropMargins_eq true

theorem Aligned.append (h : Aligned a b) (hxy : Aligned x y) : Aligned (a ++ x) (b ++ y) := by
  unfold Aligned
  rw [String.toList_append, String.toList_append, dropMargins_append, dropMargins_append, h,
    h.endsIn_eq, hxy.dropMargins_eq]

/-- Behind a newline there is room for lines. -/
theorem Aligned.body (h : Aligned a b) (hd : EndsLine d) (hxy : AlignedLines x y) :
    Aligned (a ++ d ++ x) (b ++ d ++ y) := by
  have hfront : Aligned (a ++ d) (b ++ d) := h.append (.refl d)
  unfold Aligned
  rw [String.toList_append (s := a ++ d), String.toList_append (s := b ++ d), dropMargins_append,
    dropMargins_append, hfront, endsIn_of_endsLine (hd.append a), endsIn_of_endsLine (hd.append b),
    hxy]

theorem Aligned.head?_eq (h : Aligned a b) : a.toList.head? = b.toList.head? := by
  have hhead : ∀ cs : List Char, (dropMargins false cs).head? = cs.head? := by
    intro cs
    cases cs with
    | nil => rfl
    | cons c cs => rw [dropMargins_keep (by simp), List.head?_cons, List.head?_cons]
  rw [← hhead, h, hhead]

theorem AlignedLines.endsIn_eq (h : AlignedLines a b) :
    endsIn true a.toList = endsIn true b.toList := by
  rw [← (dropMargins_dropMargins (m := true) fun _ => rfl).2, h,
    (dropMargins_dropMargins fun _ => rfl).2]

/-- Lines behind lines, of which the last is blank so far. -/
theorem AlignedLines.append (h : AlignedLines a b) (ha : endsIn true a.toList = true)
    (hxy : AlignedLines x y) : AlignedLines (a ++ x) (b ++ y) := by
  unfold AlignedLines
  rw [String.toList_append, String.toList_append, dropMargins_append, dropMargins_append, h,
    ← h.endsIn_eq, ha, hxy]

section Leads

variable {i j : String} (hi : IsMargin i.toList) (hj : IsMargin j.toList)
include hi

theorem endsIn_leadLines (a : String) :
    endsIn true (leadLines i a).toList = endsIn true a.toList := by
  rw [leadLines, String.toList_ofList]
  exact (dropMargins_leadChars hi).2

include hj

theorem Aligned.leadLines (h : Aligned a b) : AlignedLines (leadLines i a) (leadLines j b) := by
  unfold AlignedLines Text.leadLines
  rw [String.toList_ofList, String.toList_ofList, (dropMargins_leadChars hi).1,
    (dropMargins_leadChars hj).1]
  exact h.dropMargins_eq true

theorem Aligned.indented (h : Aligned a b) : AlignedLines (i ++ a) (j ++ b) := by
  unfold AlignedLines
  rw [String.toList_append, String.toList_append, dropMargins_lead hi, dropMargins_lead hj]
  exact h.dropMargins_eq true

end Leads

end Texts

end BlockCode.Text
