import BlockCode.Proofs.Run.Programs
import BlockCode.Proofs.Run.Trees
import BlockCode.Proofs.Text.Margin
import BlockCode.Session

namespace BlockCode

open Text

namespace Text

section Marks

theorem HasMark.append_left {a : String} (h : HasMark a) (b : String) : HasMark (a ++ b) := by
  unfold HasMark at h ⊢
  rw [String.toList_append, List.any_append, h, Bool.true_or]

theorem HasMark.append_right {b : String} (h : HasMark b) (a : String) : HasMark (a ++ b) := by
  unfold HasMark at h ⊢
  rw [String.toList_append, List.any_append, h, Bool.or_true]

theorem mem_dropWhile {α : Type} {p : α → Bool} {c : α} {cs : List α} (hc : p c = false)
    (h : c ∈ cs) : c ∈ cs.dropWhile p := by
  rw [← List.takeWhile_append_dropWhile (p := p) (l := cs), List.mem_append] at h
  refine h.resolve_left fun hmem => ?_
  rw [List.mem_takeWhile_imp hmem] at hc
  cases hc

theorem mem_trim {c : Char} {cs : List Char} (hc : isBlank c = false) (h : c ∈ cs) :
    c ∈ trim cs := by
  rw [trim, trimEnd, List.mem_reverse]
  exact mem_dropWhile hc (List.mem_reverse.2 (mem_dropWhile hc h))

/-- Nothing but digits and points stands in a decimal. -/
theorem isDigit_of_isPlainDecimal {cs : List Char} (h : Operand.isPlainDecimal cs = true) :
    ∀ c ∈ cs, isDigit c = true ∨ c = '.' := by
  intro c hc
  by_cases hd : isDigit c = true
  · exact .inl hd
  · have hrest := mem_dropWhile (by simpa using hd) hc
    simp only [Operand.isPlainDecimal, Bool.and_eq_true] at h
    obtain ⟨-, h⟩ := h
    split at h
    · next hnil => rw [hnil] at hrest; cases hrest
    · next fraction hpoint =>
      rw [hpoint, List.mem_cons] at hrest
      rcases hrest with rfl | hrest
      · exact .inr rfl
      · rw [Bool.and_eq_true, List.all_eq_true] at h
        exact (hd (h.2 c hrest)).elim
    · cases h

/-- Marks are no part of names. -/
theorem isName_of_mark {a : String} {c : Char} (hc : isMark c = true) (h : c ∈ a.toList) :
    Operand.isName a = false := by
  have hword : c ≠ '\n' ∧ c.isAlpha = false ∧ (c == '_') = false ∧ isWord c = false := by
    simp only [isMark, Bool.or_eq_true, beq_iff_eq] at hc
    rcases hc with (rfl | rfl) | rfl <;> decide +kernel
  obtain ⟨hn, halpha, hline, hword⟩ := hword
  unfold Operand.isName
  have hmem : c ∈ if a.toList.getLast? = some '\n' then a.toList.dropLast else a.toList := by
    split
    · next hlast =>
      obtain ⟨front, hfront⟩ := List.getLast?_eq_some_iff.1 hlast
      rw [hfront, List.mem_append, List.mem_singleton] at h
      rw [hfront, List.dropLast_concat]
      exact h.resolve_right hn
    · exact h
  dsimp only
  generalize (if a.toList.getLast? = some '\n' then a.toList.dropLast else a.toList) = cs at hmem ⊢
  cases cs with
  | nil => rfl
  | cons d rest =>
    rcases List.mem_cons.1 hmem with rfl | hmem
    · simp [halpha, hline]
    · have hall : rest.all isWord = false := by
        rw [← Bool.not_eq_true, List.all_eq_true]
        exact fun hall => by simp [hall c hmem] at hword
      simp [hall]

/-- Marks are no part of numbers. -/
theorem isNumber_of_mark {a : String} {c : Char} (hc : isMark c = true) (h : c ∈ a.toList) :
    Operand.isNumber a = false := by
  have hnumber : c ≠ '-' ∧ c ≠ '.' ∧ isBlank c = false ∧ isDigit c = false := by
    simp only [isMark, Bool.or_eq_true, beq_iff_eq] at hc
    rcases hc with (rfl | rfl) | rfl <;> decide
  obtain ⟨hminus, hpoint, hblank, hdigit⟩ := hnumber
  have hmem : c ∈ Operand.dropMinus (trim a.toList) := by
    have htrim := mem_trim hblank h
    unfold Operand.dropMinus
    split
    · next hcs =>
      rw [hcs, List.mem_cons] at htrim
      exact htrim.resolve_left hminus
    · exact htrim
  rw [Operand.isNumber, ← Bool.not_eq_true]
  intro hdecimal
  rcases isDigit_of_isPlainDecimal hdecimal c hmem with hd | hd
  · rw [hd] at hdigit
    cases hdigit
  · exact hpoint hd

theorem HasMark.isSimple_eq_false {a : String} (h : HasMark a) : Operand.isSimple a = false := by
  obtain ⟨c, hmem, hc⟩ := List.any_eq_true.1 h
  rw [Operand.isSimple, isName_of_mark hc hmem, isNumber_of_mark hc hmem, Bool.or_false]

end Marks

/-- The same text up to margins; where it is not the same, it is neither a name nor a number. -/
def Alike (a b : String) : Prop :=
  Aligned a b ∧ (a = b ∨ HasMark a ∧ HasMark b)

theorem Alike.refl (a : String) : Alike a a :=
  ⟨.refl a, .inl rfl⟩

theorem Alike.append {a b x y : String} (h : Alike a b) (hxy : Alike x y) :
    Alike (a ++ x) (b ++ y) := by
  refine ⟨h.1.append hxy.1, ?_⟩
  rcases h.2 with rfl | hmark
  · rcases hxy.2 with rfl | hmark
    · exact .inl rfl
    · exact .inr ⟨hmark.1.append_right _, hmark.2.append_right _⟩
  · exact .inr ⟨hmark.1.append_left _, hmark.2.append_left _⟩

theorem Alike.eq_of_isSimple {a b : String} (h : Alike a b)
    (hsimple : Operand.isSimple a = true ∨ Operand.isSimple b = true) : a = b := by
  rcases h.2 with heq | hmark
  · exact heq
  · rw [hmark.1.isSimple_eq_false, hmark.2.isSimple_eq_false] at hsimple
    simp at hsimple

/-- The lines of a body behind what opens it. -/
theorem Alike.body {a b d x y : String} (h : Alike a b) (hd : OpensBody d)
    (hxy : AlignedLines x y) : Alike (a ++ d ++ x) (b ++ d ++ y) :=
  ⟨h.1.body hd.1 hxy, .inr ⟨(hd.2.append_right a).append_left x, (hd.2.append_right b).append_left y⟩⟩

/-- Behind its last newline the text has nothing but white space. -/
def EndsBlank (s : String) : Prop :=
  (s.toList.reverse.takeWhile (· ≠ '\n')).all isBlank = true

instance (s : String) : Decidable (EndsBlank s) :=
  inferInstanceAs (Decidable (_ = true))

theorem endsIn_true_eq (cs : List Char) :
    endsIn true cs = (cs.reverse.takeWhile (· ≠ '\n')).all isBlank := by
  induction cs using List.reverseRecOn with
  | nil => rfl
  | append_singleton cs c ih =>
    rw [endsIn_append, endsIn_cons, endsIn_nil, List.reverse_append, List.reverse_singleton,
      List.singleton_append, List.takeWhile_cons, ih, staysIn]
    by_cases hc : c = '\n'
    · simp [hc]
    · simp [hc, Bool.and_comm]

theorem EndsBlank.endsIn {s : String} (h : EndsBlank s) : endsIn true s.toList = true := by
  rw [endsIn_true_eq]
  exact h

end Text

section Insertions

theorem endsIn_withId (template id : String) (margin : Bool) :
    endsIn margin (withId template id).toList = endsIn margin template.toList := by
  have h : IsReplaced template "%1" ("'" ++ id ++ "'") (withId template id) := isReplaced_iff.2 rfl
  rw [IsReplaced, if_neg (by decide), String.toList_append] at h
  have hreplaces : Replaces (['%'] ++ ['1']) (("'" ++ id).toList ++ ['\'']) template.toList
    (withId template id).toList := h
  exact hreplaces.endsIn_eq rfl rfl margin

variable {template : Option String} {i j : String}

theorem endsIn_insertion (h : ∀ t ∈ template, EndsBlank t) (id : String) :
    endsIn true (insertion template id).toList = true := by
  cases template with
  | none => rfl
  | some t =>
    rw [insertion]
    split
    · rfl
    · rw [endsIn_withId]
      exact (h t rfl).endsIn

section Lines

variable (hi : IsMargin i.toList) (hj : IsMargin j.toList)
include hi

theorem endsIn_insertionLines (h : ∀ t ∈ template, EndsBlank t) (id : String) :
    endsIn true (insertionLines i template id).toList = true := by
  cases template with
  | none => rfl
  | some t =>
    rw [insertionLines]
    split
    · rfl
    · rw [endsIn_leadLines hi, endsIn_withId]
      exact (h t rfl).endsIn

include hj

theorem alignedLines_insertionLines (template : Option String) (id : String) :
    AlignedLines (insertionLines i template id) (insertionLines j template id) := by
  cases template with
  | none => rfl
  | some t =>
    rw [insertionLines, insertionLines]
    split
    · rfl
    · exact Aligned.leadLines hi hj (.refl _)

end Lines

end Insertions

/-- The same lines, white space at their starts apart. -/
def Text.SameButMargins (a b : String) : Prop :=
  (a.toList.splitOn '\n').map trimStart = (b.toList.splitOn '\n').map trimStart

instance (a b : String) : Decidable (SameButMargins a b) :=
  inferInstanceAs (Decidable (_ = _))

/-- Inserted code leaves the line on which it ends blank. -/
structure Config.LeavesMargins (c : Config) : Prop where
  before : ∀ template ∈ c.before, EndsBlank template
  after : ∀ template ∈ c.after, EndsBlank template
  trap : ∀ template ∈ c.trap, EndsBlank template

def Config.indented (c : Config) (unit : Margin) : Config :=
  { c with indent := unit.text, indent_isBare := unit.isMargin.isBare }

/-- The setting with another unit of indentation. -/
def Setting.indented (s : Setting) (unit : Margin) : Setting :=
  { s with config := s.config.indented unit }

theorem Setting.indented_noActiveRun (s : Setting) (i j : Margin) :
    Fault.noActiveRun (s.indented i).conventions.generator =
      .noActiveRun (s.indented j).conventions.generator :=
  rfl

section Pairing

/-- Two units of indentation: texts are alike, and lines are aligned. Inserted code may be followed by
lines only if it leaves the last line blank. -/
def Setting.margins (s : Setting) (i j : Margin) : Pairing (s.indented i) (s.indented j) where
  runs := Run.Matches Alike (fun _ => True) Eq
  faults := Eq
  request := none
  asks := fun _ => True
  bare := True
  joins := s.config.LeavesMargins
  code := Alike
  value := Alike
  part := Alike
  lines := fun a b => AlignedLines a b ∧ (s.config.LeavesMargins → endsIn true a.toList = true)
  chain := fun a b =>
    Alike a b ∧ (s.config.LeavesMargins → a = "" ∨ endsIn false a.toList = true)
  conventions_eq := rfl
  placeholder_eq := rfl
  faults_refl := fun _ => rfl
  nameOf := fun type name _ =>
    ⟨.nameOf (s.indented_noActiveRun i j) (fun _ => rfl) .trivial type name fun _ _ => Alike.refl _,
      fun _ h => nomatch h⟩
  temporary := fun name =>
    ⟨.temporary (s.indented_noActiveRun i j) (fun _ => rfl) .trivial name, fun _ h => nomatch h⟩
  provide := fun key template =>
    ⟨.provide (s.indented_noActiveRun i j) (fun _ => rfl) .trivial Alike.refl key template,
      fun _ h => nomatch h⟩
  define := fun key _ _ hab =>
    ⟨.define (s.indented_noActiveRun i j) (fun _ => rfl) .trivial key hab.1, fun _ h => nomatch h⟩
  code_same := .refl
  code_append := .append
  code_head := fun h => h.1.head?_eq
  code_simple := fun h => h.eq_of_isSimple
  value_code := id
  value_of_ink := fun _ => .refl _
  value_append := .append
  value_terminated := fun h => h.append (.refl _)
  part_append := .append
  part_body := fun h hd hxy => h.body hd hxy.1
  lines_empty := ⟨rfl, fun _ => rfl⟩
  lines_append := by
    intro a b x y hjoins hab hxy
    refine ⟨hab.1.append (hab.2 hjoins) hxy.1, fun _ => ?_⟩
    rw [String.toList_append, endsIn_append, hab.2 hjoins, hxy.2 hjoins]
  lines_indented := by
    intro a b hab
    refine ⟨(hab.append (.refl "\n")).1.indented i.isMargin j.isMargin, fun _ => ?_⟩
    exact endsIn_of_endsLine ((endsLine_newline a).append _)

variable {s : Setting} {i j : Margin}

theorem Setting.margins_whole {a b : String} (h : (s.margins i j).Whole a b) :
    Alike a b ∧ EndsLine a := by
  obtain ⟨x, y, z, w, rfl, rfl, hxy, hzw⟩ := h
  have hpart : Alike x y := by
    have hpart := hxy "" "" (Alike.refl "")
    rwa [String.empty_append, String.empty_append] at hpart
  exact ⟨(hpart.append hzw).append (.refl _), endsLine_newline _⟩

theorem Setting.margins_even {traps : Bool} (h : traps = true → s.config.LeavesMargins) :
    (s.margins i j).Even traps where
  bare := trivial
  commentMark_eq := rfl
  value_of_code := id
  code_of_chain := fun h => h.1
  chain_empty := ⟨.refl "", fun _ => .inl rfl⟩
  chain_of_whole := by
    intro a b hab
    obtain ⟨halike, hline⟩ := margins_whole hab
    exact ⟨halike, fun _ => .inr (endsIn_of_endsLine hline)⟩
  chain_wrapped := by
    intro u a b hab
    obtain ⟨halike, hline⟩ : Alike a b ∧ EndsLine a := by
      rcases hab with hab | ⟨-, rfl, rfl⟩
      · exact margins_whole hab
      · exact ⟨.refl _, rfl⟩
    refine ⟨((Alike.refl _).append halike).append (.refl _), fun hleaves => .inr ?_⟩
    rw [Site.wrapped, String.toList_append, endsIn_append, endsIn_of_endsLine (hline.append _)]
    exact endsIn_insertion hleaves.after u.id
  chain_join := by
    intro a b x y c hab ha hxy
    refine ⟨((Alike.refl c).append hab.1).append hxy.1, fun hleaves => .inr ?_⟩
    have hend : endsIn false (c ++ a).toList = true := by
      rw [String.toList_append, endsIn_append]
      exact endsIn_of_false ((hab.2 hleaves).resolve_left ha)
    rw [String.toList_append, endsIn_append, hend]
    rcases hxy.2 hleaves with rfl | hx
    · rfl
    · exact endsIn_of_false hx
  lines_of_chain := by
    intro a b hab ha
    refine ⟨hab.1.1.leadLines i.isMargin j.isMargin, fun hleaves => ?_⟩
    exact (endsIn_leadLines i.isMargin a).trans
      (endsIn_of_false ((hab.2 hleaves).resolve_left ha))
  joins := h
  trap := fun htraps id =>
    ⟨alignedLines_insertionLines i.isMargin j.isMargin _ id, fun hleaves =>
      endsIn_insertionLines i.isMargin hleaves.trap id⟩
  before := fun htraps id =>
    ⟨alignedLines_insertionLines i.isMargin j.isMargin _ id, fun hleaves =>
      endsIn_insertionLines i.isMargin hleaves.before id⟩

theorem Gen.definitionText_code (p : Pairing (s.indented i) (s.indented j)) {as bs : List String}
    (h : List.Forall₂ p.code as bs) : p.code (definitionText as) (definitionText bs) := by
  cases h with
  | nil => exact p.code_same ""
  | cons hab hrest =>
    exact p.code_append (p.code_same "\n\n") (Pairing.code_join "\n\n" (.cons hab hrest))

/-- The layout of the program is the same up to margins. -/
theorem Gen.finish_margins (s : Setting) (i j : Margin) {code code' : String} (h : Alike code code') :
    Gen.Relates (Run.Matches Alike (fun _ => True) Eq) Eq SameButMargins (s.indented i)
      (s.indented j) (Gen.finish code) (Gen.finish code') := by
  let p := s.margins i j
  refine .read_bind fun r q hr => ?_
  have hget : ∀ (u : Setting) (r : Run) (f : Run → Gen String),
      exec (get >>= f) u r = exec (f r) u r := fun _ _ _ => rfl
  rw [hget, hget, hr.declared]
  refine Relates.bind (Relates.context (s.indented_noActiveRun i j)) (fun c d hcd => ?_) r q hr
  have htexts : List.Forall₂ p.code c.helpers.definitions d.helpers.definitions :=
    List.forall₂_map_left_iff.2 (List.forall₂_map_right_iff.2 (hcd.texts.imp fun _ _ hpq => hpq.2))
  have hcode : ∀ front back : String,
      Alike (front ++ code ++ back ++ definitionText c.helpers.definitions)
        (front ++ code' ++ back ++ definitionText d.helpers.definitions) := fun front back =>
    (((Alike.refl front).append h).append (.refl back)).append (definitionText_code p htexts)
  exact .pure (trimStart_layout (hcode _ _).1.lines)

end Pairing

namespace Generator

/-- What a program comes to under a unit of indentation. -/
def answerUnder (language : Language) (config : Config) (unit : Margin) (ws : Workspace)
    (s : Session) : Except Fault String :=
  (s.generate ⟨language.dialect, config.indented unit⟩ (.workspace ws)).1

/-- Programs under two units of indentation come to the same fault, or to the same text up to
margins. -/
theorem indented_answers {language : Language} {config : Config}
    (h : language.setsTraps = true → config.LeavesMargins) (i j : Margin) (ws : Workspace)
    (s t : Session) :
    Gen.Answers Eq SameButMargins (answerUnder language config i ws s)
      (answerUnder language config j ws t) := by
  let u : Setting := setting ⟨language.dialect, config⟩
  let p := u.margins i j
  have heven : p.Even language.setsTraps := Setting.margins_even h
  have hrules : language.dialect.rules.Pairs language.setsTraps := Rulebook.dialect_pairs id
  have hadmits : ∀ q ∈ ws.blocks, p.Admits language.dialect.rules q.block :=
    fun _ _ => ⟨fun _ => trivial, fun _ _ _ => trivial, .inl fun _ => rfl⟩
  have hparts := (Workspace.topCodes_pairs heven hrules hadmits).relates
  have hname : ∀ name, Gen.Relates (Run.Matches Alike (fun _ => True) fun _ _ => True) Eq Eq
      (u.indented i) (u.indented j) (Gen.variableName name) (Gen.variableName name) := by
    intro name
    refine (Gen.Relates.nameOf (V := fun _ => True) (u.indented_noActiveRun i j) (fun _ => rfl)
      .trivial .var name fun _ _ => trivial).imp fun _ _ hab => hab.1
  have hfinish : ∀ parts parts' : List String, List.Forall₂ p.code parts parts' →
      Gen.Relates (Run.Matches Alike (fun _ => True) Eq) Eq SameButMargins (u.indented i)
        (u.indented j) (Gen.finish ("\n".intercalate (parts.filter (· ≠ ""))))
        (Gen.finish ("\n".intercalate (parts'.filter (· ≠ "")))) := by
    intro parts parts' hparts
    exact Gen.finish_margins u i j (Pairing.code_join "\n" (Pairing.code_filter hparts))
  have hnew : (u.indented i).newContext = (u.indented j).newContext := rfl
  have hanswers := Gen.Relates.generate hnew trivial (fun _ => rfl) hname rfl hparts hfinish s.run t.run
  exact hanswers.imp fun _ _ hab => hab.1

end Generator

end BlockCode
