import BlockCode.Name.Allocator

namespace BlockCode.Name

def startsLegal (c : Char) : Bool :=
  c.isAlpha || c == '_'

def isLegalChars : List Char → Bool
  | [] => false
  | c :: cs => startsLegal c && cs.all Text.isAsciiWord

/-- A letter or underscore, then letters, digits and underscores. -/
def isLegal (s : String) : Bool :=
  isLegalChars s.toList

theorem isAsciiWord_of_startsLegal {c : Char} (h : startsLegal c = true) :
    Text.isAsciiWord c = true := by
  simp only [startsLegal, Bool.or_eq_true] at h
  rcases h with h | h
  · simp [Text.isAsciiWord, Char.isAlphanum, h]
  · simp [Text.isAsciiWord, h]

theorem isAsciiWord_of_isDigit {c : Char} (h : c.isDigit = true) :
    Text.isAsciiWord c = true := by
  simp [Text.isAsciiWord, Char.isAlphanum, h]

theorem startsLegal_of_isAsciiWord {c : Char} (h : Text.isAsciiWord c = true)
    (hd : c.isDigit = false) : startsLegal c = true := by
  simpa [Text.isAsciiWord, Char.isAlphanum, startsLegal, hd] using h

/-- No character is a digit and starts an identifier. -/
theorem isDigit_eq_false_of_startsLegal {c : Char} (h : startsLegal c = true) :
    c.isDigit = false := by
  rw [startsLegal] at h
  delta Char.isAlpha Char.isUpper Char.isLower at h
  simp only [Bool.or_eq_true, Bool.and_eq_true, decide_eq_true_eq, beq_iff_eq] at h
  simp only [Char.isDigit, Bool.and_eq_false_iff, decide_eq_false_iff_not]
  rcases h with (h | h) | h
  · right
    intro hle
    exact absurd (UInt32.le_trans h.1 hle) (by decide)
  · right
    intro hle
    exact absurd (UInt32.le_trans h.1 hle) (by decide)
  · subst h
    exact .inr (by decide)

theorem isLegalChars_word {cs : List Char} (h : isLegalChars cs = true) :
    cs ≠ [] ∧ ∀ c ∈ cs, Text.isAsciiWord c = true := by
  cases cs with
  | nil => simp [isLegalChars] at h
  | cons c cs =>
    simp only [isLegalChars, Bool.and_eq_true, List.all_eq_true] at h
    refine ⟨List.cons_ne_nil _ _, ?_⟩
    intro d hd
    rcases List.mem_cons.1 hd with rfl | hd
    · exact isAsciiWord_of_startsLegal h.1
    · exact h.2 d hd

theorem isLegalChars_append {cs ds : List Char} (h : isLegalChars cs = true)
    (hd : ∀ d ∈ ds, Text.isAsciiWord d = true) : isLegalChars (cs ++ ds) = true := by
  cases cs with
  | nil => simp [isLegalChars] at h
  | cons c cs =>
    simp only [isLegalChars, Bool.and_eq_true, List.all_eq_true] at h
    simp only [List.cons_append, isLegalChars, Bool.and_eq_true, List.all_eq_true]
    refine ⟨h.1, fun d hm => ?_⟩
    rcases List.mem_append.1 hm with hm | hm
    · exact h.2 d hm
    · exact hd d hm

/-- What a legal identifier starts with is legal, unless it is empty. -/
theorem isLegalChars_of_append {cs ds : List Char} (hc : cs ≠ [])
    (h : isLegalChars (cs ++ ds) = true) : isLegalChars cs = true := by
  cases cs with
  | nil => exact absurd rfl hc
  | cons c cs =>
    simp only [List.cons_append, isLegalChars, Bool.and_eq_true, List.all_append] at h ⊢
    exact ⟨h.1, h.2.1⟩

theorem isAsciiWord_upperHexDigit {n : Nat} (h : n < 16) :
    Text.isAsciiWord (upperHexDigit n) = true := by
  revert n
  decide

theorem isAsciiWord_of_mem_byteImage {b : UInt8} {c : Char} (h : c ∈ byteImage b) :
    Text.isAsciiWord c = true := by
  have hb : b.toNat < 256 := b.toNat_lt
  simp only [byteImage, List.mem_cons, List.not_mem_nil, or_false] at h
  rcases h with rfl | rfl | rfl
  · decide
  · exact isAsciiWord_upperHexDigit (by omega)
  · exact isAsciiWord_upperHexDigit (by omega)

theorem isAsciiWord_of_mem_charImage {c d : Char} (h : d ∈ charImage c) :
    Text.isAsciiWord d = true := by
  unfold charImage at h
  split at h
  · rw [List.mem_singleton.1 h]
    assumption
  · split at h
    · rw [List.mem_singleton.1 h]
      decide
    · obtain ⟨b, -, hb⟩ := List.mem_flatMap.1 h
      exact isAsciiWord_of_mem_byteImage hb

theorem charImage_ne_nil (c : Char) : charImage c ≠ [] := by
  unfold charImage
  split
  · exact List.cons_ne_nil _ _
  · split
    · exact List.cons_ne_nil _ _
    · intro h
      have hb := List.flatMap_eq_nil_iff.1 h
      have hn : String.utf8EncodeChar c ≠ [] := by
        rw [← List.length_pos_iff, String.length_utf8EncodeChar]
        exact c.utf8Size_pos
      obtain ⟨b, bs, hc⟩ := List.exists_cons_of_ne_nil hn
      exact absurd (hb b (by simp [hc])) (by simp [byteImage])

theorem isLegalChars_leadLetter {cs : List Char} (hc : cs ≠ [])
    (h : ∀ c ∈ cs, Text.isAsciiWord c = true) : isLegalChars (leadLetter cs) = true := by
  cases cs with
  | nil => exact absurd rfl hc
  | cons c cs =>
    unfold leadLetter
    split
    · have hm : isLegalChars ['m', 'y', '_'] = true := by decide
      exact isLegalChars_append hm h
    · next hd =>
      have hd : c.isDigit = false := by simpa using hd
      simp only [isLegalChars, Bool.and_eq_true, List.all_eq_true]
      refine ⟨startsLegal_of_isAsciiWord (h c (by simp)) hd, fun d hm => ?_⟩
      exact h d (List.mem_cons_of_mem _ hm)

theorem isLegalChars_identifierChars (cs : List Char) :
    isLegalChars (identifierChars cs) = true := by
  cases cs with
  | nil => decide
  | cons c cs =>
    have hn : (c :: cs).flatMap charImage ≠ [] := by
      simp [charImage_ne_nil c]
    have hw : ∀ d ∈ (c :: cs).flatMap charImage, Text.isAsciiWord d = true := by
      intro d hd
      obtain ⟨e, -, he⟩ := List.mem_flatMap.1 hd
      exact isAsciiWord_of_mem_charImage he
    exact isLegalChars_leadLetter hn hw

theorem isLegal_identifier (name : String) : isLegal (identifier name) = true := by
  simp only [isLegal, identifier, String.toList_ofList]
  exact isLegalChars_identifierChars _

theorem isLegal_of_identifierOf {name : Value} {base : String}
    (h : identifierOf name = .ok base) : isLegal base = true := by
  unfold identifierOf at h
  split at h
  · cases h
    exact isLegal_identifier _
  · split at h
    · cases h
    · cases h
      exact isLegal_identifier _

theorem flatMap_charImage_of_word {cs : List Char}
    (h : ∀ c ∈ cs, Text.isAsciiWord c = true) : cs.flatMap charImage = cs := by
  induction cs with
  | nil => rfl
  | cons c cs ih =>
    have hc : charImage c = [c] := by simp [charImage, h c (by simp)]
    rw [List.flatMap_cons, hc, ih fun d hd => h d (List.mem_cons_of_mem _ hd)]
    rfl

/-- A legal name needs no change. -/
theorem identifier_of_isLegal {name : String} (h : isLegal name = true) :
    identifier name = name := by
  have hw := isLegalChars_word h
  have hs : leadLetter name.toList = name.toList := by
    unfold isLegal at h
    generalize name.toList = cs at h
    cases cs with
    | nil => rfl
    | cons c cs =>
      simp only [isLegalChars, Bool.and_eq_true] at h
      simp [leadLetter, isDigit_eq_false_of_startsLegal h.1]
  unfold identifier identifierChars
  rw [if_neg (by simpa using hw.1), flatMap_charImage_of_word hw.2, hs, String.ofList_toList]

end BlockCode.Name

namespace BlockCode.Allocator

theorem toList_numbered (base : String) (k : Nat) :
    (numbered base k).toList = base.toList ++ Nat.toDigits 10 k := by
  simp [numbered]

theorem isLegal_numbered {base : String} (h : Name.isLegal base = true) (k : Nat) :
    Name.isLegal (numbered base k) = true := by
  unfold Name.isLegal
  rw [toList_numbered]
  apply Name.isLegalChars_append h
  intro d hd
  exact Name.isAsciiWord_of_isDigit (Nat.isDigit_of_mem_toDigits (by decide) (by decide) hd)

end BlockCode.Allocator
