import BlockCode.Text.Character
import BlockCode.Text.Word

namespace BlockCode.Lexeme

/-- The signs of two characters. -/
def pairs : List (List Char) :=
  [['+', '+'], ['-', '-'], ['<', '<'], ['>', '>'], ['<', '='], ['>', '='], ['=', '='], ['!', '='],
    ['+', '='], ['-', '='], ['&', '&'], ['|', '|']]

instance (cs : List Char) : Decidable (cs ∈ pairs) :=
  List.instDecidableMemOfLawfulBEq cs pairs

def isWord (cs : List Char) : Bool :=
  !cs.isEmpty && cs.all Text.isAsciiWord

/-- A word, a sign of two characters, or any one character. -/
def isLexeme (cs : List Char) : Bool :=
  isWord cs || decide (cs ∈ pairs) || cs.length == 1

/-- Ends the lexeme read so far, if there is one. -/
def flush (current : List Char) : List (List Char) :=
  if current.isEmpty then [] else [current]

/-- The lexemes of a text, of the first of which `current` has been read. It grows as long as it
stays a lexeme; whatever a lexeme starts with is one too, so none is ended too early. -/
def split (current : List Char) : List Char → List (List Char)
  | [] => flush current
  | c :: cs =>
    if Text.isBlank c then flush current ++ split [] cs
    else if isLexeme (current ++ [c]) then split (current ++ [c]) cs
    else flush current ++ split [c] cs

/-- The lexemes of a text. -/
def ofText (text : String) : List String :=
  (split [] text.toList).map String.ofList

theorem split_append_blank {c : Char} (h : Text.isBlank c = true) (current xs ys : List Char) :
    split current (xs ++ c :: ys) = split current xs ++ split [] ys := by
  induction xs generalizing current with
  | nil => simp [split, h]
  | cons x xs ih =>
    simp only [List.cons_append, split]
    split
    · rw [ih, List.append_assoc]
    · split
      · exact ih _
      · rw [ih, List.append_assoc]

/-- A lexeme that the next character does not continue ends there. -/
theorem split_of_not_continued {current ys : List Char} (hc : current ≠ [])
    (h : ∀ y ∈ ys.head?, isLexeme (current ++ [y]) = false) :
    split current ys = current :: split [] ys := by
  have hflush : flush current = [current] := if_neg (by simpa using hc)
  cases ys with
  | nil => exact hflush
  | cons y ys =>
    have hy := h y rfl
    have hl : isLexeme [y] = true := by simp [isLexeme]
    simp only [split, hy, hflush, hl, List.nil_append]
    split
    · rfl
    · rfl

/-- A character that stands alone: no longer lexeme starts or ends with it. -/
def isLone (c : Char) : Bool :=
  !Text.isBlank c && !Text.isAsciiWord c &&
    pairs.all fun pair => pair.head? != some c && pair.getLast? != some c

section Lone

variable {c : Char} (hc : isLone c = true)
include hc

theorem isLexeme_append_lone {xs : List Char} (hx : xs ≠ []) : isLexeme (xs ++ [c]) = false := by
  simp only [isLone, Bool.and_eq_true, Bool.not_eq_true', List.all_eq_true, bne_iff_ne] at hc
  have hword : isWord (xs ++ [c]) = false := by simp [isWord, hc.1.2]
  have hpair : xs ++ [c] ∉ pairs := fun hm => (hc.2 _ hm).2 List.getLast?_concat
  simp [isLexeme, hword, hpair, hx]

theorem isLexeme_lone_append {xs : List Char} (hx : xs ≠ []) : isLexeme (c :: xs) = false := by
  simp only [isLone, Bool.and_eq_true, Bool.not_eq_true', List.all_eq_true, bne_iff_ne] at hc
  have hword : isWord (c :: xs) = false := by simp [isWord, hc.1.2]
  have hpair : c :: xs ∉ pairs := fun hm => (hc.2 _ hm).1 rfl
  simp [isLexeme, hword, hpair, hx]

theorem split_lone (ys : List Char) : split [c] ys = [c] :: split [] ys :=
  split_of_not_continued (List.cons_ne_nil c []) fun y _ =>
    isLexeme_lone_append hc (List.cons_ne_nil y [])

theorem split_append_lone (current xs ys : List Char) :
    split current (xs ++ c :: ys) = split current xs ++ [c] :: split [] ys := by
  induction xs generalizing current with
  | nil =>
    have hb : Text.isBlank c = false := by
      simp only [isLone, Bool.and_eq_true, Bool.not_eq_true'] at hc
      exact hc.1.1
    cases current with
    | nil => simp [split, hb, isLexeme, flush, split_lone hc]
    | cons x xs =>
      simp only [List.nil_append, split, hb, isLexeme_append_lone hc (List.cons_ne_nil x xs),
        split_lone hc]
      rfl
  | cons x xs ih =>
    simp only [List.cons_append, split]
    split
    · rw [ih, List.append_assoc]
    · split
      · exact ih _
      · rw [ih, List.append_assoc]

end Lone

theorem isBlank_of_isAsciiWord {c : Char} (h : Text.isAsciiWord c = true) :
    Text.isBlank c = false := by
  have hrange : (48 ≤ c.toNat ∧ c.toNat ≤ 57) ∨ (65 ≤ c.toNat ∧ c.toNat ≤ 90) ∨
      (97 ≤ c.toNat ∧ c.toNat ≤ 122) ∨ c.toNat = 95 := by
    simp only [Text.isAsciiWord, Char.isAlphanum] at h
    delta Char.isAlpha Char.isUpper Char.isLower at h
    simp only [Char.isDigit, Bool.or_eq_true, Bool.and_eq_true, decide_eq_true_eq, beq_iff_eq,
      UInt32.le_iff_toNat_le, ge_iff_le] at h
    rcases h with ((h | h) | h) | rfl
    · exact .inr (.inl h)
    · exact .inr (.inr (.inl h))
    · exact .inl h
    · exact .inr (.inr (.inr rfl))
  simp only [Text.isBlank, Bool.or_eq_false_iff, Bool.and_eq_false_iff, decide_eq_false_iff_not,
    beq_eq_false_iff_ne]
  omega

/-- Words are taken whole. -/
theorem split_word {current w : List Char} (hc : current.all Text.isAsciiWord = true)
    (hw : w.all Text.isAsciiWord = true) : split current w = flush (current ++ w) := by
  induction w generalizing current with
  | nil => rw [split, List.append_nil]
  | cons c w ih =>
    simp only [List.all_cons, Bool.and_eq_true] at hw
    have hcur : (current ++ [c]).all Text.isAsciiWord = true := by simp [hc, hw.1]
    have hl : isLexeme (current ++ [c]) = true := by simp [isLexeme, isWord, hcur]
    rw [split, isBlank_of_isAsciiWord hw.1, hl, if_neg Bool.false_ne_true, if_pos rfl,
      ih hcur hw.2, List.append_assoc]
    rfl

theorem ofText_word {w : String} (h : isWord w.toList = true) : ofText w = [w] := by
  simp only [isWord, Bool.and_eq_true, Bool.not_eq_true'] at h
  rw [ofText, split_word rfl h.2, List.nil_append, flush, h.1]
  simp

theorem ofText_blank (s t : String) : ofText (s ++ " " ++ t) = ofText s ++ ofText t := by
  have hs : (s ++ " " ++ t).toList = s.toList ++ ' ' :: t.toList := by simp
  rw [ofText, hs, split_append_blank (by decide), List.map_append]
  rfl

theorem ofText_lone {c : Char} (hc : isLone c = true) (s t : String) :
    ofText (s ++ String.ofList [c] ++ t) = ofText s ++ String.ofList [c] :: ofText t := by
  have hs : (s ++ String.ofList [c] ++ t).toList = s.toList ++ c :: t.toList := by simp
  rw [ofText, hs, split_append_lone hc, List.map_append, List.map_cons]
  rfl

theorem ofText_close (s : String) : ofText (s ++ ")") = ofText s ++ [")"] := by
  have h := ofText_lone (c := ')') (by decide) s ""
  rwa [String.append_empty] at h

theorem ofText_group (s : String) : ofText ("(" ++ s ++ ")") = "(" :: ofText s ++ [")"] := by
  have h : ofText ("" ++ "(" ++ s) = "(" :: ofText s := ofText_lone (c := '(') (by decide) "" s
  rw [ofText_close, ← h, String.empty_append]

/-- A call with two arguments. -/
theorem ofText_call {w : String} (hw : isWord w.toList = true) (s t : String) :
    ofText (w ++ "(" ++ s ++ ", " ++ t ++ ")") =
      w :: "(" :: ofText s ++ "," :: ofText t ++ [")"] := by
  have hcomma : (", " : String) = "," ++ ("" ++ " ") := rfl
  have hopen : ofText (w ++ "(" ++ s) = ofText w ++ "(" :: ofText s :=
    ofText_lone (c := '(') (by decide) w s
  have hlast : ofText ("" ++ " " ++ t) = ofText t := ofText_blank "" t
  have hboth : ofText (w ++ "(" ++ s ++ "," ++ ("" ++ " " ++ t)) =
      ofText (w ++ "(" ++ s) ++ "," :: ofText ("" ++ " " ++ t) :=
    ofText_lone (c := ',') (by decide) (w ++ "(" ++ s) _
  rw [hopen, hlast, ofText_word hw] at hboth
  rw [ofText_close, hcomma]
  simpa only [String.append_assoc, List.append_assoc, List.cons_append, List.nil_append]
    using congrArg (· ++ [")"]) hboth

/-- How an operand starts: with a word, an opening bracket or a sign of its own. -/
def Opens (s : String) : Prop :=
  ∃ c ∈ s.toList.head?, Text.isAsciiWord c = true ∨ c ∈ ['(', '!', '-']

theorem Opens.append {s : String} (h : Opens s) (t : String) : Opens (s ++ t) := by
  obtain ⟨c, hc, hw⟩ := h
  refine ⟨c, ?_, hw⟩
  rw [String.toList_append, List.head?_append, hc]
  rfl

theorem Opens.ne_empty {s : String} (h : Opens s) : s ≠ "" := by
  rintro rfl
  obtain ⟨c, hc, -⟩ := h
  cases hc

theorem opens_word {w : String} (h : isWord w.toList = true) : Opens w := by
  unfold Opens
  generalize w.toList = cs at h
  cases cs with
  | nil => cases h
  | cons c cs =>
    simp only [isWord, List.all_cons, Bool.and_eq_true] at h
    exact ⟨c, rfl, .inl h.2.1⟩

/-- A sign is a lexeme of its own if what follows makes no pair with it. -/
theorem ofText_sign {c : Char} (hb : Text.isBlank c = false) (hw : Text.isAsciiWord c = false)
    {s : String} (h : ∀ d ∈ s.toList.head?, [c, d] ∉ pairs) :
    ofText (String.ofList [c] ++ s) = String.ofList [c] :: ofText s := by
  have hs : (String.ofList [c] ++ s).toList = c :: s.toList := by simp
  have hl : isLexeme [c] = true := by simp [isLexeme]
  have hend : ∀ d ∈ s.toList.head?, isLexeme ([c] ++ [d]) = false := by
    intro d hd
    simp [isLexeme, isWord, hw, h d hd]
  rw [ofText, hs, split, hb, if_neg Bool.false_ne_true, List.nil_append, if_pos hl,
    split_of_not_continued (List.cons_ne_nil c []) hend]
  rfl

theorem ofText_not {s : String} (h : Opens s) : ofText ("!" ++ s) = "!" :: ofText s := by
  refine ofText_sign (c := '!') (by decide) (by decide) fun d hd hp => ?_
  obtain ⟨c, hc, hw⟩ := h
  cases Option.some.inj (hc.symm.trans hd)
  have hpair : ∀ p ∈ pairs, p.head? = some '!' → p.getLast? = some '=' := by decide
  cases Option.some.inj (hpair _ hp rfl)
  exact absurd hw (by decide)

/-- Two minus signs need a blank between them. -/
theorem ofText_minus {s : String} (h : Opens s) :
    ofText ("-" ++ if s.toList.head? = some '-' then " " ++ s else s) = "-" :: ofText s := by
  split
  · have hblank := ofText_blank "-" s
    rwa [String.append_assoc] at hblank
  · next hm =>
    refine ofText_sign (c := '-') (by decide) (by decide) fun d hd hp => ?_
    obtain ⟨c, hc, hw⟩ := h
    cases Option.some.inj (hc.symm.trans hd)
    have hpair : ∀ p ∈ pairs, p.head? = some '-' →
        p.getLast? = some '-' ∨ p.getLast? = some '=' := by
      decide
    rcases hpair _ hp rfl with hl | hl <;> cases Option.some.inj hl
    · exact hm hd
    · exact absurd hw (by decide)

end BlockCode.Lexeme
