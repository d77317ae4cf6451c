import BlockCode.Text.Shown
import BlockCode.Text.Template
import Mathlib.Data.List.DropRight

namespace BlockCode.Text

/-- How a character is written inside a literal. -/
def escapeChar (c : Char) : List Char :=
  if c = '\\' then ['\\', '\\']
  else if c = '\n' then ['\\', 'n']
  else if c = '"' then ['\\', '"']
  else [c]

theorem escapeLiteral_eq (cs : List Char) : escapeLiteral cs = cs.flatMap escapeChar := by
  induction cs with
  | nil => rfl
  | cons c cs ih =>
    rw [escapeLiteral, List.flatMap_cons, escapeChar, ih]
    split_ifs <;> rfl

@[simp] theorem escapeLiteral_nil : escapeLiteral [] = [] := rfl

theorem escapeLiteral_cons (c : Char) (cs : List Char) :
    escapeLiteral (c :: cs) = escapeChar c ++ escapeLiteral cs := by
  rw [escapeLiteral_eq, escapeLiteral_eq, List.flatMap_cons]

/-- The four ways to write a character. -/
theorem escapeChar_cases (c : Char) :
    (c = '\\' ∧ escapeChar c = ['\\', '\\']) ∨ (c = '\n' ∧ escapeChar c = ['\\', 'n']) ∨
      (c = '"' ∧ escapeChar c = ['\\', '"']) ∨
      (c ≠ '\\' ∧ c ≠ '\n' ∧ c ≠ '"') ∧ escapeChar c = [c] := by
  unfold escapeChar
  split_ifs with hbackslash hnewline hquote
  · exact .inl ⟨hbackslash, rfl⟩
  · exact .inr (.inl ⟨hnewline, rfl⟩)
  · exact .inr (.inr (.inl ⟨hquote, rfl⟩))
  · exact .inr (.inr (.inr ⟨⟨hbackslash, hnewline, hquote⟩, rfl⟩))

section Replacing

theorem replaceChars_singleton (p : Char) (replacement cs : List Char) :
    replaceChars [p] replacement cs = cs.flatMap fun c => if c = p then replacement else [c] := by
  have hfrom : replaceFrom [p] replacement 0 cs =
      cs.flatMap fun c => if c = p then replacement else [c] := by
    induction cs with
    | nil => rfl
    | cons c cs ih =>
      rw [replaceFrom, List.flatMap_cons]
      by_cases hc : c = p
      · rw [if_pos (by simp [hc]), if_pos hc, ← ih]
        rfl
      · rw [if_neg (by simp [Ne.symm hc]), if_neg hc, ← ih]
        rfl
  rw [replaceChars, if_neg (by simp), hfrom]

/-- The backslashes come first: those that the other replacements write are not to be doubled. -/
theorem escapeLiteral_eq_replaceChars (cs : List Char) :
    escapeLiteral cs = replaceChars ['"'] ['\\', '"']
      (replaceChars ['\n'] ['\\', 'n'] (replaceChars ['\\'] ['\\', '\\'] cs)) := by
  rw [replaceChars_singleton, replaceChars_singleton, replaceChars_singleton, List.flatMap_assoc,
    List.flatMap_assoc, escapeLiteral_eq]
  refine List.flatMap_congr fun c _ => ?_
  rcases escapeChar_cases c with ⟨rfl, h⟩ | ⟨rfl, h⟩ | ⟨rfl, h⟩ | ⟨⟨hb, hn, hq⟩, h⟩
  · rw [h]; rfl
  · rw [h]; rfl
  · rw [h]; rfl
  · simp [h, hb, hn, hq]

theorem literal_eq_replace (text : String) :
    literal text = "\"" ++ replace (replace (replace text "\\" "\\\\") "\n" "\\n") "\"" "\\\"" ++
      "\"" := by
  apply String.toList_inj.1
  rw [literal, String.toList_ofList, literalChars, escapeLiteral_eq_replaceChars]
  simp [replace]

end Replacing

/-- The backslashes that stand together at the end of a text. -/
def trailingBackslashes (cs : List Char) : Nat :=
  (cs.rtakeWhile (· == '\\')).length

/-- What comes behind the text is escaped: each two of the backslashes before it belong together, and
one is left. -/
def EscapesNext (cs : List Char) : Prop :=
  trailingBackslashes cs % 2 = 1

instance (cs : List Char) : Decidable (EscapesNext cs) :=
  Nat.decEq (trailingBackslashes cs % 2) 1

section Escaped

theorem trailingBackslashes_append (cs ds : List Char) :
    trailingBackslashes (cs ++ ds) =
      if ds.all (· == '\\') then trailingBackslashes cs + ds.length else trailingBackslashes ds := by
  induction ds using List.reverseRecOn with
  | nil => simp
  | append_singleton ds d ih =>
    unfold trailingBackslashes at ih ⊢
    rw [← List.append_assoc]
    by_cases hd : d = '\\'
    · have hall : (ds ++ [d]).all (· == '\\') = ds.all (· == '\\') := by simp [hd]
      rw [List.rtakeWhile_concat_pos _ _ _ (by simp [hd]),
        List.rtakeWhile_concat_pos _ _ _ (by simp [hd]), hall, List.length_append,
        List.length_append, List.length_append, ih]
      split
      · exact Nat.add_assoc _ _ _
      · rfl
    · rw [List.rtakeWhile_concat_neg _ _ _ (by simp [hd]),
        List.rtakeWhile_concat_neg _ _ _ (by simp [hd]), if_neg (by simp [hd])]

/-- A text that leaves nothing escaped can stand before another without changing what that one
escapes. -/
theorem escapesNext_append {cs : List Char} (h : ¬ EscapesNext cs) (ds : List Char) :
    EscapesNext (cs ++ ds) ↔ EscapesNext ds := by
  unfold EscapesNext at h ⊢
  rw [trailingBackslashes_append]
  split
  · next hall =>
    have hds : trailingBackslashes ds = ds.length := by
      have hsame := trailingBackslashes_append [] ds
      rwa [if_pos hall, List.nil_append, trailingBackslashes, trailingBackslashes,
        List.rtakeWhile_nil, List.length_nil, Nat.zero_add] at hsame
    omega
  · rfl

theorem not_escapesNext_escapeChar (c : Char) : ¬ EscapesNext (escapeChar c) := by
  rcases escapeChar_cases c with ⟨-, h⟩ | ⟨-, h⟩ | ⟨-, h⟩ | ⟨hc, h⟩ <;> rw [h]
  · decide
  · decide
  · decide
  · simp [EscapesNext, trailingBackslashes, List.rtakeWhile, hc.1]

theorem not_escapesNext_escapeLiteral (cs : List Char) : ¬ EscapesNext (escapeLiteral cs) := by
  induction cs with
  | nil => decide
  | cons c cs ih =>
    rw [escapeLiteral_cons, escapesNext_append (not_escapesNext_escapeChar c)]
    exact ih

/-- Inside a written character, only an escaped quote is a quote. -/
theorem escapesNext_of_escapeChar {c : Char} {before behind : List Char}
    (h : escapeChar c = before ++ '"' :: behind) : EscapesNext before := by
  have hmem : '"' ∈ escapeChar c := by simp [h]
  rcases escapeChar_cases c with ⟨-, hc⟩ | ⟨-, hc⟩ | ⟨-, hc⟩ | ⟨⟨-, -, hq⟩, hc⟩
  · simp [hc] at hmem
  · simp [hc] at hmem
  · rw [hc, eq_comm, List.append_eq_cons_iff] at h
    rcases h with ⟨-, h⟩ | ⟨rest, rfl, h⟩
    · cases h
    · cases rest with
      | nil => decide
      | cons d rest => simp at h
  · exact absurd (by simpa [hc] using hmem) (Ne.symm hq)

/-- Every quote inside a literal is escaped. -/
theorem escapesNext_of_escapeLiteral {cs before behind : List Char}
    (h : escapeLiteral cs = before ++ '"' :: behind) : EscapesNext before := by
  induction cs generalizing before with
  | nil => simp at h
  | cons c cs ih =>
    rw [escapeLiteral_cons, List.append_eq_append_iff] at h
    rcases h with ⟨front, rfl, hrest⟩ | ⟨rest, hc, hrest⟩
    · exact (escapesNext_append (not_escapesNext_escapeChar c) front).2 (ih hrest)
    · cases rest with
      | nil =>
        have hfirst : escapeLiteral cs = [] ++ '"' :: behind := hrest.symm
        exact absurd (ih hfirst) (by decide)
      | cons d rest =>
        rw [List.cons_append, List.cons.injEq] at hrest
        obtain ⟨rfl, -⟩ := hrest
        exact escapesNext_of_escapeChar hc

theorem not_mem_escapeLiteral (cs : List Char) : '\n' ∉ escapeLiteral cs := by
  rw [escapeLiteral_eq, List.mem_flatMap]
  rintro ⟨c, -, hc⟩
  rcases escapeChar_cases c with ⟨-, h⟩ | ⟨-, h⟩ | ⟨-, h⟩ | ⟨⟨-, hn, -⟩, h⟩
  · simp [h] at hc
  · simp [h] at hc
  · simp [h] at hc
  · exact hn (by simpa [h, eq_comm] using hc)

end Escaped

/-- The character that stands behind a backslash stands for this one. -/
def unescapeChar : Char → Option Char
  | '\\' => some '\\'
  | 'n' => some '\n'
  | '"' => some '"'
  | _ => none

/-- Reads what stands between the quotes of a literal, from left to right. Another escape than the
three is refused, and so is a backslash, a newline or a quote on its own. -/
def unescape : List Char → Option (List Char)
  | [] => some []
  | '\\' :: d :: cs => do return (← unescapeChar d) :: (← unescape cs)
  | c :: cs => if escapeChar c = [c] then (unescape cs).map (c :: ·) else none

/-- The text up to the first quote that is not escaped, and the text behind that quote. -/
def untilQuote (escaped : Bool) : List Char → Option (List Char × List Char)
  | [] => none
  | c :: cs =>
    if c = '"' ∧ escaped = false then some ([], cs)
    else (untilQuote (c == '\\' && !escaped) cs).map fun found => (c :: found.1, found.2)

/-- Reads a literal at the start of a text: what it stands for, and the text behind it. -/
def readLiteral : List Char → Option (List Char × List Char)
  | '"' :: cs => do
    let (interior, rest) ← untilQuote false cs
    return (← unescape interior, rest)
  | _ => none

section Reading

theorem unescape_escape (d : Char) (cs : List Char) :
    unescape ('\\' :: d :: cs) = (unescapeChar d).bind fun c => (unescape cs).map (c :: ·) := by
  rw [unescape]
  cases unescapeChar d <;> cases unescape cs <;> rfl

theorem unescape_plain {c : Char} (hc : c ≠ '\\' ∧ c ≠ '\n' ∧ c ≠ '"') (cs : List Char) :
    unescape (c :: cs) = (unescape cs).map (c :: ·) := by
  have hself : escapeChar c = [c] := by simp [escapeChar, hc]
  rw [unescape, if_pos hself]
  exact fun _ _ h => absurd h hc.1

theorem unescape_escapeChar (c : Char) (cs : List Char) :
    unescape (escapeChar c ++ cs) = (unescape cs).map (c :: ·) := by
  rcases escapeChar_cases c with ⟨rfl, h⟩ | ⟨rfl, h⟩ | ⟨rfl, h⟩ | ⟨hc, h⟩ <;> rw [h]
  · exact unescape_escape '\\' cs
  · exact unescape_escape 'n' cs
  · exact unescape_escape '"' cs
  · exact unescape_plain hc cs

theorem unescape_escapeLiteral (cs : List Char) : unescape (escapeLiteral cs) = some cs := by
  induction cs with
  | nil => rfl
  | cons c cs ih => rw [escapeLiteral_cons, unescape_escapeChar, ih, Option.map_some]

theorem escapeChar_of_unescapeChar {c d : Char} (h : unescapeChar d = some c) :
    escapeChar c = ['\\', d] := by
  unfold unescapeChar at h
  split at h <;> cases h <;> rfl

/-- What can be read is the written form of what is read. -/
theorem eq_escapeLiteral_of_unescape {cs text : List Char} (h : unescape cs = some text) :
    cs = escapeLiteral text := by
  fun_induction unescape cs generalizing text with
  | case1 => cases h; rfl
  | case2 d cs ih =>
    obtain ⟨c, hc, h⟩ := Option.bind_eq_some_iff.1 h
    obtain ⟨rest, hrest, h⟩ := Option.bind_eq_some_iff.1 h
    cases h
    rw [escapeLiteral_cons, escapeChar_of_unescapeChar hc, ih hrest]
    rfl
  | case3 c cs _ hself ih =>
    obtain ⟨rest, hrest, rfl⟩ := Option.map_eq_some_iff.1 h
    rw [escapeLiteral_cons, hself, ih hrest]
    rfl
  | case4 => cases h

theorem untilQuote_escapeChar (c : Char) (cs : List Char) :
    untilQuote false (escapeChar c ++ cs) =
      (untilQuote false cs).map fun found => (escapeChar c ++ found.1, found.2) := by
  rcases escapeChar_cases c with ⟨-, h⟩ | ⟨-, h⟩ | ⟨-, h⟩ | ⟨hc, h⟩ <;> rw [h]
  · simp [untilQuote, Option.map_map, Function.comp_def]
  · simp [untilQuote, Option.map_map, Function.comp_def]
  · simp [untilQuote, Option.map_map, Function.comp_def]
  · have hplain : (c == '\\') = false := beq_eq_false_iff_ne.2 hc.1
    simp [untilQuote, hplain, hc.2.2]

/-- The quote behind a literal's interior is the first that is not escaped. -/
theorem untilQuote_escapeLiteral (cs rest : List Char) :
    untilQuote false (escapeLiteral cs ++ '"' :: rest) = some (escapeLiteral cs, rest) := by
  induction cs with
  | nil => rfl
  | cons c cs ih =>
    rw [escapeLiteral_cons, List.append_assoc, untilQuote_escapeChar, ih, Option.map_some]

theorem readLiteral_literalChars (cs rest : List Char) :
    readLiteral (literalChars cs ++ rest) = some (cs, rest) := by
  have hchars : literalChars cs ++ rest = '"' :: (escapeLiteral cs ++ '"' :: rest) := by
    simp [literalChars]
  rw [hchars, readLiteral, untilQuote_escapeLiteral]
  simp [unescape_escapeLiteral]

end Reading

/-- A literal is its text with backslashes, newlines and quotes replaced one after the other, between
two quotes. It holds no newline, every quote inside it is escaped, and the last one is not. What stands
between the quotes is all that reads as the text; a literal is read to its own end and no further,
whatever follows it; and no other text has the same literal. -/
theorem literal_reads_back (text : String) :
    literal text = "\"" ++ replace (replace (replace text "\\" "\\\\") "\n" "\\n") "\"" "\\\"" ++
        "\"" ∧
      '\n' ∉ (literal text).toList ∧
      (∃ interior, (literal text).toList = '"' :: (interior ++ ['"']) ∧
        (∀ before behind, interior = before ++ '"' :: behind → EscapesNext before) ∧
        ¬ EscapesNext interior ∧
        ∀ cs, unescape cs = some text.toList ↔ cs = interior) ∧
      (∀ rest : String, readLiteral (literal text ++ rest).toList = some (text.toList, rest.toList)) ∧
      ∀ other, literal other = literal text → other = text := by
  have hchars (text : String) : (literal text).toList = '"' :: (escapeLiteral text.toList ++ ['"']) := by
    rw [literal, String.toList_ofList, literalChars]
  have hread (text rest : String) :
      readLiteral (literal text ++ rest).toList = some (text.toList, rest.toList) := by
    rw [String.toList_append, literal, String.toList_ofList, readLiteral_literalChars]
  refine ⟨literal_eq_replace text, ?_, ⟨_, hchars text, ?_, not_escapesNext_escapeLiteral _, ?_⟩,
    hread text, ?_⟩
  · simp [hchars, not_mem_escapeLiteral]
  · exact fun before behind h => escapesNext_of_escapeLiteral h
  · intro cs
    constructor
    · exact eq_escapeLiteral_of_unescape
    · rintro rfl
      exact unescape_escapeLiteral _
  · intro other h
    have hsame := hread other ""
    rw [h, hread text "", Option.some.injEq, Prod.mk.injEq] at hsame
    exact String.toList_inj.1 hsame.1.symm

end BlockCode.Text
