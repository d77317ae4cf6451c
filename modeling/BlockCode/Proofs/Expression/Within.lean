import BlockCode.Proofs.Expression.Token
import BlockCode.Proofs.Name.Legal
import BlockCode.Text.Shown

namespace BlockCode

namespace Token

/-- Whether a token is complete or would be if the text ended here; that is not so behind a sign. -/
def Pending.isComplete : Pending → Bool
  | .nothing | .word _ | .number _ => true
  | _ => false

/-- Characters that no word and no number goes on with, and no sign makes a pair with. -/
def isDelimiter (c : Char) : Bool :=
  c == ' ' || c == '(' || c == ')' || c == ','

theorem extend?_delimiter {p : Pending} (hp : p.isComplete = true) {c : Char}
    (hc : isDelimiter c = true) : p.extend? c = none := by
  simp only [isDelimiter, Bool.or_eq_true, beq_iff_eq] at hc
  cases p with
  | nothing => rfl
  | word cs => rcases hc with ((rfl | rfl) | rfl) | rfl <;> rfl
  | number exponent =>
    rcases hc with ((rfl | rfl) | rfl) | rfl <;> cases exponent <;> rfl
  | _ => cases hp

/-- The tokens of a text that ends with a complete one. -/
def Lexes (cs : List Char) (ts : List Token) : Prop :=
  ∃ us p, scan .nothing cs = some (us, p) ∧ p.isComplete = true ∧ ts = us ++ p.flush

namespace Lexes

variable {cs g : List Char} {ts gs : List Token} {q : Pending}

theorem ofText? {code : String} (h : Lexes code.toList ts) : ofText? code = some ts := by
  obtain ⟨us, p, hscan, hp, rfl⟩ := h
  have hopen : p.isOpen = false := by
    cases p <;> first | rfl | cases hp
  simp only [Token.ofText?, hscan, Option.bind_eq_bind, Option.bind_some, hopen]
  rfl

theorem of_scan (h : scan .nothing cs = some (ts, .nothing)) : Lexes cs ts :=
  ⟨ts, .nothing, h, rfl, (List.append_nil ts).symm⟩

/-- What a delimiter starts is read behind the text as it is read alone. -/
theorem scan_append (h : Lexes cs ts) (hg : scan .nothing g = some (gs, q))
    (hdelimiter : g.head?.any isDelimiter = true) :
    scan .nothing (cs ++ g) = some (ts ++ gs, q) := by
  obtain ⟨us, p, hscan, hp, rfl⟩ := h
  cases g with
  | nil => cases hdelimiter
  | cons c g =>
    rw [List.append_assoc]
    exact Token.scan_append hscan (scan_of_ended (extend?_delimiter hp hdelimiter) hg)

theorem append (h : Lexes cs ts) (hg : Lexes g gs) (hdelimiter : g.head?.any isDelimiter = true) :
    Lexes (cs ++ g) (ts ++ gs) := by
  obtain ⟨us, p, hscan, hp, rfl⟩ := hg
  exact ⟨ts ++ us, p, h.scan_append hscan hdelimiter, hp, (List.append_assoc ..).symm⟩

theorem behind (hg : scan .nothing g = some (gs, .nothing)) (h : Lexes cs ts) :
    Lexes (g ++ cs) (gs ++ ts) := by
  obtain ⟨us, p, hscan, hp, rfl⟩ := h
  exact ⟨gs ++ us, p, Token.scan_append hg hscan, hp, (List.append_assoc ..).symm⟩

end Lexes

/-- Tokens with matching brackets between two places, of which each is right behind an operand or not;
outside brackets no operator is looser than the rank. -/
structure Spans (order : Rank) (behind : Bool) (ts : List Token) (ended : Bool) : Prop where
  walk : walks order behind 0 ts = true
  closed : depth ts = 0
  ends : ts.foldl endsOperand behind = ended

namespace Spans

variable {order bound : Rank} {b c d : Bool} {ts us : List Token}

theorem mono (h : Spans bound b ts c) (hle : bound ≤ order) : Spans order b ts c :=
  ⟨walks_mono hle h.walk, h.closed, h.ends⟩

theorem append (h : Spans order b ts c) (hu : Spans order c us d) : Spans order b (ts ++ us) d where
  walk := by
    rw [walks_append, h.walk, h.ends, h.closed, Int.zero_add, hu.walk]
    rfl
  closed := by rw [depth_append, h.closed, hu.closed]; rfl
  ends := by rw [List.foldl_append, h.ends, hu.ends]

/-- What is opened in front of an operand is closed behind it. -/
theorem framed {pre post : List Token} (hpre : walks order b 0 pre = true)
    (hbefore : pre.foldl endsOperand b = false) (h : Spans bound false ts true)
    (hinside : 0 < depth pre ∨ (depth pre = 0 ∧ bound ≤ order))
    (hpost : walks order true (depth pre) post = true) (hclosed : depth pre + depth post = 0)
    (hends : post.foldl endsOperand true = c) : Spans order b (pre ++ (ts ++ post)) c where
  walk := by
    have hoperand : walks order false (depth pre) ts = true := by
      rcases hinside with hdeep | ⟨hzero, hle⟩
      · have hdeeper : walks order false (depth pre + 0) ts = true :=
          walks_deeper h.walk (Int.le_refl 0) hdeep
        rwa [Int.add_zero] at hdeeper
      · rw [hzero]
        exact walks_mono hle h.walk
    rw [walks_append, walks_append, hpre, hbefore, Int.zero_add, hoperand, h.ends, h.closed,
      Int.add_zero, hpost]
    rfl
  closed := by rw [depth_append, depth_append, h.closed, Int.zero_add, hclosed]
  ends := by rw [List.foldl_append, List.foldl_append, hbefore, h.ends, hends]

end Spans

end Token

open Token

/-- The code is an operand, and nothing outside its brackets is looser than the rank. It may stand
right behind a sign: it does not start with what would make an assignment or a comparison of it. -/
structure Within (order : Rank) (code : String) : Prop where
  reads : ∃ ts, Lexes code.toList ts ∧ Spans order false ts true
  head : code.toList.head? ≠ some '='

namespace Within

variable {order bound : Rank} {a b : String}

theorem ne_empty (h : Within order a) : a ≠ "" := by
  rintro rfl
  obtain ⟨ts, ⟨us, p, hscan, -, rfl⟩, hspans⟩ := h.reads
  cases hscan
  exact absurd hspans.ends (by decide)

theorem head_append (h : Within order a) (b : String) : (a ++ b).toList.head? ≠ some '=' := by
  rw [String.toList_append, List.head?_append]
  cases ha : a.toList with
  | nil => exact absurd (String.toList_eq_nil_iff.1 ha) h.ne_empty
  | cons c cs =>
    have hhead := h.head
    rw [ha] at hhead
    exact hhead

theorem mono (h : Within bound a) (hle : bound ≤ order) : Within order a := by
  obtain ⟨ts, hlexes, hspans⟩ := h.reads
  exact ⟨⟨ts, hlexes, hspans.mono hle⟩, h.head⟩

/-- The brackets of the code match, and its operators are not looser than the rank. -/
theorem exists_tokens (h : Within order a) :
    ∃ ts, Token.ofText? a = some ts ∧ Balanced ts ∧ Ranked order ts := by
  obtain ⟨ts, hlexes, hspans⟩ := h.reads
  exact ⟨ts, hlexes.ofText?, balanced_of_walks hspans.walk hspans.closed,
    ranked_of_walks hspans.walk⟩

/-- Whether code that is known is an operand within the rank. -/
def isWithin (order : Rank) (code : String) : Bool :=
  match scan .nothing code.toList with
  | some (us, p) =>
    p.isComplete && walks order false 0 (us ++ p.flush) && depth (us ++ p.flush) == 0 &&
      (us ++ p.flush).foldl endsOperand false && code.toList.head? != some '='
  | none => false

theorem of_isWithin (h : isWithin order a = true) : Within order a := by
  unfold isWithin at h
  split at h
  · next us p hscan =>
    simp only [Bool.and_eq_true, beq_iff_eq, bne_iff_ne] at h
    obtain ⟨⟨⟨⟨hp, hwalk⟩, hclosed⟩, hends⟩, hhead⟩ := h
    exact ⟨⟨_, ⟨us, p, hscan, hp, rfl⟩, hwalk, hclosed, hends⟩, hhead⟩
  · cases h

/-- Whether the text joins two operands. -/
def joins (order : Rank) (glue : String) : Bool :=
  match scan .nothing glue.toList with
  | some (ts, .nothing) =>
    glue.toList.head?.any isDelimiter && walks order true 0 ts && depth ts == 0 &&
      !ts.foldl endsOperand true
  | _ => false

theorem join {glue : String} (hglue : joins order glue = true) (ha : Within order a)
    (hb : Within order b) : Within order (a ++ glue ++ b) := by
  unfold joins at hglue
  split at hglue
  · next gs hscan =>
    simp only [Bool.and_eq_true, beq_iff_eq, Bool.not_eq_true'] at hglue
    obtain ⟨⟨⟨hdelimiter, hwalk⟩, hclosed⟩, hends⟩ := hglue
    obtain ⟨ts, hts, hspans⟩ := ha.reads
    obtain ⟨us, hus, huspans⟩ := hb.reads
    refine ⟨⟨ts ++ gs ++ us, ?_, (hspans.append ⟨hwalk, hclosed, hends⟩).append huspans⟩, ?_⟩
    · rw [String.toList_append, String.toList_append]
      exact .behind (hts.scan_append hscan hdelimiter) hus
    · rw [String.append_assoc]
      exact ha.head_append _
  · cases hglue

theorem intercalate {glue : String} (hglue : joins order glue = true) (ha : Within order a)
    {rest : List String} (h : ∀ b ∈ rest, Within order b) :
    Within order (glue.intercalate (a :: rest)) := by
  induction rest generalizing a with
  | nil =>
    rw [String.intercalate_singleton]
    exact ha
  | cons b rest ih =>
    rw [String.intercalate_cons_cons]
    exact join hglue ha (ih (h b List.mem_cons_self) fun c hc => h c (List.mem_cons_of_mem _ hc))

/-- Whether the two texts make an operand of one between them. -/
def frames (order bound : Rank) (before after : String) : Bool :=
  match scan .nothing before.toList, scan .nothing after.toList with
  | some (pre, .nothing), some (post, q) =>
    before.toList.head? != some '=' && after.toList.head?.any isDelimiter && q.isComplete &&
      walks order false 0 pre && !pre.foldl endsOperand false &&
      (decide (0 < depth pre) || (depth pre == 0 && decide (bound ≤ order))) &&
      walks order true (depth pre) (post ++ q.flush) &&
      depth pre + depth (post ++ q.flush) == 0 && (post ++ q.flush).foldl endsOperand true
  | _, _ => false

theorem framed {before after : String} (h : frames order bound before after = true)
    (ha : Within bound a) : Within order (before ++ a ++ after) := by
  unfold frames at h
  split at h
  · next pre post q hpre hpost =>
    simp only [Bool.and_eq_true, beq_iff_eq, bne_iff_ne, Bool.not_eq_true', Bool.or_eq_true,
      decide_eq_true_eq] at h
    obtain ⟨⟨⟨⟨⟨⟨⟨⟨hhead, hdelimiter⟩, hq⟩, hwalk⟩, hbefore⟩, hinside⟩, hrest⟩, hclosed⟩, hends⟩ := h
    obtain ⟨ts, hts, hspans⟩ := ha.reads
    refine ⟨⟨pre ++ (ts ++ (post ++ q.flush)), ?_,
      .framed hwalk hbefore hspans hinside hrest hclosed hends⟩, ?_⟩
    · rw [String.append_assoc, String.toList_append, String.toList_append]
      exact .behind hpre (hts.append ⟨post, q, hpost, hq, rfl⟩ hdelimiter)
    · rw [String.append_assoc, String.toList_append, List.head?_append]
      cases hb : before.toList with
      | nil => exact ha.head_append after
      | cons c cs =>
        rw [hb] at hhead
        exact hhead
  · cases h

/-- A call of what stands in front of the bracket. -/
theorem call (ha : Within Rank.functionCall a) (hb : Within bound b) :
    Within Rank.functionCall (a ++ "(" ++ b ++ ")") := by
  obtain ⟨ts, hts, hspans⟩ := ha.reads
  obtain ⟨us, hus, huspans⟩ := hb.reads
  have hopen : scan .nothing "(".toList = some ([.opening], .nothing) := by decide
  have hclose : Lexes ")".toList [.closing] := .of_scan (by decide)
  have hargument : Spans Rank.functionCall true ([.opening] ++ (us ++ [.closing])) true :=
    .framed (by decide) (by decide) huspans (.inl (by decide)) (by decide) (by decide) (by decide)
  refine ⟨⟨ts ++ ([.opening] ++ (us ++ [.closing])), ?_, hspans.append hargument⟩, ?_⟩
  · have hcode : (a ++ "(" ++ b ++ ")").toList =
        a.toList ++ ("(".toList ++ (b.toList ++ ")".toList)) := by
      simp
    rw [hcode]
    exact hts.append (.behind hopen (hus.append hclose rfl)) rfl
  · rw [String.append_assoc, String.append_assoc]
    exact ha.head_append _

/-- An operand with only something behind it. -/
theorem followed {after : String} (h : frames order bound "" after = true) (ha : Within bound a) :
    Within order (a ++ after) := by
  have hframed := framed h ha
  rwa [String.empty_append] at hframed

theorem callNothing (ha : Within Rank.functionCall a) : Within Rank.functionCall (a ++ "()") :=
  followed (by rfl) ha

theorem group (ha : Within bound a) : Within order ("(" ++ a ++ ")") :=
  framed (by rfl) ha

/-- Code is within the rank that its place requires, in brackets if need be. -/
theorem place (required : Rank) (ha : Within bound a) :
    Within required (Rank.place required a bound) := by
  unfold Rank.place
  split
  · exact ha.group
  · next h =>
    exact ha.mono (Int.not_lt.1 fun hlt => h ⟨ha.ne_empty, hlt⟩)

theorem signed {c : Char} (hstart : start c = some ([], .sign c)) (hc : c ≠ '=')
    (hfits : (Token.sign (String.ofList [c])).fits order false = true) (ha : Within order a)
    (hpair : ∀ d ∈ a.toList.head?, [c, d] ∉ Lexeme.pairs) :
    Within order (String.ofList [c] ++ a) := by
  obtain ⟨ts, ⟨us, p, hscan, hp, rfl⟩, hspans⟩ := ha.reads
  have hsign : Spans order false [.sign (String.ofList [c])] false := by
    refine ⟨?_, rfl, rfl⟩
    rw [walks, hfits]
    rfl
  refine ⟨⟨_, ?_, hsign.append hspans⟩, ?_⟩
  · rw [String.toList_append, String.toList_ofList]
    have hread : Pending.nothing.read c = some ([], .sign c) := by
      rw [Pending.read, Pending.extend?, hstart]
      rfl
    cases hcs : a.toList with
    | nil => exact absurd (String.toList_eq_nil_iff.1 hcs) ha.ne_empty
    | cons d ds =>
      rw [hcs] at hscan hpair
      have hended : (Pending.sign c).extend? d = none := if_neg (hpair d rfl)
      exact ⟨_, p, scan_cons hread (scan_of_ended hended hscan), hp, (List.append_assoc ..).symm⟩
  · rw [String.toList_append, String.toList_ofList]
    simpa using hc

/-- An operand starts with none of the characters that make a pair of the sign in front of it, if an
equals sign makes one, or a character that the operand does not start with. -/
theorem pair_not_mem {c : Char} (others : List Char) (ha : Within order a)
    (hpairs : Lexeme.pairs.all (fun pair =>
      pair.head? != some c || pair.getLast?.any ('=' :: others).contains) = true)
    (hothers : ∀ e ∈ others, a.toList.head? ≠ some e) :
    ∀ d ∈ a.toList.head?, [c, d] ∉ Lexeme.pairs := by
  intro d hd hmem
  have hlast := List.all_eq_true.1 hpairs _ hmem
  have hsecond : d = '=' ∨ d ∈ others := by simpa using hlast
  rcases hsecond with rfl | hother
  · exact ha.head hd
  · exact hothers d hother hd

theorem negated (ha : Within Rank.logicalNot a) : Within Rank.logicalNot ("!" ++ a) :=
  signed (c := '!') (by decide) (by decide) (by decide) ha
    (ha.pair_not_mem [] (by decide) fun _ he => nomatch he)

/-- Two minus signs need a blank between them. -/
theorem minus (ha : Within Rank.unaryNegation a) :
    Within Rank.unaryNegation ("-" ++ if a.toList.head? = some '-' then " " ++ a else a) := by
  split
  · obtain ⟨ts, hts, hspans⟩ := ha.reads
    have hsign : Spans Rank.unaryNegation false [.sign "-"] false := ⟨by decide, rfl, rfl⟩
    refine ⟨⟨_, ?_, hsign.append hspans⟩, ?_⟩
    · rw [← String.append_assoc, String.toList_append]
      exact .behind (by decide) hts
    · simp
  · next hhead =>
    refine signed (c := '-') (by decide) (by decide) (by decide) ha
      (ha.pair_not_mem ['-'] (by decide) ?_)
    simpa using hhead

theorem scan_word {cs w : List Char} (hw : ∀ c ∈ w, Text.isAsciiWord c = true) :
    scan (.word cs) w = some ([], .word (cs ++ w)) := by
  induction w generalizing cs with
  | nil => rw [scan, List.append_nil]
  | cons c w ih =>
    have hread : (Pending.word cs).read c = some ([], .word (cs ++ [c])) := by
      rw [Pending.read, Pending.extend?, if_pos (hw c List.mem_cons_self)]
    have hrest : scan (.word (cs ++ [c])) w = some ([], .word (cs ++ [c] ++ w)) :=
      ih fun d hd => hw d (List.mem_cons_of_mem _ hd)
    rw [List.append_assoc] at hrest
    exact scan_cons hread hrest

theorem start_word {c : Char} (h : Name.startsLegal c = true) :
    start c = some ([], .word [c]) := by
  have hword := Name.isAsciiWord_of_startsLegal h
  have hne : ∀ d, Text.isAsciiWord d = false → c ≠ d := by
    rintro d hd rfl
    exact absurd hword (by rw [hd]; decide)
  rw [start, Lexeme.isBlank_of_isAsciiWord hword, Name.isDigit_eq_false_of_startsLegal h, hword,
    if_neg Bool.false_ne_true, if_neg (hne _ (by decide)), if_neg (hne _ (by decide)),
    if_neg (hne _ (by decide)), if_neg (hne _ (by decide)), if_neg Bool.false_ne_true, if_pos rfl]

/-- An identifier that is no operator. -/
theorem word {w : String} (hlegal : Name.isLegal w = true)
    (hfree : w ∉ frontWords.map Prod.fst) : Within Rank.atomic w := by
  have hrank : (Token.word w).rank? false = none := by
    have hnone : frontWords.lookup w = none := by
      refine List.lookup_eq_none_iff.2 fun entry hentry => ?_
      rw [bne_iff_ne]
      rintro rfl
      exact hfree (List.mem_map_of_mem hentry)
    simp only [rank?, Bool.false_eq_true, if_false, hnone, Option.bind_none]
  have hspans : Spans Rank.atomic false [.word w] true := by
    refine ⟨?_, rfl, ?_⟩
    · simp [walks, fits, isOperator, change, hrank]
    · simp [endsOperand, hrank]
  unfold Name.isLegal at hlegal
  cases hcs : w.toList with
  | nil =>
    rw [hcs] at hlegal
    cases hlegal
  | cons c cs =>
    rw [hcs] at hlegal
    simp only [Name.isLegalChars, Bool.and_eq_true, List.all_eq_true] at hlegal
    have hread : Pending.nothing.read c = some ([], .word [c]) := by
      rw [Pending.read, Pending.extend?, start_word hlegal.1]
      rfl
    have hw : String.ofList (c :: cs) = w := by rw [← hcs, String.ofList_toList]
    refine ⟨⟨[.word w], ?_, hspans⟩, ?_⟩
    · rw [hcs]
      exact ⟨[], .word (c :: cs), scan_cons hread (scan_word hlegal.2), rfl, by
        rw [Pending.flush, hw]; rfl⟩
    · rw [hcs]
      rintro ⟨⟩
      exact absurd hlegal.1 (by decide)

theorem literal_spans : Spans Rank.atomic false [.literal] true :=
  ⟨by decide, rfl, rfl⟩

/-- A text in single quotes that has none in it. -/
theorem quoted {text : String} (h : '\'' ∉ text.toList) : Within Rank.atomic ("'" ++ text ++ "'") := by
  have hinside : ∀ cs : List Char, '\'' ∉ cs →
      scan .singleQuoted (cs ++ ['\'']) = some ([.literal], .nothing) := by
    intro cs hcs
    induction cs with
    | nil => rfl
    | cons c cs ih =>
      rw [List.mem_cons, not_or] at hcs
      have hread : Pending.singleQuoted.read c = some ([], .singleQuoted) := by
        rw [Pending.read, Pending.extend?, if_neg (Ne.symm hcs.1)]
      exact scan_cons hread (ih hcs.2)
  refine ⟨⟨[.literal], .of_scan ?_, literal_spans⟩, by simp⟩
  have hcode : ("'" ++ text ++ "'").toList = '\'' :: (text.toList ++ ['\'']) := by simp
  have hread : Pending.nothing.read '\'' = some ([], .singleQuoted) := rfl
  rw [hcode]
  exact scan_cons hread (hinside _ h)

theorem scan_escapeLiteral (cs : List Char) :
    scan .doubleQuoted (Text.escapeLiteral cs ++ ['"']) = some ([.literal], .nothing) := by
  induction cs with
  | nil => rfl
  | cons c cs ih =>
    have hescaped (d : Char) : scan .doubleQuoted ('\\' :: d :: (Text.escapeLiteral cs ++ ['"'])) =
        some ([.literal], .nothing) := by
      have hbackslash : Pending.doubleQuoted.read '\\' = some ([], .escaped) := rfl
      have hany : Pending.escaped.read d = some ([], .doubleQuoted) := rfl
      exact scan_cons hbackslash (scan_cons hany ih)
    rw [Text.escapeLiteral]
    split
    · exact hescaped '\\'
    · next hbackslash =>
      split
      · exact hescaped 'n'
      · split
        · exact hescaped '"'
        · next hquote =>
          have hread : Pending.doubleQuoted.read c = some ([], .doubleQuoted) := by
            rw [Pending.read, Pending.extend?, if_neg hquote, if_neg hbackslash]
          exact scan_cons hread ih

theorem literal (text : String) : Within Rank.atomic (Text.literal text) := by
  refine ⟨⟨[.literal], .of_scan ?_, literal_spans⟩, ?_⟩
  · have hread : Pending.nothing.read '"' = some ([], .doubleQuoted) := rfl
    rw [Text.literal, String.toList_ofList]
    exact scan_cons hread (scan_escapeLiteral _)
  · rw [Text.literal, String.toList_ofList]
    simp [Text.literalChars]

end Within

end BlockCode
