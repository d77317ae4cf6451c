import BlockCode.Entries
import BlockCode.Proofs.Expression.Lexeme
import BlockCode.Rank

namespace BlockCode

/-- An expression without its brackets. -/
inductive Formula where
  | leaf (word : String)
  | unary (sign : String) (operand : Formula)
  | binary (sign : String) (left right : Formula)
  | choice (condition yes no : Formula)
  | power (base exponent : Formula)
  deriving DecidableEq, Repr

namespace Grammar

open Rank

def unarySigns : List String :=
  ["!", "-"]

def binarySigns : List (String × Rank) :=
  [("*", multiplication), ("/", division), ("%", modulus), ("+", addition), ("-", subtraction),
    ("<", relational), ("<=", relational), (">", relational), (">=", relational),
    ("==", equality), ("!=", equality), ("&&", logicalAnd), ("||", logicalOr)]

/-- The lexemes read as the formula, with nothing outside brackets looser than the rank. -/
inductive Reads : Rank → List String → Formula → Prop where
  | leaf {w : String} (h : Lexeme.isWord w.toList = true) : Reads atomic [w] (.leaf w)
  | group {ts : List String} {t : Formula} (h : Reads loosest ts t) :
    Reads atomic ("(" :: ts ++ [")"]) t
  | power {as bs : List String} {a b : Formula} (ha : Reads (comma - 1) as a)
    (hb : Reads (comma - 1) bs b) :
    Reads functionCall ("pow" :: "(" :: as ++ "," :: bs ++ [")"]) (.power a b)
  | unary {sign : String} {ts : List String} {t : Formula} (hs : sign ∈ unarySigns)
    (h : Reads unaryNegation ts t) : Reads unaryNegation (sign :: ts) (.unary sign t)
  | binary {sign : String} {k : Rank} {ls rs : List String} {l r : Formula}
    (hs : (sign, k) ∈ binarySigns) (hl : Reads k ls l) (hr : Reads (k - 1) rs r) :
    Reads k (ls ++ sign :: rs) (.binary sign l r)
  | choice {cs ys ns : List String} {c y n : Formula} (hc : Reads (conditional - 1) cs c)
    (hy : Reads conditional ys y) (hn : Reads conditional ns n) :
    Reads conditional (cs ++ "?" :: ys ++ ":" :: ns) (.choice c y n)
  | loosen {j k : Rank} {ts : List String} {t : Formula} (hjk : j ≤ k) (h : Reads j ts t) :
    Reads k ts t

/-- The signs that go on with an expression. -/
def continuations : List (String × Rank) :=
  ("?", conditional) :: binarySigns

theorem lookup_binarySign {sign : String} {k : Rank} (h : (sign, k) ∈ binarySigns) :
    continuations.lookup sign = some k ∧ sign ≠ "?" ∧ sign ≠ "(" ∧ k ≠ conditional := by
  have hall : ∀ entry ∈ binarySigns, continuations.lookup entry.1 = some entry.2 ∧
      entry.1 ≠ "?" ∧ entry.1 ≠ "(" ∧ entry.2 ≠ conditional := by decide
  exact hall _ h

/-- What follows neither goes on with an expression at the rank nor makes a call of a word. -/
def Stops (m : Rank) (rest : List String) : Prop :=
  ∀ sign ∈ rest.head?, sign ≠ "(" ∧ ∀ k, continuations.lookup sign = some k → m < k

theorem stops_nil (m : Rank) : Stops m [] := by
  rintro sign ⟨⟩

theorem Stops.mono {m n : Rank} {rest : List String} (h : Stops m rest) (hmn : n ≤ m) :
    Stops n rest :=
  fun sign hs => ⟨(h sign hs).1, fun k hk => Int.lt_of_le_of_lt hmn ((h sign hs).2 k hk)⟩

theorem stops_close {w : String} (hw : w ∈ [")", ",", ":"]) (m : Rank) (rest : List String) :
    Stops m (w :: rest) := by
  have h : ∀ c ∈ [")", ",", ":"], c ≠ "(" ∧ continuations.lookup c = none := by decide
  intro sign hs
  cases Option.some.inj hs
  refine ⟨(h w hw).1, fun k hk => ?_⟩
  rw [(h w hw).2] at hk
  cases hk

/-- No sign between operands binds as tightly as a sign in front of one. -/
theorem stops_unary {m : Rank} {rest : List String} (h : Stops m rest) :
    Stops unaryNegation rest := by
  have hk : ∀ entry ∈ continuations, unaryNegation < entry.2 := by decide
  refine fun sign hs => ⟨(h sign hs).1, fun k hl => ?_⟩
  exact hk _ (mem_of_lookup hl)

/-- What is to be read next. -/
inductive Stage where
  /-- An expression with no sign looser than the rank outside brackets. -/
  | climb (m : Rank)
  | operand
  /-- More of an expression, as long as the next sign is not looser than the rank. -/
  | extend (m : Rank) (left : Formula)

/-- The stage reads the first lexemes as the formula, and leaves those at the end. -/
inductive Walks : Stage → List String → Formula → List String → Prop where
  | climb {m : Rank} {ts us rest : List String} {t u : Formula} (ht : Walks .operand ts t us)
    (hu : Walks (.extend m t) us u rest) : Walks (.climb m) ts u rest
  | leaf {w : String} {rest : List String} (hw : Lexeme.isWord w.toList = true)
    (hr : rest.head? ≠ some "(") : Walks .operand (w :: rest) (.leaf w) rest
  | group {ts rest : List String} {t : Formula}
    (h : Walks (.climb loosest) ts t (")" :: rest)) : Walks .operand ("(" :: ts) t rest
  | power {ts us rest : List String} {a b : Formula}
    (ha : Walks (.climb (comma - 1)) ts a ("," :: us))
    (hb : Walks (.climb (comma - 1)) us b (")" :: rest)) :
    Walks .operand ("pow" :: "(" :: ts) (.power a b) rest
  | unary {sign : String} {ts rest : List String} {t : Formula} (hs : sign ∈ unarySigns)
    (h : Walks (.climb unaryNegation) ts t rest) :
    Walks .operand (sign :: ts) (.unary sign t) rest
  | stop {m : Rank} {t : Formula} {rest : List String} (h : Stops m rest) :
    Walks (.extend m t) rest t rest
  | binary {m k : Rank} {sign : String} {ts us rest : List String} {l r t : Formula}
    (hs : (sign, k) ∈ binarySigns) (hm : k ≤ m) (hr : Walks (.climb (k - 1)) ts r us)
    (h : Walks (.extend m (.binary sign l r)) us t rest) :
    Walks (.extend m l) (sign :: ts) t rest
  | choice {m : Rank} {ts ns us rest : List String} {c y n t : Formula} (hm : conditional ≤ m)
    (hy : Walks (.climb conditional) ts y (":" :: ns))
    (hn : Walks (.climb conditional) ns n us)
    (h : Walks (.extend m (.choice c y n)) us t rest) : Walks (.extend m c) ("?" :: ts) t rest

theorem isWord_of_unarySign {sign : String} (hs : sign ∈ unarySigns) :
    Lexeme.isWord sign.toList = false := by
  have hall : ∀ sign ∈ unarySigns, Lexeme.isWord sign.toList = false := by decide
  exact hall sign hs

theorem not_stops_binarySign {m k : Rank} {sign : String} {ts : List String}
    (hs : (sign, k) ∈ binarySigns) (hm : k ≤ m) : ¬ Stops m (sign :: ts) :=
  fun h => absurd ((h sign rfl).2 k (lookup_binarySign hs).1) (Int.not_lt.2 hm)

theorem not_stops_choice {m : Rank} {ts : List String} (hm : conditional ≤ m) :
    ¬ Stops m ("?" :: ts) :=
  fun h => absurd ((h "?" rfl).2 conditional rfl) (Int.not_lt.2 hm)

/-- The next lexemes decide what the reader does. -/
theorem Walks.deterministic {stage : Stage} {ts rest rest' : List String} {t t' : Formula}
    (h : Walks stage ts t rest) (h' : Walks stage ts t' rest') : t = t' ∧ rest = rest' := by
  induction h generalizing t' rest' with
  | climb _ _ iht ihu =>
    cases h' with
    | climb ht' hu' =>
      obtain ⟨rfl, rfl⟩ := iht ht'
      exact ihu hu'
  | leaf hw hr =>
    cases h' with
    | leaf _ _ => exact ⟨rfl, rfl⟩
    | group _ => exact absurd hw (by decide)
    | power _ _ => exact absurd rfl hr
    | unary hs _ => exact absurd hw (Bool.eq_false_iff.1 (isWord_of_unarySign hs))
  | group _ ih =>
    generalize hopen : "(" = w at h'
    cases h' with
    | leaf hw _ => exact absurd hw (hopen ▸ by decide)
    | group h' =>
      obtain ⟨rfl, hrest⟩ := ih h'
      exact ⟨rfl, List.tail_eq_of_cons_eq hrest⟩
    | power _ _ => exact absurd hopen (by decide)
    | unary hs _ => exact absurd hs (hopen ▸ by decide)
  | power _ _ iha ihb =>
    generalize hpow : "pow" = w at h'
    cases h' with
    | leaf _ hr => exact absurd rfl hr
    | group _ => exact absurd hpow (by decide)
    | power ha' hb' =>
      obtain ⟨rfl, hus⟩ := iha ha'
      obtain ⟨rfl, hrest⟩ := ihb (List.tail_eq_of_cons_eq hus ▸ hb')
      exact ⟨rfl, List.tail_eq_of_cons_eq hrest⟩
    | unary hs _ => exact absurd hs (hpow ▸ by decide)
  | unary hs _ ih =>
    cases h' with
    | leaf hw _ => exact absurd hw (Bool.eq_false_iff.1 (isWord_of_unarySign hs))
    | group _ => exact absurd hs (by decide)
    | power _ _ => exact absurd hs (by decide)
    | unary _ h' =>
      obtain ⟨rfl, rfl⟩ := ih h'
      exact ⟨rfl, rfl⟩
  | stop h =>
    cases h' with
    | stop _ => exact ⟨rfl, rfl⟩
    | binary hs hm _ _ => exact absurd h (not_stops_binarySign hs hm)
    | choice hm _ _ _ => exact absurd h (not_stops_choice hm)
  | binary hs hm _ _ ihr ih =>
    cases h' with
    | stop h => exact absurd h (not_stops_binarySign hs hm)
    | binary hs' _ hr' h' =>
      cases Option.some.inj ((lookup_binarySign hs).1.symm.trans (lookup_binarySign hs').1)
      obtain ⟨rfl, rfl⟩ := ihr hr'
      exact ih h'
    | choice _ _ _ _ => exact absurd rfl (lookup_binarySign hs).2.1
  | choice hm _ _ _ ihy ihn ih =>
    cases h' with
    | stop h => exact absurd h (not_stops_choice hm)
    | binary hs' _ _ _ => exact absurd rfl (lookup_binarySign hs').2.1
    | choice _ hy' hn' h' =>
      obtain ⟨rfl, hns⟩ := ihy hy'
      obtain ⟨rfl, rfl⟩ := ihn (List.tail_eq_of_cons_eq hns ▸ hn')
      exact ih h'

/-- The loosest rank that an expression of the given rank takes in on its right. -/
def rightRank (k : Rank) : Rank :=
  if k = conditional then k else k - 1

theorem rightRank_mono {j k : Int} (h : j ≤ k) : rightRank j ≤ rightRank k := by
  change (if j = (13 : Int) then j else j - 1) ≤ (if k = (13 : Int) then k else k - 1)
  split <;> split <;> omega

/-- What is in the grammar is read as its formula, and then the reader goes on behind it. -/
theorem Reads.walks {k : Rank} {ts : List String} {t : Formula} (h : Reads k ts t) {m : Rank}
    (hm : k ≤ m) {rest rest' : List String} (hr : Stops (rightRank k) rest) {u : Formula}
    (hu : Walks (.extend m t) rest u rest') : Walks (.climb m) (ts ++ rest) u rest' := by
  -- what stands behind a part is a sign too loose for it or closes it
  induction h generalizing m rest rest' u with
  | @leaf w hw => exact .climb (.leaf hw fun hc => (hr "(" hc).1 rfl) hu
  | @group ts t _ ih =>
    have hin : Walks (.climb loosest) (ts ++ ")" :: rest) t (")" :: rest) :=
      ih (Int.le_refl _) (stops_close (by simp) _ _) (.stop (stops_close (by simp) _ _))
    simpa using Walks.climb (.group hin) hu
  | @power as bs a b _ _ iha ihb =>
    have ha : Walks (.climb (comma - 1)) (as ++ "," :: (bs ++ ")" :: rest)) a
        ("," :: (bs ++ ")" :: rest)) :=
      iha (Int.le_refl _) (stops_close (by simp) _ _) (.stop (stops_close (by simp) _ _))
    have hb : Walks (.climb (comma - 1)) (bs ++ ")" :: rest) b (")" :: rest) :=
      ihb (Int.le_refl _) (stops_close (by simp) _ _) (.stop (stops_close (by simp) _ _))
    simpa using Walks.climb (.power ha hb) hu
  | @unary sign ts t hs _ ih =>
    have hin : Walks (.climb unaryNegation) (ts ++ rest) t rest :=
      ih (Int.le_refl _) hr (.stop (stops_unary hr))
    exact .climb (.unary hs hin) hu
  | @binary sign k ls rs l r hs _ _ ihl ihr =>
    obtain ⟨hk, -, hopen, hc⟩ := lookup_binarySign hs
    have hright : rightRank k = k - 1 := if_neg hc
    have hsign : Stops (rightRank k) (sign :: (rs ++ rest)) := by
      intro w hw
      cases Option.some.inj hw
      refine ⟨hopen, fun j hj => ?_⟩
      rw [hk] at hj
      cases hj
      rw [hright]
      exact Int.sub_one_lt_of_le (Int.le_refl k)
    have hin : Walks (.climb (k - 1)) (rs ++ rest) r rest :=
      ihr (Int.le_refl _) (hr.mono (rightRank_mono (Int.sub_le_self _ (by decide))))
        (.stop (hright ▸ hr))
    rw [List.append_assoc, List.cons_append]
    exact ihl hm hsign (.binary hs hm hin hu)
  | @choice cs ys ns c y n _ _ _ ihc ihy ihn =>
    have hyes : Walks (.climb conditional) (ys ++ ":" :: (ns ++ rest)) y (":" :: (ns ++ rest)) :=
      ihy (Int.le_refl _) (stops_close (by simp) _ _) (.stop (stops_close (by simp) _ _))
    have hno : Walks (.climb conditional) (ns ++ rest) n rest :=
      ihn (Int.le_refl _) hr (.stop hr)
    have hsign : Stops (rightRank (conditional - 1)) ("?" :: (ys ++ ":" :: (ns ++ rest))) := by
      intro w hw
      cases Option.some.inj hw
      exact ⟨by decide, fun j hj => Option.some.inj hj ▸ by decide⟩
    have hcond : conditional - 1 ≤ m := Int.le_trans (by decide) hm
    simp only [List.append_assoc, List.cons_append]
    exact ihc hcond hsign (.choice hm hyes hno hu)
  | @loosen j k ts t hjk _ ih => exact ih (Int.le_trans hjk hm) (hr.mono (rightRank_mono hjk)) hu

/-- No list of lexemes reads as two formulas. -/
theorem Reads.unique {j k : Rank} {ts : List String} {t u : Formula} (ht : Reads j ts t)
    (hu : Reads k ts u) : t = u := by
  have hend : ∀ {i : Rank} {v : Formula}, Reads i ts v → i ≤ max j k →
      Walks (.climb (max j k)) (ts ++ []) v [] :=
    fun hv hi => hv.walks hi (stops_nil _) (.stop (stops_nil _))
  exact ((hend ht (Int.le_max_left j k)).deterministic (hend hu (Int.le_max_right j k))).1

/-- The signs whose right operand may stand bare at their own rank. -/
def chainedSigns : List String :=
  ["+", "&&", "||"]

/-- The signs that such an operand may have outermost. -/
def regrouped : List (String × String) :=
  [("+", "+"), ("+", "-"), ("&&", "&&"), ("||", "||")]

/-- The second formula comes from the first by grouping chains to the left. -/
inductive Regroups : Formula → Formula → Prop where
  | refl (t : Formula) : Regroups t t
  | trans {t u v : Formula} (h : Regroups t u) (k : Regroups u v) : Regroups t v
  | turn {outer inner : String} (h : (outer, inner) ∈ regrouped) (a b c : Formula) :
    Regroups (.binary outer a (.binary inner b c)) (.binary inner (.binary outer a b) c)
  | unary (sign : String) {t u : Formula} (h : Regroups t u) :
    Regroups (.unary sign t) (.unary sign u)
  | binary (sign : String) {l l' r r' : Formula} (hl : Regroups l l') (hr : Regroups r r') :
    Regroups (.binary sign l r) (.binary sign l' r')
  | choice {c c' y y' n n' : Formula} (hc : Regroups c c') (hy : Regroups y y')
    (hn : Regroups n n') : Regroups (.choice c y n) (.choice c' y' n')
  | power {a a' b b' : Formula} (ha : Regroups a a') (hb : Regroups b b') :
    Regroups (.power a b) (.power a' b')

theorem mem_regrouped {outer inner : String} {k : Rank} (ho : (outer, k) ∈ binarySigns)
    (hi : (inner, k) ∈ binarySigns) (hc : outer ∈ chainedSigns) : (outer, inner) ∈ regrouped := by
  have hall : ∀ p ∈ binarySigns, p.1 ∈ chainedSigns → ∀ q ∈ binarySigns, q.2 = p.2 →
      (p.1, q.1) ∈ regrouped := by decide
  exact hall _ ho hc _ hi rfl

/-- A right operand at the rank of the sign itself is taken apart into the chain. -/
theorem Reads.chain {sign : String} {k : Rank} (hs : (sign, k) ∈ binarySigns)
    (hc : sign ∈ chainedSigns) {ls rs : List String} {l r : Formula} (hl : Reads k ls l)
    {j : Rank} (hr : Reads j rs r) (hj : j = k) :
    ∃ t, Reads k (ls ++ sign :: rs) t ∧ Regroups (.binary sign l r) t := by
  have hranks : ∀ p ∈ binarySigns, unaryNegation < p.2 ∧ p.2 ≠ conditional := by decide
  have hlow : unaryNegation < k := (hranks _ hs).1
  -- along the left spine of the operand, down to where it binds more tightly than the sign
  induction hr with
  | leaf _ => exact absurd (hj.symm ▸ hlow) (by decide)
  | group _ => exact absurd (hj.symm ▸ hlow) (by decide)
  | power _ _ => exact absurd (hj.symm ▸ hlow) (by decide)
  | unary _ _ => exact absurd (hj.symm ▸ hlow) (by decide)
  | choice _ _ _ => exact absurd hj.symm (hranks _ hs).2
  | @binary inner i ms ns m n hi _ hn ihm _ =>
    subst hj
    obtain ⟨t, ht, hreg⟩ := ihm rfl
    refine ⟨.binary inner t n, ?_, ?_⟩
    · simpa using Reads.binary hi ht hn
    · exact .trans (.turn (mem_regrouped hs hi hc) l m n) (.binary inner hreg (.refl n))
  | @loosen i j rs r hij hr ih =>
    subst hj
    by_cases hi : i = j
    · exact ih hi
    · have hlt : i ≤ j - 1 := Int.le_sub_one_of_lt (Int.lt_iff_le_and_ne.2 ⟨hij, hi⟩)
      exact ⟨.binary sign l r, .binary hs hl (.loosen hlt hr), .refl _⟩

end Grammar

end BlockCode
