import BlockCode.Proofs.Expression.Lexeme
import BlockCode.Rank
import Mathlib.Algebra.Ring.Int.Defs
import Mathlib.Algebra.Ring.Nat

namespace BlockCode

inductive Token where
  | word (name : String)
  /-- A number or a quoted text, whatever stands in it. -/
  | literal
  | opening
  | closing
  | sign (name : String)
  deriving DecidableEq, Repr

namespace Token

/-- What has been read of a token. -/
inductive Pending where
  | nothing
  | word (cs : List Char)
  /-- A number; behind the letter of its exponent a sign goes on with it. -/
  | number (exponent : Bool)
  | sign (c : Char)
  /-- In single quotes every character stands for itself. -/
  | singleQuoted
  | doubleQuoted
  /-- Behind a backslash in double quotes. -/
  | escaped
  deriving DecidableEq, Repr

def signChars : List Char :=
  ['+', '-', '*', '/', '%', '<', '>', '=', '!', '&', '|', '^', '~', '?', ':', ',']

/-- The character as the first one of a token. -/
def start (c : Char) : Option (List Token × Pending) :=
  if Text.isBlank c then some ([], .nothing)
  else if c = '(' then some ([.opening], .nothing)
  else if c = ')' then some ([.closing], .nothing)
  else if c = '\'' then some ([], .singleQuoted)
  else if c = '"' then some ([], .doubleQuoted)
  else if c.isDigit then some ([], .number false)
  else if Text.isAsciiWord c then some ([], .word [c])
  else if c ∈ signChars then some ([], .sign c)
  else none

namespace Pending

/-- The character as one more of the token, if it goes on with it. -/
def extend? : Pending → Char → Option (List Token × Pending)
  | .nothing, _ => none
  | .word cs, c => if Text.isAsciiWord c then some ([], .word (cs ++ [c])) else none
  | .number exponent, c =>
    if Text.isAsciiWord c ∨ c = '.' ∨ (exponent ∧ (c = '+' ∨ c = '-')) then
      some ([], .number (c = 'e' ∨ c = 'E'))
    else none
  | .sign d, c =>
    if [d, c] ∈ Lexeme.pairs then some ([.sign (String.ofList [d, c])], .nothing) else none
  | .singleQuoted, c =>
    if c = '\'' then some ([.literal], .nothing) else some ([], .singleQuoted)
  | .doubleQuoted, c =>
    if c = '"' then some ([.literal], .nothing)
    else if c = '\\' then some ([], .escaped)
    else some ([], .doubleQuoted)
  | .escaped, _ => some ([], .doubleQuoted)

/-- The token if it ends here. -/
def flush : Pending → List Token
  | .word cs => [.word (String.ofList cs)]
  | .number _ => [.literal]
  | .sign c => [.sign (String.ofList [c])]
  | _ => []

/-- The tokens that the character completes, and what has been read of the next one. -/
def read (p : Pending) (c : Char) : Option (List Token × Pending) :=
  match p.extend? c with
  | some result => some result
  | none => (start c).map fun result => (p.flush ++ result.1, result.2)

/-- Whether a quote is open. -/
def isOpen : Pending → Bool
  | .singleQuoted | .doubleQuoted | .escaped => true
  | _ => false

end Pending

/-- The tokens that are complete, and what has been read of the next one. -/
def scan (p : Pending) : List Char → Option (List Token × Pending)
  | [] => some ([], p)
  | c :: cs => do
    let (ts, q) ← p.read c
    let (us, r) ← scan q cs
    return (ts ++ us, r)

/-- The tokens of a text; none if there is a character that no token has, or an open quote. -/
def ofText? (text : String) : Option (List Token) := do
  let (ts, p) ← scan .nothing text.toList
  if p.isOpen then none else return ts ++ p.flush

theorem scan_cons {p q r : Pending} {c : Char} {cs : List Char} {ts us : List Token}
    (hc : p.read c = some (ts, q)) (hcs : scan q cs = some (us, r)) :
    scan p (c :: cs) = some (ts ++ us, r) := by
  rw [scan, hc]
  simp only [Option.bind_eq_bind, Option.bind_some, hcs]
  rfl

theorem scan_cons_eq_some {p r : Pending} {c : Char} {cs : List Char} {ts : List Token}
    (h : scan p (c :: cs) = some (ts, r)) :
    ∃ first q rest, p.read c = some (first, q) ∧ scan q cs = some (rest, r) ∧
      ts = first ++ rest := by
  rw [scan] at h
  obtain ⟨⟨first, q⟩, hfirst, h⟩ := Option.bind_eq_some_iff.1 h
  obtain ⟨⟨rest, r'⟩, hrest, h⟩ := Option.bind_eq_some_iff.1 h
  cases h
  exact ⟨first, q, rest, hfirst, hrest, rfl⟩

theorem scan_append {p q r : Pending} {xs ys : List Char} {ts us : List Token}
    (hx : scan p xs = some (ts, q)) (hy : scan q ys = some (us, r)) :
    scan p (xs ++ ys) = some (ts ++ us, r) := by
  induction xs generalizing p ts with
  | nil =>
    cases hx
    exact hy
  | cons x xs ih =>
    obtain ⟨first, q', rest, hfirst, hrest, rfl⟩ := scan_cons_eq_some hx
    rw [List.append_assoc]
    exact scan_cons hfirst (ih hrest)

/-- A token that the next character does not go on with ends in front of it. -/
theorem scan_of_ended {p q : Pending} {c : Char} {cs : List Char} {ts : List Token}
    (hp : p.extend? c = none) (h : scan .nothing (c :: cs) = some (ts, q)) :
    scan p (c :: cs) = some (p.flush ++ ts, q) := by
  obtain ⟨first, q', rest, hfirst, hrest, rfl⟩ := scan_cons_eq_some h
  obtain ⟨result, hstart, hresult⟩ := Option.map_eq_some_iff.1 hfirst
  cases hresult
  have hread : p.read c = some (p.flush ++ result.1, result.2) := by
    rw [Pending.read, hp, hstart]
    rfl
  rw [← List.append_assoc]
  exact scan_cons hread hrest

def change : Token → Int
  | .opening => 1
  | .closing => -1
  | _ => 0

/-- How many brackets are open at the end. -/
def depth (ts : List Token) : Int :=
  (ts.map change).sum

@[simp] theorem depth_nil : depth [] = 0 := rfl

@[simp] theorem depth_cons (t : Token) (ts : List Token) : depth (t :: ts) = t.change + depth ts :=
  rfl

@[simp] theorem depth_append (ts us : List Token) : depth (ts ++ us) = depth ts + depth us := by
  simp [depth]

/-- Every bracket is closed, and none before it is opened. -/
structure Balanced (ts : List Token) : Prop where
  closed : depth ts = 0
  never_below : ∀ before, before <+: ts → 0 ≤ depth before

/-- Words in front of an operand, and the names of their ranks. -/
def frontWords : List (String × String) :=
  [("new", "NEW"), ("clone", "CLONE")]

def frontSigns : List (String × String) :=
  [("!", "LOGICAL_NOT"), ("~", "BITWISE_NOT"), ("+", "UNARY_PLUS"), ("-", "UNARY_NEGATION"),
    ("++", "INCREMENT"), ("--", "DECREMENT")]

/-- Words behind an operand. -/
def innerWords : List (String × String) :=
  [("in", "IN"), ("instanceof", "INSTANCEOF")]

def innerSigns : List (String × String) :=
  [("++", "INCREMENT"), ("--", "DECREMENT"), ("*", "MULTIPLICATION"), ("/", "DIVISION"),
    ("%", "MODULUS"), ("+", "ADDITION"), ("-", "SUBTRACTION"), ("<<", "BITWISE_SHIFT"),
    (">>", "BITWISE_SHIFT"), ("<", "RELATIONAL"), ("<=", "RELATIONAL"), (">", "RELATIONAL"),
    (">=", "RELATIONAL"), ("==", "EQUALITY"), ("!=", "EQUALITY"), ("&", "BITWISE_AND"),
    ("^", "BITWISE_XOR"), ("|", "BITWISE_OR"), ("?", "CONDITIONAL"), (":", "CONDITIONAL"),
    ("=", "ASSIGNMENT"), ("+=", "ASSIGNMENT"), ("-=", "ASSIGNMENT"), ("&&", "LOGICAL_AND"),
    ("||", "LOGICAL_OR"), (",", "COMMA")]

/-- The rank of a token as an operator, given whether an operand stands right in front of it. A cast has
none: the type in its brackets and what follows them read as two operands in a row. -/
def rank? (behind : Bool) : Token → Option Rank
  | .word name => ((if behind then innerWords else frontWords).lookup name).bind Rank.ofName?
  | .sign name => ((if behind then innerSigns else frontSigns).lookup name).bind Rank.ofName?
  | .opening => if behind then Rank.ofName? "FUNCTION_CALL" else none
  | .literal | .closing => none

/-- A sign always is an operator, anything else is one if it has a rank. -/
def isOperator (behind : Bool) (t : Token) : Bool :=
  match t with
  | .sign _ => true
  | _ => (t.rank? behind).isSome

/-- Whether an operand stands right in front of what follows the token. -/
def endsOperand (behind : Bool) (t : Token) : Bool :=
  match t with
  | .word _ => (t.rank? behind).isNone
  | .literal | .closing => true
  | .opening => false
  | .sign name => behind && (name = "++" || name = "--")

/-- An operator outside brackets has a rank, which is not above the given one. -/
def Ranked (order : Rank) (ts : List Token) : Prop :=
  ∀ before t after, ts = before ++ t :: after → depth before = 0 →
    t.isOperator (before.foldl endsOperand false) = true →
      ∃ rank, t.rank? (before.foldl endsOperand false) = some rank ∧ rank ≤ order

def fits (order : Rank) (behind : Bool) (t : Token) : Bool :=
  !t.isOperator behind || (t.rank? behind).any fun rank => decide (rank ≤ order)

/-- Goes along the tokens: no bracket closes too many, and operators outside brackets fit the rank. -/
def walks (order : Rank) : Bool → Int → List Token → Bool
  | _, _, [] => true
  | behind, d, t :: ts =>
    decide (0 ≤ d + t.change) && (d != 0 || t.fits order behind) &&
      walks order (t.endsOperand behind) (d + t.change) ts

theorem walks_append (order : Rank) (behind : Bool) (d : Int) (ts us : List Token) :
    walks order behind d (ts ++ us) =
      (walks order behind d ts && walks order (ts.foldl endsOperand behind) (d + depth ts) us) := by
  induction ts generalizing behind d with
  | nil => simp [walks]
  | cons t ts ih =>
    rw [List.cons_append, walks, ih, walks, List.foldl_cons, depth_cons, Int.add_assoc,
      Bool.and_assoc _ _ (walks _ _ _ us)]

/-- Inside brackets every rank fits. -/
theorem walks_deeper {order bound : Rank} {behind : Bool} {d k : Int} {ts : List Token}
    (h : walks bound behind d ts = true) (hd : 0 ≤ d) (hk : 0 < k) :
    walks order behind (k + d) ts = true := by
  induction ts generalizing behind d with
  | nil => rfl
  | cons t ts ih =>
    simp only [walks, Bool.and_eq_true, decide_eq_true_eq] at h ⊢
    obtain ⟨⟨hclosed, -⟩, hrest⟩ := h
    rw [Int.add_assoc]
    refine ⟨⟨by omega, ?_⟩, ih hrest hclosed⟩
    have hinside : k + d ≠ 0 := by omega
    simp [hinside]

theorem fits_mono {order bound : Rank} (hle : bound ≤ order) {behind : Bool} {t : Token}
    (h : t.fits bound behind = true) : t.fits order behind = true := by
  simp only [fits, Bool.or_eq_true, Bool.not_eq_true', Option.any_eq_true, decide_eq_true_eq] at h ⊢
  rcases h with h | ⟨rank, hrank, hbound⟩
  · exact .inl h
  · exact .inr ⟨rank, hrank, Int.le_trans hbound hle⟩

theorem walks_mono {order bound : Rank} (hle : bound ≤ order) {behind : Bool} {d : Int}
    {ts : List Token} (h : walks bound behind d ts = true) : walks order behind d ts = true := by
  induction ts generalizing behind d with
  | nil => rfl
  | cons t ts ih =>
    simp only [walks, Bool.and_eq_true, Bool.or_eq_true] at h ⊢
    exact ⟨⟨h.1.1, h.1.2.imp_right (fits_mono hle)⟩, ih h.2⟩

theorem balanced_of_walks {order : Rank} {behind : Bool} {ts : List Token}
    (h : walks order behind 0 ts = true) (hclosed : depth ts = 0) : Balanced ts := by
  refine ⟨hclosed, ?_⟩
  rintro before ⟨after, rfl⟩
  -- the last token before the place leaves no negative depth
  rcases List.eq_nil_or_concat before with rfl | ⟨front, t, rfl⟩
  · exact Int.le_refl 0
  · simp only [List.concat_eq_append, walks_append, walks, Bool.and_eq_true, decide_eq_true_eq,
      Int.zero_add] at h
    simpa using h.1.2.1.1

theorem ranked_of_walks {order : Rank} {ts : List Token} (h : walks order false 0 ts = true) :
    Ranked order ts := by
  rintro before t after rfl hdepth hoperator
  simp only [walks_append, walks, Bool.and_eq_true, Bool.or_eq_true, hdepth, bne_self_eq_false,
    Int.zero_add, Bool.false_eq_true, false_or, fits, hoperator, Bool.not_true] at h
  obtain ⟨rank, hrank, hle⟩ := (Option.any_eq_true _ _).1 h.2.1.2
  exact ⟨rank, hrank, of_decide_eq_true hle⟩

end Token

end BlockCode
