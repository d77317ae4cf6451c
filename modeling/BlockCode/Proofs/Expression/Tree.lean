import BlockCode.Proofs.Expression.Grammar
import BlockCode.Rules.Number
import Mathlib.Algebra.Ring.Nat

namespace BlockCode

open Rank

/-- The operators that take zero for an empty socket. -/
inductive BinaryOp where
  | add
  | subtract
  | multiply
  | divide
  | remainder
  | equal
  | unequal
  | less
  | atMost
  | greater
  | atLeast
  deriving DecidableEq, Repr

/-- How an operator stands in a program and in code: the kind of its block, the option that selects
it, the sockets of its operands, its sign and rank, and the ranks required of the operands. -/
structure BinaryForm where
  kind : String
  option : Option String
  left : String
  right : String
  sign : String
  rank : Rank
  leftRank : Rank
  rightRank : Rank

namespace BinaryOp

def arithmetic (option sign : String) (rank rightRank : Rank) : BinaryForm :=
  ⟨"math_arithmetic", some option, "A", "B", sign, rank, rank, rightRank⟩

def comparison (option sign : String) (rank : Rank) : BinaryForm :=
  ⟨"logic_compare", some option, "A", "B", sign, rank, rank - 1, rank - 1⟩

def form : BinaryOp → BinaryForm
  | .add => arithmetic "ADD" "+" addition addition
  | .subtract => arithmetic "MINUS" "-" subtraction (subtraction - 1)
  | .multiply => arithmetic "MULTIPLY" "*" multiplication (multiplication - 1)
  | .divide => arithmetic "DIVIDE" "/" division (division - 1)
  | .remainder =>
    ⟨"math_modulo", none, "DIVIDEND", "DIVISOR", "%", modulus, modulus, modulus - 1⟩
  | .equal => comparison "EQ" "==" equality
  | .unequal => comparison "NEQ" "!=" equality
  | .less => comparison "LT" "<" relational
  | .atMost => comparison "LTE" "<=" relational
  | .greater => comparison "GT" ">" relational
  | .atLeast => comparison "GTE" ">=" relational

end BinaryOp

inductive Connective where
  | and
  | or
  deriving DecidableEq, Repr

/-- A connective has one rank for itself and its operands, and a word that leaves the other operand
as it is. -/
structure ConnectiveForm where
  option : String
  sign : String
  rank : Rank
  neutral : String

def Connective.form : Connective → ConnectiveForm
  | .and => ⟨"AND", "&&", logicalAnd, "true"⟩
  | .or => ⟨"OR", "||", logicalOr, "false"⟩

/-- What a tree of value blocks says. An empty socket is a blank, which stands for a word that its
place chooses. -/
inductive Tree where
  | blank
  | name (x : String)
  | number (n : Int)
  | truth (b : Bool)
  | binary (op : BinaryOp) (a b : Tree)
  | connective (op : Connective) (a b : Tree)
  | power (a b : Tree)
  | negative (a : Tree)
  | negation (a : Tree)
  | choice (c y n : Tree)
  deriving DecidableEq, Repr

namespace Tree

def isBlank : Tree → Bool
  | .blank => true
  | _ => false

/-- The names in the order in which they stand. -/
def names : Tree → List String
  | .name x => [x]
  | .binary _ a b => a.names ++ b.names
  | .connective _ a b => a.names ++ b.names
  | .power a b => a.names ++ b.names
  | .negative a => a.names
  | .negation a => a.names
  | .choice c y n => c.names ++ y.names ++ n.names
  | _ => []

def truthWord (b : Bool) : String :=
  if b then "true" else "false"

/-- The word for an empty socket of a connective: with both empty the result is false. -/
def missing (op : Connective) (a b : Tree) : String :=
  if a.isBlank && b.isBlank then "false" else op.form.neutral

/-- What the tree means, where `default` is the word for a blank and `spelling` gives each name its
identifier. -/
def formula (spelling : String → String) (default : String) : Tree → Formula
  | .blank => .leaf default
  | .name x => .leaf (spelling x)
  | .number n =>
    if n < 0 then .unary "-" (.leaf (toString n.natAbs)) else .leaf (toString n.natAbs)
  | .truth b => .leaf (truthWord b)
  | .binary op a b => .binary op.form.sign (a.formula spelling "0") (b.formula spelling "0")
  | .connective op a b =>
    .binary op.form.sign (a.formula spelling (missing op a b))
      (b.formula spelling (missing op a b))
  | .power a b => .power (a.formula spelling "0") (b.formula spelling "0")
  | .negative a => .unary "-" (a.formula spelling "0")
  | .negation a => .unary "!" (a.formula spelling "true")
  | .choice c y n =>
    .choice (c.formula spelling "false") (y.formula spelling "null") (n.formula spelling "null")

/-- The rank of the outermost sign. -/
def rank : Tree → Rank
  | .number n => if n < 0 then unaryNegation else atomic
  | .binary op _ _ => op.form.rank
  | .connective op _ _ => op.form.rank
  | .power _ _ => functionCall
  | .negative _ => unaryNegation
  | .negation _ => logicalNot
  | .choice _ _ _ => conditional
  | _ => atomic

end Tree

/-- Code in its place, or the word for an empty socket. -/
def placedOr (required : Rank) (default code : String) (rank : Rank) : String :=
  orElse (place required code rank) default

namespace Tree

/-- The code of a tree; a blank has none. -/
def code (spelling : String → String) : Tree → String
  | .blank => ""
  | .name x => spelling x
  | .number n => toString n
  | .truth b => truthWord b
  | .binary op a b =>
    placedOr op.form.leftRank "0" (a.code spelling) a.rank ++ " " ++ op.form.sign ++ " " ++
      placedOr op.form.rightRank "0" (b.code spelling) b.rank
  | .connective op a b =>
    placedOr op.form.rank (missing op a b) (a.code spelling) a.rank ++ " " ++ op.form.sign ++
      " " ++ placedOr op.form.rank (missing op a b) (b.code spelling) b.rank
  | .power a b =>
    "pow(" ++ placedOr comma "0" (a.code spelling) a.rank ++ ", " ++
      placedOr comma "0" (b.code spelling) b.rank ++ ")"
  | .negative a =>
    "-" ++ Rules.spaceMinus (placedOr unaryNegation "0" (a.code spelling) a.rank)
  | .negation a => "!" ++ placedOr logicalNot "true" (a.code spelling) a.rank
  | .choice c y n =>
    placedOr (conditional - 1) "false" (c.code spelling) c.rank ++ " ? " ++
      placedOr conditional "null" (y.code spelling) y.rank ++ " : " ++
      placedOr conditional "null" (n.code spelling) n.rank

end Tree

/-- What is plugged into a value socket. -/
def Block.plugged (b : Block) (socket : String) : Option Block :=
  (b.inputs.lookup socket).join

/-- An enabled block of the kind with nothing chained after it. -/
structure Block.IsValue (b : Block) (kind : String) : Prop where
  kind_eq : b.head.kind = .text kind
  enabled : b.head.isDisabled = false
  last : b.next = none

/-- What is plugged into a socket says what the tree says. Everything that is not mentioned may be
as it likes: comments, shape data, identifiers, further fields and sockets. -/
inductive Depicts : Option Block → Tree → Prop where
  | blank : Depicts none .blank
  | name {b : Block} {x : String} (hb : b.IsValue "variables_get")
    (hx : b.head.field "VAR" = .ok (.text x)) : Depicts (some b) (.name x)
  | number {b : Block} {n : Int} (hb : b.IsValue "math_number")
    (hn : b.head.fields.entryOr "NUM" (.int 0) = .ok (.int n)) (hsize : n.natAbs < 2 ^ 53) :
    Depicts (some b) (.number n)
  | truth {b : Block} {v : Bool} (hb : b.IsValue "logic_boolean")
    (hv : b.head.field "BOOL" = .ok (.text (if v then "TRUE" else "FALSE"))) :
    Depicts (some b) (.truth v)
  | binary {b : Block} {op : BinaryOp} {x y : Tree} (hb : b.IsValue op.form.kind)
    (hop : ∀ option ∈ op.form.option, b.head.field "OP" = .ok (.text option))
    (hx : Depicts (b.plugged op.form.left) x) (hy : Depicts (b.plugged op.form.right) y) :
    Depicts (some b) (.binary op x y)
  | connective {b : Block} {op : Connective} {x y : Tree} (hb : b.IsValue "logic_operation")
    (hop : b.head.field "OP" = .ok (.text op.form.option)) (hx : Depicts (b.plugged "A") x)
    (hy : Depicts (b.plugged "B") y) : Depicts (some b) (.connective op x y)
  | power {b : Block} {x y : Tree} (hb : b.IsValue "math_arithmetic")
    (hop : b.head.field "OP" = .ok (.text "POWER")) (hx : Depicts (b.plugged "A") x)
    (hy : Depicts (b.plugged "B") y) : Depicts (some b) (.power x y)
  | negative {b : Block} {x : Tree} (hb : b.IsValue "math_single")
    (hop : b.head.field "OP" = .ok (.text "NEG")) (hx : Depicts (b.plugged "NUM") x) :
    Depicts (some b) (.negative x)
  | negation {b : Block} {x : Tree} (hb : b.IsValue "logic_negate")
    (hx : Depicts (b.plugged "BOOL") x) : Depicts (some b) (.negation x)
  | choice {b : Block} {x y z : Tree} (hb : b.IsValue "logic_ternary")
    (hx : Depicts (b.plugged "IF") x) (hy : Depicts (b.plugged "THEN") y)
    (hz : Depicts (b.plugged "ELSE") z) : Depicts (some b) (.choice x y z)

end BlockCode
