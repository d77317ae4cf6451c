import BlockCode.Generation.Program

namespace BlockCode.Rules

open Rank

/-- One arm of an if chain. -/
def ifArm (lead condition body : String) : String :=
  lead ++ " (" ++ condition ++ ") \x7b\n" ++ body ++ "\x7d"

/-- An if with as many further arms as the shape data says, and an else if it asks for one. -/
def ifChain : Rule := fun site => do
  let further ← Gen.ofExcept (← site.shapeOr "elseif" (.int 0)).toInteger
  let hasElse := (← site.shapeOr "else" (.int 0)).isSet
  let arms ← (List.range (further + 1).toNat).mapM fun n => do
    let condition ← site.valueOr ("IF" ++ toString n) loosest "false"
    let body ← site.body ("DO" ++ toString n)
    return ifArm (if n = 0 then "if" else " else if") condition body
  let last ←
    if hasElse then
      pure (" else \x7b\n" ++ (← site.body "ELSE") ++ "\x7d")
    else pure ""
  return .statement (String.join arms ++ last ++ "\n")

def comparisons : List (String × String × Rank) :=
  [("EQ", "==", equality), ("NEQ", "!=", equality), ("LT", "<", relational),
    ("LTE", "<=", relational), ("GT", ">", relational), ("GTE", ">=", relational)]

/-- Comparisons do not chain: a comparison on either side keeps its parentheses. -/
def comparison : Rule := fun site => do
  let (operator, rank) ← site.option "OP" comparisons
  let left ← site.valueOr "A" (rank - 1) "0"
  let right ← site.valueOr "B" (rank - 1) "0"
  return .value (left ++ " " ++ operator ++ " " ++ right) rank

/-- Each operator with its rank and the operand that leaves the other one as it is. -/
def connectives : List (String × String × Rank × String) :=
  [("AND", "&&", logicalAnd, "true"), ("OR", "||", logicalOr, "false")]

/-- One missing operand is neutral; with both missing the result is false. -/
def connective : Rule := fun site => do
  let (operator, rank, neutral) ← site.option "OP" connectives
  let left ← site.value "A" rank
  let right ← site.value "B" rank
  let missing := if left = "" ∧ right = "" then "false" else neutral
  return .value (orElse left missing ++ " " ++ operator ++ " " ++ orElse right missing) rank

def negation : Rule := fun site => do
  let operand ← site.valueOr "BOOL" logicalNot "true"
  return .value ("!" ++ operand) logicalNot

def truthLiteral : Rule := fun site => do
  let code ← site.option "BOOL" [("TRUE", "true"), ("FALSE", "false")]
  return .value code atomic

def nullLiteral : Rule := fun _ =>
  return .value "null" atomic

def choice : Rule := fun site => do
  let condition ← site.valueOr "IF" (conditional - 1) "false"
  let yes ← site.valueOr "THEN" conditional "null"
  let no ← site.valueOr "ELSE" conditional "null"
  return .value (condition ++ " ? " ++ yes ++ " : " ++ no) conditional

def logic : Rulebook :=
  .mk "logic"
    [("controls_if", ifChain), ("logic_compare", comparison), ("logic_operation", connective),
      ("logic_negate", negation), ("logic_boolean", truthLiteral), ("logic_null", nullLiteral),
      ("logic_ternary", choice)]
    []

end BlockCode.Rules
