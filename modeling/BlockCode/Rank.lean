import BlockCode.Conversion

namespace BlockCode

/-- A higher rank binds more loosely. -/
abbrev Rank := Int

namespace Rank

def atomic : Rank := 0
def functionCall : Rank := 2
def logicalNot : Rank := 4
def unaryNegation : Rank := 4
def multiplication : Rank := 5
def division : Rank := 5
def modulus : Rank := 5
def addition : Rank := 6
def subtraction : Rank := 6
def relational : Rank := 8
def equality : Rank := 9
def conditional : Rank := 13
def assignment : Rank := 14
def logicalAnd : Rank := 15
def logicalOr : Rank := 16
def comma : Rank := 17
def loosest : Rank := 99

/-- Every named rank. Of several names for one rank the first is its proper name. -/
def named : List (String × Rank) :=
  [("ATOMIC", atomic), ("CLONE", 1), ("NEW", 1), ("MEMBER", 2), ("FUNCTION_CALL", functionCall),
    ("INCREMENT", 3), ("DECREMENT", 3), ("LOGICAL_NOT", logicalNot), ("BITWISE_NOT", 4),
    ("UNARY_PLUS", 4), ("UNARY_NEGATION", unaryNegation), ("MULTIPLICATION", multiplication),
    ("DIVISION", division), ("MODULUS", modulus), ("ADDITION", addition),
    ("SUBTRACTION", subtraction), ("BITWISE_SHIFT", 7), ("RELATIONAL", relational), ("IN", 8),
    ("INSTANCEOF", 8), ("EQUALITY", equality), ("BITWISE_AND", 10), ("BITWISE_XOR", 11),
    ("BITWISE_OR", 12), ("CONDITIONAL", conditional), ("ASSIGNMENT", assignment),
    ("LOGICAL_AND", logicalAnd), ("LOGICAL_OR", logicalOr), ("COMMA", comma), ("NONE", loosest)]

def ofName? (name : String) : Option Rank :=
  named.lookup name

def name? (rank : Rank) : Option String :=
  (named.find? fun entry => entry.2 = rank).map Prod.fst

/-- Places code of the given rank where `required` is the loosest rank that may stand bare. -/
def place (required : Rank) (code : String) (rank : Rank) : String :=
  if code ≠ "" ∧ required < rank then "(" ++ code ++ ")" else code

/-- Places code whose rank, or the required one, need not be an integer. Empty code is not
compared. -/
def placeAt (required : Value) (code : String) (rank : Value) : Except Fault String :=
  match required, rank with
  | .int required, .int rank => .ok (place required code rank)
  | required, rank => do
    if code = "" then return code
    else if ← required.isBelow rank then return "(" ++ code ++ ")"
    else return code

end Rank

end BlockCode
