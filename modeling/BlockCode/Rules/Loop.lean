import BlockCode.Operand
import BlockCode.Rules.Number

namespace BlockCode.Rules

open Rank

def readNumber (code : String) : Gen Binary64 :=
  Gen.ofExcept (Value.text code).toReal

/-- A number in any form with whole values written without a fraction. The value itself is written,
so a text has to spell a whole number as an integer. -/
def formatNumber (value : Value) : Except Fault String := do
  let x ← value.toReal
  if x.isInteger then return toString (← value.toInteger) else return value.written

def countingForm (name last body : String) : String :=
  "FROM " ++ name ++ " = 1 TO " ++ Text.trimmed last ++ ";\n" ++ body ++ "END\n"

def testedForm (name last body : String) : String :=
  "FOR (" ++ name ++ " = 1; " ++ name ++ " <= " ++ last ++ "; " ++ name ++ "++)\n" ++ body ++
    "END\n"

/-- Runs the body with the variable at one, two and so on up to `last`. The counting form would
count down to a bound below one, where the body must not run at all. -/
def countedLoop (name last body : String) : Gen String := do
  let rises ←
    if Operand.isNumber last then
      pure (Binary64.le (Binary64.ofRatio false 1 1) (← readNumber last))
    else pure false
  return if rises then countingForm name last body else testedForm name last body

/-- Code that may be repeated: the code itself, or a temporary with the statement that sets it. -/
def cached (code base : String) : Gen (String × String) := do
  if Operand.isSimple code then return (code, "")
  else
    let name ← Gen.temporary (.text base)
    return (name, ← Gen.statement (name ++ " = " ++ code))

def repeatFixed : Rule := fun site => do
  let times ← Gen.ofExcept (← site.fieldOr "TIMES" (.int 0)).toReal
  let name ← Gen.temporary (.text "count")
  let body ← site.loopBody "DO"
  return .statement (← countedLoop name (numberText times) body)

def repeatComputed : Rule := fun site => do
  let times ← site.valueOr "TIMES" assignment "0"
  let name ← Gen.temporary (.text "count")
  let (last, setup) ← cached times "repeat_end"
  let body ← site.loopBody "DO"
  return .statement (setup ++ (← countedLoop name last body))

def whileLoop : Rule := fun site => do
  let until_ ← site.option "MODE" [("WHILE", false), ("UNTIL", true)]
  let condition ←
    if until_ then pure ("!" ++ (← site.valueOr "BOOL" logicalNot "false"))
    else site.valueOr "BOOL" loosest "false"
  let body ← site.loopBody "DO"
  return .statement ("WHILE (" ++ condition ++ ")\n" ++ body ++ "END\n")

/-- Counts by the size of the step toward the end, whatever the sign it was given with. -/
def stepToward (first last increment : Binary64) : Binary64 :=
  if last.lt first then increment.abs.neg else increment.abs

def literalCount (name first last step body : String) : String :=
  "FROM " ++ name ++ " = " ++ Text.trimmed first ++ " TO " ++ Text.trimmed last ++ " STEP " ++
    step ++ ";\n" ++ body ++ "END\n"

/-- Which way to count is decided once, when the loop starts. -/
def computedCount (name first last step indent turn body : String) : String :=
  "IF (" ++ first ++ " > " ++ last ++ ")\n" ++ indent ++ turn ++ "END\n" ++
    "FOR (" ++ name ++ " = " ++ first ++ "; " ++ step ++ " >= 0 && " ++ name ++ " <= " ++ last ++
    " || " ++ step ++ " < 0 && " ++ name ++ " >= " ++ last ++ "; " ++ name ++ " += " ++ step ++
    ")\n" ++ body ++ "END\n"

/-- What the code of a count is put together from. -/
structure CountParts where
  var : Value
  name : String
  first : String
  last : String
  increment : String
  body : String

def countParts (site : Site) : Gen CountParts := do
  let var ← site.field "VAR"
  let name ← Gen.variableName var
  let first ← site.valueOr "FROM" assignment "0"
  let last ← site.valueOr "TO" assignment "0"
  let increment ← site.valueOr "BY" assignment "1"
  let body ← site.loopBody "DO"
  return { var, name, first, last, increment, body }

/-- The size of the step, if the way to go is decided when the loop starts. -/
def stepSize (increment : String) : Gen String := do
  if Operand.isNumber increment then return numberText (← readNumber increment).abs
  else return "abs(" ++ increment ++ ")"

namespace CountParts

variable (p : CountParts)

def isLiteral : Bool :=
  Operand.isNumber p.first && Operand.isNumber p.last && Operand.isNumber p.increment

def literal : Gen Outcome := do
  let x ← readNumber p.increment
  let a ← readNumber p.first
  let b ← readNumber p.last
  return .statement (literalCount p.name p.first p.last (numberText (stepToward a b x)) p.body)

def computed : Gen Outcome := do
  let start ← cached p.first (p.var.written ++ "_start")
  let finish ← cached p.last (p.var.written ++ "_end")
  let step ← Gen.temporary (.text (p.var.written ++ "_inc"))
  let size ← stepSize p.increment
  let stepSetup ← Gen.statement (step ++ " = " ++ size)
  let turn ← Gen.statement (step ++ " = -" ++ step)
  return .statement
    (start.2 ++ finish.2 ++ stepSetup ++
      computedCount p.name start.1 finish.1 step (← Gen.indent) turn p.body)

def code : Gen Outcome :=
  if p.isLiteral then p.literal else p.computed

end CountParts

/-- Counts a variable of the program from one bound to the other. -/
def count : Rule := fun site => do
  (← countParts site).code

def jump : Rule := fun site => do
  let word ← site.option "FLOW" [("BREAK", "BREAK"), ("CONTINUE", "CONTINUE")]
  return .statement (← Gen.statement word)

def loops : Rulebook :=
  .mk "loops"
    [("controls_repeat", repeatFixed), ("controls_repeat_ext", repeatComputed),
      ("controls_whileUntil", whileLoop), ("controls_for", count),
      ("controls_flow_statements", jump)]
    []

end BlockCode.Rules
