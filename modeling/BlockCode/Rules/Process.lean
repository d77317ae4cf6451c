import BlockCode.Generation.Program

namespace BlockCode.Rules

open Rank

def processText (name arguments body result : String) : String :=
  "PROCESS " ++ name ++ "(" ++ arguments ++ ")\nBEGIN\n" ++ body ++ result ++ "END\n"

def processKey (name : String) : String :=
  "process:" ++ name

/-- A definition leaves nothing in its place; its text goes to the definitions that follow the main
program. -/
def processDefinition : Rule := fun site => do
  let name ← Gen.procedureName (← site.field "NAME")
  let stack ← site.body "STACK"
  let config := (← read).config
  let body :=
    insertionLines config.indent config.trap site.id ++
      (insertionLines config.indent config.before site.id ++ stack)
  let value ← site.value "RETURN" loosest
  let result ←
    if value = "" then pure ""
    else pure (config.indent ++ (← Gen.statement ("RETURN(" ++ value ++ ")")))
  let arguments ← Gen.ofExcept site.head.arguments
  let names ← arguments.mapM fun argument => Gen.variableName (.text argument)
  let code ← site.sequence (processText name (", ".intercalate names) body result)
  Gen.define (processKey name) code
  return .nothing

/-- A call of a procedure with its arguments; a missing one is null. -/
def callCode (site : Site) : Gen String := do
  let name ← Gen.procedureName (← site.field "NAME")
  let arguments ← Gen.ofExcept site.head.arguments
  let values ← (List.range arguments.length).mapM fun i =>
    site.valueOr ("ARG" ++ toString i) comma "null"
  return name ++ "(" ++ ", ".intercalate values ++ ")"

def callValue : Rule := fun site => do
  return .value (← callCode site) functionCall

def callStatement : Rule := fun site => do
  return .statement (← Gen.statement (← callCode site))

/-- Returns early if a condition holds, with a value if the shape data says so or, without a word on
it, if there is a socket for one. -/
def earlyReturn : Rule := fun site => do
  let condition ← site.valueOr "CONDITION" loosest "false"
  let hasSocket := (site.inputs.lookup "VALUE").isSome
  let result ←
    if (← site.shapeOr "has_return" (.bool hasSocket)).isSet then do
      let value ← site.valueOr "VALUE" loosest "null"
      Gen.statement ("RETURN(" ++ value ++ ")")
    else Gen.statement "RETURN"
  return .statement ("IF (" ++ condition ++ ")\n" ++ (← Gen.indent) ++ result ++ "END\n")

def processes : Rulebook :=
  .mk "procedures"
    [("procedures_defreturn", processDefinition), ("procedures_defnoreturn", processDefinition),
      ("procedures_callreturn", callValue), ("procedures_callnoreturn", callStatement),
      ("procedures_ifreturn", earlyReturn)]
    []

end BlockCode.Rules
