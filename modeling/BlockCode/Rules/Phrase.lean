import BlockCode.Operand
import BlockCode.Rules.Loop
import BlockCode.Text.Shown

namespace BlockCode.Rules

open Rank

def emptyText : String := "\"\""

def textLiteral : Rule := fun site => do
  return .value (Text.literal (← site.fieldOr "TEXT" (.text "")).written) atomic

/-- Joins as many texts as the shape data says. Only the first may be a bare sum: a later sum must
not run into the text before it. -/
def textJoin : Rule := fun site => do
  let count ← Gen.ofExcept (← site.shapeOr "items" (.int 0)).toInteger
  if count = 0 then return .value emptyText atomic
  else if count = 1 then return .value (← site.valueOr "ADD0" atomic emptyText) atomic
  else
    let first ← site.valueOr "ADD0" addition emptyText
    let rest ← (List.range (count - 1).toNat).mapM fun n =>
      site.valueOr ("ADD" ++ toString (n + 1)) (addition - 1) emptyText
    return .value (" + ".intercalate (first :: rest)) addition

def textAppend : Rule := fun site => do
  let name ← Gen.variableName (← site.field "VAR")
  let value ← site.valueOr "TEXT" (addition - 1) emptyText
  return .statement (← Gen.statement (name ++ " = " ++ name ++ " + " ++ value))

def textCall (function socket : String) : Rule := fun site => do
  let value ← site.valueOr socket loosest emptyText
  return .value (function ++ "(" ++ value ++ ")") functionCall

def searches : List (String × String × String) :=
  [("FIRST", "text_indexOf", "strpos"), ("LAST", "text_lastIndexOf", "strrpos")]

def searchHelper (placeholder builtin : String) : List String :=
  ["function " ++ placeholder ++ "($text, $search) \x7b",
    "  $pos = " ++ builtin ++ "($text, $search);",
    "  return $pos === false ? 0 : $pos + 1;",
    "\x7d"]

def textSearch : Rule := fun site => do
  let (key, builtin) ← site.option "END" searches
  let find ← site.valueOr "FIND" comma emptyText
  let value ← site.valueOr "VALUE" comma emptyText
  let name ← Gen.provide key (searchHelper (← Gen.placeholder) builtin)
  return .value (name ++ "(" ++ value ++ ", " ++ find ++ ")") functionCall

def letterPositions : List String :=
  ["FIRST", "LAST", "FROM_START", "FROM_END", "RANDOM"]

def randomLetterHelper (placeholder : String) : List String :=
  ["function " ++ placeholder ++ "($text) \x7b",
    "  return $text[rand(0, strlen($text) - 1)];",
    "\x7d"]

def letterCode (value position : String) : String :=
  "substr(" ++ value ++ ", " ++ position ++ ", 1)"

/-- Positions count from one in the program and from zero in the generated code; a literal is
shifted right away. -/
def shiftedPosition (code : String) : Gen String := do
  if Operand.isNumber code then
    return numberText ((← readNumber code).sub (Binary64.ofRatio false 1 1))
  else return code ++ " - 1"

def textLetter : Rule := fun site => do
  let raw ← site.field "WHERE"
  let position := if raw.isSet then raw else .text "FROM_START"
  let word := (wordOf position).filter (· ∈ letterPositions)
  match word with
  | none => throw (.unhandledValue site.kind "WHERE" position (some letterPositions))
  | some word =>
    let value ← site.valueOr "VALUE" comma emptyText
    if word = "FIRST" then return .value (letterCode value "0") functionCall
    else if word = "LAST" then return .value (letterCode value "-1") functionCall
    else if word = "RANDOM" then
      let name ← Gen.provide "text_random_letter" (randomLetterHelper (← Gen.placeholder))
      return .value (name ++ "(" ++ value ++ ")") functionCall
    else if word = "FROM_START" then
      let at_ ← site.valueOr "AT" subtraction "1"
      return .value (letterCode value (← shiftedPosition at_)) functionCall
    else
      let at_ ← site.valueOr "AT" unaryNegation "1"
      return .value (letterCode value ("-" ++ spaceMinus at_)) functionCall

def cutPositions : List String :=
  ["FROM_START", "FROM_END", "FIRST", "LAST"]

def cutHelper (placeholder : String) : List String :=
  ["function " ++ placeholder ++ "($text, $where1, $at1, $where2, $at2) \x7b",
    "  if ($where1 == 'FROM_START') \x7b",
    "    $at1--;",
    "  \x7d else if ($where1 == 'FROM_END') \x7b",
    "    $at1 = strlen($text) - $at1;",
    "  \x7d else if ($where1 == 'FIRST') \x7b",
    "    $at1 = 0;",
    "  \x7d else if ($where1 == 'LAST') \x7b",
    "    $at1 = strlen($text) - 1;",
    "  \x7d",
    "  if ($where2 == 'FROM_START') \x7b",
    "    $at2--;",
    "  \x7d else if ($where2 == 'FROM_END') \x7b",
    "    $at2 = strlen($text) - $at2;",
    "  \x7d else if ($where2 == 'FIRST') \x7b",
    "    $at2 = 0;",
    "  \x7d else if ($where2 == 'LAST') \x7b",
    "    $at2 = strlen($text) - 1;",
    "  \x7d",
    "  return substr($text, $at1, $at2 - $at1 + 1);",
    "\x7d"]

def cutPosition (site : Site) (field : String) (raw : Value) : Gen String :=
  match (wordOf raw).filter (· ∈ cutPositions) with
  | some word => return word
  | none => throw (.unhandledValue site.kind field raw (some cutPositions))

/-- The part of a text between two positions; from the first to the last letter it is the text
itself. -/
def textCut : Rule := fun site => do
  let raw1 ← site.field "WHERE1"
  let raw2 ← site.field "WHERE2"
  if wordOf raw1 = some "FIRST" ∧ wordOf raw2 = some "LAST" then
    return .value (← site.valueOr "STRING" atomic emptyText) atomic
  else
    let value ← site.valueOr "STRING" comma emptyText
    let where1 ← cutPosition site "WHERE1" raw1
    let where2 ← cutPosition site "WHERE2" raw2
    let at1 ← site.valueOr "AT1" comma "1"
    let at2 ← site.valueOr "AT2" comma "1"
    let name ← Gen.provide "text_get_substring" (cutHelper (← Gen.placeholder))
    return .value
      (name ++ "(" ++ value ++ ", '" ++ where1 ++ "', " ++ at1 ++ ", '" ++ where2 ++ "', " ++ at2 ++
        ")")
      functionCall

def textFrame (field : String) (table : List (String × Frame)) : Rule := fun site => do
  let frame ← site.option field table
  let value ← site.valueOr "TEXT" loosest emptyText
  return .value (frame.around value) functionCall

def cases : List (String × Frame) :=
  [("UPPERCASE", ⟨"strtoupper(", ")"⟩), ("LOWERCASE", ⟨"strtolower(", ")"⟩),
    ("TITLECASE", ⟨"ucwords(strtolower(", "))"⟩)]

def trims : List (String × Frame) :=
  [("LEFT", ⟨"ltrim(", ")"⟩), ("RIGHT", ⟨"rtrim(", ")"⟩), ("BOTH", ⟨"trim(", ")"⟩)]

def printText : Rule := fun site => do
  return .statement ("PRINT " ++ (← site.valueOr "TEXT" loosest emptyText) ++ "\n")

/-- A line read from the console, as a number if the block asks for one. -/
def promptCode (site : Site) (message : String) : Gen String := do
  let code := "readline(" ++ message ++ ")"
  if wordOf (← site.field "TYPE") = some "NUMBER" then return "floatval(" ++ code ++ ")"
  else return code

def promptFixed : Rule := fun site => do
  let message := Text.literal (← site.fieldOr "TEXT" (.text "")).written
  return .value (← promptCode site message) functionCall

def promptComputed : Rule := fun site => do
  return .value (← promptCode site (← site.valueOr "TEXT" loosest emptyText)) functionCall

def phrases : Rulebook :=
  .mk "text"
    [("text", textLiteral), ("text_join", textJoin), ("text_append", textAppend),
      ("text_length", textCall "strlen" "VALUE"), ("text_isEmpty", textCall "empty" "VALUE"),
      ("text_indexOf", textSearch), ("text_charAt", textLetter), ("text_getSubstring", textCut),
      ("text_changeCase", textFrame "CASE" cases), ("text_trim", textFrame "MODE" trims),
      ("text_print", printText), ("text_prompt", promptFixed), ("text_prompt_ext", promptComputed)]
    []

end BlockCode.Rules
