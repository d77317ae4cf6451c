import BlockCode.Generation.Program

namespace BlockCode.Rules

open Rank

/-- Whole numbers are written without a fraction. -/
def numberText (x : Binary64) : String :=
  match x.truncate? with
  | some n => if x.isInteger then toString n else x.text
  | none => x.text

/-- The code of a number; not a number has none. -/
def numberCode? : Binary64 → Option (String × Rank)
  | .nan => none
  | .infinite negative => some (if negative then ("-INF", unaryNegation) else ("INF", atomic))
  | x => some (numberText x, if x.isNegative then unaryNegation else atomic)

def numberLiteral : Rule := fun site => do
  let raw ← site.fieldOr "NUM" (.int 0)
  let refuse : Gen Outcome := throw (.unhandledValue site.kind "NUM" raw none)
  match raw.toReal with
  | .error .beyondRange => throw .beyondRange
  | .error _ => refuse
  | .ok x =>
    match numberCode? x with
    | some (code, rank) => return .value code rank
    | none => refuse

/-- An arithmetic operator: its sign, its rank, and the rank required of the right operand. A power
has no sign of its own. -/
structure Arithmetic where
  sign : Option String
  rank : Rank
  right : Rank

def arithmetics : List (String × Arithmetic) :=
  [("ADD", ⟨some " + ", addition, addition⟩), ("MINUS", ⟨some " - ", subtraction, subtraction - 1⟩),
    ("MULTIPLY", ⟨some " * ", multiplication, multiplication - 1⟩),
    ("DIVIDE", ⟨some " / ", division, division - 1⟩), ("POWER", ⟨none, comma, comma⟩)]

def arithmetic : Rule := fun site => do
  let op ← site.option "OP" arithmetics
  let left ← site.valueOr "A" op.rank "0"
  let right ← site.valueOr "B" op.right "0"
  match op.sign with
  | some sign => return .value (left ++ sign ++ right) op.rank
  | none => return .value ("pow(" ++ left ++ ", " ++ right ++ ")") functionCall

/-- Code around an operand. -/
structure Frame where
  before : String
  after : String

def Frame.around (f : Frame) (code : String) : String :=
  f.before ++ code ++ f.after

def singleCalls : List (String × Frame) :=
  [("ABS", ⟨"abs(", ")"⟩), ("ROOT", ⟨"sqrt(", ")"⟩), ("LN", ⟨"log(", ")"⟩), ("EXP", ⟨"exp(", ")"⟩),
    ("POW10", ⟨"pow(10, ", ")"⟩), ("ROUND", ⟨"round(", ")"⟩), ("ROUNDUP", ⟨"ceil(", ")"⟩),
    ("ROUNDDOWN", ⟨"floor(", ")"⟩), ("SIN", ⟨"sin(", " / 180 * pi())"⟩),
    ("COS", ⟨"cos(", " / 180 * pi())"⟩), ("TAN", ⟨"tan(", " / 180 * pi())"⟩)]

def singleQuotients : List (String × Frame) :=
  [("LOG10", ⟨"log(", ") / log(10)"⟩), ("ASIN", ⟨"asin(", ") / pi() * 180"⟩),
    ("ACOS", ⟨"acos(", ") / pi() * 180"⟩), ("ATAN", ⟨"atan(", ") / pi() * 180"⟩)]

/-- A second minus sign would make a decrement of the first. -/
def spaceMinus (code : String) : String :=
  if code.toList.head? = some '-' then " " ++ code else code

/-- The value of the field if it is a text; other values select nothing. -/
def wordOf : Value → Option String
  | .text s => some s
  | _ => none

def singleNames : List String :=
  "NEG" :: (singleCalls.map Prod.fst ++ singleQuotients.map Prod.fst)

/-- Functions of one operand. The operand is generated before an unknown function is refused. -/
def single : Rule := fun site => do
  let op ← site.field "OP"
  let word := wordOf op
  if word = some "NEG" then
    let operand ← site.valueOr "NUM" unaryNegation "0"
    return .value ("-" ++ spaceMinus operand) unaryNegation
  else
    let inQuotient := word ∈ [some "SIN", some "COS", some "TAN"]
    let operand ← site.valueOr "NUM" (if inQuotient then division else loosest) "0"
    if !op.isKey then throw .notAKey
    match word.bind (singleCalls.lookup ·), word.bind (singleQuotients.lookup ·) with
    | some frame, _ => return .value (frame.around operand) functionCall
    | none, some frame => return .value (frame.around operand) division
    | none, none => throw (Fault.unhandledValue site.kind "OP" op (some singleNames))

def constants : List (String × String × Rank) :=
  [("PI", "M_PI", atomic), ("E", "M_E", atomic), ("GOLDEN_RATIO", "(1 + sqrt(5)) / 2", division),
    ("SQRT2", "M_SQRT2", atomic), ("SQRT1_2", "M_SQRT1_2", atomic), ("INFINITY", "INF", atomic)]

def constant : Rule := fun site => do
  let (code, rank) ← site.option "CONSTANT" constants
  return .value code rank

def primeHelper (placeholder : String) : List String :=
  ["function " ++ placeholder ++ "($n) \x7b",
    "  // https://en.wikipedia.org/wiki/Primality_test#Naive_methods",
    "  if ($n == 2 || $n == 3) \x7b",
    "    return true;",
    "  \x7d",
    "  // False if n is NaN, negative, is 1, or not whole.",
    "  // And false if n is divisible by 2 or 3.",
    "  if (!is_numeric($n) || $n <= 1 || $n % 1 != 0 || $n % 2 == 0 || $n % 3 == 0) \x7b",
    "    return false;",
    "  \x7d",
    "  // Check all the numbers of form 6k +/- 1, up to sqrt(n).",
    "  for ($x = 6; $x <= sqrt($n) + 1; $x += 6) \x7b",
    "    if ($n % ($x - 1) == 0 || $n % ($x + 1) == 0) \x7b",
    "      return false;",
    "    \x7d",
    "  \x7d",
    "  return true;",
    "\x7d"]

/-- How a property of a number is tested. -/
inductive NumberTest where
  | remainder (frame : Frame) (rank : Rank)
  | whole
  | divisible
  | prime

def numberTests : List (String × NumberTest) :=
  [("EVEN", .remainder ⟨"", " % 2 == 0"⟩ equality), ("ODD", .remainder ⟨"", " % 2 == 1"⟩ equality),
    ("WHOLE", .whole), ("POSITIVE", .remainder ⟨"", " > 0"⟩ relational),
    ("NEGATIVE", .remainder ⟨"", " < 0"⟩ relational), ("DIVISIBLE_BY", .divisible),
    ("PRIME", .prime)]

def numberTest : Rule := fun site => do
  match ← site.option "PROPERTY" numberTests with
  | .prime =>
    let number ← site.valueOr "NUMBER_TO_CHECK" loosest "0"
    let name ← Gen.provide "math_isPrime" (primeHelper (← Gen.placeholder))
    return .value (name ++ "(" ++ number ++ ")") functionCall
  | .whole =>
    let number ← site.valueOr "NUMBER_TO_CHECK" loosest "0"
    return .value ("is_int(" ++ number ++ ")") functionCall
  | .divisible =>
    let number ← site.valueOr "NUMBER_TO_CHECK" modulus "0"
    let divisor ← site.valueOr "DIVISOR" (modulus - 1) "0"
    return .value (number ++ " % " ++ divisor ++ " == 0") equality
  | .remainder frame rank =>
    let number ← site.valueOr "NUMBER_TO_CHECK" modulus "0"
    return .value (frame.around number) rank

def listBuiltins : List (String × String) :=
  [("SUM", "array_sum"), ("MIN", "min"), ("MAX", "max")]

/-- The helpers over lists: the key of each, and its text with the name left out. -/
def listHelpers : List (String × String × (String → List String)) :=
  [("AVERAGE", "math_mean", fun name =>
      ["function " ++ name ++ "($myList) \x7b",
        "  return array_sum($myList) / count($myList);",
        "\x7d"]),
    ("MEDIAN", "math_median", fun name =>
      ["function " ++ name ++ "($arr) \x7b",
        "  sort($arr, SORT_NUMERIC);",
        "  return (count($arr) % 2) ? $arr[floor(count($arr) / 2)] :",
        "      ($arr[floor(count($arr) / 2)] + $arr[floor(count($arr) / 2) - 1]) / 2;",
        "\x7d"]),
    ("MODE", "math_modes", fun name =>
      ["function " ++ name ++ "($values) \x7b",
        "  $v = array_count_values($values);",
        "  arsort($v);",
        "  foreach ($v as $k => $v) \x7b $total = $k; break; \x7d",
        "  return array($total);",
        "\x7d"]),
    ("STD_DEV", "math_standard_deviation", fun name =>
      ["function " ++ name ++ "($numbers) \x7b",
        "  $n = count($numbers);",
        "  if (!$n) return null;",
        "  $mean = array_sum($numbers) / count($numbers);",
        "  foreach ($numbers as $key => $num) $devs[$key] = pow($num - $mean, 2);",
        "  return sqrt(array_sum($devs) / (count($devs) - 1));",
        "\x7d"]),
    ("RANDOM", "math_random_list", fun name =>
      ["function " ++ name ++ "($list) \x7b",
        "  $x = rand(0, count($list) - 1);",
        "  return $list[$x];",
        "\x7d"])]

/-- Aggregates of a list: built-in functions for some, helpers for the rest. -/
def aggregate : Rule := fun site => do
  let op ← site.field "OP"
  let items ← site.valueOr "LIST" loosest "array()"
  if !op.isKey then throw .notAKey
  match (wordOf op).bind (listBuiltins.lookup ·) with
  | some function => return .value (function ++ "(" ++ items ++ ")") functionCall
  | none =>
    let (key, template) ← site.option "OP" listHelpers
    let name ← Gen.provide key (template (← Gen.placeholder))
    return .value (name ++ "(" ++ items ++ ")") functionCall

def remainder : Rule := fun site => do
  let dividend ← site.valueOr "DIVIDEND" modulus "0"
  let divisor ← site.valueOr "DIVISOR" (modulus - 1) "0"
  return .value (dividend ++ " % " ++ divisor) modulus

def clamp : Rule := fun site => do
  let number ← site.valueOr "VALUE" comma "0"
  let low ← site.valueOr "LOW" comma "0"
  let high ← site.valueOr "HIGH" comma "INF"
  return .value ("min(max(" ++ number ++ ", " ++ low ++ "), " ++ high ++ ")") functionCall

def randomIntegerHelper (placeholder : String) : List String :=
  ["function " ++ placeholder ++ "($a, $b) \x7b",
    "  if ($a > $b) \x7b",
    "    return rand($b, $a);",
    "  \x7d",
    "  return rand($a, $b);",
    "\x7d"]

def randomInteger : Rule := fun site => do
  let low ← site.valueOr "FROM" comma "0"
  let high ← site.valueOr "TO" comma "0"
  let name ← Gen.provide "math_random_int" (randomIntegerHelper (← Gen.placeholder))
  return .value (name ++ "(" ++ low ++ ", " ++ high ++ ")") functionCall

def randomFraction : Rule := fun _ =>
  return .value "(float)rand() / (float)getrandmax()" division

def variableValue : Rule := fun site => do
  return .value (← Gen.variableName (← site.field "VAR")) atomic

def assign : Rule := fun site => do
  let value ← site.valueOr "VALUE" assignment "0"
  let name ← Gen.variableName (← site.field "VAR")
  return .statement (← Gen.statement (name ++ " = " ++ value))

/-- Adds to a variable. -/
def change : Rule := fun site => do
  let delta ← site.valueOr "DELTA" addition "0"
  let name ← Gen.variableName (← site.field "VAR")
  return .statement (← Gen.statement (name ++ " = " ++ name ++ " + " ++ delta))

def number : Rulebook :=
  .mk "math"
    [("math_number", numberLiteral), ("math_arithmetic", arithmetic), ("math_single", single),
      ("math_round", single), ("math_trig", single), ("math_constant", constant),
      ("math_number_property", numberTest), ("math_change", change), ("math_on_list", aggregate),
      ("math_modulo", remainder), ("math_constrain", clamp), ("math_random_int", randomInteger),
      ("math_random_float", randomFraction)]
    []

def assignments : Rulebook :=
  .mk "variables" [("variables_get", variableValue), ("variables_set", assign)] []

end BlockCode.Rules
