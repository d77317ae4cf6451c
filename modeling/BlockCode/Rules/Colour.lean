import BlockCode.Generation.Program

namespace BlockCode.Rules

open Rank

def colourLiteral : Rule := fun site => do
  return .value ("'" ++ (← site.fieldOr "COLOUR" (.text "#000000")).written ++ "'") atomic

/-- Ends a helper that has the three channels at hand. -/
def hexLines : List String :=
  ["  $hex = \"#\";",
    "  $hex .= str_pad(dechex($r), 2, \"0\", STR_PAD_LEFT);",
    "  $hex .= str_pad(dechex($g), 2, \"0\", STR_PAD_LEFT);",
    "  $hex .= str_pad(dechex($b), 2, \"0\", STR_PAD_LEFT);",
    "  return $hex;",
    "\x7d"]

def randomColourHelper (placeholder : String) : List String :=
  ["function " ++ placeholder ++ "() \x7b",
    "  $r = rand(0, 255);",
    "  $g = rand(0, 255);",
    "  $b = rand(0, 255);"] ++ hexLines

def randomColour : Rule := fun _ => do
  let name ← Gen.provide "colour_random" (randomColourHelper (← Gen.placeholder))
  return .value (name ++ "()") functionCall

def mixHelper (placeholder : String) : List String :=
  ["function " ++ placeholder ++ "($r, $g, $b) \x7b",
    "  $r = round(max(min($r, 100), 0) * 2.55);",
    "  $g = round(max(min($g, 100), 0) * 2.55);",
    "  $b = round(max(min($b, 100), 0) * 2.55);"] ++ hexLines

/-- A colour from percentages of red, green and blue. -/
def mix : Rule := fun site => do
  let red ← site.valueOr "RED" comma "0"
  let green ← site.valueOr "GREEN" comma "0"
  let blue ← site.valueOr "BLUE" comma "0"
  let name ← Gen.provide "colour_rgb" (mixHelper (← Gen.placeholder))
  return .value (name ++ "(" ++ red ++ ", " ++ green ++ ", " ++ blue ++ ")") functionCall

def blendHelper (placeholder : String) : List String :=
  ["function " ++ placeholder ++ "($c1, $c2, $ratio) \x7b",
    "  $ratio = max(min($ratio, 1), 0);",
    "  $r1 = hexdec(substr($c1, 1, 2));",
    "  $g1 = hexdec(substr($c1, 3, 2));",
    "  $b1 = hexdec(substr($c1, 5, 2));",
    "  $r2 = hexdec(substr($c2, 1, 2));",
    "  $g2 = hexdec(substr($c2, 3, 2));",
    "  $b2 = hexdec(substr($c2, 5, 2));",
    "  $r = round($r1 * (1 - $ratio) + $r2 * $ratio);",
    "  $g = round($g1 * (1 - $ratio) + $g2 * $ratio);",
    "  $b = round($b1 * (1 - $ratio) + $b2 * $ratio);"] ++ hexLines

/-- Two colours mixed; a ratio of zero gives the first, of one the second. -/
def blend : Rule := fun site => do
  let first ← site.valueOr "COLOUR1" comma "'#000000'"
  let second ← site.valueOr "COLOUR2" comma "'#000000'"
  let ratio ← site.valueOr "RATIO" comma "0.5"
  let name ← Gen.provide "colour_blend" (blendHelper (← Gen.placeholder))
  return .value (name ++ "(" ++ first ++ ", " ++ second ++ ", " ++ ratio ++ ")") functionCall

def colour : Rulebook :=
  .mk "colour"
    [("colour_picker", colourLiteral), ("colour_random", randomColour), ("colour_rgb", mix),
      ("colour_blend", blend)]
    []

end BlockCode.Rules
