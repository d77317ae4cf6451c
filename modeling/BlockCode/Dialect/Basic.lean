import BlockCode.Generation.Program
import BlockCode.Rules.Colour
import BlockCode.Rules.Logic
import BlockCode.Rules.Number

namespace BlockCode

/-- The textual conventions of a language and the rules for the blocks it knows. -/
structure Dialect where
  conventions : Conventions
  rules : Rulebook

namespace Dialect

/-- The words and constants of the language that helper routines are written in. -/
def helperWords : List String :=
  ["__halt_compiler", "abstract", "and", "array", "as", "break", "callable", "case", "catch",
    "class", "clone", "const", "continue", "declare", "default", "die", "do", "echo", "else",
    "elseif", "empty", "enddeclare", "endfor", "endforeach", "endif", "endswitch", "endwhile",
    "eval", "exit", "extends", "final", "for", "foreach", "function", "global", "goto", "if",
    "implements", "include", "include_once", "instanceof", "insteadof", "interface", "isset",
    "list", "namespace", "new", "or", "print", "private", "protected", "public", "require",
    "require_once", "return", "static", "switch", "throw", "trait", "try", "unset", "use", "var",
    "while", "xor", "E_ERROR", "E_WARNING", "E_PARSE", "E_NOTICE", "E_ALL", "E_STRICT", "TRUE",
    "FALSE", "NULL", "__CLASS__", "__DIR__", "__FILE__", "__FUNCTION__", "__LINE__",
    "__METHOD__", "__NAMESPACE__", "__TRAIT__"]

/-- The rules that every dialect has. -/
def commonRules : List (Rulebook) :=
  [Rules.logic, Rules.colour, Rules.assignments, Rules.number]

end Dialect

end BlockCode
