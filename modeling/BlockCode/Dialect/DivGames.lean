import BlockCode.Dialect.Basic
import BlockCode.Rules.Loop
import BlockCode.Rules.Process

namespace BlockCode.Dialect

def divWords : List String :=
  ["and", "begin", "break", "case", "clone", "const", "continue", "debug", "default", "dup",
    "else", "end", "frame", "from", "function", "global", "id", "if", "import", "include",
    "local", "loop", "not", "offset", "or", "pointer", "private", "process", "program", "repeat",
    "return", "setup_program", "sizeof", "step", "string", "struct", "switch", "to", "type",
    "until", "while", "xor"]

def divRules : Rulebook :=
  .mk "divgames" [] (commonRules ++ [Rules.loops, Rules.processes])

def divConventions : Conventions where
  name := "divgames"
  generator := "DivGamesGenerator"
  reserved := (divWords ++ helperWords).eraseDups
  prologue := "PROGRAM myprogram;\n\nGLOBAL\n$variables\n\n\nBEGIN\n"
  epilogue := "END\n"
  declare names := "\n".intercalate (names.map (· ++ ";"))
  readNames := Value.writtenItems

/-- Programs with a skeleton around them, variables declared as globals, and procedures as processes
behind the program. -/
def divGames : Dialect where
  conventions := divConventions
  rules := divRules

end BlockCode.Dialect
