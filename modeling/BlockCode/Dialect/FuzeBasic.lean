import BlockCode.Dialect.Basic
import BlockCode.Rules.Phrase

namespace BlockCode.Dialect

def basicWords : List String :=
  ["and", "break", "case", "clear", "cls", "continue", "data", "def", "dim", "else", "end",
    "endif", "endproc", "endswitch", "for", "func", "gosub", "goto", "if", "input", "let",
    "local", "loop", "next", "not", "or", "print", "proc", "read", "rem", "repeat", "restore",
    "return", "step", "stop", "switch", "then", "to", "until", "wend", "while", "xor"]

def fuzeRules : Rulebook :=
  .mk "fuzebasic" [] (commonRules ++ [Rules.phrases])

def fuzeConventions : Conventions where
  name := "fuzebasic"
  generator := "FuzeBasicGenerator"
  reserved := (basicWords ++ helperWords).eraseDups
  epilogue := "END\n"
  terminator := ""

/-- The program, its end, and the helper routines behind it. Statements end with their line. -/
def fuzeBasic : Dialect where
  conventions := fuzeConventions
  rules := fuzeRules

end BlockCode.Dialect
