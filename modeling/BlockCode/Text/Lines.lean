import BlockCode.Text.Character

namespace BlockCode.Text

/-- Puts `lead` behind every newline that starts another line. -/
def leadInner (lead : List Char) : List Char → List Char
  | [] => []
  | c :: cs =>
    if c = '\n' ∧ cs ≠ [] then c :: (lead ++ leadInner lead cs) else c :: leadInner lead cs

def leadChars (lead cs : List Char) : List Char :=
  lead ++ leadInner lead cs

/-- Puts `lead` in front of every line; a final newline starts no further line. -/
def leadLines (lead text : String) : String :=
  String.ofList (leadChars lead.toList text.toList)

/-- Drops the leading blank lines and keeps the indentation of the first line with ink on it. -/
def dropBlankLines (cs : List Char) : List Char :=
  ((cs.takeWhile isBlank).reverse.takeWhile (· ≠ '\n')).reverse ++ cs.dropWhile isBlank

/-- Drops the spaces and tabs that stand directly before a newline. -/
def dropLineEnds : List Char → List Char
  | [] => []
  | c :: cs =>
    let rest := dropLineEnds cs
    if (c = ' ' ∨ c = '\t') ∧ rest.head? = some '\n' then rest else c :: rest

def layoutChars (cs : List Char) : List Char :=
  let body := trimEnd (dropLineEnds (dropBlankLines cs))
  if body.isEmpty then [] else body ++ ['\n']

/-- The layout of a finished program: no leading blank line, no spaces at the ends of lines, and one
newline at the end unless there is nothing to end. -/
def layout (text : String) : String :=
  String.ofList (layoutChars text.toList)

end BlockCode.Text
