import BlockCode.Text.CellWidth
import BlockCode.Text.Character

namespace BlockCode.Text

/-- The first word of a text with the white space around it, and the rest. -/
def firstWord (cs : List Char) : List Char × List Char :=
  let lead := cs.takeWhile isBlank
  let rest := cs.dropWhile isBlank
  let word := rest.takeWhile fun c => !isBlank c
  let rest := rest.dropWhile fun c => !isBlank c
  (lead ++ word ++ rest.takeWhile isBlank, rest.dropWhile isBlank)

/-- The words of a text, each with the white space behind it. `fuel` bounds their count. -/
def wordsOf : Nat → List Char → List (List Char)
  | 0, _ => []
  | _ + 1, [] => []
  | fuel + 1, c :: cs => (firstWord (c :: cs)).1 :: wordsOf fuel (firstWord (c :: cs)).2

/-- Cuts a word into pieces that fill a line; `reversed` is the piece begun, latest first, and
`used` its cells. -/
def chop (width used : Nat) (reversed : List Char) : List Char → List (List Char)
  | [] => [reversed.reverse]
  | c :: cs =>
    if width < used + charCells c then reversed.reverse :: chop width (charCells c) [c] cs
    else chop width (used + charCells c) (c :: reversed) cs

/-- A line that is being filled: the lines before it, latest first, its text and its cells. -/
structure Filling where
  done : List (List Char) := []
  line : List Char := []
  used : Nat := 0

/-- Ends the line, unless nothing is before its end. -/
def Filling.breakLine (f : Filling) : Filling :=
  if f.done.isEmpty && f.line.isEmpty then f else { done := f.line :: f.done }

/-- Puts a word that is wider than a line in pieces, the last of which is filled up further. -/
def Filling.addPieces (f : Filling) : List (List Char) → Filling
  | [] => f
  | [last] => { f with line := last, used := cells last }
  | piece :: rest => addPieces { f with done := piece :: f.done } rest

def Filling.addWord (width : Nat) (f : Filling) (word : List Char) : Filling :=
  let size := cells (trimEnd word)
  if size ≤ width - f.used then { f with line := f.line ++ word, used := f.used + cells word }
  else if width < size then f.breakLine.addPieces (chop width 0 [] word)
  else { f.breakLine with line := word, used := cells word }

/-- The lines that a text takes up. -/
def wrapLine (width : Nat) (cs : List Char) : List (List Char) :=
  if cs.all isBlank then [cs]
  else
    let f := (wordsOf cs.length cs).foldl (Filling.addWord width) {}
    (f.line :: f.done).reverse

/-- The least number of characters that fill a width, or all of them. -/
def fillingLength (width : Nat) (line : List Char) : Nat :=
  ((List.range line.length).find? fun n => width ≤ cells (line.take n)).getD line.length

/-- How much of a line is seen: of the white space at its end, as much as the line has characters
beyond the width is cut off, and then what lies beyond the width. -/
def seenLength (width : Nat) (line : List Char) : Nat :=
  let blanks := line.length - (trimEnd line).length
  fillingLength width (line.take (line.length - min blanks (line.length - width)))

/-- For every character of a line whether it is seen. -/
def seenWithin (width : Nat) (line : List Char) : List Bool :=
  let n := seenLength width line
  List.replicate n true ++ List.replicate (line.length - n) false

end BlockCode.Text
