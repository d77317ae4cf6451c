import BlockCode.Fault
import BlockCode.Text.Constant
import BlockCode.Text.Emoji
import BlockCode.Text.Style
import BlockCode.Text.Template
import BlockCode.Text.Word

namespace BlockCode.Text

def isNamePart (c : Char) : Bool :=
  isWord c || c == '.'

/-- Whether a text names an action: a name, arguments in parentheses, both, or a constant. -/
def isAction (text : List Char) : Bool :=
  let cs := trim text
  let arguments := cs.dropWhile isNamePart
  if arguments.isEmpty then true
  else if arguments.head? = some '(' ∧ arguments.getLast? = some ')' ∧ '\n' ∉ arguments then
    isConstant arguments
  else isConstant cs

namespace Markup

def startsTag (c : Char) : Bool :=
  ('a' ≤ c && c ≤ 'z') || c == '#' || c == '/' || c == '@'

/-- The length of a tag's inside, up to the first closing bracket, if no bracket opens before it. -/
def insideLength? : List Char → Option Nat
  | [] => none
  | c :: cs => if c = ']' then some 0 else if c = '[' then none else (insideLength? cs).map (· + 1)

/-- The inside of the tag behind an opening bracket. -/
def tag? : List Char → Option (List Char)
  | [] => none
  | c :: cs =>
    if startsTag c then (insideLength? cs).map fun n => c :: cs.take n else none

/-- Escapes the tags of a text, where the first argument counts the backslashes just before it. -/
def escapeFrom : Nat → List Char → List Char
  | _, [] => []
  | slashes, c :: cs =>
    if c = '\\' then '\\' :: escapeFrom (slashes + 1) cs
    else if c = '[' ∧ (tag? cs).isSome then
      List.replicate (slashes + 1) '\\' ++ '[' :: escapeFrom 0 cs
    else c :: escapeFrom 0 cs

/-- A backslash at the very end would escape what comes next. -/
def closeSlash (cs : List Char) : List Char :=
  if cs.getLast? = some '\\' ∧ cs.dropLast.getLast? ≠ some '\\' then cs ++ ['\\'] else cs

/-- Puts a backslash in front of what would be a tag. This stands for the escape of the library that
the console uses; a run takes its own from the conventions. -/
def escape (s : String) : String :=
  String.ofList (closeSlash (escapeFrom 0 s.toList))

/-- Text of a marked-up message, or a tag in it. -/
inductive Piece where
  | plain (cs : List Char)
  | tag (inside : List Char)
  deriving DecidableEq

/-- Puts a character in front of the pieces. -/
def consChar (c : Char) : List Piece → List Piece
  | .plain cs :: rest => .plain (c :: cs) :: rest
  | rest => .plain [c] :: rest

def consChars (cs : List Char) (pieces : List Piece) : List Piece :=
  cs.foldr consChar pieces

/-- Splits a text into its pieces, after skipping `skip` characters and with `slashes` backslashes
held back. Before a tag, two backslashes are one, and an odd one takes the tag's meaning away. -/
def pieces : Nat → Nat → List Char → List Piece
  | _, slashes, [] => consChars (List.replicate slashes '\\') []
  | skip + 1, slashes, _ :: cs => pieces skip slashes cs
  | 0, slashes, c :: cs =>
    if c = '\\' then pieces 0 (slashes + 1) cs
    else
      match (if c = '[' then tag? cs else none) with
      | some inside =>
        let rest := pieces (inside.length + 1) 0 cs
        let kept := List.replicate (slashes / 2) '\\'
        if slashes % 2 = 1 then
          .plain kept :: .plain ('[' :: (inside ++ [']'])) :: .plain [] :: rest
        else .plain kept :: .tag inside :: rest
      | none => consChars (List.replicate slashes '\\') (consChar c (pieces 0 0 cs))

/-- An open tag: its style in normal spelling, what stands behind the equals sign, if there is one,
and the position that it opens at. -/
structure OpenTag where
  style : String
  parameters : Option (List Char)
  first : Nat

def OpenTag.read (first : Nat) (inside : List Char) : Except Fault OpenTag := do
  let name := inside.takeWhile (· ≠ '=')
  let style ← Style.normal (String.ofList name)
  return { style, parameters := (inside.drop name.length).tail?, first }

def OpenTag.isForAction (tag : OpenTag) : Bool :=
  tag.style.toList.head? = some '@'

/-- Whether a tag can be closed: what a tag for an action names has to be one. -/
def OpenTag.isSound (tag : OpenTag) : Bool :=
  !tag.isForAction || (tag.parameters.getD []).isEmpty || isAction (tag.parameters.getD [])

/-- A stretch of text and the style it is drawn in. -/
structure Span where
  first : Nat
  last : Nat
  style : String

/-- The stretch from the start of a tag up to a position. -/
def OpenTag.span (tag : OpenTag) (last : Nat) : Span :=
  let style :=
    match tag.parameters with
    | none => tag.style
    | some parameters => tag.style ++ " " ++ String.ofList parameters
  { first := tag.first, last, style }

/-- A text without its tags, and how its parts are drawn. -/
structure Rendering where
  text : List Char
  spans : List Span

/-- The innermost open tag that passes a test, and the others. -/
def close (test : OpenTag → Bool) (opened : List OpenTag) :
    Except Fault (OpenTag × List OpenTag) :=
  match opened.find? test with
  | some tag => if tag.isSound then .ok (tag, opened.eraseP test) else .error .unopenedTag
  | none => .error .unopenedTag

/-- What a closing tag closes. Without a name it closes the innermost tag. -/
def closedBy (opened : List OpenTag) (inside : List Char) :
    Except Fault (OpenTag × List OpenTag) := do
  let name := trim (inside.takeWhile (· ≠ '='))
  if name.isEmpty then close (fun _ => true) opened
  else
    let style ← Style.normal (String.ofList name)
    close (fun tag => tag.style == style) opened

/-- Characters that move the cursor and are not printed. -/
def isCursorControl (c : Char) : Bool :=
  c.toNat == 7 || c.toNat == 8 || c.toNat == 11 || c.toNat == 12 || c.toNat == 13

/-- Text outside of tags as it is shown. -/
def shown (cs : List Char) : List Char :=
  (Emoji.replace cs).filter fun c => !isCursorControl c

/-- Renders pieces at a position below the open tags, of which the innermost comes first. An action
has no style of its own. -/
def renderPieces (position : Nat) (opened : List OpenTag) : List Piece → Except Fault Rendering
  | [] => .ok { text := [], spans := opened.map fun tag => tag.span position }
  | .plain cs :: rest => do
    let cs := shown (replaceChars ['\\', '['] ['['] cs)
    let r ← renderPieces (position + cs.length) opened rest
    return { r with text := cs ++ r.text }
  | .tag ('/' :: inside) :: rest => do
    let (tag, others) ← closedBy opened inside
    let r ← renderPieces position others rest
    return if tag.isForAction then r else { r with spans := tag.span position :: r.spans }
  | .tag inside :: rest => do
    renderPieces position ((← OpenTag.read position inside) :: opened) rest

/-- A marked-up message without its tags. -/
def render (s : String) : Except Fault Rendering :=
  let cs := s.toList
  if '[' ∈ cs then renderPieces 0 [] (pieces 0 0 cs)
  else .ok { text := shown cs, spans := [] }

end Markup

end BlockCode.Text
