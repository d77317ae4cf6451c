import BlockCode.Entries
import BlockCode.Log
import BlockCode.Text.Markup
import BlockCode.Text.Wrap

namespace BlockCode

/-- Messages go to standard output, or to a console set in its place. -/
structure Console where
  /-- The consoles that were set so far, with their widths. -/
  made : List (String × Nat) := []
  /-- The one set at present; without one, messages go to standard output. -/
  active : Option String := none

namespace Console

def standardWidth : Nat := 200

/-- Sets the console of a name, which has the width it was first set with. -/
def set (c : Console) (name : String) (width : Nat) : Console :=
  { made := if Entries.has name c.made then c.made else c.made ++ [(name, width)]
    active := some name }

def reset (c : Console) : Console :=
  { c with active := none }

def width (c : Console) : Nat :=
  match c.active with
  | some name => (Entries.get? name c.made).getD standardWidth
  | none => standardWidth

/-- What each character of a line is drawn as. A tab is a blank, filled up with blanks to the next
multiple of eight cells. The second argument holds the characters since the last tab, latest
first. -/
def expandTabs (column : Nat) (part : List Char) : List Char → List (List Char)
  | [] => []
  | c :: cs =>
    if c = '\t' then
      let reached := column + Text.cells (' ' :: part).reverse
      let gap := (8 - reached % 8) % 8
      (' ' :: List.replicate gap ' ') :: expandTabs (reached + gap) [] cs
    else [c] :: expandTabs column (c :: part) cs

def splitLines : List Char → List (List Char)
  | [] => [[]]
  | c :: cs =>
    match splitLines cs with
    | line :: rest => if c = '\n' then [] :: line :: rest else (c :: line) :: rest
    | [] => [[c]]

/-- Which characters of a line are seen, where `seen` tells it of all that they are drawn as. -/
def seenOf : List (List Char) → List Bool → List Bool
  | [], _ => []
  | cs :: line, seen =>
    (seen.take cs.length).contains true :: seenOf line (seen.drop cs.length)

/-- Whether a span takes part in drawing a text: it holds a character that is seen. -/
def isDrawn (seen : List Bool) (span : Text.Markup.Span) : Bool :=
  ((seen.drop span.first).take (span.last - span.first)).contains true

/-- A text that is drawn in one piece has all spans but those that start in what is cut off. -/
def isDrawnWhole (seen : List Bool) (span : Text.Markup.Span) : Bool :=
  seen.all id || (seen[span.first]?).getD false

/-- The spans in the order in which they start; of those that start together the outer comes
first. -/
def inOrder (spans : List Text.Markup.Span) : List Text.Markup.Span :=
  spans.reverse.mergeSort fun a b => a.first ≤ b.first

/-- The lines of a message on a console of the given width; every style that it is drawn in is
looked up. -/
def drawn (width : Nat) (r : Text.Markup.Rendering) : Except Fault (List (List Char)) := do
  let expanded := (splitLines r.text).map (expandTabs 0 [])
  let rows := expanded.map fun line => Text.wrapLine width line.flatten
  let seen := [false].intercalate
    (List.zipWith (fun line rows => seenOf line (rows.flatMap (Text.seenWithin width)))
      expanded rows)
  let lines := rows.flatten
  let test := if lines.length = 1 ∧ '\t' ∉ r.text then isDrawnWhole seen else isDrawn seen
  let _ ← ((inOrder r.spans).filter test).mapM fun span => Text.Style.read span.style
  return lines

def finishLine (cs : List Char) : String :=
  String.ofList (Text.trimEnd cs)

/-- The lines that a message is printed on, each without blanks at its end. -/
def printed (c : Console) (message : String) : Except Fault (List String) := do
  return (← drawn c.width (← Text.Markup.render message)).map finishLine

def padded (label : String) (width : Nat) : List Char :=
  label.toList ++ List.replicate (width - label.toList.length) ' '

def isShown (r : LogRecord) : Bool :=
  LogLevel.severity .info ≤ r.level.severity

/-- A log line starts with its level; further lines of the message stand below the first. A message
that cannot be drawn is dropped. -/
def logged (c : Console) (r : LogRecord) : Except Fault (List String) := do
  if !isShown r then return []
  else
    let lead := padded r.level.label 8 ++ [' ']
    let margin := List.replicate lead.length ' '
    match drawn (c.width - lead.length) (← Text.Markup.render r.message) with
    | .error _ => return []
    | .ok [] => return [finishLine lead]
    | .ok (first :: rest) =>
      return finishLine (lead ++ first) :: rest.map fun line => finishLine (margin ++ line)

def warning (text : String) : LogRecord :=
  ⟨.warning, "⚠️  " ++ text⟩

def error (text : String) : LogRecord :=
  ⟨.error, "❌ " ++ text⟩

end Console

end BlockCode
