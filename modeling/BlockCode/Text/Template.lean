namespace BlockCode.Text

/-- Copies the text after skipping its first `skip` characters. Where the pattern starts, the
replacement is written and the rest of that occurrence is skipped. -/
def replaceFrom (pattern replacement : List Char) : Nat → List Char → List Char
  | _, [] => []
  | skip + 1, _ :: cs => replaceFrom pattern replacement skip cs
  | 0, c :: cs =>
    if pattern.isPrefixOf (c :: cs) then
      replacement ++ replaceFrom pattern replacement (pattern.length - 1) cs
    else c :: replaceFrom pattern replacement 0 cs

/-- The empty pattern occurs before every character and at the end. -/
def replaceChars (pattern replacement cs : List Char) : List Char :=
  if pattern.isEmpty then replacement ++ cs.flatMap fun c => c :: replacement
  else replaceFrom pattern replacement 0 cs

/-- Every occurrence of the pattern is replaced, from left to right and without overlap. -/
def replace (s pattern replacement : String) : String :=
  String.ofList (replaceChars pattern.toList replacement.toList s.toList)

namespace Template

def startsName (c : Char) : Bool :=
  c.isAlpha || c == '_'

def continuesName (c : Char) : Bool :=
  c.isAlphanum || c == '_'

/-- A name at the start of the text, or the empty list. -/
def leadingName : List Char → List Char
  | [] => []
  | c :: cs => if startsName c then c :: cs.takeWhile continuesName else []

/-- What stands behind a dollar sign: the text to write for it, and how many further characters it
takes. -/
def reference (name value : List Char) (cs : List Char) : List Char × Nat :=
  match cs with
  | '$' :: _ => (['$'], 1)
  | '\x7b' :: inner =>
    let found := leadingName inner
    if found ≠ [] ∧ (inner.drop found.length).head? = some '\x7d' then
      let whole := '\x7b' :: (found ++ ['\x7d'])
      (if found = name then value else '$' :: whole, whole.length)
    else (['$'], 0)
  | _ =>
    let found := leadingName cs
    (if found ≠ [] ∧ found = name then value else '$' :: found, found.length)

def fillFrom (name value : List Char) : Nat → List Char → List Char
  | _, [] => []
  | skip + 1, _ :: cs => fillFrom name value skip cs
  | 0, c :: cs =>
    if c = '$' then
      (reference name value cs).1 ++ fillFrom name value (reference name value cs).2 cs
    else c :: fillFrom name value 0 cs

/-- The template with `value` in place of every reference to `name`. -/
def fill (template name value : String) : String :=
  String.ofList (fillFrom name.toList value.toList 0 template.toList)

end Template

end BlockCode.Text
