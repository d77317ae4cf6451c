import BlockCode.Session

namespace BlockCode

/-- Places code of any kind. Only code that is set is compared, and in parentheses it stands as it is
written. -/
def Rank.placeAny (required code rank : Value) : Except Fault Value := do
  if code.isSet then
    if ← required.isBelow rank then return .text ("(" ++ code.written ++ ")") else return code
  else return code

/-- The rank that is called so. -/
def Rank.called (name : Value) : Except Fault Rank := do
  let _ ← name.key
  match name.asText.toOption.bind ofName? with
  | some rank => return rank
  | none => throw .noSuchEntry

/-- What the rank is called that a value is equal to. -/
def Rank.nameAt (rank : Value) : Except Fault String :=
  match rank.key with
  | .ok (.whole n) => ((name? n).map Except.ok).getD (.error (.unknownRank rank))
  | _ => .error (.unknownRank rank)

def NameType.labelled (label : Value) : Except Fault NameType :=
  ((ofLabel? label).map Except.ok).getD (.error (.unknownNameType label))

/-- An allocator with options of any kind. Only texts can be equal to an identifier, so of the words
that are reserved no others matter. -/
def Allocator.create (words shared lead attempts : Value) : Except Fault Allocator := do
  let words ← if words.isSet then words.items else pure []
  let _ ← words.mapM Value.key
  return {
    reserved := words.filterMap fun word => word.asText.toOption
    sharedPool := shared.isSet
    variablePrefix := lead.asText.toOption.getD ""
    maxAttempts := attempts }

/-- Only texts have quotes put around them. -/
def Value.quoted : Value → Except Fault String
  | .text s => .ok (Text.literal s)
  | _ => .error .notAName

/-- Only texts have a place for an identifier. -/
def Value.withId (template id : Value) : Except Fault String :=
  match template with
  | .text template => .ok (BlockCode.withId template id.written)
  | _ => .error .notAName

/-- The declarations of names of any kind. -/
def Conventions.declareAny (c : Conventions) (names : Value) : Except Fault String := do
  return c.declare (← c.readNames names)

namespace Gen

/-- Sockets have texts for names, so there is nothing at another value; but it has to be a key. -/
def atSocket (socket : Value) (act : String → Gen String) : Gen String :=
  match socket with
  | .text name => act name
  | other => do
    let _ ← ofExcept other.key
    return ""

/-- The name of a helper whose lines are of any kind. They are looked at only if the helper is new, and
then of no use if the placeholder in them is no text. -/
def provideAny (placeholder key lines : Value) : Gen Context.HelperName := do
  let answer ← helperName key
  if answer.isNew then
    let template ← ofExcept lines.textItems
    let _ ← ofExcept placeholder.asText
    define key ((← context).helpers.instantiate template answer.name)
    report [HelperRegistry.registered key answer.name]
  return answer

/-- A distinct identifier behind a lead of any kind, which stands in front of variables. -/
def distinctBehind (lead name label : Value) : Gen String := do
  let found ← distinctLabelled name label
  if NameType.ofLabel? label = some .var then
    let _ ← ofExcept lead.asText
  return found

/-- No variable is known behind a lead that is no text. -/
def getBehind (lead name label : Value) : Gen String := do
  if lead.asText.isOk ∨ NameType.ofLabel? label ≠ some .var then getLabelled name label
  else
    let _ ← ofExcept name.key
    distinctBehind lead name label

end Gen

namespace Site

/-- Comments, code of any kind, and the rest of the chain. The code is looked at last. -/
def sequenceAny (site : Site) : Value → Gen String
  | .text code => site.sequence code
  | other => do
    let _ ← site.sequence ""
    Gen.ofExcept other.asText

/-- Whether there is code to insert. -/
def inserts (template : Option String) : Bool :=
  template.any (· ≠ "")

/-- A body of any kind with the inserted code around it, for a block that may be missing. What is
inserted goes to a text, or to the end of a list. -/
def trappedAny (site : Option Site) (branch : Value) : Gen Value := do
  let config := (← read).config
  match site, branch with
  | some site, .text branch => return .text (← site.trapped branch)
  | some site, .list items =>
    if inserts config.trap then throw .notAText
    else return .list (items ++ (← Gen.ofExcept (Value.text (← site.trapped "")).items))
  | site, branch =>
    if inserts config.trap || inserts config.before then
      throw (if site.isSome then .notAText else .notABlock)
    else return branch

end Site

/-- A session whose requests are of any kind. -/
structure LooseSession where
  session : Session := {}
  /-- The definitions that are no texts. -/
  odd : List (Key × Value) := []

namespace LooseSession

variable {α : Type} (s : LooseSession) (g : Generator)

def perform (act : Gen α) : Except Fault α × LooseSession :=
  let done := s.session.perform g act
  (done.1, { s with session := done.2 })

def forget (key : Key) : LooseSession :=
  { s with odd := s.odd.filter (·.1 ≠ key) }

/-- Takes down a definition, which takes the place of the one that the key had. -/
def note (key : Key) : Value → LooseSession
  | .text _ => s.forget key
  | code => { s with odd := Entries.put key code s.odd }

/-- Stores a definition of any kind. -/
def define (key code : Value) : Except Fault Unit × LooseSession :=
  match s.perform g (Gen.define key code.written), key.key with
  | (.ok done, next), .ok id => (.ok done, next.note id code)
  | stopped, _ => stopped

/-- The name of a helper; a new one is defined by a text. -/
def provide (placeholder key lines : Value) : Except Fault String × LooseSession :=
  match s.perform g (Gen.provideAny placeholder key lines), key.key with
  | (.ok answer, next), .ok id => (.ok answer.name, if answer.isNew then next.forget id else next)
  | (.ok answer, next), .error _ => (.ok answer.name, next)
  | (.error fault, next), _ => (.error fault, next)

def definitions : Except Fault (List Value) × LooseSession :=
  s.perform g do
    return (← Gen.context).helpers.texts.map fun entry =>
      (Entries.get? entry.1 s.odd).getD (.text entry.2)

/-- Puts the program together, which takes texts. -/
def finish (code : Value) : Except Fault String × LooseSession :=
  s.perform g do
    let text ← Gen.finish (← Gen.ofExcept code.asText)
    if s.odd.isEmpty then return text else throw .notAText

/-- A run that has begun on a workspace has no definitions yet. -/
def begun (found : Except Fault Workspace) (next : Session) : LooseSession :=
  { session := next, odd := if found.isOk then [] else s.odd }

def start (program : Program) : Except Fault Unit × LooseSession :=
  let done := s.session.start g program
  (done.1, s.begun (program.checked s.session.nextBlock).1 done.2)

def generate (program : Program) : Except Fault String × LooseSession :=
  let done := s.session.generate g program
  (done.1, s.begun (program.toWorkspace s.session.nextBlock).1 done.2)

/-- Changes the helpers to ones without definitions. -/
def clear (act : Gen Unit) : Except Fault Unit × LooseSession :=
  { s with odd := [] }.perform g act

end LooseSession

end BlockCode
