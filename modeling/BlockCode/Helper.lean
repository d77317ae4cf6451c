import BlockCode.Name.Allocator
import BlockCode.Text.Template

namespace BlockCode

def defaultPlaceholder : String :=
  "\x7bleCUI8hutHZI4480Dc\x7d"

/-- The definitions that follow the main program, in the order of their first request. -/
structure HelperRegistry where
  placeholder : String := defaultPlaceholder
  texts : List (Key × String) := []
  names : List (Key × String) := []

namespace HelperRegistry

def reset (h : HelperRegistry) : HelperRegistry :=
  { h with texts := [], names := [] }

/-- Stores a finished definition; a repeated key keeps its place. -/
def define (h : HelperRegistry) (key : Key) (code : String) : HelperRegistry :=
  { h with texts := Entries.put key code h.texts }

def has (h : HelperRegistry) (key : Key) : Bool :=
  Entries.has key h.texts

def functionName? (h : HelperRegistry) (key : Key) : Option String :=
  Entries.get? key h.names

def definitions (h : HelperRegistry) : List String :=
  h.texts.map Prod.snd

def size (h : HelperRegistry) : Nat :=
  h.texts.length

/-- The template with the name of the helper in place of every placeholder. -/
def instantiate (h : HelperRegistry) (template : List String) (name : String) : String :=
  Text.replace ("\n".intercalate template) h.placeholder name

def registered (key : Value) (name : String) : LogRecord :=
  ⟨.debug, "Registered helper '" ++ key.written ++ "' as '" ++ name ++ "'"⟩

end HelperRegistry

/-- What a run builds up: the identifiers and the definitions. -/
structure Context where
  names : Allocator
  helpers : HelperRegistry

namespace Context

def reset (c : Context) : Context :=
  { names := c.names.reset, helpers := c.helpers.reset }

/-- The answer to a request for a helper: its name, and whether this was the first request. -/
structure HelperName where
  name : String
  isNew : Bool

/-- The name of a helper, allocated on the first request. -/
def helperName (c : Context) (key : Value) :
    Except Fault (HelperName × List LogRecord × Context) := do
  let id ← key.key
  match c.helpers.functionName? id with
  | some name => return (⟨name, false⟩, [], c)
  | none =>
    let (grant, names) ← c.names.distinct key .procedure
    let helpers := { c.helpers with names := Entries.put id grant.chosen c.helpers.names }
    return (⟨grant.chosen, true⟩, grant.records, { names, helpers })

def define (c : Context) (key : Value) (code : String) : Except Fault Context := do
  return { c with helpers := c.helpers.define (← key.key) code }

/-- The name of a helper. The first request allocates it and stores the definition; later templates
have no effect. -/
def provide (c : Context) (key : Value) (template : List String) :
    Except Fault (String × List LogRecord × Context) := do
  let (answer, records, next) ← c.helperName key
  if answer.isNew then
    let next ← next.define key (next.helpers.instantiate template answer.name)
    return (answer.name, records ++ [HelperRegistry.registered key answer.name], next)
  else return (answer.name, records, next)

end Context

end BlockCode
