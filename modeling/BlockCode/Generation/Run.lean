import BlockCode.Block.Tree
import BlockCode.Config.Options
import BlockCode.Text.Lines
import BlockCode.Text.Markup

namespace BlockCode

/-- The textual conventions of a dialect. -/
structure Conventions where
  name : String
  /-- What messages call the generator of the dialect. -/
  generator : String
  reserved : List String := []
  prologue : String := ""
  epilogue : String := ""
  commentMark : String := "// "
  terminator : String := ";"
  sharedNames : Bool := false
  /-- The declarations of the given identifiers. -/
  declare : List String → String := fun _ => ""
  /-- What is declared of values that need not be identifiers. -/
  readNames : Value → Except Fault (List String) := fun _ => .ok []
  /-- How the text of a fault is put into a message of the log, where signs for the console count. -/
  escape : String → String := Text.Markup.escape

/-- What a run goes by: the conventions of the dialect and the options that overrule them. -/
structure Setting where
  conventions : Conventions
  config : Config

namespace Setting

def commentMark (s : Setting) : String :=
  s.config.commentMark.getD s.conventions.commentMark

def sharedNames (s : Setting) : Bool :=
  s.config.sharedNames.getD s.conventions.sharedNames

def prologue (s : Setting) : String :=
  s.config.prologue.getD s.conventions.prologue

def epilogue (s : Setting) : String :=
  s.config.epilogue.getD s.conventions.epilogue

def reserved (s : Setting) : List String :=
  (s.conventions.reserved ++ s.config.reservedWords).eraseDups

/-- Ends a statement of one line. -/
def statement (s : Setting) (code : String) : String :=
  code ++ s.conventions.terminator ++ "\n"

/-- The context of a run that has just begun. -/
def newContext (s : Setting) : Context :=
  { names :=
      { reserved := s.reserved
        sharedPool := s.sharedNames
        variablePrefix := s.config.variablePrefix
        maxAttempts := .int s.config.maxAttempts }
    helpers := { placeholder := s.config.placeholder } }

end Setting

/-- What a run has built up, which stays when it stops with a fault. -/
structure Run where
  context : Option Context := none
  /-- The identifiers of the variables of the workspace. -/
  declared : List String := []
  log : List LogRecord := []

abbrev Gen := ReaderT Setting (ExceptT Fault (StateM Run))

namespace Gen

def ofExcept {α : Type} : Except Fault α → Gen α
  | .ok a => pure a
  | .error fault => throw fault

def report (records : List LogRecord) : Gen Unit :=
  modify fun run => { run with log := run.log ++ records }

/-- The context of the current or latest run. -/
def context : Gen Context := do
  match (← get).context with
  | some c => return c
  | none => throw (.noActiveRun (← read).conventions.generator)

def setContext (c : Context) : Gen Unit :=
  modify fun run => { run with context := some c }

/-- Takes the answer of the context, its records and its next state. -/
def step {α : Type} (f : Context → Except Fault (α × List LogRecord × Context)) : Gen α := do
  let (answer, records, next) ← ofExcept (f (← context))
  setContext next
  report records
  return answer

/-- The identifier that a name has throughout the run. -/
def nameOf (type : NameType) (name : Value) : Gen String :=
  step fun c => do
    let (grant, names) ← c.names.get name type
    return (c.names.lead type ++ grant.chosen, grant.records, { c with names })

def variableName (name : Value) : Gen String :=
  nameOf .var name

def procedureName (name : Value) : Gen String :=
  nameOf .procedure name

/-- A fresh identifier for a variable of the generated code itself. -/
def temporary (name : Value) : Gen String :=
  step fun c => do
    let (grant, names) ← c.names.distinct name .var
    return (c.names.lead .var ++ grant.chosen, grant.records, { c with names })

/-- The name of a helper routine, which is defined on the first request. -/
def provide (key : Value) (template : List String) : Gen String :=
  step fun c => c.provide key template

def helperName (key : Value) : Gen Context.HelperName :=
  step fun c => c.helperName key

def define (key : Value) (code : String) : Gen Unit :=
  step fun c => do return ((), [], ← c.define key code)

def definitions : Gen (List String) := do
  return (← context).helpers.definitions

/-- Forgets the identifiers and definitions of the current run. -/
def resetContext : Gen Unit :=
  step fun c => .ok ((), [], c.reset)

def getLabelled (name : Value) (label : Value) : Gen String :=
  step fun c => do
    let (answer, records, names) ← c.names.getLabelled name label
    return (answer, records, { c with names })

def distinctLabelled (name : Value) (label : Value) : Gen String := do
  let c ← context
  let (answer, records, names) := c.names.distinctLabelled name label
  setContext { c with names }
  report records
  ofExcept answer

def isUsedLabelled (identifier : Value) (label : Value) : Gen Bool := do
  ofExcept ((← context).names.isUsedLabelled identifier label)

def statement (code : String) : Gen String := do
  return (← read).statement code

def indent : Gen String := do
  return (← read).config.indent

def placeholder : Gen String := do
  return (← read).config.placeholder

/-- Starts a run: a new context, and an identifier for every variable of the workspace, so that
these get theirs before anything else does. -/
def start (ws : Workspace) : Gen Unit := do
  setContext (← read).newContext
  let declared ← ws.variableNames.mapM variableName
  modify fun run => { run with declared }

end Gen

end BlockCode
