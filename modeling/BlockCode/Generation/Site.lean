import BlockCode.Generation.Run
import BlockCode.Rank
import BlockCode.RuleTable

namespace BlockCode

/-- Code for a statement, or code for a value with the rank of its outermost operator. A rank that
is no integer is found out when it is compared. -/
inductive Emission where
  | statement (code : String)
  | value (code : String) (rank : Value)

/-- What a rule hands back. -/
inductive Outcome where
  | nothing
  | statement (code : String)
  | value (code : String) (rank : Value)
  | misfit (what : Misfit)

/-- A block connected to a site: its kind, its comments and the action that generates it, which does
not run before a rule asks for it. -/
structure Branch where
  kind : String
  /-- The comments of the block and its value sockets, deeper ones first. -/
  comments : List Value
  code : Gen Emission

/-- A block as its rule sees it. -/
structure Site where
  head : BlockHead
  /-- Whether the block stands in a value socket. -/
  inline : Bool
  inputs : List (String × Option Branch)
  statements : List (String × Option Branch)
  next : Option Branch

abbrev Rule := Site → Gen Outcome

/-- Rules by the kind of block that they are for. -/
abbrev Rulebook := RuleTable String Rule

/-- A template with the quoted identifier of a block in place of every `%1`. -/
def withId (template id : String) : String :=
  Text.replace template "%1" ("'" ++ id ++ "'")

/-- The code to insert at a block, or nothing. -/
def insertion (template : Option String) (id : String) : String :=
  match template with
  | some t => if t = "" then "" else withId t id
  | none => ""

/-- The code to insert in a body, each line indented. -/
def insertionLines (indent : String) (template : Option String) (id : String) : String :=
  match template with
  | some t => if t = "" then "" else Text.leadLines indent (withId t id)
  | none => ""

def orElse (code default : String) : String :=
  if code = "" then default else code

namespace Site

/-- The kind of the block as messages show it. -/
def kind (site : Site) : String :=
  site.head.kind.written

/-- The identifier of the block as inserted code shows it. -/
def id (site : Site) : String :=
  site.head.id.written

def field (site : Site) (name : String) : Gen Value :=
  Gen.ofExcept (site.head.field name)

def fieldOr (site : Site) (name : String) (default : Value) : Gen Value :=
  Gen.ofExcept (site.head.fields.entryOr name default)

def shapeOr (site : Site) (name : String) (default : Value) : Gen Value :=
  Gen.ofExcept (site.head.mutation.entryOr name default)

def option {α : Type} (site : Site) (name : String) (table : List (String × α)) : Gen α :=
  Gen.ofExcept (site.head.option name table)

def plugged (sockets : List (String × Option Branch)) (name : String) : Option Branch :=
  (sockets.lookup name).join

/-- The code in a value socket, in parentheses if it binds more loosely than `required`; empty if
nothing is generated there. -/
def valueAt (site : Site) (socket : String) (required : Value) : Gen String :=
  match plugged site.inputs socket with
  | none => return ""
  | some branch => do
    match ← branch.code with
    | .value code rank => Gen.ofExcept (Rank.placeAt required code rank)
    | .statement code =>
      if code = "" then return ""
      else throw (.invalidEmission (.statementAsValue branch.kind socket site.kind))

def value (site : Site) (socket : String) (required : Rank) : Gen String :=
  site.valueAt socket (.int required)

def valueOr (site : Site) (socket : String) (required : Rank) (default : String) : Gen String := do
  return orElse (← site.value socket required) default

/-- The indented code of the chain in a statement socket. -/
def body (site : Site) (socket : String) : Gen String :=
  match plugged site.statements socket with
  | none => return ""
  | some branch => do
    match ← branch.code with
    | .statement code =>
      if code = "" then return ""
      else return Text.leadLines (← Gen.indent) code
    | .value _ _ => throw (.invalidEmission (.valueAsStatement branch.kind socket site.kind))

/-- A loop body with the trap in front of it and the statement code behind it. -/
def trapped (site : Site) (branch : String) : Gen String := do
  let config := (← read).config
  return insertionLines config.indent config.trap site.id ++ branch ++
    insertionLines config.indent config.before site.id

/-- The body of a loop. -/
def loopBody (site : Site) (socket : String) : Gen String := do
  site.trapped (← site.body socket)

def ownComment (mark : String) (comment : Value) : Except Fault String := do
  if comment.isSet then return Text.leadLines mark (← comment.asText) ++ "\n" else return ""

/-- Comments in one text, each on lines of its own. -/
def joinComments (comments : List Value) : Except Fault String := do
  if comments.isEmpty then return ""
  else return "\n".intercalate (← comments.mapM Value.asText) ++ "\n"

def socketComment (mark : String) (plug : Option Branch) : Except Fault String := do
  match plug with
  | some branch =>
    if branch.comments.isEmpty then return ""
    else return Text.leadLines mark (← joinComments branch.comments)
  | none => return ""

/-- The comment lines in front of a block: its own, then those of its value sockets. The comments of
a block in a value socket stand in front of the statement around it instead. -/
def commentLines (site : Site) (mark : String) : Except Fault String := do
  if site.inline then return ""
  else
    let own ← ownComment mark site.head.comment
    let nested ← site.inputs.mapM fun socket => socketComment mark socket.2
    return own ++ String.join nested

/-- The code of the rest of the chain. -/
def nextCode (site : Site) : Gen String :=
  match site.next with
  | none => return ""
  | some branch => do
    match ← branch.code with
    | .statement code => return code
    | .value _ _ => throw (.invalidEmission (.valueInChain branch.kind site.kind))

/-- Comments, the code of the block, and the code of the rest of its chain. -/
def sequence (site : Site) (code : String) : Gen String := do
  let comments ← Gen.ofExcept (site.commentLines (← read).commentMark)
  return comments ++ code ++ (← site.nextCode)

/-- A statement with the inserted code around it. -/
def wrapped (site : Site) (config : Config) (code : String) : String :=
  insertion config.before site.id ++ code ++ insertion config.after site.id

/-- A disabled block gives what the next block gives. -/
def skipped (site : Site) : Gen Emission :=
  match site.next with
  | none => return .statement ""
  | some branch => branch.code

/-- A rule's result in its place in the chain. A rule that gives nothing leaves out the rest of the
chain as well. -/
def placed (site : Site) : Outcome → Gen Emission
  | .nothing => return .statement ""
  | .statement code => do
    return .statement (← site.sequence (site.wrapped (← read).config code))
  | .value code rank => do
    return .value (← site.sequence code) rank
  | .misfit what => throw (.invalidEmission what)

end Site

end BlockCode
