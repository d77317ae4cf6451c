import BlockCode.Conversion
import BlockCode.Entries

namespace BlockCode

/-- What a block holds itself, apart from the blocks connected to it. Its kind, its comment and its
identifier are texts as a rule, its fields and its shape data are maps; data of another form are
found out when they are looked at. -/
structure BlockHead where
  kind : Value
  fields : Value := .map []
  mutation : Value := .map []
  comment : Value := .null
  output : Value := .bool false
  disabled : Value := .bool false
  id : Value

/-- A block has value sockets, statement sockets and a link to the next block of its chain. -/
inductive Block where
  | mk (head : BlockHead) (inputs statements : List (String × Option Block)) (next : Option Block)

namespace BlockHead

def isDisabled (head : BlockHead) : Bool :=
  head.disabled.isSet

/-- An absent field reads as null. -/
def field (head : BlockHead) (name : String) : Except Fault Value :=
  head.fields.entryOr name .null

/-- The names of the arguments that the shape data lists. -/
def arguments (head : BlockHead) : Except Fault (List String) := do
  (← head.mutation.entryOr "arguments" (.list [])).writtenItems

/-- The variables a block refers to: its variable field, then its arguments. -/
def variableNames (head : BlockHead) : Except Fault (List String) := do
  let var ← head.field "VAR"
  let arguments ← head.arguments
  return (if var.isSet then [var.written] else []) ++ arguments

/-- The entry that a field selects in a table, each key of which comes with its spelling. -/
def entry {α : Type} (head : BlockHead) (name : String) (table : List (Key × String × α)) :
    Except Fault α := do
  let value ← head.field name
  match Entries.get? (← value.key) table with
  | some (_, found) => return found
  | none =>
    throw (.unhandledValue head.kind.written name value (some (table.map fun entry => entry.2.1)))

/-- The entry that an enumerated field selects. -/
def option {α : Type} (head : BlockHead) (name : String) (table : List (String × α)) :
    Except Fault α :=
  head.entry name (table.map fun (word, entry) => (.text word, word, entry))

end BlockHead

namespace Block

def head : Block → BlockHead
  | .mk head _ _ _ => head

def inputs : Block → List (String × Option Block)
  | .mk _ inputs _ _ => inputs

def statements : Block → List (String × Option Block)
  | .mk _ _ statements _ => statements

def next : Block → Option Block
  | .mk _ _ _ next => next

/-- A block with its place: the block it is connected to, and whether that is by a value socket. -/
structure Placed where
  block : Block
  parent : Option Block
  inline : Bool

mutual

/-- The block and all blocks below it: value sockets, statement sockets, then the next block, and
every block before those below it. -/
def descendantsAt (parent : Option Block) (inline : Bool) : Block → List Placed
  | .mk head inputs statements next =>
    let here := Block.mk head inputs statements next
    ⟨here, parent, inline⟩ ::
      (socketDescendants here true inputs ++ socketDescendants here false statements ++
        linkDescendants here false next)

def socketDescendants (parent : Block) (inline : Bool) :
    List (String × Option Block) → List Placed
  | [] => []
  | (_, plug) :: rest => linkDescendants parent inline plug ++ socketDescendants parent inline rest

def linkDescendants (parent : Block) (inline : Bool) : Option Block → List Placed
  | none => []
  | some b => descendantsAt (some parent) inline b

end

def descendants (b : Block) : List Placed :=
  descendantsAt none false b

mutual

/-- The comments of a block and of its value sockets; deeper comments come first. -/
def valueComments : Block → List Value
  | .mk head inputs _ _ =>
    socketComments inputs ++ (if head.comment.isSet then [head.comment] else [])

def socketComments : List (String × Option Block) → List Value
  | [] => []
  | (_, plug) :: rest => linkComments plug ++ socketComments rest

def linkComments : Option Block → List Value
  | none => []
  | some b => valueComments b

end

end Block

/-- A program as it stands in the editor. -/
structure Workspace where
  top : List Block := []
  variableNames : List Value := []

namespace Workspace

def blocks (ws : Workspace) : List Block.Placed :=
  ws.top.flatMap Block.descendants

end Workspace

/-- The variables that occur anywhere below the given blocks, each once, as they are first seen. -/
def variablesOf (blocks : List Block) : Except Fault (List String) := do
  let found ← (blocks.flatMap Block.descendants).mapM fun placed => placed.block.head.variableNames
  return found.flatten.eraseDups

def Workspace.ofBlocks (blocks : List Block) : Except Fault Workspace := do
  return { top := blocks, variableNames := (← variablesOf blocks).map Value.text }

end BlockCode
