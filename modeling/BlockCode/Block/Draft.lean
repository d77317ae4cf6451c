import BlockCode.Block.Tree

namespace BlockCode

structure DraftHead where
  kind : String
  id : Option String
  fields : List (String × Value)
  comment : Option String
  output : Option Bool
  disabled : Bool
  mutation : List (String × Value)

/-- A block as it comes out of a checked document, before it has its number. -/
inductive Draft where
  | mk (head : DraftHead) (inputs statements : List (String × Option Draft)) (next : Option Draft)

def numberedId (n : Nat) : String :=
  "block" ++ toString n

/-- Makes a block of its parts; a missing identifier takes the next number. -/
def BlockHead.identify (given : Option String) (n : Nat) : String × Nat :=
  match given with
  | some id => (id, n)
  | none => (numberedId n, n + 1)

namespace Draft

/-- Unless it says otherwise, a block yields a value exactly when it stands in a value socket. -/
def headAt (inValueSocket : Bool) (head : DraftHead) (id : String) : BlockHead :=
  { kind := .text head.kind
    fields := .map head.fields
    mutation := .map head.mutation
    comment := (head.comment.map Value.text).getD .null
    output := .bool (head.output.getD inValueSocket)
    disabled := .bool head.disabled
    id }

mutual

/-- The block of a draft and the next free number, where `n` is the first free one. -/
def toBlock (inValueSocket : Bool) (n : Nat) : Draft → Block × Nat
  | .mk head inputs statements next =>
    let inputs := toSockets true n inputs
    let statements := toSockets false inputs.2 statements
    let next := toLink false statements.2 next
    let id := BlockHead.identify head.id next.2
    (.mk (headAt inValueSocket head id.1) inputs.1 statements.1 next.1, id.2)

def toSockets (inValueSocket : Bool) (n : Nat) :
    List (String × Option Draft) → List (String × Option Block) × Nat
  | [] => ([], n)
  | (name, plug) :: rest =>
    let plug := toLink inValueSocket n plug
    let rest := toSockets inValueSocket plug.2 rest
    ((name, plug.1) :: rest.1, rest.2)

def toLink (inValueSocket : Bool) (n : Nat) : Option Draft → Option Block × Nat
  | none => (none, n)
  | some draft =>
    let b := toBlock inValueSocket n draft
    (some b.1, b.2)

end

def toBlocks (n : Nat) : List Draft → List Block × Nat
  | [] => ([], n)
  | draft :: rest =>
    let b := draft.toBlock false n
    let rest := toBlocks b.2 rest
    (b.1 :: rest.1, rest.2)

end Draft

end BlockCode
