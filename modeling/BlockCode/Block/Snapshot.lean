import BlockCode.Block.Draft
import BlockCode.Check

namespace BlockCode.Snapshot

/-- A value of a snapshot with the two ways of reading it. -/
structure Reader where
  raw : Value
  block : Path → Checked Draft
  sockets : Path → Checked (List (String × Option Draft))

def Reader.plug (r : Reader) (path : Path) : Checked (Option Draft) :=
  match r.raw with
  | .null => .good none
  | _ => some <$> r.block path

def readSockets (path : Path) : List (String × Reader) → Checked (List (String × Option Draft))
  | [] => .good []
  | (name, r) :: rest =>
    (fun plug rest => (name, plug) :: rest) <$> r.plug (path ++ [.key name]) <*>
      readSockets path rest

/-- The kind stands under `type`, or under `kind` if there is no `type`. -/
def readKind (path : Path) (entries : List (String × Reader)) : Checked String :=
  match entries.lookup "type", entries.lookup "kind" with
  | some r, _ => Check.text (path ++ [.key "type"]) r.raw
  | none, some r => Check.text (path ++ [.key "kind"]) r.raw
  | none, none => .issue .missing (path ++ [.key "type"])

def readBlock (entries : List (String × Reader)) (path : Path) : Checked Draft :=
  let field {α : Type} (name : String) (default : α) (check : Path → Reader → Checked α) :
      Checked α :=
    Check.field entries name default (check (path ++ [.key name]))
  (fun kind id fields inputs statements next comment output disabled mutation =>
      Draft.mk { kind, id, fields, comment, output, disabled, mutation } inputs statements next)
    <$> readKind path entries
    <*> field "id" none (fun at_ r => Check.optional Check.text at_ r.raw)
    <*> field "fields" [] (fun at_ r => Check.table at_ r.raw)
    <*> field "inputs" [] (fun at_ r => r.sockets at_)
    <*> field "statements" [] (fun at_ r => r.sockets at_)
    <*> field "next" none (fun at_ r => r.plug at_)
    <*> field "comment" none (fun at_ r => Check.optional Check.text at_ r.raw)
    <*> field "output" none (fun at_ r => Check.optional Check.truth at_ r.raw)
    <*> field "disabled" false (fun at_ r => Check.truth at_ r.raw)
    <*> field "mutation" [] (fun at_ r => Check.table at_ r.raw)

mutual

def reader : Value → Reader
  | .map entries =>
    let inner := readers entries
    { raw := .map entries
      block := readBlock inner
      sockets := fun path => readSockets path inner }
  | v =>
    { raw := v
      block := .issue (.notRecord "BlockModel")
      sockets := .issue .notTable }

def readers : List (String × Value) → List (String × Reader)
  | [] => []
  | (name, v) :: rest => (name, reader v) :: readers rest

end

def draft (v : Value) : Checked Draft :=
  (reader v).block []

def readBlocks (path : Path) : Value → Checked (List Draft)
  | .list items => Check.items (fun at_ v => (reader v).block at_) path 0 items
  | _ => .issue .notList path

def readVariables (path : Path) : Value → Checked (Option (List String))
  | .null => .good none
  | .list items => some <$> Check.items Check.text path 0 items
  | _ => .issue .notList path

/-- The top blocks and, if the editor gave them, the variables. Reading them stands for the check of a
document by the schema library; what becomes of the drafts is said by `build`. -/
def contents : Value → Checked (List Draft × Option (List String))
  | .map entries =>
    Prod.mk
      <$> Check.field entries "blocks" [] (readBlocks [.key "blocks"])
      <*> Check.field entries "variables" none (readVariables [.key "variables"])
  | _ => .issue (.notRecord "WorkspaceModel") []

/-- The variables the editor gave come first; those found only in the blocks follow. -/
def joinVariables (given found : List String) : List String :=
  given ++ found.filter fun name => decide (name ∉ given)

/-- The workspace of the drafts and the listed variables, and the next free block number, where `n` is
the first free one. -/
def build (drafts : List Draft) (listed : Option (List String)) (n : Nat) :
    Except Fault Workspace × Nat :=
  let built := Draft.toBlocks n drafts
  match variablesOf built.1 with
  | .error fault => (.error fault, built.2)
  | .ok found =>
    let names := joinVariables (listed.getD []) found
    (.ok { top := built.1, variableNames := names.map Value.text }, built.2)

/-- The workspace of a snapshot, if it has the right shape. -/
def load (v : Value) (n : Nat) : Except Fault Workspace × Nat :=
  match contents v with
  | .bad i more => (.error (.invalidInput (i :: more)), n)
  | .good (drafts, listed) => build drafts listed n

end BlockCode.Snapshot
