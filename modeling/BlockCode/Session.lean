import BlockCode.Block.Snapshot
import BlockCode.Dialect.Registry

namespace BlockCode

/-- The forms in which a program is handed over. -/
inductive Program where
  | workspace (ws : Workspace)
  | blocks (top : List Block)
  | snapshot (document : Value)

/-- The workspace of a program of the right shape, and the next free block number. -/
def Program.checked (n : Nat) : Program → Except Fault Workspace × Nat
  | .workspace ws => (.ok ws, n)
  | .blocks top => (Workspace.ofBlocks top, n)
  | .snapshot document => Snapshot.load document n

/-- What is neither a workspace nor a table counts as a list of blocks; none of its items is one. -/
def Workspace.ofItems (document : Value) : Except Fault Workspace := do
  if (← document.items).isEmpty then return {} else throw .notABlock

/-- The workspace of a program in any shape, and the next free block number. -/
def Program.toWorkspace (n : Nat) : Program → Except Fault Workspace × Nat
  | .snapshot (.map entries) => Program.checked n (.snapshot (.map entries))
  | .snapshot document => (Workspace.ofItems document, n)
  | program => program.checked n

/-- One generator at work on one program after another. The number for the next block without an
identifier runs on. -/
structure Session where
  run : Run := {}
  nextBlock : Nat := 1

namespace Session

variable {α : Type}

/-- Performs an action of a generator; a fault keeps what was done before it. -/
def perform (s : Session) (g : Generator) (act : Gen α) : Except Fault α × Session :=
  let (answer, run) := (act.run g.setting).run.run s.run
  (answer, { s with run })

/-- Performs an action on a workspace, if there is one; otherwise the latest run stays as it is. -/
def performOn (s : Session) (g : Generator) (found : Except Fault Workspace × Nat)
    (act : Workspace → Gen α) : Except Fault α × Session :=
  match found with
  | (.ok ws, n) => { s with nextBlock := n }.perform g (act ws)
  | (.error fault, n) => (.error fault, { s with nextBlock := n })

/-- Starts a run without generating anything. -/
def start (s : Session) (g : Generator) (program : Program) : Except Fault Unit × Session :=
  s.performOn g (program.checked s.nextBlock) Gen.start

def generate (s : Session) (g : Generator) (program : Program) : Except Fault String × Session :=
  s.performOn g (program.toWorkspace s.nextBlock) (Gen.generate g.dialect.rules)

end Session

end BlockCode
