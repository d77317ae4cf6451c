import BlockCode.Generation.Site
import BlockCode.Text.Template

namespace BlockCode

/-- The rule for a kind of block. A kind that is no text has none. -/
def Rulebook.ruleFor (rules : Rulebook) : Value → Except Fault (Option Rule)
  | .text kind => .ok (rules.lookup kind)
  | kind => if kind.isKey then .ok none else .error .notAKey

/-- Emits a site by the rule for its kind. -/
def Site.emit (rules : Rulebook) (site : Site) : Gen Emission := do
  if site.head.isDisabled then site.skipped
  else
    match ← Gen.ofExcept (rules.ruleFor site.head.kind) with
    | none => throw (.unknownKind site.kind (← read).conventions.name)
    | some rule => do site.placed (← rule site)

namespace Block

mutual

def branchAt (rules : Rulebook) (inline : Bool) : Block → Branch
  | .mk head inputs statements next =>
    { kind := head.kind.written
      comments := valueComments (.mk head inputs statements next)
      code :=
        Site.emit rules
          { head
            inline
            inputs := socketBranches rules true inputs
            statements := socketBranches rules false statements
            next := linkBranch rules false next } }

def socketBranches (rules : Rulebook) (inline : Bool) :
    List (String × Option Block) → List (String × Option Branch)
  | [] => []
  | (name, plug) :: rest =>
    (name, linkBranch rules inline plug) :: socketBranches rules inline rest

def linkBranch (rules : Rulebook) (inline : Bool) : Option Block → Option Branch
  | none => none
  | some b => some (branchAt rules inline b)

end

/-- A block that is connected to nothing above it, as its rule sees it. -/
def site (rules : Rulebook) : Block → Site
  | .mk head inputs statements next =>
    { head
      inline := false
      inputs := socketBranches rules true inputs
      statements := socketBranches rules false statements
      next := linkBranch rules false next }

/-- The code of a block and of everything chained after it. -/
def code (rules : Rulebook) (b : Block) : Gen Emission :=
  (b.site rules).emit rules

end Block

namespace Gen

/-- The code of a block at the top; a value there becomes a line of its own. -/
def topCode (rules : Rulebook) (b : Block) : Gen String := do
  match ← b.code rules with
  | .statement code => return code
  | .value code _ => return code ++ "\n"

def began (name : String) (count : Nat) : LogRecord :=
  ⟨.debug, "Generating " ++ name ++ " code for " ++ toString count ++ " top-level block(s)"⟩

def aborted (c : Conventions) (fault : Fault) : LogRecord :=
  ⟨.error, "❌ " ++ c.name ++ ": generation aborted: " ++ c.escape fault.message⟩

/-- Logs a fault of the generation before passing it on. -/
def loggingFaults {α : Type} (act : Gen α) : Gen α :=
  tryCatch act fun fault => do
    if fault.isGeneration then report [aborted (← read).conventions fault]
    throw fault

/-- The definitions in the order of their first request, a blank line before each. -/
def definitionText (definitions : List String) : String :=
  if definitions.isEmpty then "" else "\n\n" ++ "\n\n".intercalate definitions

/-- Puts the program together: prologue, code, epilogue, definitions. -/
def finish (code : String) : Gen String := do
  let s ← read
  let declarations := s.conventions.declare (← get).declared
  let fill (template : String) := Text.Template.fill template "variables" declarations
  let definitions := (← context).helpers.definitions
  return Text.layout (fill s.prologue ++ code ++ fill s.epilogue ++ definitionText definitions)

/-- The whole text of a workspace. -/
def generate (rules : Rulebook) (ws : Workspace) : Gen String := do
  report [began (← read).conventions.name ws.top.length]
  start ws
  let parts ← loggingFaults (ws.top.mapM (topCode rules))
  finish ("\n".intercalate (parts.filter (· ≠ "")))

end Gen

end BlockCode
