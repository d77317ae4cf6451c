import BlockCode.Conversion
import BlockCode.Entries
import BlockCode.RuleTable

namespace BlockCode

/-- Rule tables whose kinds are values of any form that a table tells apart. Beside each rule stands
its kind as it was first spelled. -/
abbrev KindTable (ρ : Type) := RuleTable Key (Value × ρ)

abbrev KindCatalog (ρ : Type) := RuleCatalog Key (Value × ρ)

namespace KindTable

variable {ρ : Type}

def own : KindTable ρ → List (Key × Value × ρ)
  | .mk _ own _ => own

def find? (table : KindTable ρ) (kind : Value) : Except Fault (Option ρ) := do
  return (table.lookup (← kind.key)).map Prod.snd

mutual

/-- The kinds of the table and its parents in the order of the search, with repetitions. -/
def allSpellings : KindTable ρ → List (Key × Value)
  | .mk _ own parents => own.map (fun e => (e.1, e.2.1)) ++ allSpellingsOf parents

def allSpellingsOf : List (KindTable ρ) → List (Key × Value)
  | [] => []
  | table :: rest => allSpellings table ++ allSpellingsOf rest

end

/-- The kinds in ascending order, each once and as it is spelled where the search ends. -/
def kindValues (table : KindTable ρ) : Except Fault (List Value) :=
  let found := table.allSpellings.foldl
    (fun entries e => if Entries.has e.1 entries then entries else Entries.put e.1 e.2 entries) []
  Value.sorted (found.map Prod.snd)

end KindTable

namespace KindCatalog

variable {ρ : Type}

/-- Registers a rule for one kind; a known kind keeps its spelling. -/
def registerKind (position : Nat) (rule : ρ) (catalog : KindCatalog ρ) (kind : Value) :
    Except Fault (KindCatalog ρ) := do
  let key ← kind.key
  let known := Entries.get? key (KindTable.own (catalog.table position))
  return catalog.register position [key] ((known.map Prod.fst).getD kind, rule)

/-- Registers a rule for several kinds in turn, up to the first that cannot be told apart. -/
def registerKinds (position : Nat) (rule : ρ) (catalog : KindCatalog ρ) :
    List Value → KindCatalog ρ × Except Fault Unit
  | [] => (catalog, .ok ())
  | kind :: rest =>
    match catalog.registerKind position rule kind with
    | .ok next => registerKinds position rule next rest
    | .error fault => (catalog, .error fault)

end KindCatalog

end BlockCode
