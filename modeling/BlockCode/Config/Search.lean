import BlockCode.Config.Options
import BlockCode.Text.Markup
import BlockCode.Toml.Document

namespace BlockCode.Config

/-- Files by their path below a root directory; a directory has no text. -/
abbrev FileTree := List (List String × Option String)

def fileName : String := "pyproject.toml"

/-- The step from a directory, given by the names that lead there, latest first. -/
def step (reversed : List String) (name : String) : List String :=
  match name, reversed with
  | "..", [] => [".."]
  | "..", ".." :: rest => ".." :: ".." :: rest
  | "..", _ :: rest => rest
  | name, reversed => name :: reversed

/-- The names on a path, with the steps that lead nowhere or back taken out; steps that lead out of
the root directory stay in front. -/
def pathNames (path : String) : List String :=
  let names := (path.splitOn "/").filter fun name => name ≠ "" ∧ name ≠ "."
  (names.foldl step []).reverse

/-- A directory and those above it that files can be in, nearest first. -/
def upward (directory : List String) : List (List String) :=
  let outside := directory.takeWhile (· == "..")
  (List.range (directory.length - outside.length + 1)).map fun i =>
    directory.take (directory.length - i)

/-- The path and the text of the nearest settings file. -/
def nearest? (files : FileTree) (start : List String) : Option (List String × String) :=
  (upward start).findSome? fun directory =>
    let path := directory ++ [fileName]
    ((files.lookup path).join).map fun text => (path, text)

/-- Two items of a sequence are a key and its value. A key that is no text names no option. -/
def pairEntry (position : Nat) (items : List Value) : Except Fault (Option (String × Value)) :=
  match items with
  | [.text key, v] => .ok (some (key, v))
  | [key, _] => if key.isKey then .ok none else .error .notAKey
  | _ => .error (.notAPair position items.length)

def letters (s : String) : List Value :=
  s.toList.map fun c => .text (String.ofList [c])

def itemEntry (position : Nat) : Value → Except Fault (Option (String × Value))
  | .list items => pairEntry position items
  | .text s => pairEntry position (letters s)
  | .map entries => pairEntry position (entries.map fun e => .text e.1)
  | _ => .error .notASequence

def itemEntries (position : Nat) : List Value → Except Fault (List (String × Value))
  | [] => .ok []
  | v :: rest => do
    let entry ← itemEntry position v
    let entries ← itemEntries (position + 1) rest
    return entry.toList ++ entries

/-- A table as it is, or a table of pairs. The last value of a key counts. -/
def toOptions : Value → Except Fault (List (String × Value))
  | .map entries => .ok entries
  | .list items => do
    let entries ← itemEntries 0 items
    return entries.foldl (fun table e => Entries.put e.1 e.2 table) []
  | .text s => itemEntries 0 (letters s)
  | _ => .error .notASequence

/-- The options of a settings file: the entry of this program below `tool`. -/
def ownSection (document : List (String × Value)) : Except Fault (List (String × Value)) :=
  match (document.lookup "tool").getD (.map []) with
  | .map tools => toOptions ((tools.lookup "blockscribe").getD (.map []))
  | _ => .error .notATable

def overrule (options overrides : List (String × Value)) : List (String × Value) :=
  overrides.foldl
    (fun table e =>
      match e.2 with
      | .null => table
      | v => Entries.put e.1 v table)
    options

def ignored (root : String) (path : List String) : LogRecord :=
  let place := "/".intercalate (root :: path)
  ⟨.warning, "⚠️  Ignoring malformed " ++ Text.Markup.escape place⟩

/-- The options found from a directory upward. A malformed file counts as none and is reported; an
integer with too many digits stops the search. -/
def found (root : String) (files : FileTree) (start : List String) :
    Except Fault (List (String × Value)) × List LogRecord :=
  match nearest? files start with
  | none => (.ok [], [])
  | some (path, text) =>
    match Toml.parse text with
    | .ok document => (ownSection document, [])
    | .error .malformed => (.ok [], [ignored root path])
    | .error (.tooManyDigits count) => (.error (.tooManyDigits count), [])

/-- Options from the nearest settings file; overrides other than null win over it. -/
def load (root : String) (files : FileTree) (start : List String)
    (overrides : List (String × Value)) : Except Fault Config × List LogRecord :=
  let (options, records) := found root files start
  (do ofOptions (overrule (← options) overrides), records)

end BlockCode.Config
