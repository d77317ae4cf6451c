import BlockCode.Entries
import BlockCode.Toml.Scalar

namespace BlockCode.Toml

abbrev Table := List (String × Value)

/-- What is known about a place of the document. -/
inductive Mark where
  /-- Declared by a header, or by the dots of a key that came before a later header. -/
  | declared
  /-- Closed together with all that is below it. -/
  | closed
  deriving DecidableEq

abbrev Marks := List (List String × Mark)

/-- Whether a place is marked itself or lies below a closed one. -/
def isMarked (marks : Marks) (place : List String) (mark : Mark) : Bool :=
  marks.any fun m =>
    m.2 = mark && (m.1 = place || (m.2 = .closed && m.1.isPrefixOf place))

/-- Changes the table at a place and makes the tables on the way to it. The last table of an array
stands for the array, where that is allowed. -/
def within? (throughArrays : Bool) (change : Table → Option Table) :
    List String → Table → Option Table
  | [], table => change table
  | key :: rest, table =>
    match Entries.get? key table with
    | none => (within? throughArrays change rest []).map fun t => Entries.put key (.map t) table
    | some (.map inner) =>
      (within? throughArrays change rest inner).map fun t => Entries.put key (.map t) table
    | some (.list items) =>
      match throughArrays, items.getLast? with
      | true, some (.map inner) =>
        (within? throughArrays change rest inner).map fun t =>
          Entries.put key (.list (items.dropLast ++ [.map t])) table
      | _, _ => none
    | some _ => none

/-- A new entry; a key is given once. -/
def insertNew? (key : String) (value : Value) (table : Table) : Option Table :=
  if Entries.has key table then none else some (Entries.put key value table)

/-- One more table at the end of an array of tables. -/
def appendNew? (key : String) (table : Table) : Option Table :=
  match Entries.get? key table with
  | none => some (Entries.put key (.list [.map []]) table)
  | some (.list items) => some (Entries.put key (.list (items ++ [.map []])) table)
  | some _ => none

def holdsValues : Value → Bool
  | .list _ => true
  | .map _ => true
  | _ => false

mutual

def value : Nat → List Char → Except Refusal (Value × List Char)
  | 0, _ => .error .malformed
  | fuel + 1, cs =>
    match cs with
    | '[' :: rest => do
      match ← orMalformed (skipGaps (rest.length + 1) rest) with
      | ']' :: after => return (.list [], after)
      | rest =>
        let (items, after) ← items fuel rest
        return (.list items, after)
    | '\x7b' :: rest =>
      match skipSpaces rest with
      | '\x7d' :: after => .ok (.map [], after)
      | rest => do
        let (table, after) ← inline fuel [] [] rest
        return (.map table, after)
    | _ => scalar cs

/-- The items of an array up to its end; a comma may follow the last. -/
def items : Nat → List Char → Except Refusal (List Value × List Char)
  | 0, _ => .error .malformed
  | fuel + 1, cs => do
    let (v, rest) ← value fuel cs
    match ← orMalformed (skipGaps (rest.length + 1) rest) with
    | ']' :: after => return ([v], after)
    | ',' :: more =>
      match ← orMalformed (skipGaps (more.length + 1) more) with
      | ']' :: after => return ([v], after)
      | more =>
        let (items, after) ← items fuel more
        return (v :: items, after)
    | _ => throw .malformed

/-- A key, an equals sign and a value. -/
def pair : Nat → List Char → Except Refusal ((List String × Value) × List Char)
  | 0, _ => .error .malformed
  | fuel + 1, cs => do
    let (key, rest) ← orMalformed (key? (cs.length + 1) cs)
    match rest with
    | '=' :: rest =>
      let (v, rest) ← value fuel (skipSpaces rest)
      return ((key, v), rest)
    | _ => throw .malformed

/-- The pairs of an inline table up to its end. -/
def inline : Nat → Table → Marks → List Char → Except Refusal (Table × List Char)
  | 0, _, _, _ => .error .malformed
  | fuel + 1, table, marks, cs => do
    let ((key, v), rest) ← pair fuel cs
    if isMarked marks key .closed then throw .malformed
    let table ← orMalformed (within? false (insertNew? (key.getLastD "") v) key.dropLast table)
    let marks := if holdsValues v then (key, .closed) :: marks else marks
    match skipSpaces rest with
    | '\x7d' :: after => return (table, after)
    | ',' :: more => inline fuel table marks (skipSpaces more)
    | _ => throw .malformed

end

/-- A document while it is read. -/
structure Draft where
  table : Table := []
  marks : Marks := []
  /-- Marks that take effect at the next header. -/
  pending : Marks := []
  header : List String := []

/-- The places on the way to a key, below the header. -/
def waypoints (header key : List String) : List (List String) :=
  (List.range (key.length - 1)).map fun i => header ++ key.take (i + 1)

def addPair? (d : Draft) (key : List String) (v : Value) : Option Draft := do
  let ways := waypoints d.header key
  if ways.any fun way => isMarked d.marks way .declared then none
  let parent := d.header ++ key.dropLast
  if isMarked d.marks parent .closed then none
  let table ← within? true (insertNew? (key.getLastD "") v) parent d.table
  let closing := if holdsValues v then [(d.header ++ key, Mark.closed)] else []
  return { d with table, marks := closing ++ d.marks,
                  pending := ways.map (fun way => (way, Mark.declared)) ++ d.pending }

def settle (d : Draft) : Draft :=
  { d with marks := d.pending ++ d.marks, pending := [] }

/-- A table header. -/
def openTable? (d : Draft) (key : List String) : Option Draft := do
  if isMarked d.marks key .declared || isMarked d.marks key .closed then none
  let table ← within? true some key d.table
  return { d with table, marks := (key, .declared) :: d.marks, header := key }

/-- A header of an array of tables; the new table starts without marks. -/
def openItem? (d : Draft) (key : List String) : Option Draft := do
  if isMarked d.marks key .closed then none
  let marks := d.marks.filter fun m => !key.isPrefixOf m.1
  let table ← within? true (appendNew? (key.getLastD "")) key.dropLast d.table
  return { d with table, marks := (key, .declared) :: marks, header := key }

/-- One statement, and the rest of its line. -/
def statement (d : Draft) (cs : List Char) : Except Refusal (Draft × List Char) :=
  let fuel := cs.length + 1
  match cs with
  | '#' :: _ => .ok (d, cs)
  | '[' :: '[' :: rest => do
    let (key, rest) ← orMalformed (key? fuel (skipSpaces rest))
    let d ← orMalformed (openItem? (settle d) key)
    match rest with
    | ']' :: ']' :: rest => return (d, rest)
    | _ => throw .malformed
  | '[' :: rest => do
    let (key, rest) ← orMalformed (key? fuel (skipSpaces rest))
    let d ← orMalformed (openTable? (settle d) key)
    match rest with
    | ']' :: rest => return (d, rest)
    | _ => throw .malformed
  | _ => do
    let ((key, v), rest) ← pair (4 * fuel) cs
    let d ← orMalformed (addPair? d key v)
    return (d, rest)

def lines : Nat → Draft → List Char → Except Refusal Draft
  | 0, _, _ => .error .malformed
  | fuel + 1, d, cs =>
    match skipSpaces cs with
    | [] => .ok d
    | '\n' :: rest => lines fuel d rest
    | cs => do
      let (d, rest) ← statement d cs
      match ← orMalformed (comment? (skipSpaces rest)) with
      | [] => return d
      | '\n' :: rest => lines fuel d rest
      | _ => throw .malformed

/-- A carriage return before a newline is part of the line end. -/
def joinLineEnds : List Char → List Char
  | [] => []
  | c :: cs => if c = '\r' ∧ cs.head? = some '\n' then joinLineEnds cs else c :: joinLineEnds cs

/-- The table of a document. -/
def parse (document : String) : Except Refusal Table :=
  let cs := joinLineEnds document.toList
  Draft.table <$> lines (cs.length + 1) {} cs

end BlockCode.Toml
