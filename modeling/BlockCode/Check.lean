import BlockCode.Number.Spelling

namespace BlockCode

namespace Check

/-- A text is taken as it is. The checks of single values here stand for those of the schema library
that documents and settings go through; only the checks that occur are given. -/
def text (path : Path) : Value → Checked String
  | .text s => .good s
  | _ => .issue .notText path

def table (path : Path) : Value → Checked (List (String × Value))
  | .map entries => .good entries
  | _ => .issue .notTable path

/-- Whether an integer fits a word of 64 bits with a sign. -/
def fitsWord (n : Int) : Bool :=
  -Int.ofNat (Binary64.twoPow 63) ≤ n && n < Int.ofNat (Binary64.twoPow 63)

/-- One and zero stand for the truth values; other integers are told apart by their size. -/
def truthOfInteger (path : Path) (n : Int) : Checked Bool :=
  if n = 0 then .good false
  else if n = 1 then .good true
  else if fitsWord n then .issue .unreadableTruth path
  else .issue .notTruth path

/-- An integral number that lies strictly inside the range of a word of 64 bits. -/
def wordOfReal? (x : Binary64) : Option Int :=
  match x.truncate? with
  | some n => if x.isInteger && fitsWord n && fitsWord (-n) then some n else none
  | none => none

/-- Numbers one and zero, and a dozen words in any case, stand for the truth values. -/
def truth (path : Path) : Value → Checked Bool
  | .bool b => .good b
  | .int n => truthOfInteger path n
  | .real x =>
    match wordOfReal? x with
    | some n => truthOfInteger path n
    | none => .issue .notTruth path
  | .text s =>
    let word := String.ofList (s.toList.map Char.toLower)
    if word ∈ ["0", "off", "f", "false", "n", "no"] then .good false
    else if word ∈ ["1", "on", "t", "true", "y", "yes"] then .good true
    else .issue .unreadableTruth path
  | _ => .issue .notTruth path

def integer (path : Path) : Value → Checked Int
  | .bool b => .good (if b then 1 else 0)
  | .int n => .good n
  | .real x =>
    match x.truncate?, wordOfReal? x with
    | none, _ => .issue .notFinite path
    | _, some n => .good n
    | some _, none => .issue (if x.isInteger then .oversizedInteger else .fractional) path
  | .text s =>
    match Spelling.integer s with
    | .ok n => .good n
    | .error cause => .issue cause path
  | _ => .issue .notInteger path

/-- Null stands for an absent value. -/
def optional {α : Type} (check : Path → Value → Checked α) (path : Path) :
    Value → Checked (Option α)
  | .null => .good none
  | v => some <$> check path v

/-- Every item is checked at its own position, counted from `start`. -/
def items {α : Type} (check : Path → Value → Checked α) (path : Path) (start : Nat) :
    List Value → Checked (List α)
  | [] => .good []
  | v :: rest =>
    List.cons <$> check (path ++ [.index start]) v <*> items check path (start + 1) rest

/-- An absent field takes its default, which is not checked. -/
def field {α : Type} (entries : List (String × α)) {β : Type} (name : String) (default : β)
    (check : α → Checked β) : Checked β :=
  match entries.lookup name with
  | some v => check v
  | none => .good default

end Check

end BlockCode
