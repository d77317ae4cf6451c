import BlockCode.Number.Shortest
import BlockCode.Text.Shown

namespace BlockCode

/-- The values that fields, shape data and settings hold. -/
inductive Value where
  | null
  | bool (b : Bool)
  | int (n : Int)
  | real (x : Binary64)
  | text (s : String)
  | list (items : List Value)
  | map (entries : List (String × Value))
  /-- A date, a time of day or both, as a settings file spells it. -/
  | moment (spelling : String)
  deriving Inhabited

namespace Value

instance : Coe String Value := ⟨.text⟩

instance : Coe Int Value := ⟨.int⟩

mutual

def shown : Value → String
  | .null => "None"
  | .bool b => if b then "True" else "False"
  | .int n => toString n
  | .real x => x.text
  | .text s => Text.shown s
  | .list items => "[" ++ ", ".intercalate (shownItems items) ++ "]"
  | .map entries => "\x7b" ++ ", ".intercalate (shownEntries entries) ++ "\x7d"
  | .moment spelling => spelling

def shownItems : List Value → List String
  | [] => []
  | v :: rest => v.shown :: shownItems rest

def shownEntries : List (String × Value) → List String
  | [] => []
  | (key, v) :: rest => (Text.shown key ++ ": " ++ v.shown) :: shownEntries rest

end

/-- Text is written as it is, every other value as it is shown. -/
def written : Value → String
  | .text s => s
  | v => v.shown

/-- Whether the value counts as set: zero, the empty text and the empty collections do not. -/
def isSet : Value → Bool
  | .null => false
  | .bool b => b
  | .int n => n != 0
  | .real x => !x.isZero
  | .text s => s != ""
  | .list items => !items.isEmpty
  | .map entries => !entries.isEmpty
  | .moment _ => true

/-- Whether the value can be looked up in a table; collections cannot. -/
def isKey : Value → Bool
  | .list _ => false
  | .map _ => false
  | _ => true

end Value

end BlockCode
