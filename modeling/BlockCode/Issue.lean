import BlockCode.Value

namespace BlockCode

/-- One step on the way into a document. -/
inductive PathStep where
  | key (name : String)
  | index (position : Nat)
  deriving DecidableEq, Repr

abbrev Path := List PathStep

inductive IssueCause where
  | missing
  | notText
  | notTable
  | notList
  | notSet
  | notRecord (model : String)
  | notTruth
  | unreadableTruth
  | notInteger
  | unreadableInteger
  | oversizedInteger
  | fractional
  | notFinite
  | refused (reason : String)
  deriving DecidableEq, Repr

/-- What is wrong with data handed in from outside, and where. -/
structure Issue where
  cause : IssueCause
  path : Path
  deriving DecidableEq, Repr

namespace IssueCause

def code : IssueCause → String
  | .missing => "missing"
  | .notText => "string_type"
  | .notTable => "dict_type"
  | .notList => "list_type"
  | .notSet => "set_type"
  | .notRecord _ => "model_type"
  | .notTruth => "bool_type"
  | .unreadableTruth => "bool_parsing"
  | .notInteger => "int_type"
  | .unreadableInteger => "int_parsing"
  | .oversizedInteger => "int_parsing_size"
  | .fractional => "int_from_float"
  | .notFinite => "finite_number"
  | .refused _ => "value_error"

def message : IssueCause → String
  | .missing => "Field required"
  | .notText => "Input should be a valid string"
  | .notTable => "Input should be a valid dictionary"
  | .notList => "Input should be a valid list"
  | .notSet => "Input should be a valid set"
  | .notRecord model => "Input should be a valid dictionary or instance of " ++ model
  | .notTruth => "Input should be a valid boolean"
  | .unreadableTruth => "Input should be a valid boolean, unable to interpret input"
  | .notInteger => "Input should be a valid integer"
  | .unreadableInteger => "Input should be a valid integer, unable to parse string as an integer"
  | .oversizedInteger => "Unable to parse input string as an integer, exceeded maximum size"
  | .fractional => "Input should be a valid integer, got a number with a fractional part"
  | .notFinite => "Input should be a finite number"
  | .refused reason => "Value error, " ++ reason

end IssueCause

/-- A checked value, or the issues found in place of it. -/
inductive Checked (α : Type) where
  | good (value : α)
  | bad (first : Issue) (more : List Issue)

namespace Checked

variable {α β : Type}

/-- Both sides are checked and their issues stand in order. -/
def both (f : Checked (α → β)) (x : Checked α) : Checked β :=
  match f, x with
  | .good f, .good a => .good (f a)
  | .good _, .bad i more => .bad i more
  | .bad i more, .good _ => .bad i more
  | .bad i more, .bad j others => .bad i (more ++ j :: others)

instance : Applicative Checked where
  pure := .good
  seq f x := both f (x ())

def issue (cause : IssueCause) (path : Path) : Checked α :=
  .bad ⟨cause, path⟩ []

/-- A further check of a value that passed. -/
def andThen (x : Checked α) (check : α → Checked β) : Checked β :=
  match x with
  | .good a => check a
  | .bad i more => .bad i more

end Checked

end BlockCode
