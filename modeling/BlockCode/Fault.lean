import BlockCode.Issue

namespace BlockCode

/-- How a rule's result does not fit the place it was made for. -/
inductive Misfit where
  | statementAsValue (child socket parent : String)
  | valueAsStatement (child socket parent : String)
  | valueInChain (child before : String)
  | notACodePair (kind shown : String)
  | neitherCode (kind type : String)
  deriving DecidableEq, Repr

/-- Why a run stops. -/
inductive Fault where
  | unknownKind (kind dialect : String)
  | unhandledValue (kind field : String) (value : Value) (expected : Option (List String))
  | invalidEmission (misfit : Misfit)
  | namesExhausted (base : String) (attempts : Value)
  | noActiveRun (generator : String)
  | unreadableReal (text : String)
  | unreadableInteger (text : String)
  | tooManyDigits (count : Nat)
  | notIntegral
  | unknownNameType (label : Value)
  | unknownRank (rank : Value)
  | unknownLanguage (language : String) (known : List String)
  | notAPair (position length : Nat)
  | invalidInput (issues : List Issue)
  | notAKey
  | notANumber
  | notASequence
  | notATable
  | notAName
  | notAText
  | notABlock
  | beyondRange
  | noSuchEntry
  | unopenedTag

namespace Misfit

def message : Misfit → String
  | .statementAsValue child socket parent =>
    "Block \"" ++ child ++ "\" in value socket \"" ++ socket ++ "\" of \"" ++ parent ++
      "\" produced a statement, expected a value."
  | .valueAsStatement child socket parent =>
    "Block \"" ++ child ++ "\" in statement socket \"" ++ socket ++ "\" of \"" ++ parent ++
      "\" produced a value, expected a statement."
  | .valueInChain child before =>
    "Block \"" ++ child ++ "\" chained after \"" ++ before ++ "\" produced a value."
  | .notACodePair kind shown =>
    "Rule for \"" ++ kind ++ "\" must return (code, order), got " ++ shown ++ "."
  | .neitherCode kind type =>
    "Rule for \"" ++ kind ++ "\" returned unsupported type " ++ type ++ "."

end Misfit

/-- A list of names in brackets, each between quotes. -/
def shownNames (names : List String) : String :=
  "[" ++ ", ".intercalate (names.map Text.shown) ++ "]"

namespace Fault

def message : Fault → String
  | .unknownKind kind dialect =>
    "Language \"" ++ dialect ++ "\" does not know how to generate code for block type \"" ++ kind ++
      "\"."
  | .unhandledValue kind field value expected =>
    "Unhandled value " ++ value.shown ++ " for field '" ++ field ++ "' of block '" ++ kind ++
      "'." ++
      match expected with
      | none => ""
      | some options => " Expected one of: " ++ ", ".intercalate options ++ "."
  | .invalidEmission misfit => misfit.message
  | .namesExhausted base attempts =>
    "Could not allocate a free name for '" ++ base ++ "' after " ++ attempts.written ++
      " attempts."
  | .noActiveRun generator =>
    generator ++ " has no active generation run; call init() or generate() first."
  | .unreadableReal text => "could not convert string to float: " ++ Text.shown text
  | .unreadableInteger text =>
    "invalid literal for int() with base 10: " ++ String.ofList ((Text.shown text).toList.take 200)
  | .tooManyDigits count =>
    "Exceeds the limit (4300 digits) for integer string conversion: value has " ++
      toString count ++ " digits; use sys.set_int_max_str_digits() to increase the limit"
  | .notIntegral => "cannot convert float NaN to integer"
  | .unknownNameType label => label.shown ++ " is not a valid NameType"
  | .unknownRank rank => rank.shown ++ " is not a valid Order"
  | .unknownLanguage language known =>
    "No backend registered for language '" ++ language ++ "'. Supported languages: " ++
      shownNames known
  | .notAPair position length =>
    "dictionary update sequence element #" ++ toString position ++ " has length " ++
      toString length ++ "; 2 is required"
  | .invalidInput issues => "\n".intercalate (issues.map fun i => i.cause.message)
  | .notAKey => "a collection cannot be looked up"
  | .notANumber => "the value is not a number"
  | .notASequence => "the value has no items"
  | .notATable => "the value has no entries"
  | .notAName => "the value is not a name"
  | .notAText => "the value is not a text"
  | .notABlock => "the value is not a block"
  | .beyondRange => "the number is beyond the range"
  | .noSuchEntry => "there is no such entry"
  | .unopenedTag => "a closing tag closes nothing"

/-- Whether the program text itself cannot be made, as opposed to a fault of the data around it. -/
def isGeneration : Fault → Bool
  | .unknownKind .. => true
  | .unhandledValue .. => true
  | .invalidEmission _ => true
  | .namesExhausted .. => true
  | _ => false

end Fault

end BlockCode
