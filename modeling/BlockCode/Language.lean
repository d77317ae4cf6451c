import BlockCode.Text.Character
import BlockCode.Text.LowerCase

namespace BlockCode

inductive Language where
  | divGames
  | fuzeBasic
  deriving DecidableEq, Repr

namespace Language

def key : Language → String
  | .divGames => "divgames"
  | .fuzeBasic => "fuzebasic"

/-- All keys, in ascending order. -/
def keys : List String :=
  ["divgames", "fuzebasic"]

/-- A key as it is looked up: in lower case and without white space around it. -/
def normalKey (text : String) : String :=
  Text.trimmed (Text.lower text)

def ofKey? (text : String) : Option Language :=
  if text = "divgames" then some .divGames
  else if text = "fuzebasic" then some .fuzeBasic
  else none

def find? (text : String) : Option Language :=
  ofKey? (normalKey text)

end Language

end BlockCode
