import BlockCode.Dialect.DivGames
import BlockCode.Dialect.FuzeBasic

namespace BlockCode

def Language.dialect : Language → Dialect
  | .divGames => .divGames
  | .fuzeBasic => .fuzeBasic

namespace Dialect

def find : Value → Except Fault Dialect
  | .text language =>
    match Language.find? language with
    | some l => .ok l.dialect
    | none => .error (.unknownLanguage language Language.keys)
  | _ => .error .notAName

end Dialect

/-- A dialect with the options of its runs. -/
structure Generator where
  dialect : Dialect
  config : Config

namespace Generator

def setting (g : Generator) : Setting :=
  { conventions := g.dialect.conventions, config := g.config }

/-- The generator for a language. A language that is not set is that of the options; missing options
are the defaults, for the language if one is set. -/
def create (language : Value) (config : Option Config) : Except Fault Generator := do
  let config ←
    match config with
    | some c => pure c
    | none => if language.isSet then Config.ofOptions [("language", language)] else pure {}
  let dialect ← Dialect.find (if language.isSet then language else config.language.key)
  return { dialect, config }

end Generator

end BlockCode
