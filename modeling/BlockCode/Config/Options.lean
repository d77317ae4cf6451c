import BlockCode.Check
import BlockCode.Fault
import BlockCode.Helper
import BlockCode.Language
import BlockCode.RuleTable

namespace BlockCode

namespace Config

def defaultIndent : String :=
  "  "

def defaultAttempts : Int :=
  10000

theorem isBare_defaultIndent : Text.isBare defaultIndent.toList = true := by
  decide

theorem defaultPlaceholder_ne_empty : defaultPlaceholder ≠ "" := by
  decide

theorem defaultAttempts_pos : 1 ≤ defaultAttempts := by
  decide

end Config

/-- The options of a run. An option without a value falls back on the dialect's own. -/
structure Config where
  language : Language := .divGames
  reservedWords : List String := []
  prologue : Option String := none
  epilogue : Option String := none
  placeholder : String := defaultPlaceholder
  indent : String := Config.defaultIndent
  commentMark : Option String := none
  /-- Code in front of every statement. -/
  before : Option String := none
  /-- Code behind every statement. -/
  after : Option String := none
  /-- Code at the top of loop and procedure bodies. -/
  trap : Option String := none
  sharedNames : Option Bool := none
  variablePrefix : String := ""
  maxAttempts : Int := Config.defaultAttempts
  placeholder_ne_empty : placeholder ≠ "" := by
    first | exact Config.defaultPlaceholder_ne_empty | decide
  indent_isBare : Text.isBare indent.toList = true := by
    first | exact Config.isBare_defaultIndent | decide
  attempts_pos : 1 ≤ maxAttempts := by first | exact Config.defaultAttempts_pos | decide

namespace Config

def checkLanguage (path : Path) (v : Value) : Checked Language :=
  (Check.text path v).andThen fun text =>
    let key := Language.normalKey text
    match Language.ofKey? key with
    | some language => .good language
    | none =>
      .issue
        (.refused ("Unknown language: '" ++ key ++ "'. Supported languages: " ++
          shownNames Language.keys))
        path

def checkWords (path : Path) : Value → Checked (List String)
  | .list items => List.eraseDups <$> Check.items Check.text path 0 items
  | _ => .issue .notSet path

def checkPlaceholder (path : Path) (v : Value) : Checked { text : String // text ≠ "" } :=
  (Check.text path v).andThen fun text =>
    if h : text = "" then .issue (.refused "name_placeholder_token must not be empty") path
    else .good ⟨text, h⟩

def checkIndent (path : Path) (v : Value) :
    Checked { text : String // Text.isBare text.toList = true } :=
  (Check.text path v).andThen fun text =>
    if h : Text.isBare text.toList = true then .good ⟨text, h⟩
    else
      .issue (.refused ("indent_unit must only contain whitespace, got " ++ Text.shown text)) path

def checkAttempts (path : Path) (v : Value) : Checked { n : Int // 1 ≤ n } :=
  (Check.integer path v).andThen fun n =>
    if h : 1 ≤ n then .good ⟨n, h⟩
    else .issue (.refused "max_suffix_attempts must be at least 1") path

/-- Checks options by name. Unknown names are passed over, absent options take their defaults. -/
def check (options : List (String × Value)) : Checked Config :=
  let field {α : Type} (name : String) (default : α) (check : Path → Value → Checked α) :
      Checked α :=
    Check.field options name default (check [.key name])
  let base : Config := {}
  (fun language reservedWords prologue epilogue placeholder indent commentMark before after trap
      sharedNames variablePrefix attempts =>
    { language, reservedWords, prologue, epilogue, commentMark, before, after, trap, sharedNames
      variablePrefix
      placeholder := placeholder.1
      indent := indent.1
      maxAttempts := attempts.1
      placeholder_ne_empty := placeholder.2
      indent_isBare := indent.2
      attempts_pos := attempts.2 : Config })
    <$> field "language" base.language checkLanguage
    <*> field "reserved_words" base.reservedWords checkWords
    <*> field "prologue_template" base.prologue (Check.optional Check.text)
    <*> field "epilogue_template" base.epilogue (Check.optional Check.text)
    <*> field "name_placeholder_token" ⟨_, base.placeholder_ne_empty⟩ checkPlaceholder
    <*> field "indent_unit" ⟨_, base.indent_isBare⟩ checkIndent
    <*> field "comment_prefix" base.commentMark (Check.optional Check.text)
    <*> field "statement_prefix" base.before (Check.optional Check.text)
    <*> field "statement_suffix" base.after (Check.optional Check.text)
    <*> field "infinite_loop_trap" base.trap (Check.optional Check.text)
    <*> field "shared_namespace" base.sharedNames (Check.optional Check.truth)
    <*> field "variable_prefix" base.variablePrefix Check.text
    <*> field "max_suffix_attempts" ⟨_, base.attempts_pos⟩ checkAttempts

def ofOptions (options : List (String × Value)) : Except Fault Config :=
  match check options with
  | .good config => .ok config
  | .bad i more => .error (.invalidInput (i :: more))

/-- Every option by name, the reserved words in ascending order. -/
def dump (c : Config) : List (String × Value) :=
  let optional (o : Option String) : Value := (o.map Value.text).getD .null
  [("language", .text c.language.key),
    ("reserved_words", .list ((Listing.sorted c.reservedWords).map Value.text)),
    ("prologue_template", optional c.prologue),
    ("epilogue_template", optional c.epilogue),
    ("name_placeholder_token", .text c.placeholder),
    ("indent_unit", .text c.indent),
    ("comment_prefix", optional c.commentMark),
    ("statement_prefix", optional c.before),
    ("statement_suffix", optional c.after),
    ("infinite_loop_trap", optional c.trap),
    ("shared_namespace", (c.sharedNames.map Value.bool).getD .null),
    ("variable_prefix", .text c.variablePrefix),
    ("max_suffix_attempts", .int c.maxAttempts)]

end Config

end BlockCode
