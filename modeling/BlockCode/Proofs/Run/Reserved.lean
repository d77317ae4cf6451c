import BlockCode.Proofs.Run.Requests
import BlockCode.Proofs.Run.Spelling

namespace BlockCode

namespace Context

/-- A context that goes by its setting: whatever it has named is legal and not reserved. -/
structure Guarded (s : Setting) (c : Context) : Prop extends c.Sound s.config where
  reserved : c.names.reserved = s.reserved
  known : ∀ {key x}, Entries.get? key c.names.known = some x → x ∉ s.reserved
  helpers : ∀ {id x}, Entries.get? id c.helpers.names = some x →
    Name.isLegal x = true ∧ x ∉ s.reserved

namespace Guarded

variable {s : Setting} {c c' : Context}

theorem newContext (s : Setting) : s.newContext.Guarded s :=
  ⟨.newContext s, rfl, fun h => (nomatch h), fun h => (nomatch h)⟩

theorem reset (h : c.Guarded s) : c.reset.Guarded s :=
  ⟨h.toSound.reset, h.reserved, fun h => (nomatch h), fun h => (nomatch h)⟩

section Request

variable {name : Value} {type : NameType} {g : Allocator.Grant} {names : Allocator}

theorem distinct_free (h : c.Guarded s) (hd : c.names.distinct name type = .ok (g, names)) :
    Name.isLegal g.chosen = true ∧ g.chosen ∉ s.reserved := by
  obtain ⟨hlegal, hfree, -⟩ := Allocator.distinct_eq_ok hd
  exact ⟨hlegal, h.reserved ▸ (Allocator.isTaken_eq_false.1 hfree).2⟩

theorem distinct (h : c.Guarded s) (hd : c.names.distinct name type = .ok (g, names)) :
    Guarded s { c with names } := by
  refine ⟨h.toSound.distinct hd, ?_, ?_, h.helpers⟩
  all_goals obtain ⟨-, -, rfl⟩ := Allocator.distinct_eq_ok hd
  · exact h.reserved
  · exact h.known

theorem get_free (h : c.Guarded s) (hg : c.names.get name type = .ok (g, names)) :
    Name.isLegal g.chosen = true ∧ g.chosen ∉ s.reserved := by
  obtain ⟨key, -, ⟨hx, -⟩ | ⟨-, mid, hd, -⟩⟩ := Allocator.get_eq_ok hg
  · exact ⟨h.legal hx, h.known hx⟩
  · exact h.distinct_free hd

theorem get (h : c.Guarded s) (hg : c.names.get name type = .ok (g, names)) :
    Guarded s { c with names } := by
  have hfree := h.get_free hg
  obtain ⟨key, -, ⟨-, rfl⟩ | ⟨-, mid, hd, rfl⟩⟩ := Allocator.get_eq_ok hg
  · exact h
  · have hmid := h.distinct hd
    refine ⟨h.toSound.get hg, hmid.reserved, ?_, hmid.helpers⟩
    intro other x hx
    rw [Entries.get?_put] at hx
    split at hx
    · cases hx
      exact hfree.2
    · exact hmid.known hx

end Request

theorem helperName (h : c.Guarded s) {key : Value} {answer : HelperName}
    {records : List LogRecord} (hn : c.helperName key = .ok (answer, records, c')) :
    c'.Guarded s := by
  obtain ⟨id, -, ⟨-, -, rfl⟩ | ⟨-, g, names, hd, -, rfl⟩⟩ := helperName_eq_ok hn
  · exact h
  · have hnext := h.distinct hd
    refine ⟨h.toSound.helperName hn, hnext.reserved, hnext.known, ?_⟩
    intro other x hx
    rw [Entries.get?_put] at hx
    split at hx
    · cases hx
      exact h.distinct_free hd
    · exact h.helpers hx

theorem define (h : c.Guarded s) {key : Value} {code : String}
    (hd : c.define key code = .ok c') : c'.Guarded s := by
  have hsound := h.toSound.define hd
  obtain ⟨id, -, hd⟩ := exists_of_bind hd
  cases hd
  exact ⟨hsound, h.reserved, h.known, h.helpers⟩

/-- Every request keeps a context guarded. -/
theorem kept (s : Setting) : Context.Kept (Guarded s) :=
  ⟨fun h hg => h.get hg, fun h hd => h.distinct hd, fun h hn => h.helperName hn,
    fun h hd => h.define hd⟩

end Guarded

end Context

/-- The first name asked for gets itself as its identifier, if it is legal and not reserved. -/
theorem Setting.newContext_get (s : Setting) {name : String} (hlegal : Name.isLegal name = true)
    (hfree : name ∉ s.reserved) (type : NameType) :
    ∃ names, s.newContext.names.get (.text name) type = .ok (⟨name, name⟩, names) := by
  have htaken : s.newContext.names.isTaken (s.newContext.names.pool type) name = false :=
    Allocator.isTaken_eq_false.2 ⟨List.not_mem_nil, hfree⟩
  exact ⟨_, Allocator.get_of_unknown rfl rfl (Allocator.distinct_of_free hlegal htaken)⟩

namespace Gen

variable {s : Setting} {r : Run}

/-- Without a lead, the answer to a request for an identifier is legal and not reserved. -/
theorem nameOf_free (hr : r.Keeps (Context.Guarded s)) (hlead : s.config.variablePrefix = "")
    {type : NameType} {name : Value} {x : String} (h : (exec (nameOf type name) s r).1 = .ok x) :
    Name.isLegal x = true ∧ x ∉ s.reserved := by
  cases hc : r.context with
  | none =>
    rw [nameOf, exec_step, hc] at h
    cases h
  | some c =>
    have hguarded := hr c hc
    have hempty : c.names.lead type = "" := by
      cases type
      · exact hguarded.lead.trans hlead
      · rfl
    rw [exec_nameOf hc] at h
    cases hg : c.names.get name type with
    | error fault =>
      rw [hg] at h
      cases h
    | ok result =>
      rw [hg] at h
      dsimp only at h
      rw [hempty, String.empty_append] at h
      cases h
      exact hguarded.get_free hg

end Gen

theorem Session.after_guarded {g : Generator}
    (hrules : Rulebook.Agrees true (Context.Guarded g.setting) g.dialect.rules)
    (earlier : List Operation) : (after g earlier).run.Keeps (Context.Guarded g.setting) :=
  after_keeps (Context.Guarded.kept _) hrules (.newContext _) Context.Guarded.reset earlier

/-- The words that a language writes on its own: those of the frame of a program and of its statements,
and the literals. -/
def Language.ownWords : Language → List String
  | .divGames =>
    ["PROGRAM", "GLOBAL", "BEGIN", "END", "PROCESS", "RETURN", "FROM", "TO", "STEP", "FOR",
      "WHILE", "IF", "BREAK", "CONTINUE", "if", "else", "true", "false", "null", "INF"]
  | .fuzeBasic => ["END", "PRINT", "if", "else", "true", "false", "null", "INF"]

/-- The reserved words of a language, some of them more than once. -/
def Language.reserved : Language → List String
  | .divGames => Dialect.divWords ++ Dialect.helperWords
  | .fuzeBasic => Dialect.basicWords ++ Dialect.helperWords

namespace Generator

/-- The generator of a language with the options as they are unless given. -/
def standard (language : Language) : Generator :=
  ⟨language.dialect, { language }⟩

theorem mem_reserved {language : Language} {word : String} :
    word ∈ (standard language).setting.reserved ↔ word ∈ language.reserved := by
  have hown : language.dialect.conventions.reserved = language.reserved.eraseDups := by
    cases language with
    | divGames =>
      simp only [Language.dialect, Dialect.divGames, Dialect.divConventions, Language.reserved]
    | fuzeBasic =>
      simp only [Language.dialect, Dialect.fuzeBasic, Dialect.fuzeConventions, Language.reserved]
  have hall : (standard language).setting.reserved =
      (language.dialect.conventions.reserved ++ []).eraseDups := rfl
  rw [hall, List.append_nil, hown, List.mem_eraseDups, List.mem_eraseDups]

theorem unreserved_of_mem_ownWords {language : Language} {word : String}
    (h : word ∈ language.ownWords) :
    Name.isLegal word = true ∧
      (word ∈ (standard language).setting.reserved ↔ word = "if" ∨ word = "else") := by
  rw [mem_reserved]
  revert word
  cases language <;> decide +kernel

/-- Of a language's own words `if` and `else` are no one's identifier; every other one is the
identifier of a variable, or a procedure, of that name in some run. More generally the identifiers of
all runs are the legal ones that are not reserved. -/
theorem identifiers_avoid_reserved_words_only (language : Language) (type : NameType) :
    (∀ word, (∃ earlier name, ((Session.after (standard language) earlier).perform (standard language)
        (Gen.nameOf type name)).1 = .ok word) ↔
      Name.isLegal word = true ∧ word ∉ (standard language).setting.reserved) ∧
    ∀ word ∈ language.ownWords,
      (∀ earlier name, ((Session.after (standard language) earlier).perform (standard language)
        (Gen.nameOf type name)).1 ≠ .ok word) ↔ word = "if" ∨ word = "else" := by
  have hall : ∀ word, (∃ earlier name, ((Session.after (standard language) earlier).perform
      (standard language) (Gen.nameOf type name)).1 = .ok word) ↔
      Name.isLegal word = true ∧ word ∉ (standard language).setting.reserved := by
    intro word
    constructor
    · rintro ⟨earlier, name, h⟩
      have hguarded := Session.after_guarded (g := standard language)
        (Rulebook.dialect_agrees (Context.Guarded.kept _) fun _ => rfl) earlier
      exact Gen.nameOf_free hguarded rfl h
    · rintro ⟨hlegal, hfree⟩
      refine ⟨[.start (.blocks [])], .text word, ?_⟩
      have hrun : (Session.after (standard language) [.start (.blocks [])]).run.context =
          some (standard language).setting.newContext := rfl
      obtain ⟨names, hget⟩ := (standard language).setting.newContext_get hlegal hfree type
      have hanswer := Gen.exec_nameOf (s := (standard language).setting) hrun (.text word) type
      rw [hget] at hanswer
      have hempty : (standard language).setting.newContext.names.lead type = "" := by
        cases type <;> rfl
      simp only [hempty, String.empty_append] at hanswer
      exact congrArg Prod.fst hanswer
  refine ⟨hall, ?_⟩
  intro word hword
  obtain ⟨hlegal, hreserved⟩ := unreserved_of_mem_ownWords hword
  rw [← hreserved]
  constructor
  · intro hnever
    by_contra hfree
    obtain ⟨earlier, name, h⟩ := (hall word).2 ⟨hlegal, hfree⟩
    exact hnever earlier name h
  · intro hmem earlier name h
    exact ((hall word).1 ⟨earlier, name, h⟩).2 hmem

theorem else_avoided_while_not :
    "else" ∈ Language.divGames.ownWords ∧ "WHILE" ∈ Language.divGames.ownWords ∧
      (∀ earlier name, ((Session.after (standard .divGames) earlier).perform (standard .divGames)
        (Gen.nameOf .procedure name)).1 ≠ .ok "else") ∧
      ¬ ∀ earlier name, ((Session.after (standard .divGames) earlier).perform (standard .divGames)
        (Gen.nameOf .procedure name)).1 ≠ .ok "WHILE" := by
  have helse : "else" ∈ Language.divGames.ownWords := by decide
  have hwhile : "WHILE" ∈ Language.divGames.ownWords := by decide
  obtain ⟨-, hwords⟩ := identifiers_avoid_reserved_words_only .divGames .procedure
  exact ⟨helse, hwhile, (hwords "else" helse).2 (.inr rfl), mt (hwords "WHILE" hwhile).1 (by decide)⟩

/-- A variable and a procedure that are called like the word a program starts with, and a variable that
is called like the statement that prints. -/
theorem own_words_as_identifiers :
    let asked (language : Language) (type : NameType) (name : String) :=
      ((Session.after (standard language) [.start (.blocks [])]).perform (standard language)
        (Gen.nameOf type (.text name))).1.toOption
    "PROGRAM" ∈ Language.divGames.ownWords ∧ asked .divGames .var "PROGRAM" = some "PROGRAM" ∧
      asked .divGames .procedure "PROGRAM" = some "PROGRAM" ∧
      "PRINT" ∈ Language.fuzeBasic.ownWords ∧ asked .fuzeBasic .var "PRINT" = some "PRINT" := by
  decide +kernel

end Generator

end BlockCode
