import BlockCode.Proofs.Expression.Emission

namespace BlockCode

open Rank Gen Grammar Lexeme

/-- The code of a tree reads back in any place. -/
theorem Tree.place_readsAs {spelling : String → String} {e : Tree}
    (h : ∀ x ∈ e.names, Name.isLegal (spelling x) = true) (hb : e.isBlank = false)
    (required : Rank) (default : String) :
    ReadsAs loosest (place required (e.code spelling) e.rank) (e.formula spelling default) := by
  have hreads := readsBack (fun x hx => isWord_of_isLegal (h x hx))
  have hloosest : e.rank ≤ loosest := Int.le_trans e.rank_le (by decide)
  by_cases hr : required < e.rank
  · have hplace : place required (e.code spelling) e.rank = "(" ++ e.code spelling ++ ")" :=
      if_pos ⟨(hreads hb).1.ne_empty, hr⟩
    rw [hplace]
    exact (ReadsAs.group (((hreads hb).2 default).loosen hloosest)).loosen (by decide)
  · have hplace : place required (e.code spelling) e.rank = e.code spelling :=
      if_neg fun hc => hr hc.2
    rw [hplace]
    exact ((hreads hb).2 default).loosen hloosest

/-- The answer for a tree is code that reads in one way only, as the tree up to the grouping of
chains; or it is a fault, because there is no identifier for one of the names. -/
inductive Tree.AnsweredBy (e : Tree) (s : Setting) : Except Fault String × Session → Prop where
  | code {code : String} {after : Session} {tree : Formula}
    (reads : ∀ t, Reads loosest (Lexeme.ofText code) t ↔ t = tree)
    (regroups : Regroups (e.formula after.run.spelling "") tree) : e.AnsweredBy s (.ok code, after)
  | fault {fault : Fault} {after : Session} {x : String} (named : x ∈ e.names)
    (refuses : after.run.Refuses s x fault) : e.AnsweredBy s (.error fault, after)

namespace Generator

/-- Code for a tree of blocks reads back whatever was done before, and whatever rank its place
requires. -/
theorem value_reads_back (language : Language) (config : Config)
    (hlead : config.variablePrefix = "") (earlier : List Operation) (parent : Block)
    (socket : String) (e : Tree) (he : Depicts (parent.plugged socket) e)
    (hb : e.isBlank = false) (required : Rank) :
    let g : Generator := ⟨language.dialect, config⟩
    e.AnsweredBy g.setting ((Session.after g earlier).perform g
      ((parent.site g.dialect.rules).valueAt socket (.int required))) := by
  intro g
  have hsound : (Session.after g earlier).run.Keeps (Context.Sound config) :=
    Session.after_keeps (Context.Sound.kept config)
      (Rulebook.dialect_agrees (Context.Sound.kept config) fun _ => rfl)
      (Context.Sound.newContext g.setting) Context.Sound.reset earlier
  have hholds : (parent.site g.dialect.rules).Holds g.setting socket e :=
    (Block.holds_iff _ parent socket).2 (he.emits hlead language)
  have hends := hholds.value required _ hsound
  unfold Site.value exec at hends
  unfold Session.perform
  generalize (((parent.site g.dialect.rules).valueAt socket (.int required)).run g.setting).run.run
    (Session.after g earlier).run = result at hends ⊢
  obtain ⟨fault | code, r⟩ := result
  · obtain ⟨x, hx, hrefuses⟩ := hends
    exact .fault hx hrefuses
  · obtain ⟨rfl, hr, -, hknown⟩ := hends
    have hlegal : ∀ x ∈ e.names, Name.isLegal (r.spelling x) = true :=
      fun x hx => Run.isLegal_spelling hr (hknown x hx)
    obtain ⟨tree, hreads, hregroups⟩ := Tree.place_readsAs hlegal hb required ""
    refine .code (fun t => ⟨fun ht => ht.unique hreads, ?_⟩) hregroups
    rintro rfl
    exact hreads

/-- A block with two minus signs in a row, right of a third one and beside an empty socket. -/
def nestedMinus : Block :=
  let block (kind : String) (fields : List (String × Value))
      (inputs : List (String × Option Block)) : Block :=
    .mk { kind := .text kind, fields := .map fields, id := .text kind } inputs [] none
  let minus (operand : Block) := block "math_single" [("OP", .text "NEG")] [("NUM", some operand)]
  let a := block "variables_get" [("VAR", .text "a")] []
  let sum := block "math_arithmetic" [("OP", .text "ADD")]
    [("A", none), ("B", some (minus (minus a)))]
  let difference := block "math_arithmetic" [("OP", .text "MINUS")] [("A", some a), ("B", some sum)]
  block "text_print" [] [("TEXT", some difference)]

theorem nestedMinus_reads_back :
    let e : Tree :=
      .binary .subtract (.name "a") (.binary .add .blank (.negative (.negative (.name "a"))))
    let g : Generator := ⟨Language.fuzeBasic.dialect, {}⟩
    let answer := (Session.after g [.start (.blocks [])]).perform g
      ((nestedMinus.site g.dialect.rules).valueAt "TEXT" (.int loosest))
    Depicts (nestedMinus.plugged "TEXT") e ∧ answer.1.toOption = some "a - (0 + - -a)" ∧
      e.AnsweredBy g.setting answer := by
  intro e g
  have hanswer : ((Session.after g [.start (.blocks [])]).perform g
      ((nestedMinus.site g.dialect.rules).valueAt "TEXT" (.int loosest))).1.toOption =
      some "a - (0 + - -a)" := by
    decide +kernel
  have he : Depicts (nestedMinus.plugged "TEXT") e := by
    refine .binary ⟨rfl, rfl, rfl⟩ (by rintro _ ⟨⟩; rfl) (.name ⟨rfl, rfl, rfl⟩ rfl) ?_
    refine .binary ⟨rfl, rfl, rfl⟩ (by rintro _ ⟨⟩; rfl) .blank ?_
    refine .negative ⟨rfl, rfl, rfl⟩ rfl (.negative ⟨rfl, rfl, rfl⟩ rfl ?_)
    exact .name ⟨rfl, rfl, rfl⟩ rfl
  refine ⟨he, hanswer, ?_⟩
  exact value_reads_back .fuzeBasic {} rfl [.start (.blocks [])] nestedMinus "TEXT" e he rfl loosest

end Generator

end BlockCode
