import BlockCode.Proofs.Expression.Emission
import BlockCode.Proofs.Loop.Semantics
import BlockCode.Proofs.Number.Integer
import BlockCode.Proofs.Run.Chains
import BlockCode.Proofs.Run.Order

namespace BlockCode

open Rank Gen Loop Operand Binary64

/-- A bound of a loop: a literal, or a variable with the number that it holds. -/
inductive Bound where
  | literal (n : Int)
  | named (x : String) (n : Int)

namespace Bound

def value : Bound → Int
  | .literal n => n
  | .named _ n => n

def isLiteral : Bound → Bool
  | .literal _ => true
  | .named _ _ => false

/-- The bound is what is plugged into a socket. -/
def Fills (plug : Option Block) : Bound → Prop
  | .literal n => ∃ b v, plug = some b ∧ b.IsValue "math_number" ∧
      b.head.fields.entryOr "NUM" (.int 0) = .ok v ∧ v.toReal = .ok (whole n)
  | .named x _ => ∃ b, plug = some b ∧ b.IsValue "variables_get" ∧
      b.head.field "VAR" = .ok (.text x)

/-- The variable, if the bound is one, holds its number. -/
def Holds (a : Allocator) (σ : Store) : Bound → Prop
  | .literal _ => True
  | .named x n => ∀ name, a.Names x name → σ name = n

/-- The term that stands for the bound in code. -/
def IsShown (a : Allocator) (e : Term) : Bound → Prop
  | .literal n => e = .number n
  | .named x _ => ∃ name, a.Names x name ∧ e = .name name

variable {a b : Allocator} {bound : Bound} {e : Term} {σ : Store}

theorem IsShown.grows (h : bound.IsShown a e) (hab : a.Extends b) : bound.IsShown b e := by
  cases bound with
  | literal n => exact h
  | named x n =>
    obtain ⟨name, hname, rfl⟩ := h
    exact ⟨name, hab.names hname, rfl⟩

theorem IsShown.eval (h : bound.IsShown a e) (hσ : bound.Holds a σ) : e.eval σ = bound.value := by
  cases bound with
  | literal n =>
    obtain rfl := h
    rfl
  | named x n =>
    obtain ⟨name, hname, rfl⟩ := h
    exact hσ name hname

theorem IsShown.gave (h : bound.IsShown a e) (ha : a.Accounts) : ∀ x ∈ e.names, a.Gave x := by
  cases bound with
  | literal n =>
    obtain rfl := h
    nofun
  | named x n =>
    obtain ⟨name, hname, rfl⟩ := h
    intro y hy
    obtain rfl := List.mem_singleton.1 hy
    exact hname.gave ha

/-- Variables other than the counter have other names. -/
theorem IsShown.ne (h : bound.IsShown a e) (ha : a.Separates) {var counter : String}
    (hvar : ∀ x n, bound = .named x n → x ≠ var) (hcounter : a.Names var counter) :
    counter ∉ e.names := by
  cases bound with
  | literal n =>
    obtain rfl := h
    nofun
  | named x n =>
    obtain ⟨name, hname, rfl⟩ := h
    intro hmem
    obtain rfl := List.mem_singleton.1 hmem
    exact hname.ne ha hcounter (hvar x n rfl) rfl

theorem IsShown.exists_literal (h : bound.IsShown a e) (hliteral : bound.isLiteral = true) :
    ∃ n, bound = .literal n ∧ e = .number n := by
  cases bound with
  | literal n => exact ⟨n, rfl, h⟩
  | named x n => cases hliteral

/-- Literals are numbers, and names are none. -/
theorem IsShown.literal_or_foreign {config : Config} {c : Context} (h : bound.IsShown c.names e)
    (hc : c.Sound config) :
    (∃ n, bound = .literal n ∧ e = .number n) ∨ bound.isLiteral = false ∧ HasForeign e.text := by
  cases bound with
  | literal n => exact .inl ⟨n, rfl, h⟩
  | named x n =>
    obtain ⟨name, ⟨y, hy, rfl⟩, rfl⟩ := h
    exact .inr ⟨rfl, (hasForeign_of_isLegal (hc.legal hy)).append_right _⟩

theorem IsShown.isNumber {config : Config} {c : Context} (h : bound.IsShown c.names e)
    (hc : c.Sound config) : isNumber e.text = bound.isLiteral := by
  rcases h.literal_or_foreign hc with ⟨n, rfl, rfl⟩ | ⟨hnamed, hforeign⟩
  · exact isNumber_int n
  · rw [hforeign.isNumber, hnamed]

theorem IsShown.ne_empty {config : Config} {c : Context} (h : bound.IsShown c.names e)
    (hc : c.Sound config) : e.text ≠ "" := by
  intro hempty
  rcases h.literal_or_foreign hc with ⟨n, rfl, rfl⟩ | ⟨-, hforeign⟩
  · have hnumber : Operand.isNumber (Term.number n).text = true := isNumber_int n
    rw [hempty] at hnumber
    exact absurd hnumber (by decide)
  · rw [hempty] at hforeign
    exact absurd hforeign (by decide)

end Bound

section Sockets

variable {rules : Rulebook} {s : Setting} {b : Block} {kind : String}

theorem Rules.numberLiteral_whole {site : Site} {v : Value} {n : Int} (hsize : n.natAbs < 2 ^ 53)
    (hv : site.head.fields.entryOr "NUM" (.int 0) = .ok v) (hn : v.toReal = .ok (whole n)) :
    Rules.numberLiteral site =
      pure (.value (toString n) (.int (if n < 0 then unaryNegation else atomic))) := by
  obtain ⟨x, hx, hcode⟩ := Rules.numberCode?_whole hsize
  rw [ofInt?_whole hsize] at hx
  cases hx
  have hfield : site.fieldOr "NUM" (.int 0) = pure v := by
    rw [Site.fieldOr, hv]
    rfl
  rw [Rules.numberLiteral, hfield, pure_bind, hn]
  dsimp only
  rw [hcode]

/-- The code of a value block, if it does not depend on the place of the block. -/
theorem Block.IsValue.code_eq (hb : b.IsValue kind) {rule : Rule}
    (hrule : rules.lookup kind = some rule) {x : Gen String} {rank : Rank}
    (h : rule (b.valueSite rules) = do return .value (← x) (.int rank)) :
    (b.branchAt rules true).code = do return .value (← x) (.int rank) := by
  obtain ⟨head, inputs, statements, next⟩ := b
  obtain ⟨hkind, henabled, hlast⟩ := hb
  obtain rfl : next = none := hlast
  have hcode : ((Block.mk head inputs statements none).branchAt rules true).code =
      Site.emit rules ((Block.mk head inputs statements none).valueSite rules) := by
    rw [Block.branchAt]
    rfl
  generalize hsite : (Block.mk head inputs statements none).valueSite rules = site at h hcode
  have hcomments (mark : String) : site.commentLines mark = .ok "" := by
    rw [← hsite]
    rfl
  have hemit : site.emit rules = rule site >>= site.placed := by
    subst hsite
    have hk : (Block.valueSite rules (.mk head inputs statements none)).head.kind = .text kind :=
      hkind
    have he : (Block.valueSite rules (.mk head inputs statements none)).head.isDisabled = false :=
      henabled
    unfold Site.emit
    rw [he, hk, Rulebook.ruleFor, hrule]
    rfl
  rw [hcode, hemit, h, bind_assoc]
  refine congrArg (x >>= ·) (funext fun code => ?_)
  rw [pure_bind, Site.placed_value hcomments (by rw [← hsite, Block.valueSite, Block.site, linkBranch])]

theorem Block.valueOr_eq {inner : Block} {socket default : String}
    (hplug : b.plugged socket = some inner) {x : Gen String} {rank required : Rank}
    (hcode : (inner.branchAt rules true).code = do return .value (← x) (.int rank))
    (hrank : rank ≤ required) :
    (b.site rules).valueOr socket required default = do return orElse (← x) default := by
  obtain ⟨head, inputs, statements, next⟩ := b
  have hbranch : Site.plugged (Block.site rules (.mk head inputs statements next)).inputs socket =
      some (inner.branchAt rules true) := by
    rw [Block.site, Block.plugged_socketBranches]
    exact congrArg (Option.map (Block.branchAt rules true)) hplug
  have hplace (code : String) : Rank.placeAt (.int required) code (.int rank) = .ok code :=
    congrArg Except.ok (if_neg fun h => Int.not_lt.2 hrank h.2)
  unfold Site.valueOr Site.value
  rw [Site.valueAt_eq, hbranch, Branch.linkCode, hcode]
  simp only [bind_assoc, pure_bind, hplace]
  rfl

variable {c : Context} {bound : Bound} {E : Fault → Prop} (hc : c.Orderly s.config)
  (hE : ∀ base, c.names.Crowded .var base s.config.maxAttempts →
    E (.namesExhausted base (.int s.config.maxAttempts)))
include hc hE

/-- A bound in a socket is generated as its term. -/
theorem Block.valueOr_leads {socket default : String} (hfills : bound.Fills (b.plugged socket))
    (hsize : bound.value.natAbs < 2 ^ 53) (language : Language) :
    Leads s c ((b.site language.dialect.rules).valueOr socket assignment default)
      (fun code d => c.Follows s.config d ∧ ∃ e : Term, code = e.text ∧ bound.IsShown d.names e)
      E := by
  cases bound with
  | literal n =>
    obtain ⟨inner, v, hplug, hvalue, hv, hn⟩ := hfills
    have hrule : language.dialect.rules.lookup "math_number" = some Rules.numberLiteral :=
      language.lookup_common rfl
    have hgives : Rules.numberLiteral (inner.valueSite language.dialect.rules) = (do
        return .value (← pure (toString n)) (.int (if n < 0 then unaryNegation else atomic))) := by
      refine Rules.numberLiteral_whole hsize ?_ hn
      cases inner
      exact hv
    have hshown : (Bound.literal n).IsShown c.names (.number n) := rfl
    rw [Block.valueOr_eq hplug (hvalue.code_eq hrule hgives) (by split <;> decide)]
    exact .pure_bind (.pure ⟨.refl hc, .number n, if_neg (hshown.ne_empty hc.1), hshown⟩)
  | named x n =>
    obtain ⟨inner, hplug, hvalue, hx⟩ := hfills
    have hrule : language.dialect.rules.lookup "variables_get" = some Rules.variableValue :=
      language.lookup_common rfl
    have hgives : Rules.variableValue (inner.valueSite language.dialect.rules) = (do
        return .value (← Gen.variableName (.text x)) (.int atomic)) := by
      have hfield : (inner.valueSite language.dialect.rules).head.field "VAR" = .ok (.text x) := by
        cases inner
        exact hx
      unfold Rules.variableValue Site.field
      rw [hfield]
      rfl
    rw [Block.valueOr_eq hplug (hvalue.code_eq hrule hgives) (by decide)]
    refine (Leads.variableName hc hE x).bind fun name d hd => ?_
    have hshown : (Bound.named x n).IsShown d.names (.name name) := ⟨name, hd.2, rfl⟩
    exact .pure ⟨hd.1, .name name, if_neg (hshown.ne_empty hd.1.orderly.1), hshown⟩

end Sockets

namespace Loop

/-- A term, and what stands for it in a loop: the term itself, or a copy of its value under a name that
was not given before. -/
inductive Copies (a b : Allocator) (e : Term) : Term → List Statement → Prop where
  | itself : Copies a b e e []
  | copied {t : String} (fresh : ¬ a.Gave t) (gave : b.Gave t) (foreign : HasForeign t) :
    Copies a b e (.name t) [.set t e]

namespace Copies

variable {a b : Allocator} {e copy : Term} {setup : List Statement} {σ : Store}

theorem eval (h : Copies a b e copy setup) :
    copy.eval (setup.foldl Statement.exec σ) = e.eval σ := by
  cases h with
  | itself => rfl
  | copied fresh gave foreign => exact Function.update_self _ _ _

theorem keeps (h : Copies a b e copy setup) {x : String} (hx : a.Gave x) :
    setup.foldl Statement.exec σ x = σ x := by
  cases h with
  | itself => rfl
  | copied fresh gave foreign =>
    refine Function.update_of_ne ?_ _ _
    rintro rfl
    exact fresh hx

theorem gave_names (h : Copies a b e copy setup) (hab : a.Extends b) (he : ∀ x ∈ e.names, a.Gave x) :
    ∀ x ∈ copy.names, b.Gave x := by
  cases h with
  | itself => exact fun x hx => hab.gave (he x hx)
  | copied fresh gave foreign =>
    intro x hx
    obtain rfl := List.mem_singleton.1 hx
    exact gave

theorem not_mem_names (h : Copies a b e copy setup) {x : String} (hx : a.Gave x)
    (he : x ∉ e.names) : x ∉ copy.names := by
  cases h with
  | itself => exact he
  | copied fresh gave foreign =>
    intro hmem
    obtain rfl := List.mem_singleton.1 hmem
    exact fresh hx

end Copies

/-- The body leaves alone the counter and the bounds of the loop, and whatever was not given a name
when the body was generated. -/
def Code.IsSparedBy (code : Code) (a : Allocator) (body : Store → Store) : Prop :=
  ∀ σ x, x = code.counter ∨ x ∈ code.head.bounds ∨ ¬ a.Gave x → body σ x = σ x

section Computed

variable {a b d : Allocator} {first last size start finish : Term} {copies more : List Statement}
  {counter step : String}

/-- Counting by a step whose size and direction are computed in front of the loop, from copies of the
bounds or the bounds themselves. -/
def computedCode (copies more : List Statement) (start finish size : Term) (counter step : String) :
    Code where
  setup := copies ++ more ++ [.set step size, .setIf ⟨start, .above, finish⟩ step (.opposite step)]
  counter := counter
  head := .tested start (towards counter step finish) (some (.name step))

variable (hab : a.Extends b) (hbd : b.Extends d) (hstart : Copies a b first start copies)
  (hfinish : Copies b d last finish more) (hstep : ¬ d.Gave step)
  (hfirst : ∀ x ∈ first.names, a.Gave x) (hlast : ∀ x ∈ last.names, a.Gave x)
  (hsize : ∀ x ∈ size.names, a.Gave x)
include hab hbd hstart hfinish hstep hfirst hlast hsize

/-- The store with which the loop is entered: the step leads from the first value to the last one. -/
theorem computedCode_entry (counter : String) {σ : Store} {n : Int}
    (hn : size.eval σ = n.natAbs) :
    let entry := (computedCode copies more start finish size counter step).entry σ
    entry step = stride (first.eval σ) (last.eval σ) n ∧ start.eval entry = first.eval σ ∧
      finish.eval entry = last.eval σ := by
  have hstartGave := hstart.gave_names hab hfirst
  have hfinishGave := hfinish.gave_names hbd fun x hx => hab.gave (hlast x hx)
  have hnew : step ∉ start.names ++ finish.names := by
    intro hmem
    rcases List.mem_append.1 hmem with hmem | hmem
    · exact hstep (hbd.gave (hstartGave _ hmem))
    · exact hstep (hfinishGave _ hmem)
  let τ := more.foldl Statement.exec (copies.foldl Statement.exec σ)
  have hτ : ∀ x, a.Gave x → τ x = σ x := fun x hx =>
    (hfinish.keeps (hab.gave hx)).trans (hstart.keeps hx)
  have hfirstEval : start.eval τ = first.eval σ := by
    rw [← hstart.eval]
    exact Term.eval_congr fun x hx => hfinish.keeps (hstartGave x hx)
  have hlastEval : finish.eval τ = last.eval σ := by
    rw [hfinish.eval]
    exact Term.eval_congr fun x hx => hstart.keeps (hlast x hx)
  have hsizeEval : size.eval τ = n.natAbs := by
    rw [← hn]
    exact Term.eval_congr fun x hx => hτ x (hsize x hx)
  have hentry : (computedCode copies more start finish size counter step).entry σ =
      Function.update τ step (stride (first.eval σ) (last.eval σ) n) := by
    rw [← hfirstEval, ← hlastEval, ← exec_turned hsizeEval hnew, Code.entry, computedCode,
      List.foldl_append, List.foldl_append]
  have hsame : ∀ e : Term, step ∉ e.names →
      e.eval (Function.update τ step (stride (first.eval σ) (last.eval σ) n)) = e.eval τ := by
    intro e he
    refine Term.eval_congr fun x hx => Function.update_of_ne ?_ _ _
    rintro rfl
    exact he hx
  rw [List.mem_append, not_or] at hnew
  rw [hentry]
  exact ⟨Function.update_self _ _ _, (hsame start hnew.1).trans hfirstEval,
    (hsame finish hnew.2).trans hlastEval⟩

theorem computedCode_visits {σ : Store} {n : Int} (hn : size.eval σ = n.natAbs) (hne : n ≠ 0)
    (hgave : a.Gave counter) (hcounter : counter ∉ last.names) {body : Store → Store}
    (hbody : (computedCode copies more start finish size counter step).IsSparedBy a body)
    (visited : List Int) :
    (computedCode copies more start finish size counter step).Visits body σ visited ↔
      visited = progression (first.eval σ) (last.eval σ) n := by
  obtain ⟨hentry, hfirstEval, hlastEval⟩ := computedCode_entry hab hbd hstart hfinish hstep hfirst
    hlast hsize counter hn
  have hother : counter ∉ step :: finish.names := by
    intro hmem
    rcases List.mem_cons.1 hmem with rfl | hmem
    · exact hstep (hbd.gave (hab.gave hgave))
    · exact hfinish.not_mem_names (hab.gave hgave) hcounter hmem
  have hspared : ∀ τ, ∀ x ∈ counter :: step :: finish.names, body τ x = τ x := by
    intro τ x hx
    refine hbody τ x ?_
    rcases List.mem_cons.1 hx with rfl | hx
    · exact .inl rfl
    rcases List.mem_cons.1 hx with rfl | hx
    · exact .inr (.inr fun hx => hstep (hbd.gave (hab.gave hx)))
    · refine .inr (.inl ?_)
      simp [computedCode, Head.bounds, towards, hx]
  rw [Code.visits_towards rfl hother (by rw [hentry]; exact stride_ne_zero hne) hspared, hentry,
    hfirstEval, hlastEval, remaining_stride hne]
  rfl

end Computed

end Loop

/-- Why a loop is not emitted: a context is reached in which there is no identifier left, or in which
its body fails. -/
inductive Site.LoopFault (s : Setting) (site : Site) (c : Context) : Fault → Prop where
  | exhausted {d : Context} (follows : c.Follows s.config d) (base : String)
    (crowded : d.names.Crowded .var base s.config.maxAttempts) :
    LoopFault s site c (.namesExhausted base (.int s.config.maxAttempts))
  | body {d : Context} (follows : c.Follows s.config d) {p q : Run} {fault : Fault}
    (reached : p.context = some d) (failed : exec (site.loopBody "DO") s p = (.error fault, q)) :
    LoopFault s site c fault

/-- What is emitted is a loop of the given form, and where the variables among the bounds hold their
numbers it visits the given values, whatever the body does that leaves the loop alone. -/
def Site.EmitsLoop (s : Setting) (site : Site) (bounds : List Bound) (values : List Int)
    (form : Head → Prop) (outcome : Outcome) (d : Context) : Prop :=
  ∃ (code : Loop.Code) (text : String) (p q : Run) (c : Context),
    exec (site.loopBody "DO") s p = (.ok text, q) ∧ q.context = some c ∧
      outcome = .statement (code.text s text) ∧ form code.head ∧
      ∀ (body : Store → Store) (σ : Store), code.IsSparedBy c.names body →
        (∀ bound ∈ bounds, bound.Holds d.names σ) →
          ∀ visited, code.Visits body σ visited ↔ visited = values

section Steps

variable {s : Setting} {c : Context} {E : Fault → Prop} (hc : c.Orderly s.config)
include hc

theorem Rules.cached_leads
    (hE : ∀ base, c.names.Crowded .var base s.config.maxAttempts →
      E (.namesExhausted base (.int s.config.maxAttempts)))
    (e : Term) (base : String) :
    Leads s c (Rules.cached e.text base)
      (fun answer d => c.Follows s.config d ∧ ∃ copy setup,
        answer = (copy.text, String.join (setup.map (Statement.text s))) ∧
          Copies c.names d.names e copy setup) E := by
  unfold Rules.cached
  split
  · exact .pure ⟨.refl hc, e, [], rfl, .itself⟩
  · refine (Leads.temporary hc hE base).bind fun t d ht => .read_bind (.pure ?_)
    obtain ⟨hd, hfresh, hgave, y, hlegal, rfl⟩ := ht
    refine ⟨hd, _, [.set _ e], ?_, .copied hfresh hgave ((hasForeign_of_isLegal hlegal).append_right _)⟩
    simp [Term.text, Statement.text]

theorem Block.loopBody_leads {rules : Rulebook} (hrules : rules.Pairs true) (b : Block)
    (hE : ∀ {p q fault}, p.context = some c →
      exec ((b.site rules).loopBody "DO") s p = (.error fault, q) → E fault) :
    Leads s c ((b.site rules).loopBody "DO")
      (fun text d => c.Follows s.config d ∧
        ∃ p q, exec ((b.site rules).loopBody "DO") s p = (.ok text, q) ∧ q.context = some d) E := by
  intro r hr
  have hbody := Block.loopBody_has hrules (Context.Follows.kept s.config c) (s := s)
    ⟨c, hr, .refl hc⟩ b "DO"
  rcases hexec : exec ((b.site rules).loopBody "DO") s r with ⟨fault | text, q⟩
  · exact hE hr hexec
  · rw [hexec] at hbody
    obtain ⟨d, hq, hd⟩ := hbody
    exact ⟨d, hq, hd, r, q, hexec, hq⟩

end Steps

end BlockCode
