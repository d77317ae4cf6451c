import BlockCode.Dialect.Registry
import BlockCode.Proofs.Expression.Reading
import BlockCode.Proofs.Number.Whole
import BlockCode.Proofs.Run.Spelling

namespace BlockCode

open Rank Gen Lexeme

theorem Lexeme.isWord_of_isLegal {x : String} (h : Name.isLegal x = true) :
    isWord x.toList = true := by
  obtain ⟨hne, hword⟩ := Name.isLegalChars_word h
  rw [isWord, List.all_eq_true.2 hword]
  simpa using hne

namespace Tree

variable {spelling other : String → String}

theorem code_congr {e : Tree} (h : ∀ x ∈ e.names, spelling x = other x) :
    e.code spelling = e.code other := by
  induction e with
  | name x => exact h x (by simp [names])
  | binary op a b iha ihb =>
    simp only [names, List.forall_mem_append] at h
    simp only [code, iha h.1, ihb h.2]
  | connective op a b iha ihb =>
    simp only [names, List.forall_mem_append] at h
    simp only [code, iha h.1, ihb h.2]
  | power a b iha ihb =>
    simp only [names, List.forall_mem_append] at h
    simp only [code, iha h.1, ihb h.2]
  | negative a iha => simp only [code, iha h]
  | negation a iha => simp only [code, iha h]
  | choice c y n ihc ihy ihn =>
    simp only [names, List.forall_mem_append] at h
    simp only [code, ihc h.1.1, ihy h.1.2, ihn h.2]
  | _ => rfl

theorem code_dependsOn {α : Type} (e : Tree) (F : String → α) :
    DependsOn e.names fun spelling => F (e.code spelling) :=
  fun hs => congrArg F (code_congr hs)

/-- Only a blank leaves its place empty. -/
theorem place_eq_empty_iff {e : Tree} (h : ∀ x ∈ e.names, Name.isLegal (spelling x) = true)
    (required : Rank) : place required (e.code spelling) e.rank = "" ↔ e.isBlank = true := by
  cases hb : e.isBlank with
  | true =>
    cases e with
    | blank => simp [code, place]
    | _ => cases hb
  | false =>
    have hne := (readsBack (fun x hx => isWord_of_isLegal (h x hx)) hb).1.ne_empty
    unfold place
    split
    · simp
    · simpa using hne

end Tree

/-- What is plugged in gives the code of the tree; nothing is plugged in for a blank. -/
def Emits (s : Setting) (e : Tree) : Option Branch → Prop
  | none => e = .blank
  | some branch =>
    Gives s e.names (fun spelling => Emission.value (e.code spelling) (.int e.rank)) branch.code

namespace Site

variable {s : Setting} {site : Site} {socket : String} {e : Tree}

/-- The socket gives the code of the tree. -/
def Holds (s : Setting) (site : Site) (socket : String) (e : Tree) : Prop :=
  Emits s e (plugged site.inputs socket)

theorem Holds.value (h : site.Holds s socket e) (required : Rank) :
    Gives s e.names (fun spelling => place required (e.code spelling) e.rank)
      (site.value socket required) := by
  unfold Holds at h
  unfold Site.value Site.valueAt
  generalize plugged site.inputs socket = plug at h ⊢
  cases plug with
  | none =>
    cases h
    exact (Gives.pure "").of_eq fun _ _ => by simp [Tree.code, place]
  | some branch => exact h.map (fun _ => rfl) (e.code_dependsOn (place required · e.rank))

theorem Holds.valueOr (h : site.Holds s socket e) (required : Rank) (default : String) :
    Gives s e.names (fun spelling => placedOr required default (e.code spelling) e.rank)
      (site.valueOr socket required default) :=
  (h.value required).map (fun _ => rfl) (e.code_dependsOn (placedOr required default · e.rank))

/-- Two operands of a rule, and what it puts together from them. -/
theorem Holds.two {left right : String} {a b : Tree} (ha : site.Holds s left a)
    (hb : site.Holds s right b) (j k : Rank) (default : String) (F : String → String → Outcome) :
    Gives s (a.names ++ b.names)
      (fun spelling => F (placedOr j default (a.code spelling) a.rank)
        (placedOr k default (b.code spelling) b.rank))
      (do let x ← site.valueOr left j default
          let y ← site.valueOr right k default
          return F x y) :=
  Gives.two (ha.valueOr j default) (a.code_dependsOn (placedOr j default · a.rank))
    (hb.valueOr k default) (b.code_dependsOn (placedOr k default · b.rank)) F

end Site

/-- The rule gives the code of the tree at the site. -/
def Rule.Yields (s : Setting) (rule : Rule) (site : Site) (e : Tree) : Prop :=
  Gives s e.names (fun spelling => Outcome.value (e.code spelling) (.int e.rank)) (rule site)

theorem BlockHead.option_eq {α : Type} {head : BlockHead} {field word : String}
    {table : List (String × α)} {found : α} (hw : head.field field = .ok (.text word))
    (ht : Entries.get? word table = some found) : head.option field table = .ok found := by
  have hkeys : Entries.get? (Key.text word)
      (table.map fun row => (Key.text row.1, row.1, row.2)) = some (word, found) := by
    induction table with
    | nil => cases ht
    | cons entry rest ih =>
      simp only [Entries.get?, List.map_cons, Key.text.injEq] at ht ⊢
      split at ht
      · next he =>
        cases ht
        rw [if_pos he, he]
      · next he =>
        rw [if_neg he]
        exact ih ht
  have hoption : head.option field table =
      head.entry field (table.map fun row => (.text row.1, row.1, row.2)) := rfl
  rw [hoption, entry, hw]
  simp only [bind, Except.bind, Value.key, hkeys]
  rfl

namespace Rules

variable {s : Setting} {site : Site} {a b c : Tree}

theorem variableValue_yields (hs : s.config.variablePrefix = "") {x : String}
    (hx : site.head.field "VAR" = .ok (.text x)) : variableValue.Yields s site (.name x) := by
  unfold Rule.Yields variableValue Site.field
  rw [hx]
  exact Gives.pure_bind (Gives.map (Gives.variableName hs x) (fun _ => rfl)
    ((Tree.name x).code_dependsOn (Outcome.value · (.int atomic))))

theorem truthLiteral_yields {v : Bool}
    (hv : site.head.field "BOOL" = .ok (.text (if v then "TRUE" else "FALSE"))) :
    truthLiteral.Yields s site (.truth v) := by
  have hoption : site.head.option "BOOL" [("TRUE", "true"), ("FALSE", "false")] =
      .ok (Tree.truthWord v) := BlockHead.option_eq hv (by cases v <;> rfl)
  unfold Rule.Yields truthLiteral Site.option
  rw [hoption]
  exact Gives.pure_bind (Gives.pure _)

theorem numberLiteral_yields {n : Int} (hn : site.head.fields.entryOr "NUM" (.int 0) = .ok (.int n))
    (hsize : n.natAbs < 2 ^ 53) : numberLiteral.Yields s site (.number n) := by
  obtain ⟨x, hx, hcode⟩ := numberCode?_whole hsize
  have hreal : (Value.int n).toReal = .ok x := by rw [Value.toReal, hx]
  unfold Rule.Yields numberLiteral Site.fieldOr
  rw [hn]
  refine Gives.pure_bind ?_
  simp only [hreal, hcode]
  exact Gives.pure _

theorem arithmetic_gives {word sign : String} {rank right : Rank}
    (hw : site.head.field "OP" = .ok (.text word))
    (hop : Entries.get? word arithmetics = some ⟨some (" " ++ sign ++ " "), rank, right⟩)
    (ha : site.Holds s "A" a) (hb : site.Holds s "B" b) :
    Gives s (a.names ++ b.names)
      (fun spelling => Outcome.value (placedOr rank "0" (a.code spelling) a.rank ++ " " ++ sign ++
        " " ++ placedOr right "0" (b.code spelling) b.rank) (.int rank))
      (arithmetic site) := by
  have hgives := ha.two hb rank right "0" fun l r =>
    .value (l ++ (" " ++ sign ++ " ") ++ r) (.int rank)
  unfold arithmetic Site.option
  rw [BlockHead.option_eq hw hop]
  refine Gives.pure_bind (hgives.of_eq fun spelling _ => ?_)
  simp only [← String.append_assoc]

theorem comparison_gives {word sign : String} {rank : Rank}
    (hw : site.head.field "OP" = .ok (.text word))
    (hop : Entries.get? word comparisons = some (sign, rank))
    (ha : site.Holds s "A" a) (hb : site.Holds s "B" b) :
    Gives s (a.names ++ b.names)
      (fun spelling => Outcome.value (placedOr (rank - 1) "0" (a.code spelling) a.rank ++ " " ++
        sign ++ " " ++ placedOr (rank - 1) "0" (b.code spelling) b.rank) (.int rank))
      (comparison site) := by
  unfold comparison Site.option
  rw [BlockHead.option_eq hw hop]
  exact Gives.pure_bind (ha.two hb (rank - 1) (rank - 1) "0" fun l r =>
    .value (l ++ " " ++ sign ++ " " ++ r) (.int rank))

theorem power_yields (hw : site.head.field "OP" = .ok (.text "POWER")) (ha : site.Holds s "A" a)
    (hb : site.Holds s "B" b) : arithmetic.Yields s site (.power a b) := by
  have hoption : site.head.option "OP" arithmetics = .ok ⟨none, comma, comma⟩ :=
    BlockHead.option_eq hw rfl
  unfold Rule.Yields arithmetic Site.option
  rw [hoption]
  exact Gives.pure_bind (ha.two hb comma comma "0" fun l r =>
    .value ("pow(" ++ l ++ ", " ++ r ++ ")") (.int functionCall))

theorem remainder_yields (ha : site.Holds s "DIVIDEND" a) (hb : site.Holds s "DIVISOR" b) :
    remainder.Yields s site (.binary .remainder a b) := by
  have hgives := ha.two hb modulus (modulus - 1) "0" fun l r =>
    .value (l ++ " % " ++ r) (.int modulus)
  refine hgives.of_eq fun spelling _ => ?_
  have hsign : (" % " : String) = " " ++ "%" ++ " " := rfl
  simp only [hsign, ← String.append_assoc]
  rfl

theorem binary_yields (op : BinaryOp)
    (hop : ∀ option ∈ op.form.option, site.head.field "OP" = .ok (.text option))
    (ha : site.Holds s op.form.left a) (hb : site.Holds s op.form.right b) :
    ∃ rule : Rule, RuleTable.lookupFirst op.form.kind Dialect.commonRules = some rule ∧
      rule.Yields s site (.binary op a b) := by
  cases op with
  | add | subtract | multiply | divide =>
    exact ⟨arithmetic, rfl, arithmetic_gives (hop _ rfl) rfl ha hb⟩
  | remainder => exact ⟨remainder, rfl, remainder_yields ha hb⟩
  | equal | unequal | less | atMost | greater | atLeast =>
    exact ⟨comparison, rfl, comparison_gives (hop _ rfl) rfl ha hb⟩

theorem connective_yields {op : Connective} (hw : site.head.field "OP" = .ok (.text op.form.option))
    (ha : site.Holds s "A" a) (hb : site.Holds s "B" b) :
    connective.Yields s site (.connective op a b) := by
  have hoption : site.head.option "OP" connectives =
      .ok (op.form.sign, op.form.rank, op.form.neutral) :=
    BlockHead.option_eq hw (by cases op <;> rfl)
  unfold Rule.Yields connective Site.option
  rw [hoption]
  have hgives := Gives.two (ha.value op.form.rank)
    (a.code_dependsOn (place op.form.rank · a.rank)) (hb.value op.form.rank)
    (b.code_dependsOn (place op.form.rank · b.rank)) fun left right =>
      let missing := if left = "" ∧ right = "" then "false" else op.form.neutral
      Outcome.value (orElse left missing ++ " " ++ op.form.sign ++ " " ++ orElse right missing)
        (.int op.form.rank)
  refine Gives.pure_bind (hgives.of_eq fun spelling hlegal => ?_)
  rw [List.forall_mem_append] at hlegal
  simp only [Tree.place_eq_empty_iff hlegal.1, Tree.place_eq_empty_iff hlegal.2,
    ← Bool.and_eq_true]
  rfl

theorem negative_yields (hw : site.head.field "OP" = .ok (.text "NEG"))
    (ha : site.Holds s "NUM" a) : single.Yields s site (.negative a) := by
  unfold Rule.Yields single Site.field
  rw [hw]
  exact Gives.pure_bind (Gives.map (ha.valueOr unaryNegation "0") (fun _ => rfl)
    ((Tree.negative a).code_dependsOn (Outcome.value · (.int unaryNegation))))

theorem negation_yields (ha : site.Holds s "BOOL" a) : negation.Yields s site (.negation a) :=
  Gives.map (ha.valueOr logicalNot "true") (fun _ => rfl)
    ((Tree.negation a).code_dependsOn (Outcome.value · (.int logicalNot)))

theorem choice_yields (hc : site.Holds s "IF" c) (ha : site.Holds s "THEN" a)
    (hb : site.Holds s "ELSE" b) : choice.Yields s site (.choice c a b) := by
  have harms (condition : String) := ha.two hb conditional conditional "null" fun yes no =>
    .value (condition ++ " ? " ++ yes ++ " : " ++ no) (.int conditional)
  rw [Rule.Yields, Tree.names, List.append_assoc]
  exact (hc.valueOr (conditional - 1) "false").bind
    (G := fun start spelling => Outcome.value
      (placedOr (conditional - 1) "false" (c.code start) c.rank ++ " ? " ++
        placedOr conditional "null" (a.code spelling) a.rank ++ " : " ++
        placedOr conditional "null" (b.code spelling) b.rank) (.int conditional))
    (fun _ => harms _) fun _ => c.code_dependsOn fun code => Outcome.value
      (placedOr (conditional - 1) "false" code c.rank ++ " ? " ++ _ ++ " : " ++ _) _

end Rules

/-- A dialect has the common rules. -/
theorem Language.lookup_common (language : Language) {kind : String} {rule : Rule}
    (h : RuleTable.lookupFirst kind Dialect.commonRules = some rule) :
    language.dialect.rules.lookup kind = some rule := by
  have hfirst : ∀ {tables more : List Rulebook}, RuleTable.lookupFirst kind tables = some rule →
      RuleTable.lookupFirst kind (tables ++ more) = some rule := by
    intro tables more ht
    induction tables with
    | nil => cases ht
    | cons table rest ih =>
      simp only [List.cons_append, RuleTable.lookupFirst] at ht ⊢
      split at ht
      · exact ht
      · exact ih ht
  cases language <;> exact hfirst h

namespace Site

variable {s : Setting} {site : Site} {e : Tree}

/-- A value without comments and with nothing chained after it stays as it is. -/
theorem placed_value (hcomments : ∀ mark, site.commentLines mark = .ok "") (hn : site.next = none)
    (code : String) (rank : Value) :
    site.placed (.value code rank) = pure (.value code rank) := by
  have hcode : (pure (.value ("" ++ code ++ "") rank) : Gen Emission) =
      pure (.value code rank) := by
    rw [String.empty_append, String.append_empty]
  simp only [placed, sequence, nextCode, hn, hcomments]
  exact hcode

theorem emit_gives {rules : Rulebook} {kind : String} {rule : Rule} (hi : site.inline = true)
    (hn : site.next = none) (hk : site.head.kind = .text kind)
    (he : site.head.isDisabled = false) (hrule : rules.lookup kind = some rule)
    (h : rule.Yields s site e) :
    Gives s e.names (fun spelling => Emission.value (e.code spelling) (.int e.rank))
      (site.emit rules) := by
  have hcomments (mark : String) : site.commentLines mark = .ok "" := by
    rw [commentLines, hi]
    rfl
  unfold Site.emit
  rw [he, hk, Rulebook.ruleFor, hrule]
  refine Gives.pure_bind (h.map (fun _ => placed_value hcomments hn _ _) ?_)
  exact e.code_dependsOn (Emission.value · (.int e.rank))

end Site

namespace Block

variable {s : Setting} {e : Tree}

theorem plugged_socketBranches (rules : Rulebook) (inline : Bool)
    (sockets : List (String × Option Block)) (socket : String) :
    Site.plugged (socketBranches rules inline sockets) socket =
      ((sockets.lookup socket).join).map (branchAt rules inline) := by
  induction sockets with
  | nil => simp [socketBranches, Site.plugged]
  | cons entry rest ih =>
    obtain ⟨name, plug⟩ := entry
    rw [socketBranches]
    unfold Site.plugged at ih ⊢
    simp only [List.lookup_cons]
    split
    · cases plug <;> simp [linkBranch]
    · exact ih

theorem holds_iff (rules : Rulebook) (b : Block) (socket : String) :
    (b.site rules).Holds s socket e ↔ Emits s e ((b.plugged socket).map (branchAt rules true)) := by
  obtain ⟨head, inputs, statements, next⟩ := b
  rw [Site.Holds, site, plugged_socketBranches]
  rfl

/-- A block in a value socket, as its rule sees it. -/
def valueSite (rules : Rulebook) (b : Block) : Site :=
  { b.site rules with inline := true }

theorem IsValue.emits {b : Block} {kind : String} (hb : b.IsValue kind) {language : Language}
    {rule : Rule} (hrule : RuleTable.lookupFirst kind Dialect.commonRules = some rule)
    (h : rule.Yields s (b.valueSite language.dialect.rules) e) :
    Emits s e (some (b.branchAt language.dialect.rules true)) := by
  obtain ⟨head, inputs, statements, next⟩ := b
  obtain ⟨hkind, henabled, hlast⟩ := hb
  obtain rfl : next = none := hlast
  rw [Emits, branchAt]
  exact Site.emit_gives rfl (by rw [linkBranch]) hkind henabled (language.lookup_common hrule) h

end Block

/-- What is plugged into a socket gives the code of the tree that it depicts. -/
theorem Depicts.emits {s : Setting} (hs : s.config.variablePrefix = "") (language : Language)
    {plug : Option Block} {e : Tree} (h : Depicts plug e) :
    Emits s e (plug.map (Block.branchAt language.dialect.rules true)) := by
  have hsocket {b : Block} {socket : String} {x : Tree}
      (hx : Emits s x ((b.plugged socket).map (Block.branchAt language.dialect.rules true))) :
      (b.valueSite language.dialect.rules).Holds s socket x :=
    (Block.holds_iff _ b socket).2 hx
  have hhead (b : Block) : (b.valueSite language.dialect.rules).head = b.head := by
    cases b
    rfl
  induction h with
  | blank => rfl
  | name hb hx => exact hb.emits rfl (Rules.variableValue_yields hs (by rwa [hhead]))
  | number hb hn hsize => exact hb.emits rfl (Rules.numberLiteral_yields (by rwa [hhead]) hsize)
  | truth hb hv => exact hb.emits rfl (Rules.truthLiteral_yields (by rwa [hhead]))
  | @binary b op x y hb hop _ _ ihx ihy =>
    obtain ⟨rule, hrule, hyields⟩ := Rules.binary_yields op (by rwa [hhead]) (hsocket ihx)
      (hsocket ihy)
    exact hb.emits hrule hyields
  | connective hb hop _ _ ihx ihy =>
    exact hb.emits rfl (Rules.connective_yields (by rwa [hhead]) (hsocket ihx) (hsocket ihy))
  | power hb hop _ _ ihx ihy =>
    exact hb.emits rfl (Rules.power_yields (by rwa [hhead]) (hsocket ihx) (hsocket ihy))
  | negative hb hop _ ihx =>
    exact hb.emits rfl (Rules.negative_yields (by rwa [hhead]) (hsocket ihx))
  | negation hb _ ihx => exact hb.emits rfl (Rules.negation_yields (hsocket ihx))
  | choice hb _ _ _ ihx ihy ihz =>
    exact hb.emits rfl (Rules.choice_yields (hsocket ihx) (hsocket ihy) (hsocket ihz))

end BlockCode
