import BlockCode.Proofs.Number.Literal
import BlockCode.Proofs.Run.Comments
import BlockCode.Proofs.Run.Spelling

namespace BlockCode

open Text Operand Branch

/-- If the answer is a fault, then one of the generation. -/
def Tame {α : Type} (x : Except Fault α) : Prop :=
  ∀ fault, x = .error fault → fault.isGeneration = true

namespace Tame

variable {α β : Type}

theorem ok (a : α) : Tame (.ok a : Except Fault α) :=
  fun _ h => nomatch h

theorem bind {x : Except Fault α} {f : α → Except Fault β} (hx : Tame x) (hf : ∀ a, Tame (f a)) :
    Tame (x >>= f) := by
  cases x with
  | error fault =>
    rintro _ ⟨⟩
    exact hx fault rfl
  | ok a => exact hf a

end Tame

/-- What a field that is a text, or absent, can read as. -/
def Value.IsWord (v : Value) : Prop :=
  v = .null ∨ ∃ text, v = .text text

namespace Value.IsWord

variable {v : Value}

theorem exists_key (h : v.IsWord) : ∃ key, v.key = .ok key := by
  rcases h with rfl | ⟨text, rfl⟩
  · exact ⟨.null, rfl⟩
  · exact ⟨.text text, rfl⟩

theorem isKey (h : v.IsWord) : v.isKey = true := by
  rcases h with rfl | ⟨text, rfl⟩ <;> rfl

theorem exists_identifier (h : v.IsWord) : ∃ base, Name.identifierOf v = .ok base := by
  rcases h with rfl | ⟨text, rfl⟩
  · exact ⟨_, rfl⟩
  · exact ⟨_, rfl⟩

end Value.IsWord

section Requests

variable {name : Value} (hname : name.IsWord)
include hname

theorem Allocator.tame_distinct {a : Allocator} {attempts : Int}
    (ha : a.maxAttempts = .int attempts) (type : NameType) : Tame (a.distinct name type) := by
  obtain ⟨base, hbase⟩ := hname.exists_identifier
  rw [Allocator.distinct, hbase]
  refine (Tame.ok base).bind fun base => Tame.bind (fun fault hfault => ?_) fun _ => .ok _
  rw [(Allocator.choose_eq_error ha hfault).1]
  rfl

theorem Allocator.tame_get {a : Allocator} {attempts : Int} (ha : a.maxAttempts = .int attempts)
    (type : NameType) : Tame (a.get name type) := by
  obtain ⟨key, hkey⟩ := hname.exists_key
  rw [Allocator.get, hkey]
  refine (Tame.ok key).bind fun key => ?_
  cases Entries.get? (key, type) a.known with
  | some chosen => exact .ok _
  | none => exact (Allocator.tame_distinct hname ha type).bind fun _ => .ok _

theorem Context.tame_define (c : Context) (code : String) : Tame (c.define name code) := by
  obtain ⟨key, hkey⟩ := hname.exists_key
  rw [Context.define, hkey]
  exact .ok _

theorem Context.tame_provide {c : Context} {attempts : Int}
    (ha : c.names.maxAttempts = .int attempts) (template : List String) :
    Tame (c.provide name template) := by
  refine Tame.bind ?_ fun answer => ?_
  · obtain ⟨key, hkey⟩ := hname.exists_key
    rw [Context.helperName, hkey]
    refine (Tame.ok key).bind fun key => ?_
    cases c.helpers.functionName? key with
    | some chosen => exact .ok _
    | none => exact (Allocator.tame_distinct hname ha .procedure).bind fun _ => .ok _
  · dsimp only
    split
    · exact (Context.tame_define hname _ _).bind fun _ => .ok _
    · exact .ok _

end Requests

/-- What may go wrong besides the generation itself: texts that need not be numbers where rules read
them. Whether some field is read without a look at it, and whether value sockets may hold literals with
any white space around them, decides what these are. -/
structure Allowance where
  unread : String → Prop
  counts : Prop
  loose : Prop
  unread_of_loose : loose → ∀ {code}, isNumber code = true → Reading.real? code = none → unread code

namespace Allowance

variable (w : Allowance)

def Accepts (fault : Fault) : Prop :=
  fault.isGeneration = true ∨ ∃ text, fault = .unreadableReal text ∧ w.unread text

/-- Code that rules may read as a number if it is one. -/
def Fits (code : String) : Prop :=
  w.loose ∨ IsReadable code

variable {w} {code : String}

theorem fits_of_foreign (h : HasForeign code) : w.Fits code :=
  .inr h.isReadable

theorem Fits.minus (h : w.Fits code) : w.Fits ("-" ++ code) :=
  h.imp_right IsReadable.minus

end Allowance

/-- A run is under way, and its context is sound. -/
def Run.IsActive (config : Config) (r : Run) : Prop :=
  ∃ c, r.context = some c ∧ c.Sound config

namespace Gen

variable {α β : Type} {w : Allowance} {s : Setting} {Q : α → Prop} {R : β → Prop}

/-- In a run under way the action comes to an answer with the property or to a fault that is accepted,
and the run is still under way. -/
def Yields (w : Allowance) (s : Setting) (Q : α → Prop) (x : Gen α) : Prop :=
  ∀ r : Run, r.IsActive s.config → (exec x s r).2.IsActive s.config ∧
    match (exec x s r).1 with
    | .ok a => Q a
    | .error fault => w.Accepts fault

namespace Yields

theorem pure {a : α} (h : Q a) : Yields w s Q (Pure.pure a) :=
  fun _ hr => ⟨hr, h⟩

theorem throw {fault : Fault} (h : fault.isGeneration = true) :
    Yields w s Q (MonadExcept.throw fault) :=
  fun _ hr => ⟨hr, .inl h⟩

theorem ofExcept {x : Except Fault α} (hx : Tame x) (h : ∀ a, x = .ok a → Q a) :
    Yields w s Q (Gen.ofExcept x) := by
  intro r hr
  rw [exec_ofExcept]
  cases x with
  | ok a => exact ⟨hr, h a rfl⟩
  | error fault => exact ⟨hr, .inl (hx fault rfl)⟩

theorem bind {x : Gen α} {f : α → Gen β} (hx : Yields w s Q x)
    (hf : ∀ a, Q a → Yields w s R (f a)) : Yields w s R (x >>= f) := by
  intro r hr
  rw [exec_bind]
  obtain ⟨hactive, hanswer⟩ := hx r hr
  generalize exec x s r = result at hactive hanswer
  obtain ⟨fault | a, r'⟩ := result
  · exact ⟨hactive, hanswer⟩
  · exact hf a hanswer r' hactive

theorem pure_bind {a : α} {f : α → Gen β} (h : Yields w s R (f a)) :
    Yields w s R (Pure.pure a >>= f) :=
  h

theorem read_bind {f : Setting → Gen α} (h : Yields w s Q (f s)) : Yields w s Q (read >>= f) :=
  h

theorem imp {x : Gen α} {Q' : α → Prop} (h : ∀ a, Q a → Q' a) (hx : Yields w s Q x) :
    Yields w s Q' x := by
  intro r hr
  obtain ⟨hactive, hanswer⟩ := hx r hr
  refine ⟨hactive, ?_⟩
  generalize (exec x s r).1 = answer at hanswer
  cases answer with
  | ok a => exact h a hanswer
  | error fault => exact hanswer

theorem mapM {f : β → Gen α} {l : List β} (hf : ∀ b ∈ l, Yields w s Q (f b)) :
    Yields w s (fun as => as.length = l.length ∧ ∀ a ∈ as, Q a) (l.mapM f) := by
  induction l with
  | nil => exact .pure ⟨rfl, fun _ h => nomatch h⟩
  | cons b l ih =>
    rw [List.forall_mem_cons] at hf
    rw [List.mapM_cons]
    refine hf.1.bind fun a ha => (ih hf.2).bind fun as has => .pure ?_
    exact ⟨congrArg Nat.succ has.1, List.forall_mem_cons.2 ⟨ha, has.2⟩⟩

theorem step {f : Context → Except Fault (α × List LogRecord × Context)}
    (h : ∀ c : Context, c.Sound s.config → Tame (f c) ∧
      ∀ a records next, f c = .ok (a, records, next) → Q a ∧ next.Sound s.config) :
    Yields w s Q (Gen.step f) := by
  rintro r ⟨c, hc, hsound⟩
  obtain ⟨htame, hok⟩ := h c hsound
  rw [exec_step, hc]
  dsimp only
  cases hf : f c with
  | error fault => exact ⟨⟨c, hc, hsound⟩, .inl (htame fault hf)⟩
  | ok result =>
    obtain ⟨a, records, next⟩ := result
    obtain ⟨ha, hnext⟩ := hok a records next hf
    exact ⟨⟨next, rfl, hnext⟩, ha⟩

section Requests

variable {name : Value} (hname : name.IsWord)
include hname

/-- Identifiers are no numbers. -/
theorem nameOf (type : NameType) : Yields w s HasForeign (Gen.nameOf type name) := by
  refine .step fun c hc => ⟨?_, fun x records next h => ?_⟩
  · exact (Allocator.tame_get hname hc.attempts type).bind fun _ => .ok _
  · obtain ⟨⟨g, names⟩, hget, h⟩ := exists_of_bind h
    cases h
    have hlegal : Name.isLegal g.chosen = true := by
      obtain ⟨key, -, ⟨hknown, -⟩ | ⟨-, mid, hdistinct, -⟩⟩ := Allocator.get_eq_ok hget
      · exact hc.legal hknown
      · exact (Allocator.distinct_eq_ok hdistinct).1
    exact ⟨(hasForeign_of_isLegal hlegal).append_right _, hc.get hget⟩

theorem temporary : Yields w s HasForeign (Gen.temporary name) := by
  refine .step fun c hc => ⟨?_, fun x records next h => ?_⟩
  · exact (Allocator.tame_distinct hname hc.attempts .var).bind fun _ => .ok _
  · obtain ⟨⟨g, names⟩, hdistinct, h⟩ := exists_of_bind h
    cases h
    have hlegal := (Allocator.distinct_eq_ok hdistinct).1
    exact ⟨(hasForeign_of_isLegal hlegal).append_right _, hc.distinct hdistinct⟩

theorem provide (template : List String) :
    Yields w s (fun _ => True) (Gen.provide name template) := by
  refine .step fun c hc => ⟨Context.tame_provide hname hc.attempts template, ?_⟩
  intro x records next h
  obtain ⟨⟨answer, earlier, mid⟩, hanswer, h⟩ := exists_of_bind h
  have hmid := hc.helperName hanswer
  dsimp only at h
  split at h
  · obtain ⟨c', hdefine, h⟩ := exists_of_bind h
    cases h
    exact ⟨trivial, hmid.define hdefine⟩
  · cases h
    exact ⟨trivial, hmid⟩

theorem define (code : String) : Yields w s (fun _ => True) (Gen.define name code) := by
  refine .step fun c hc => ⟨(Context.tame_define hname c code).bind fun _ => .ok _, ?_⟩
  intro x records next h
  obtain ⟨c', hdefine, h⟩ := exists_of_bind h
  cases h
  exact ⟨trivial, hc.define hdefine⟩

end Requests

theorem statement (code : String) :
    Yields w s (fun line => line = code ++ s.conventions.terminator ++ "\n") (Gen.statement code) :=
  .read_bind (.pure rfl)

theorem indent : Yields w s (fun _ => True) Gen.indent :=
  .read_bind (.pure trivial)

theorem placeholder : Yields w s (fun _ => True) Gen.placeholder :=
  .read_bind (.pure trivial)

/-- A literal is read, unless it is one of those that need not be numbers. -/
theorem readNumber {code : String} (h : w.Fits code) (hnumber : isNumber code = true) :
    Yields w s (fun _ => True) (Rules.readNumber code) := by
  intro r hr
  rw [Rules.readNumber, exec_ofExcept, Value.toReal]
  cases hreal : Reading.real? code with
  | some x => exact ⟨hr, trivial⟩
  | none =>
    refine ⟨hr, .inr ⟨code, rfl, ?_⟩⟩
    rcases h with hloose | hreadable
    · exact w.unread_of_loose hloose hnumber hreal
    · have hsome := hreadable.isSome hnumber
      rw [hreal] at hsome
      cases hsome

end Yields

end Gen

/-- The fields of a block are texts, and so is its comment if it has one; it has no shape data. -/
structure BlockHead.IsTextual (head : BlockHead) : Prop where
  kind : ∃ text, head.kind = .text text
  fields : ∃ entries, head.fields = .map entries ∧ ∀ entry ∈ entries, ∃ text, entry.2 = .text text
  mutation : head.mutation = .map []
  comment : head.comment.isSet = true → ∃ text, head.comment = .text text

/-- A loop that is to run as often as the text says. -/
def BlockHead.Repeats (head : BlockHead) (text : String) : Prop :=
  head.isDisabled = false ∧ head.kind = .text "controls_repeat" ∧
    head.field "TIMES" = .ok (.text text)

namespace BlockHead.IsTextual

variable {head : BlockHead} (h : head.IsTextual)
include h

theorem entryOr (name : String) (default : Value) :
    ∃ v, head.fields.entryOr name default = .ok v ∧ (v = default ∨ ∃ text, v = .text text) := by
  obtain ⟨entries, hentries, htexts⟩ := h.fields
  rw [hentries, Value.entryOr]
  cases hfound : entries.lookup name with
  | none => exact ⟨default, rfl, .inl rfl⟩
  | some v => exact ⟨v, rfl, .inr (htexts _ (mem_of_lookup hfound))⟩

theorem field (name : String) : ∃ v, head.field name = .ok v ∧ v.IsWord :=
  h.entryOr name .null

/-- A text is not there by default. -/
theorem field_of_entryOr {name text : String} {n : Int}
    (htext : head.fields.entryOr name (.int n) = .ok (.text text)) :
    head.field name = .ok (.text text) := by
  obtain ⟨entries, hentries, -⟩ := h.fields
  rw [BlockHead.field, hentries, Value.entryOr]
  rw [hentries, Value.entryOr] at htext
  cases hfound : entries.lookup name with
  | none =>
    rw [hfound] at htext
    cases htext
  | some v =>
    rw [hfound] at htext
    exact htext

theorem arguments : head.arguments = .ok [] := by
  rw [BlockHead.arguments, h.mutation]
  rfl

/-- An enumerated field is refused as one if it selects nothing. -/
theorem tame_option {α : Type} (name : String) (table : List (String × α)) :
    Tame (head.option name table) := by
  obtain ⟨v, hfield, hword⟩ := h.field name
  obtain ⟨key, hkey⟩ := hword.exists_key
  simp only [BlockHead.option, BlockHead.entry, hfield, hkey, bind, Except.bind]
  split
  · exact .ok _
  · rintro _ ⟨⟩
    rfl

end BlockHead.IsTextual

/-- Statements have something in them that no number has, and values that stand in a socket can be read
if they are numbers. -/
def Emission.IsTame (w : Allowance) (inline : Bool) : Emission → Prop
  | .statement code => code = "" ∨ HasForeign code
  | .value code rank => (inline = true → w.Fits code) ∧ ∃ k : Rank, rank = .int k

def Outcome.IsTame (w : Allowance) : Outcome → Prop
  | .statement code => HasForeign code
  | .value code rank => w.Fits code ∧ ∃ k : Rank, rank = .int k
  | _ => True

/-- A site with data that are texts and with connections that come to no other fault. -/
structure Site.IsTame (w : Allowance) (s : Setting) (site : Site) : Prop where
  head : site.head.IsTextual
  times : w.counts → ∀ text, site.head.Repeats text → Reading.real? text = none → w.unread text
  nested : ∀ v ∈ site.inputs.flatMap fun socket => linkComments socket.2, ∃ text, v = .text text
  inputs : ∀ socket ∈ site.inputs, Gen.Yields w s (Emission.IsTame w true) (linkCode socket.2)
  statements : ∀ socket ∈ site.statements,
    Gen.Yields w s (Emission.IsTame w false) (linkCode socket.2)
  next : Gen.Yields w s (Emission.IsTame w false) (linkCode site.next)
  skips : site.inline = true → site.head.isDisabled = true → site.next ≠ none → w.loose

namespace Site.IsTame

open Gen

variable {w : Allowance} {s : Setting} {site : Site}

theorem plugged {inline : Bool} {sockets : List (String × Option Branch)}
    (h : ∀ socket ∈ sockets, Yields w s (Emission.IsTame w inline) (linkCode socket.2))
    (name : String) :
    Yields w s (Emission.IsTame w inline) (linkCode (Site.plugged sockets name)) := by
  unfold Site.plugged
  cases hfound : sockets.lookup name with
  | none => exact .pure (.inl rfl)
  | some plug => exact h _ (mem_of_lookup hfound)

variable (h : site.IsTame w s)
include h

theorem field (name : String) :
    Yields w s (fun v => v.IsWord ∧ site.head.field name = .ok v) (site.field name) := by
  obtain ⟨v, hfield, hword⟩ := h.head.field name
  rw [Site.field, hfield]
  exact .pure ⟨hword, rfl⟩

theorem fieldOr (name : String) (default : Value) :
    Yields w s (fun v => site.head.fields.entryOr name default = .ok v ∧
      (v = default ∨ ∃ text, v = .text text)) (site.fieldOr name default) := by
  obtain ⟨v, hfield, hcases⟩ := h.head.entryOr name default
  rw [Site.fieldOr, hfield]
  exact .pure ⟨rfl, hcases⟩

theorem shapeOr (name : String) (default : Value) :
    Yields w s (· = default) (site.shapeOr name default) := by
  rw [Site.shapeOr, h.head.mutation]
  exact .pure rfl

theorem option {α : Type} (name : String) (table : List (String × α)) :
    Yields w s (fun found => ∃ word, (word, found) ∈ table) (site.option name table) :=
  .ofExcept (h.head.tame_option name table) fun _ => BlockHead.mem_of_option

theorem arguments : Yields w s (· = []) (Gen.ofExcept site.head.arguments) := by
  rw [h.head.arguments]
  exact .pure rfl

theorem value (socket : String) (required : Rank) : Yields w s w.Fits (site.value socket required) := by
  rw [Site.value, site.valueAt_eq]
  refine (plugged h.inputs socket).bind fun emission hemission => ?_
  cases emission with
  | value code rank =>
    obtain ⟨hcode, k, rfl⟩ := hemission
    refine .pure ?_
    unfold Rank.place
    split
    · exact Allowance.fits_of_foreign ((by decide : HasForeign "(").append_left _ |>.append_left _)
    · exact hcode rfl
  | statement code =>
    dsimp only
    split
    · exact .pure (.inr fun hnumber => absurd hnumber (by decide))
    · exact .throw rfl

theorem valueOr (socket : String) (required : Rank) {default : String}
    (hdefault : w.Fits default) : Yields w s w.Fits (site.valueOr socket required default) := by
  refine (h.value socket required).bind fun code hcode => .pure ?_
  unfold orElse
  split
  · exact hdefault
  · exact hcode

theorem body (socket : String) : Yields w s (fun _ => True) (site.body socket) := by
  rw [site.body_eq]
  refine (plugged h.statements socket).bind fun emission _ => ?_
  cases emission with
  | statement code =>
    dsimp only
    split
    · exact .pure trivial
    · exact Yields.indent.bind fun _ _ => .pure trivial
  | value code rank => exact .throw rfl

theorem loopBody (socket : String) : Yields w s (fun _ => True) (site.loopBody socket) :=
  (h.body socket).bind fun _ _ => .read_bind (.pure trivial)

theorem nextCode : Yields w s (fun code => code = "" ∨ HasForeign code) site.nextCode := by
  rw [site.nextCode_eq]
  refine h.next.bind fun emission hemission => ?_
  cases emission with
  | statement code => exact .pure hemission
  | value code rank => exact .throw rfl

/-- Comments in front of the code of the block and the rest of the chain behind it. -/
theorem sequence (code : String) :
    Yields w s (fun text => ∃ comments rest, text = comments ++ code ++ rest ∧
      (site.inline = true → comments = "") ∧ (rest = "" ∨ HasForeign rest))
      (site.sequence code) := by
  refine .read_bind ?_
  obtain ⟨comments, hcomments⟩ := site.exists_commentLines s.commentMark h.head.comment h.nested
  rw [hcomments]
  refine (Yields.pure (Q := (· = comments)) rfl).bind ?_
  rintro _ rfl
  refine h.nextCode.bind fun rest hrest => .pure ⟨_, rest, rfl, fun hinline => ?_, hrest⟩
  rw [Site.commentLines, hinline, if_pos rfl] at hcomments
  exact (Except.ok.inj hcomments).symm

theorem placed {outcome : Outcome} (houtcome : outcome.IsTame w) :
    Yields w s (Emission.IsTame w site.inline) (site.placed outcome) := by
  cases outcome with
  | nothing => exact .pure (.inl rfl)
  | misfit what => exact .throw rfl
  | statement code =>
    refine .read_bind ((h.sequence _).bind ?_)
    rintro _ ⟨comments, rest, rfl, -, -⟩
    refine .pure (.inr (HasForeign.append_left (HasForeign.append_right ?_ _) _))
    exact (HasForeign.append_right houtcome _).append_left _
  | value code rank =>
    obtain ⟨hcode, hrank⟩ := houtcome
    refine (h.sequence _).bind ?_
    rintro _ ⟨comments, rest, rfl, hcomments, hrest⟩
    refine .pure ⟨fun hinline => ?_, hrank⟩
    rw [hcomments hinline, String.empty_append]
    rcases hrest with rfl | hrest
    · rwa [String.append_empty]
    · exact Allowance.fits_of_foreign (hrest.append_right _)

end Site.IsTame

/-- At a site of the kind that the rule is for, it comes to no other fault. -/
def Rule.IsTame (w : Allowance) (s : Setting) (kind : String) (rule : Rule) : Prop :=
  ∀ site : Site, site.IsTame w s → site.head.isDisabled = false → site.head.kind = .text kind →
    Gen.Yields w s (Outcome.IsTame w) (rule site)

def Rulebook.IsTame (w : Allowance) (s : Setting) (rules : Rulebook) : Prop :=
  ∀ kind rule, rules.lookup kind = some rule → rule.IsTame w s kind

theorem Site.IsTame.emit {w : Allowance} {s : Setting} {rules : Rulebook} {site : Site}
    (h : site.IsTame w s) (hrules : rules.IsTame w s) :
    Gen.Yields w s (Emission.IsTame w site.inline) (site.emit rules) := by
  unfold Site.emit
  split
  · next hdisabled =>
    rw [site.skipped_eq]
    cases hnext : site.next with
    | none => exact .pure (.inl rfl)
    | some branch =>
      refine (hnext ▸ h.next).imp fun emission hemission => ?_
      cases emission with
      | statement code => exact hemission
      | value code rank =>
        refine ⟨fun hinline => .inl (h.skips hinline hdisabled ?_), hemission.2⟩
        rw [hnext]
        exact Option.some_ne_none branch
  · next henabled =>
    obtain ⟨kind, hkind⟩ := h.head.kind
    have hlookup : rules.ruleFor site.head.kind = .ok (rules.lookup kind) := by
      rw [hkind]
      rfl
    rw [hlookup]
    refine (Gen.Yields.pure (Q := (· = rules.lookup kind)) rfl).bind ?_
    rintro _ rfl
    cases hrule : rules.lookup kind with
    | none => exact .read_bind (.throw rfl)
    | some rule =>
      refine (hrules kind rule hrule site h (by simpa using henabled) hkind).bind ?_
      exact fun outcome houtcome => h.placed houtcome

/-- A disabled block in a value socket gives what the block after it gives. -/
def Block.Placed.PassesOn (p : Block.Placed) : Prop :=
  p.inline = true ∧ p.block.head.isDisabled = true ∧ p.block.next ≠ none

/-- What has to be known of a block and its place. -/
structure Block.Placed.IsTame (w : Allowance) (p : Block.Placed) : Prop where
  head : p.block.head.IsTextual
  times : w.counts → ∀ text, p.block.head.Repeats text → Reading.real? text = none → w.unread text
  skips : p.PassesOn → w.loose

namespace Block

variable {w : Allowance} {s : Setting} {rules : Rulebook}

mutual

/-- The code of a block, by the code of what is connected to it. -/
theorem branchAt_yields (hrules : rules.IsTame w s) :
    ∀ (b : Block) (parent : Option Block) (inline : Bool),
      (∀ p ∈ descendantsAt parent inline b, p.IsTame w) →
      Gen.Yields w s (Emission.IsTame w inline) (branchAt rules inline b).code
  | .mk head inputs statements next, parent, inline, hall => by
    rw [descendantsAt, List.forall_mem_cons, List.forall_mem_append, List.forall_mem_append] at hall
    obtain ⟨hhere, ⟨hinputs, hstatements⟩, hnext⟩ := hall
    have hsite : Site.IsTame w s
        { head
          inline
          inputs := socketBranches rules true inputs
          statements := socketBranches rules false statements
          next := linkBranch rules false next } :=
      { head := hhere.head
        times := hhere.times
        nested := by
          rw [List.flatMap_def, socketBranches_comments, flatten_linkComments]
          intro v hv
          obtain ⟨p, hp, rfl, hset⟩ := mem_socketComments inputs _ v hv
          exact (hinputs p hp).head.comment hset
        inputs := socketBranches_yield hrules inputs _ true hinputs
        statements := socketBranches_yield hrules statements _ false hstatements
        next := linkBranch_yields hrules next _ false hnext
        skips := by
          intro hinline hdisabled hlink
          refine hhere.skips ⟨hinline, hdisabled, ?_⟩
          rintro (rfl : next = none)
          exact hlink rfl }
    exact hsite.emit hrules

theorem socketBranches_yield (hrules : rules.IsTame w s) :
    ∀ (m : List (String × Option Block)) (parent : Block) (inline : Bool),
      (∀ p ∈ socketDescendants parent inline m, p.IsTame w) →
      ∀ socket ∈ socketBranches rules inline m,
        Gen.Yields w s (Emission.IsTame w inline) (linkCode socket.2)
  | [], _, _, _ => fun _ hmem => nomatch hmem
  | (_, plug) :: rest, parent, inline, hall => by
    rw [socketDescendants, List.forall_mem_append] at hall
    rw [socketBranches, List.forall_mem_cons]
    exact ⟨linkBranch_yields hrules plug parent inline hall.1,
      socketBranches_yield hrules rest parent inline hall.2⟩

theorem linkBranch_yields (hrules : rules.IsTame w s) :
    ∀ (x : Option Block) (parent : Block) (inline : Bool),
      (∀ p ∈ linkDescendants parent inline x, p.IsTame w) →
      Gen.Yields w s (Emission.IsTame w inline) (linkCode (linkBranch rules inline x))
  | none, _, _, _ => .pure (.inl rfl)
  | some b, parent, inline, hall => branchAt_yields hrules b (some parent) inline hall

end

end Block

namespace Gen

variable {w : Allowance} {s : Setting} {rules : Rulebook} {ws : Workspace}

theorem topCodes_yield (hrules : rules.IsTame w s) (hall : ∀ p ∈ ws.blocks, p.IsTame w) :
    Yields w s (fun _ => True) (ws.top.mapM (topCode rules)) := by
  refine (Yields.mapM (Q := fun _ => True) fun b hb => ?_).imp fun _ _ => trivial
  rw [topCode_eq, b.code_eq]
  refine (Block.branchAt_yields hrules b none false fun p hp => ?_).bind fun emission _ => ?_
  · exact hall p (List.mem_flatMap.2 ⟨b, hb, hp⟩)
  · cases emission <;> exact .pure trivial

theorem loggingFaults_yields {α : Type} {Q : α → Prop} {x : Gen α} (h : Yields w s Q x) :
    Yields w s Q (loggingFaults x) := by
  intro r hr
  obtain ⟨log, hlog⟩ := exec_loggingFaults x r
  rw [hlog]
  obtain ⟨⟨c, hc, hsound⟩, hanswer⟩ := h r hr
  exact ⟨⟨c, hc, hsound⟩, hanswer⟩

theorem finish_yields (code : String) : Yields w s (fun _ => True) (finish code) := by
  rintro r ⟨c, hc, hsound⟩
  simp only [finish, exec_bind, exec_read, exec_get, exec_context, hc]
  exact ⟨⟨c, hc, hsound⟩, trivial⟩

/-- Starting a run sets it under way, unless a variable gets no identifier. -/
theorem start_accepted (hnames : ∀ name ∈ ws.variableNames, name.IsWord) (r : Run) :
    match exec (start ws) s r with
    | (.ok _, q) => q.IsActive s.config
    | (.error fault, _) => w.Accepts fault := by
  have hregister : Yields w s (fun _ => True) (ws.variableNames.mapM variableName) :=
    (Yields.mapM fun name hname => Yields.nameOf (hnames name hname) .var).imp fun _ _ => trivial
  have hactive : Run.IsActive s.config { r with context := some s.newContext } :=
    ⟨_, rfl, Context.Sound.newContext s⟩
  obtain ⟨⟨c, hc, hsound⟩, hanswer⟩ := hregister _ hactive
  rw [exec_start]
  generalize exec (ws.variableNames.mapM variableName) s _ = result at hc hanswer
  obtain ⟨fault | declared, q⟩ := result
  · exact hanswer
  · exact ⟨c, hc, hsound⟩

/-- A whole program comes to its text or to a fault that is accepted, in whatever state the run is. -/
theorem generate_accepted (hrules : rules.IsTame w s) (hall : ∀ p ∈ ws.blocks, p.IsTame w)
    (hnames : ∀ name ∈ ws.variableNames, name.IsWord) {r : Run} {fault : Fault}
    (h : (exec (generate rules ws) s r).1 = .error fault) : w.Accepts fault := by
  have hrest := (loggingFaults_yields (topCodes_yield hrules hall)).bind fun parts _ =>
    finish_yields ("\n".intercalate (parts.filter (· ≠ "")))
  have hstart := start_accepted (w := w) (s := s) hnames
    { r with log := r.log ++ [began s.conventions.name ws.top.length] }
  rw [generate, exec_bind, exec_read] at h
  dsimp only at h
  rw [exec_bind, report, exec_modify] at h
  dsimp only at h
  rw [exec_bind] at h
  generalize exec (start ws) s _ = result at h hstart
  obtain ⟨other | _, q⟩ := result
  · cases h
    exact hstart
  · have haccepted := (hrest q hstart).2
    dsimp only at h
    rw [h] at haccepted
    exact haccepted

end Gen

end BlockCode
