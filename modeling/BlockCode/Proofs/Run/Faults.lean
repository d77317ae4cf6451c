import BlockCode.Generation.Program

namespace BlockCode

/-- Whether a fault says that code does not fit: there is no rule for a block, or its code is not of
the sort that its place or its rule requires. -/
def Fault.isEmission : Fault → Bool
  | .unknownKind _ _ => true
  | .invalidEmission _ => true
  | _ => false

/-- If the answer is a fault, then not one of emission. -/
def Fits {α : Type} (x : Except Fault α) : Prop :=
  ∀ fault, x = .error fault → fault.isEmission = false

namespace Fits

variable {α β : Type}

theorem ok (a : α) : Fits (.ok a : Except Fault α) := by
  intro fault h
  cases h

theorem error {fault : Fault} (h : fault.isEmission = false) :
    Fits (.error fault : Except Fault α) := by
  intro other ho
  cases ho
  exact h

theorem bind {x : Except Fault α} {f : α → Except Fault β} (hx : Fits x) (hf : ∀ a, Fits (f a)) :
    Fits (x >>= f) := by
  cases x with
  | error fault => exact error (hx fault rfl)
  | ok a => exact hf a

theorem mapM {f : α → Except Fault β} (hf : ∀ a, Fits (f a)) (l : List α) : Fits (l.mapM f) := by
  induction l with
  | nil => exact ok []
  | cons a l ih =>
    rw [List.mapM_cons]
    exact (hf a).bind fun b => ih.bind fun bs => ok (b :: bs)

end Fits

section Data

variable (v : Value)

theorem Value.fits_key : Fits v.key := by
  unfold Value.key
  split
  case h_4 x => cases x.truncate? <;> exact .ok _
  all_goals first | exact .ok _ | exact .error rfl

theorem Value.fits_toReal : Fits v.toReal := by
  unfold Value.toReal
  split
  case h_2 n => cases Binary64.ofInt? n <;> first | exact .ok _ | exact .error rfl
  case h_4 s => cases Reading.real? s <;> first | exact .ok _ | exact .error rfl
  all_goals first | exact .ok _ | exact .error rfl

theorem Value.fits_toInteger : Fits v.toInteger := by
  unfold Value.toInteger
  split
  · exact .ok _
  · exact .ok _
  · split <;> first | exact .ok _ | exact .error rfl
  · split <;> first | exact .ok _ | exact .error rfl
  · exact .error rfl

theorem Value.fits_items : Fits v.items := by
  unfold Value.items
  split <;> first | exact .ok _ | exact .error rfl

theorem Value.fits_asText : Fits v.asText := by
  unfold Value.asText
  split <;> first | exact .ok _ | exact .error rfl

theorem Value.fits_entryOr (name : String) (default : Value) : Fits (v.entryOr name default) := by
  unfold Value.entryOr
  split <;> first | exact .ok _ | exact .error rfl

theorem BlockHead.fits_field (head : BlockHead) (name : String) : Fits (head.field name) :=
  head.fields.fits_entryOr name .null

theorem BlockHead.fits_arguments (head : BlockHead) : Fits head.arguments :=
  (head.mutation.fits_entryOr _ _).bind fun listed => listed.fits_items.bind fun _ => .ok _

theorem BlockHead.fits_option {α : Type} (head : BlockHead) (name : String)
    (table : List (String × α)) : Fits (head.option name table) := by
  refine (head.fits_field name).bind fun value => value.fits_key.bind fun key => ?_
  dsimp only
  split
  · exact .ok _
  · exact .error rfl

theorem Rulebook.fits_ruleFor (rules : Rulebook) : Fits (rules.ruleFor v) := by
  unfold Rulebook.ruleFor
  split
  · exact .ok _
  · split <;> first | exact .ok _ | exact .error rfl

end Data

section Comments

theorem Site.fits_joinComments (comments : List Value) : Fits (Site.joinComments comments) := by
  unfold Site.joinComments
  split
  · exact .ok _
  · exact (Fits.mapM Value.fits_asText comments).bind fun _ => .ok _

theorem Site.fits_socketComment (mark : String) (plug : Option Branch) :
    Fits (Site.socketComment mark plug) := by
  unfold Site.socketComment
  split
  · split
    · exact .ok _
    · exact (Site.fits_joinComments _).bind fun _ => .ok _
  · exact .ok _

theorem Site.fits_commentLines (site : Site) (mark : String) : Fits (site.commentLines mark) := by
  unfold Site.commentLines
  split
  · exact .ok _
  · refine Fits.bind ?_ fun own => ?_
    · unfold Site.ownComment
      split
      · exact (Value.fits_asText _).bind fun _ => .ok _
      · exact .ok _
    · exact (Fits.mapM (fun socket => Site.fits_socketComment mark _) _).bind fun _ => .ok _

end Comments

section Requests

variable (name : Value) (type : NameType)

theorem Allocator.fits_choose (a : Allocator) (pool : Pool) (base : String) :
    Fits (a.choose pool base) := by
  unfold Allocator.choose
  split
  · refine Fits.bind ?_ fun last => ?_
    · unfold Allocator.lastSuffix
      split
      case h_3 x _ => cases x.truncate? <;> exact .ok _
      all_goals first | exact .ok _ | exact .error rfl
    · cases a.seek pool base 2 (last - 1) with
      | some chosen => exact .ok chosen
      | none => exact .error rfl
  · exact .ok _

theorem Allocator.fits_distinct (a : Allocator) : Fits (a.distinct name type) := by
  refine Fits.bind ?_ fun base => (a.fits_choose _ base).bind fun _ => .ok _
  unfold Name.identifierOf
  split
  · exact .ok _
  · split <;> first | exact .ok _ | exact .error rfl

theorem Allocator.fits_get (a : Allocator) : Fits (a.get name type) := by
  refine name.fits_key.bind fun key => ?_
  cases Entries.get? (key, type) a.known with
  | some chosen => exact .ok _
  | none => exact (a.fits_distinct name type).bind fun _ => .ok _

theorem Context.fits_define (c : Context) (key : Value) (code : String) :
    Fits (c.define key code) :=
  key.fits_key.bind fun _ => .ok _

theorem Context.fits_helperName (c : Context) (key : Value) : Fits (c.helperName key) := by
  refine key.fits_key.bind fun id => ?_
  cases c.helpers.functionName? id with
  | some name => exact .ok _
  | none => exact (c.names.fits_distinct key .procedure).bind fun _ => .ok _

theorem Context.fits_provide (c : Context) (key : Value) (template : List String) :
    Fits (c.provide key template) := by
  refine (c.fits_helperName key).bind fun answer => ?_
  dsimp only
  split
  · exact (Context.fits_define _ key _).bind fun _ => .ok _
  · exact .ok _

end Requests

end BlockCode
