import BlockCode.Proofs.Run.Rules

namespace BlockCode

open Text

namespace Comparison

variable {s t : Setting} (c : Comparison s t)

theorem tracks {α β : Type} {Q : α → β → Prop} {x : Gen α} {y : Gen β} (h : c.Relates Q x y) :
    Gen.Tracks none (Run.Matches c.text c.kept c.declared) c.faults Q s t x y :=
  ⟨h, nofun⟩

/-- The comparison as a pairing, in which requests are not followed. -/
def pairing : Pairing s t where
  runs := Run.Matches c.text c.kept c.declared
  faults := c.faults
  request := none
  asks := fun _ => True
  bare := c.bare
  joins := True
  value := fun a b => a = b ∧ c.value a
  part := c.Part
  lines := c.lines
  chain := c.chain
  toAkin := c.toAkin
  toCodeRelation := .exact
  faults_refl := fun _ => c.faults_refl _
  nameOf := fun type name _ => c.tracks ((c.nameOf type name).imp fun _ _ h => ⟨h.1, rfl, h.2⟩)
  temporary := fun name => c.tracks (c.temporary name)
  provide := fun key template => c.tracks (c.provide key template)
  define := fun key _ _ h => c.tracks (c.define key (c.text_of_chain h))
  value_code := And.left
  value_of_ink := fun h => ⟨rfl, c.value_of_ink h⟩
  value_append := fun h h' => ⟨CodeRelation.exact.code_append h h'.1, c.value_append _ h'.2⟩
  value_terminated := fun h => ⟨h.1 ▸ rfl, c.value_terminated h.2⟩
  part_append := fun h h' => h' ▸ h.append _
  part_body := fun h hd hxy => h.lines hd.1 hxy
  lines_empty := c.lines_same closed_empty
  lines_append := fun _ => c.lines_append
  lines_indented := fun h => h ▸ c.lines_indented (endsLine_newline _)

variable {c} {a b : String}

theorem whole_of_pairing (h : c.pairing.Whole a b) : c.Whole a b := by
  obtain ⟨x, y, z, _, rfl, rfl, hxy, rfl, hz⟩ := h
  have hpart : c.Part x y := by
    have hempty := hxy "" "" (part_same "")
    rwa [String.empty_append, String.empty_append] at hempty
  exact hpart.whole hz

theorem Sees.pairing {traps : Bool} {u v : BlockCode.Site} (h : c.Sees traps u v) :
    c.pairing.Sees traps u v where
  kind_eq := h.kind_eq
  fields_eq := h.fields_eq
  mutation_eq := h.mutation_eq
  hasInput_eq := h.hasInput_eq
  bare := h.bare
  asks_field := fun _ => trivial
  asks_argument := fun _ _ _ => trivial
  value := fun socket required => c.tracks
    ((h.valueAt socket (.int required)).imp fun _ _ hab => ⟨hab.1, fun hne => ⟨hab.1, hab.2 hne⟩⟩)
  body := fun socket => c.tracks (h.body socket)
  joins := fun _ => trivial
  trap := h.trap
  before := h.before
  sequence := fun hab => c.tracks (h.sequence (whole_of_pairing hab))

theorem outcome_of_pairing {shape : Shape} {x y : BlockCode.Outcome}
    (h : c.pairing.Outcome shape x y) : c.Outcome x y := by
  cases shape <;> cases x <;> cases y
  case statement.nothing.nothing => trivial
  case statement.statement.statement a b => exact h.imp_left whole_of_pairing
  case value.value.value a rank b other => exact ⟨h.1.1, h.2.1, h.1.2⟩
  all_goals exact h.elim

end Comparison

/-- Every rule of the book keeps to every comparison. -/
def Rulebook.Compares (traps : Bool) (rules : Rulebook) : Prop :=
  ∀ {s t : Setting} (c : Comparison s t), c.Follows traps rules

theorem Rulebook.Pairs.compares {traps : Bool} {rules : Rulebook} (h : rules.Pairs traps) :
    rules.Compares traps := by
  intro s t c kind rule hl u v hkind hsees
  obtain ⟨shape, hrule⟩ := h kind rule hl
  exact (hrule c.pairing (.inr hkind) hsees.pairing).relates.imp fun _ _ => Comparison.outcome_of_pairing

theorem Rulebook.dialect_compares {traps : Bool} {language : Language}
    (h : language.setsTraps = true → traps = true) :
    Rulebook.Compares traps language.dialect.rules :=
  (Rulebook.dialect_pairs h).compares

theorem Comparison.follows {s t : Setting} (c : Comparison s t) {traps : Bool} {rules : Rulebook}
    (h : Rulebook.Compares traps rules) : c.Follows traps rules :=
  h c

end BlockCode
