import BlockCode.Proofs.Name.Allocation
import BlockCode.Proofs.Run.Requests
import Mathlib.Data.Finset.Card
import Mathlib.Order.Bounds.Basic
import Mathlib.Order.Interval.Finset.Nat

namespace BlockCode

namespace Allocator

variable {a : Allocator} {pool : Pool} {base : String} {type : NameType}

/-- The identifiers that are not free for a type: those used in its pool, and the reserved words. -/
def taken (a : Allocator) (type : NameType) : Finset String :=
  ((a.used.filter fun entry => entry.1 = a.pool type).map Prod.snd ++ a.reserved).toFinset

theorem mem_taken {x : String} : x ∈ a.taken type ↔ a.isTaken (a.pool type) x = true := by
  simp [taken, isTaken]

theorem numbered_injective (base : String) : Function.Injective (numbered base) := by
  intro j k h
  have hdigits : Nat.toDigits 10 j = Nat.toDigits 10 k := by
    have hchars := congrArg String.toList h
    rw [toList_numbered, toList_numbered] at hchars
    exact List.append_cancel_left hchars
  simpa using congrArg (fun digits => Nat.ofDigitChars 10 digits 0) hdigits

theorem numbered_ne (base : String) (k : Nat) : numbered base k ≠ base := by
  intro h
  have hchars := congrArg String.toList h
  simp [toList_numbered] at hchars

/-- What may be tried for a base: itself, and its suffixes from two to the greatest one. -/
def candidates (base : String) (last : Nat) : Finset String :=
  insert base ((Finset.Icc 2 last).image (numbered base))

theorem card_candidates (base : String) {last : Nat} (h : 1 ≤ last) :
    (candidates base last).card = last := by
  have hbase : base ∉ (Finset.Icc 2 last).image (numbered base) := by
    intro hmem
    obtain ⟨k, -, hk⟩ := Finset.mem_image.1 hmem
    exact numbered_ne base k hk
  rw [candidates, Finset.card_insert_of_notMem hbase,
    Finset.card_image_of_injective _ (numbered_injective base), Nat.card_Icc]
  omega

theorem candidates_subset {last : Nat} {names : Finset String} :
    candidates base last ⊆ names ↔
      base ∈ names ∧ ∀ k, 2 ≤ k → k ≤ last → numbered base k ∈ names := by
  simp only [candidates, Finset.insert_subset_iff, Finset.image_subset_iff, Finset.mem_Icc, and_imp]

theorem seek_of_least {k count j : Nat} (hk : k ≤ j) (hj : j < k + count)
    (hfree : a.isTaken pool (numbered base j) = false)
    (hbelow : ∀ i, k ≤ i → i < j → a.isTaken pool (numbered base i) = true) :
    a.seek pool base k count = some (numbered base j) := by
  induction count generalizing k with
  | zero => omega
  | succ count ih =>
    rw [seek]
    rcases Nat.eq_or_lt_of_le hk with rfl | hlt
    · simp [hfree]
    · rw [if_pos (hbelow k (Nat.le_refl k) hlt)]
      exact ih hlt (by omega) fun i hi => hbelow i (by omega)

theorem seek_of_taken {k count : Nat}
    (h : ∀ i, k ≤ i → i < k + count → a.isTaken pool (numbered base i) = true) :
    a.seek pool base k count = none := by
  induction count generalizing k with
  | zero => rfl
  | succ count ih =>
    rw [seek, if_pos (h k (Nat.le_refl k) (by omega))]
    exact ih fun i hi hlt => h i (by omega) (by omega)

section Attempts

variable {last : Nat} (ha : a.maxAttempts = .int last)
include ha

theorem choose_of_isLeast {k : Nat} (hbase : base ∈ a.taken type)
    (hk : IsLeast {j | 2 ≤ j ∧ j ≤ last ∧ numbered base j ∉ a.taken type} k) :
    a.choose (a.pool type) base = .ok (numbered base k) := by
  obtain ⟨⟨h2, hlast, hfree⟩, hleast⟩ := hk
  have hseek : a.seek (a.pool type) base 2 (last - 1) = some (numbered base k) := by
    refine seek_of_least h2 (by omega) ?_ ?_
    · simpa [mem_taken] using hfree
    · intro i hi hik
      by_contra hnot
      have hik' := hleast ⟨hi, by omega, mt mem_taken.1 hnot⟩
      omega
  simp only [choose, mem_taken.1 hbase, lastSuffix, ha, Int.toNat_natCast, bind, Except.bind, hseek]
  rfl

theorem choose_eq_error_iff {fault : Fault} :
    a.choose (a.pool type) base = .error fault ↔
      candidates base last ⊆ a.taken type ∧ fault = .namesExhausted base (.int last) := by
  rw [candidates_subset]
  constructor
  · intro h
    obtain ⟨hfault, hcrowded⟩ := choose_eq_error ha h
    refine ⟨⟨mem_taken.2 hcrowded.taken, fun k h2 hk => ?_⟩, hfault⟩
    exact mem_taken.2 (hcrowded.suffixes k h2 (by omega))
  · rintro ⟨⟨hbase, hsuffixes⟩, rfl⟩
    have hseek : a.seek (a.pool type) base 2 (last - 1) = none :=
      seek_of_taken fun i hi hlt => mem_taken.1 (hsuffixes i hi (by omega))
    simp only [choose, mem_taken.1 hbase, lastSuffix, ha, Int.toNat_natCast, bind, Except.bind,
      hseek]
    rfl

end Attempts

end Allocator

namespace NameType

theorem ofLabel?_label (type : NameType) : ofLabel? (.text type.label) = some type := by
  cases type <;> rfl

end NameType

/-- What may be asked about the identifiers of a run. -/
inductive Inquiry where
  | get (name label : Value)
  | distinct (name label : Value)
  | isUsed (identifier label : Value)

namespace Inquiry

/-- Answers with an identifier, or with whether one is used. -/
def perform : Inquiry → Gen (String ⊕ Bool)
  | .get name label => Sum.inl <$> Gen.getLabelled name label
  | .distinct name label => Sum.inl <$> Gen.distinctLabelled name label
  | .isUsed identifier label => Sum.inr <$> Gen.isUsedLabelled identifier label

/-- The answers to inquiries one after another, whichever of them fail. -/
def answers (s : Setting) (r : Run) : List Inquiry → List (Except Fault (String ⊕ Bool))
  | [] => []
  | q :: later => (Gen.exec q.perform s r).1 :: answers s (Gen.exec q.perform s r).2 later

end Inquiry

namespace Gen

variable {s : Setting} {r : Run} {c : Context} {fault : Fault}

section Request

variable (hr : r.context = some c) (name : String) (type : NameType)
include hr

theorem exec_distinctLabelled_label :
    exec (distinctLabelled (.text name) (.text type.label)) s r =
      match c.names.distinct (.text name) type with
      | .ok (g, names) =>
        (.ok (c.names.lead type ++ g.chosen),
          { r with context := some { c with names }, log := r.log ++ g.records })
      | .error fault => (.error fault, r) := by
  rw [exec_distinctLabelled hr]
  simp only [Allocator.distinctLabelled, NameType.ofLabel?_label]
  cases c.names.distinct (.text name) type with
  | ok result => rfl
  | error fault =>
    -- the context is put back and no record is written
    have hrun : { r with context := some c, log := r.log ++ [] } = r := by
      rw [List.append_nil, ← hr]
    simp only [hrun]

theorem exec_distinctLabelled_answer :
    (exec (distinctLabelled (.text name) (.text type.label)) s r).1 =
      (c.names.choose (c.names.pool type) (Name.identifier name)).map (c.names.lead type ++ ·) := by
  rw [exec_distinctLabelled_label hr]
  simp only [Allocator.distinct, Name.identifierOf, Allocator.allot, bind, Except.bind]
  cases c.names.choose (c.names.pool type) (Name.identifier name) <;> rfl

theorem exec_distinctLabelled_failed
    (h : (exec (distinctLabelled (.text name) (.text type.label)) s r).1 = .error fault) :
    (exec (distinctLabelled (.text name) (.text type.label)) s r).2 = r := by
  rw [exec_distinctLabelled_label hr] at h ⊢
  cases hd : c.names.distinct (.text name) type with
  | ok result =>
    rw [hd] at h
    cases h
  | error other => rfl

end Request

theorem exec_step_failed {α : Type} {f : Context → Except Fault (α × List LogRecord × Context)}
    (h : (exec (step f) s r).1 = .error fault) : (exec (step f) s r).2 = r := by
  rw [exec_step] at h ⊢
  cases hr : r.context with
  | none => rfl
  | some c =>
    cases hf : f c with
    | error other => simp only [hf]
    | ok result =>
      simp only [hr, hf] at h
      cases h

/-- With up to `last` attempts, a fresh identifier is its base, or if that is taken the base with the
least suffix that is not. It is refused exactly if the base and all its suffixes are taken, hence never
as long as fewer than `last` identifiers are, and what is refused changes no later answer. -/
theorem exec_distinct_least_or_exhausted (hr : r.context = some c) {last : Nat} (hlast : 1 ≤ last)
    (ha : c.names.maxAttempts = .int last) (name : String) (type : NameType) :
    (Name.identifier name ∉ c.names.taken type →
      (exec (distinctLabelled (.text name) (.text type.label)) s r).1 =
        .ok (c.names.lead type ++ Name.identifier name)) ∧
    (Name.identifier name ∈ c.names.taken type → ∀ k,
      IsLeast {j | 2 ≤ j ∧ j ≤ last ∧
        Allocator.numbered (Name.identifier name) j ∉ c.names.taken type} k →
      (exec (distinctLabelled (.text name) (.text type.label)) s r).1 =
        .ok (c.names.lead type ++ Allocator.numbered (Name.identifier name) k)) ∧
    (∀ fault,
      (exec (distinctLabelled (.text name) (.text type.label)) s r).1 = .error fault ↔
        fault = .namesExhausted (Name.identifier name) (.int last) ∧
          Name.identifier name ∈ c.names.taken type ∧
          ∀ k, 2 ≤ k → k ≤ last →
            Allocator.numbered (Name.identifier name) k ∈ c.names.taken type) ∧
    ((c.names.taken type).card < last →
      ∃ x, (exec (distinctLabelled (.text name) (.text type.label)) s r).1 = .ok x) ∧
    ∀ request ∈ [distinctLabelled (.text name) (.text type.label),
        getLabelled (.text name) (.text type.label)],
      ∀ fault, (exec request s r).1 = .error fault →
        ∀ later, Inquiry.answers s (exec request s r).2 later = Inquiry.answers s r later := by
  have herror (fault : Fault) :
      (exec (distinctLabelled (.text name) (.text type.label)) s r).1 = .error fault ↔
        Allocator.candidates (Name.identifier name) last ⊆ c.names.taken type ∧
          fault = .namesExhausted (Name.identifier name) (.int last) := by
    rw [exec_distinctLabelled_answer hr, ← Allocator.choose_eq_error_iff ha]
    cases c.names.choose (c.names.pool type) (Name.identifier name) <;> simp [Except.map]
  refine ⟨?_, ?_, ?_, ?_, ?_⟩
  · intro hfree
    have hchosen := Allocator.choose_of_free (Bool.eq_false_iff.2 (mt Allocator.mem_taken.2 hfree))
    rw [exec_distinctLabelled_answer hr, hchosen, Except.map]
  · intro hbase k hk
    rw [exec_distinctLabelled_answer hr, Allocator.choose_of_isLeast ha hbase hk, Except.map]
  · intro fault
    rw [herror, Allocator.candidates_subset, and_comm]
  · intro hcard
    cases hanswer : (exec (distinctLabelled (.text name) (.text type.label)) s r).1 with
    | ok x => exact ⟨x, rfl⟩
    | error fault =>
      have hle := Finset.card_le_card ((herror fault).1 hanswer).1
      rw [Allocator.card_candidates _ hlast] at hle
      omega
  · intro request hrequest fault hfailed later
    have hrun : (exec request s r).2 = r := by
      rcases List.mem_pair.1 hrequest with rfl | rfl
      · exact exec_distinctLabelled_failed hr name type hfailed
      · exact exec_step_failed hfailed
    rw [hrun]

/-- A run with one identifier in use beside a reserved word. -/
def crowded (last : Nat) : Run :=
  { context := some
      { names :=
          { reserved := ["end"], maxAttempts := .int last, used := [(.own .var, "end2")] }
        helpers := {} } }

def plain : Setting :=
  { conventions := { name := "plain", generator := "plain" }, config := {} }

theorem exec_distinct_crowded :
    (exec (distinctLabelled (.text "end") (.text "VARIABLE")) plain (crowded 3)).1 = .ok "end3" ∧
      (exec (distinctLabelled (.text "end") (.text "VARIABLE")) plain (crowded 2)).1 =
        .error (.namesExhausted "end" (.int 2)) := by
  have hname : Name.identifier "end" = "end" := by decide
  refine ⟨?_, ?_⟩
  · have h := (exec_distinct_least_or_exhausted (s := plain) (r := crowded 3) rfl (by decide) rfl
      "end" .var).2.1 (by decide) 3 ⟨by decide, ?_⟩
    · exact h
    · rintro j ⟨h2, h3, hfree⟩
      have hcases : j = 2 ∨ j = 3 := by omega
      rcases hcases with rfl | rfl
      · exact absurd (by decide) hfree
      · exact Nat.le_refl 3
  · refine ((exec_distinct_least_or_exhausted (s := plain) (r := crowded 2) rfl (by decide) rfl
      "end" .var).2.2.1 _).2 ⟨?_, by decide, ?_⟩
    · rw [hname]
      rfl
    · intro k h2 hk
      obtain rfl : k = 2 := by omega
      decide

end Gen

end BlockCode
