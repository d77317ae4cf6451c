import BlockCode.Proofs.Name.Allocation

namespace BlockCode

theorem Value.eq_text_of_key {v : Value} {x : String} (h : v.key = .ok (.text x)) :
    v = .text x := by
  cases v with
  | text s => cases h; rfl
  | real y =>
    simp only [Value.key] at h
    split at h
    · split at h <;> cases h
    · cases h
  | _ => cases h

namespace Allocator

variable {a b c next : Allocator} {name : Value} {type : NameType} {g : Grant}

/-- The second allocator comes after the first: nothing is set anew, nothing is forgotten. -/
structure Extends (a b : Allocator) : Prop where
  eq : b = { a with known := b.known, used := b.used }
  used : ∀ entry ∈ a.used, entry ∈ b.used
  known : ∀ {key x}, Entries.get? key a.known = some x → Entries.get? key b.known = some x

namespace Extends

theorem refl (a : Allocator) : a.Extends a :=
  ⟨rfl, fun _ h => h, fun h => h⟩

theorem trans (hab : a.Extends b) (hbc : b.Extends c) : a.Extends c where
  eq := by rw [hbc.eq, hab.eq]
  used := fun entry h => hbc.used entry (hab.used entry h)
  known := fun h => hbc.known (hab.known h)

theorem pool_eq (h : a.Extends b) (type : NameType) : b.pool type = a.pool type := by
  rw [h.eq]
  rfl

theorem lead_eq (h : a.Extends b) (type : NameType) : b.lead type = a.lead type := by
  rw [h.eq]
  cases type <;> rfl

theorem reserved_eq (h : a.Extends b) : b.reserved = a.reserved := by
  rw [h.eq]

end Extends

theorem extends_of_distinct (h : a.distinct name type = .ok (g, next)) : a.Extends next := by
  obtain ⟨-, -, rfl⟩ := distinct_eq_ok h
  exact ⟨rfl, fun _ hmem => List.mem_cons_of_mem _ hmem, fun hx => hx⟩

theorem extends_of_get (h : a.get name type = .ok (g, next)) : a.Extends next := by
  obtain ⟨key, hk, hcase⟩ := get_eq_ok h
  refine ⟨?_, ?_, (get?_known_of_get hk h).2⟩
  · rcases hcase with ⟨-, rfl⟩ | ⟨-, mid, hd, rfl⟩
    · rfl
    · rw [(extends_of_distinct hd).eq]
  · rcases hcase with ⟨-, rfl⟩ | ⟨-, mid, hd, rfl⟩
    · exact fun _ hmem => hmem
    · exact (extends_of_distinct hd).used

/-- Every identifier that a name has is in use. -/
def Accounts (a : Allocator) : Prop :=
  ∀ {key type x}, Entries.get? (key, type) a.known = some x → (a.pool type, x) ∈ a.used

theorem Accounts.get (ha : a.Accounts) (h : a.get name type = .ok (g, next)) : next.Accounts := by
  obtain ⟨key, -, ⟨-, rfl⟩ | ⟨-, mid, hd, rfl⟩⟩ := get_eq_ok h
  · exact ha
  · obtain ⟨-, -, rfl⟩ := distinct_eq_ok hd
    intro other kind x hx
    rw [Entries.get?_put] at hx
    split at hx
    · next he =>
      cases he
      cases hx
      exact List.mem_cons_self
    · exact List.mem_cons_of_mem _ (ha hx)

theorem accounts_of_unknown (h : a.known = []) : a.Accounts := by
  intro key type x hx
  rw [h] at hx
  cases hx

/-- The identifier that is handed out for a name is in use from then on. -/
theorem mem_used_of_get (ha : a.Accounts) (h : a.get name type = .ok (g, next)) :
    (next.pool type, g.chosen) ∈ next.used := by
  obtain ⟨key, hk, -⟩ := get_eq_ok h
  exact (ha.get h) (get?_known_of_get hk h).1

end Allocator

end BlockCode
