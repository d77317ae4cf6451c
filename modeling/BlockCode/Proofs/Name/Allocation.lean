import BlockCode.Proofs.Name.Legal

namespace BlockCode.Entries

variable {κ : Type} {α : Type} [DecidableEq κ]

theorem get?_put (key other : κ) (value : α) (entries : List (κ × α)) :
    get? other (put key value entries) =
      if key = other then some value else get? other entries := by
  induction entries with
  | nil => rfl
  | cons entry rest ih =>
    simp only [put]
    by_cases he : entry.1 = key
    · rw [if_pos he]
      simp only [get?, he]
      by_cases hk : key = other <;> simp [hk]
    · rw [if_neg he]
      simp only [get?, ih]
      by_cases hk : key = other
      · subst hk
        simp [he]
      · simp [hk]

theorem mem_of_get? {key : κ} {value : α} {entries : List (κ × α)}
    (h : get? key entries = some value) : (key, value) ∈ entries := by
  induction entries with
  | nil => simp [get?] at h
  | cons entry rest ih =>
    simp only [get?] at h
    split at h
    · next he =>
      cases h
      subst he
      exact List.mem_cons_self
    · exact List.mem_cons_of_mem _ (ih h)

end BlockCode.Entries

namespace BlockCode.Allocator

variable {a next : Allocator} {pool : Pool} {base : String} {name : Value} {type : NameType}
  {g : Grant}

theorem isTaken_eq_false {x : String} :
    a.isTaken pool x = false ↔ (pool, x) ∉ a.used ∧ x ∉ a.reserved := by
  simp [isTaken]

theorem seek_eq_some {k count : Nat} {x : String} (h : a.seek pool base k count = some x) :
    a.isTaken pool x = false ∧ ∃ j, x = numbered base j := by
  induction count generalizing k with
  | zero => simp [seek] at h
  | succ count ih =>
    simp only [seek] at h
    split at h
    · exact ih h
    · next ht =>
      cases h
      exact ⟨by simpa using ht, k, rfl⟩

theorem choose_eq_ok {x : String} (h : a.choose pool base = .ok x) :
    a.isTaken pool x = false ∧ (x = base ∨ ∃ j, x = numbered base j) := by
  unfold choose at h
  split at h
  · cases hl : a.lastSuffix with
    | error fault => simp [hl, bind, Except.bind] at h
    | ok last =>
      cases hs : a.seek pool base 2 (last - 1) with
      | none => simp [hl, hs, bind, Except.bind, throw, throwThe, MonadExceptOf.throw] at h
      | some y =>
        simp only [hl, hs, bind, Except.bind, pure, Except.pure, Except.ok.injEq] at h
        subst h
        obtain ⟨hf, hj⟩ := seek_eq_some hs
        exact ⟨hf, .inr hj⟩
  · next ht =>
    cases h
    exact ⟨by simpa using ht, .inl rfl⟩

/-- A base that is free is chosen as it is. -/
theorem choose_of_free (h : a.isTaken pool base = false) : a.choose pool base = .ok base := by
  simp [choose, h]

theorem allot_eq_ok (h : a.allot pool base = .ok (g, next)) :
    a.choose pool base = .ok g.chosen ∧ g.base = base ∧
      next = { a with used := (pool, g.chosen) :: a.used } := by
  unfold allot at h
  cases hc : a.choose pool base with
  | error fault => simp [hc, bind, Except.bind] at h
  | ok x =>
    simp only [hc, bind, Except.bind, pure, Except.pure, Except.ok.injEq, Prod.mk.injEq] at h
    obtain ⟨rfl, rfl⟩ := h
    exact ⟨rfl, rfl, rfl⟩

theorem distinct_eq_ok (h : a.distinct name type = .ok (g, next)) :
    Name.isLegal g.chosen = true ∧ a.isTaken (a.pool type) g.chosen = false ∧
      next = { a with used := (a.pool type, g.chosen) :: a.used } := by
  unfold distinct at h
  cases hb : Name.identifierOf name with
  | error fault => simp [hb, bind, Except.bind] at h
  | ok base =>
    simp only [hb, bind, Except.bind] at h
    obtain ⟨hc, -, hn⟩ := allot_eq_ok h
    obtain ⟨hf, hx⟩ := choose_eq_ok hc
    have hl := Name.isLegal_of_identifierOf hb
    refine ⟨?_, hf, hn⟩
    rcases hx with hx | ⟨j, hx⟩
    · rw [hx]
      exact hl
    · rw [hx]
      exact isLegal_numbered hl j

/-- A legal name that is free is its own identifier. -/
theorem distinct_of_free {s : String} (hl : Name.isLegal s = true)
    (hf : a.isTaken (a.pool type) s = false) :
    a.distinct (.text s) type =
      .ok (⟨s, s⟩, { a with used := (a.pool type, s) :: a.used }) := by
  simp only [distinct, Name.identifierOf, Name.identifier_of_isLegal hl, bind, Except.bind, allot,
    choose_of_free hf, pure, Except.pure]

/-- Either the name is known and nothing changes, or it gets a fresh identifier and keeps it. -/
theorem get_eq_ok (h : a.get name type = .ok (g, next)) :
    ∃ key, name.key = .ok key ∧
      ((Entries.get? (key, type) a.known = some g.chosen ∧ next = a) ∨
        (Entries.get? (key, type) a.known = none ∧
          ∃ mid, a.distinct name type = .ok (g, mid) ∧
            next = { mid with known := Entries.put (key, type) g.chosen mid.known })) := by
  unfold get at h
  cases hk : name.key with
  | error fault => simp [hk, bind, Except.bind] at h
  | ok key =>
    refine ⟨key, rfl, ?_⟩
    simp only [hk, bind, Except.bind] at h
    cases hg : Entries.get? (key, type) a.known with
    | some chosen =>
      simp only [hg, pure, Except.pure, Except.ok.injEq, Prod.mk.injEq] at h
      obtain ⟨rfl, rfl⟩ := h
      exact .inl ⟨rfl, rfl⟩
    | none =>
      simp only [hg] at h
      cases hd : a.distinct name type with
      | error fault => simp [hd] at h
      | ok r =>
        obtain ⟨grant, mid⟩ := r
        simp only [hd, pure, Except.pure, Except.ok.injEq, Prod.mk.injEq] at h
        obtain ⟨rfl, rfl⟩ := h
        exact .inr ⟨rfl, mid, rfl, rfl⟩

/-- A name that was given an identifier has it afterwards, and all others keep theirs. -/
theorem get?_known_of_get {key : Key} (hk : name.key = .ok key)
    (h : a.get name type = .ok (g, next)) :
    Entries.get? (key, type) next.known = some g.chosen ∧
      ∀ {other x}, Entries.get? other a.known = some x →
        Entries.get? other next.known = some x := by
  obtain ⟨key', hk', hcase⟩ := get_eq_ok h
  cases hk.symm.trans hk'
  rcases hcase with ⟨hx, rfl⟩ | ⟨hx, mid, hd, rfl⟩
  · exact ⟨hx, fun hy => hy⟩
  · obtain ⟨-, -, rfl⟩ := distinct_eq_ok hd
    refine ⟨by simp [Entries.get?_put], fun {other x} hy => ?_⟩
    rw [Entries.get?_put]
    split
    · next he =>
      subst he
      rw [hx] at hy
      cases hy
    · exact hy

theorem get_of_known {key : Key} {x : String} (hk : name.key = .ok key)
    (h : Entries.get? (key, type) a.known = some x) : a.get name type = .ok (⟨x, x⟩, a) := by
  simp only [get, hk, bind, Except.bind, h, pure, Except.pure]

theorem get_of_unknown {key : Key} {mid : Allocator} (hk : name.key = .ok key)
    (h : Entries.get? (key, type) a.known = none) (hd : a.distinct name type = .ok (g, mid)) :
    a.get name type =
      .ok (g, { mid with known := Entries.put (key, type) g.chosen mid.known }) := by
  simp only [get, hk, bind, Except.bind, h, hd, pure, Except.pure]

theorem seek_eq_none {k count : Nat} (h : a.seek pool base k count = none) {j : Nat}
    (hk : k ≤ j) (hj : j < k + count) : a.isTaken pool (numbered base j) = true := by
  induction count generalizing k with
  | zero => omega
  | succ count ih =>
    simp only [seek] at h
    split at h
    · next ht =>
      rcases Nat.eq_or_lt_of_le hk with rfl | hlt
      · exact ht
      · exact ih h hlt (by omega)
    · cases h

/-- Neither the base is free nor any of its suffixes that may be tried. -/
structure Crowded (a : Allocator) (type : NameType) (base : String) (attempts : Int) : Prop where
  taken : a.isTaken (a.pool type) base = true
  suffixes : ∀ k : Nat, 2 ≤ k → (k : Int) ≤ attempts →
    a.isTaken (a.pool type) (numbered base k) = true

/-- The name has no identifier, and there is none left for it. -/
structure Exhausted (a : Allocator) (type : NameType) (name : String) (attempts : Int) : Prop
    extends a.Crowded type (Name.identifier name) attempts where
  unknown : Entries.get? (.text name, type) a.known = none

theorem choose_eq_error {attempts : Int} (ha : a.maxAttempts = .int attempts) {fault : Fault}
    (h : a.choose (a.pool type) base = .error fault) :
    fault = .namesExhausted base (.int attempts) ∧ a.Crowded type base attempts := by
  unfold choose at h
  split at h
  · next ht =>
    simp only [lastSuffix, ha, bind, Except.bind] at h
    cases hs : a.seek (a.pool type) base 2 (attempts.toNat - 1) with
    | some x => simp [hs, pure, Except.pure] at h
    | none =>
      simp only [hs, throw, throwThe, MonadExceptOf.throw, Except.error.injEq] at h
      exact ⟨h.symm, ht, fun k h2 hk => seek_eq_none hs h2 (by omega)⟩
  · cases h

/-- A text gets an identifier unless there is none left for it. -/
theorem get_eq_error {attempts : Int} (ha : a.maxAttempts = .int attempts) {x : String}
    {fault : Fault} (h : a.get (.text x) type = .error fault) :
    fault = .namesExhausted (Name.identifier x) (.int attempts) ∧ a.Exhausted type x attempts := by
  simp only [get, Value.key, bind, Except.bind] at h
  cases hg : Entries.get? (Key.text x, type) a.known with
  | some chosen => simp [hg, pure, Except.pure] at h
  | none =>
    simp only [hg, distinct, Name.identifierOf, bind, Except.bind, allot] at h
    cases hc : a.choose (a.pool type) (Name.identifier x) with
    | ok chosen => simp [hc, pure, Except.pure] at h
    | error other =>
      simp only [hc, Except.error.injEq] at h
      obtain ⟨hf, hcrowded⟩ := choose_eq_error ha hc
      exact ⟨h.symm.trans hf, hcrowded, hg⟩

end BlockCode.Allocator
