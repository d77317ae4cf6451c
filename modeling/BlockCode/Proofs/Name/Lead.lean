import BlockCode.Proofs.Name.Transcript
import Mathlib.Algebra.Order.BigOperators.Group.List
import Mathlib.Algebra.Order.Group.Nat
import Mathlib.Algebra.Ring.Nat

namespace BlockCode.Allocator

/-- What is handed out for an allocated identifier: its lead and the identifier. -/
def returned (a : Allocator) (p : NameType × String) : String :=
  a.lead p.1 ++ p.2

/-- Whether no text handed out in any run is a reserved word. -/
def AvoidsReserved (start : Allocator) : Prop :=
  ∀ requests, ∀ e ∈ (start.transcript requests).entries, ∀ x, e.answer = .ok x →
    start.returned (e.request.type, x) ∉ start.reserved

/-- Whether the texts handed out by two allocations differ in every run. -/
def KeepsApart (start : Allocator) : Prop :=
  ∀ requests, (allocations (start.transcript requests).entries).Pairwise fun p q =>
    start.returned p ≠ start.returned q

theorem mem_of_keptBy {entries : List Entry} {name : String} {type : NameType} {x : String}
    (h : keptBy name type entries = some x) : ⟨.get name type, .ok x⟩ ∈ entries := by
  fun_induction keptBy name type entries with
  | case1 => cases h
  | case2 n u y earlier hn =>
    obtain ⟨rfl, rfl⟩ := hn
    cases h
    exact List.mem_cons_self
  | case3 n u y earlier hn ih => exact List.mem_cons_of_mem _ (ih h)
  | case4 e earlier _ ih => exact List.mem_cons_of_mem _ (ih h)

/-- Every identifier in an answer was allocated, by that entry or by an earlier one. -/
theorem mem_allocations {entries : List Entry} (h : entries.Pairwise Entry.Repeats)
    {e : Entry} (he : e ∈ entries) {x : String} (hx : e.answer = .ok x) :
    (e.request.type, x) ∈ allocations entries := by
  induction entries generalizing e with
  | nil => cases he
  | cons first earlier ih =>
    obtain ⟨hfirst, hrest⟩ := List.pairwise_cons.1 h
    rcases List.mem_cons.1 he with rfl | hearlier
    · obtain ⟨q, answer⟩ := e
      cases hx
      cases q with
      | distinct name type => simp [allocations, Entry.allocation?, Request.type]
      | get name type =>
        cases hk : keptBy name type earlier with
        | none => simp [allocations, Entry.allocation?, Request.type, hk]
        | some y =>
          have hm := mem_of_keptBy hk
          have hy := hfirst _ hm name type y rfl rfl
          cases hy
          exact List.mem_append_right _ (ih hrest hm rfl)
    · exact List.mem_append_right _ (ih hrest hearlier hx)

variable {start : Allocator}

/-- A single request for a legal name that is free. -/
theorem transcript_get_of_free {s : String} {type : NameType} (hk : start.known = [])
    (hl : Name.isLegal s = true) (hf : start.isTaken (start.pool type) s = false) :
    start.transcript [.get s type] =
      ⟨[⟨.get s type, .ok s⟩],
        { start with
          used := (start.pool type, s) :: start.used
          known := [((.text s, type), s)] }⟩ := by
  have hg : start.get (.text s) type = _ :=
    get_of_unknown rfl (by simp [hk, Entries.get?]) (distinct_of_free hl hf)
  simp only [transcript, List.foldl_cons, List.foldl_nil, Transcript.next, Request.grant, hg, hk,
    Entries.put]

theorem avoidsReserved_iff (hk : start.known = []) (hu : start.used = []) :
    start.AvoidsReserved ↔
      ∀ x, Name.isLegal x = true → start.variablePrefix ++ x ∈ start.reserved →
        x ∈ start.reserved := by
  constructor
  · intro h x hl hx
    refine Decidable.byContradiction fun hr => ?_
    have hf : start.isTaken (start.pool .var) x = false :=
      isTaken_eq_false.2 ⟨by simp [hu], hr⟩
    have ht := transcript_get_of_free hk hl hf
    refine h [.get x .var] ⟨.get x .var, .ok x⟩ ?_ x rfl hx
    simp [ht]
  · intro h requests e he x hx hr
    have hrec := recorded_transcript hk hu requests
    have hm := mem_allocations hrec.repeats he hx
    have hunreserved := hrec.unreserved _ hm
    cases ht : e.request.type with
    | var =>
      rw [ht] at hr
      exact hunreserved (h x (hrec.legal _ hm) hr)
    | procedure =>
      rw [ht] at hr
      have he : start.returned (.procedure, x) = x := String.empty_append
      rw [he] at hr
      exact hunreserved hr

/-- A legal identifier that is longer than every word of a list. -/
def longName (words : List String) : String :=
  String.ofList (List.replicate ((words.map String.length).sum + 1) '_')

theorem isLegal_longName (words : List String) : Name.isLegal (longName words) = true := by
  have h : ∀ n, Name.isLegalChars (List.replicate (n + 1) '_') = true := by
    intro n
    have hs : Name.startsLegal '_' = true := by decide
    have hw : Text.isAsciiWord '_' = true := by decide
    simp [List.replicate_succ, Name.isLegalChars, hs, hw]
  simp only [longName, Name.isLegal, String.toList_ofList, h]

theorem append_longName_not_mem (s : String) (words : List String) :
    s ++ longName words ∉ words := by
  intro h
  have hlong : (longName words).length = (words.map String.length).sum + 1 := by
    simp [longName]
  have hle : (s ++ longName words).length ≤ (words.map String.length).sum :=
    List.single_le_sum (fun n _ => Nat.zero_le n) _ (List.mem_map_of_mem h)
  rw [String.length_append] at hle
  omega

/-- With a lead that is not legal, no variable is handed out under the name of a procedure. -/
theorem lead_append_ne (hp : Name.isLegal start.variablePrefix = false) {x y : String}
    (hy : Name.isLegal y = true) (hxy : x ≠ y) : start.variablePrefix ++ x ≠ y := by
  rintro rfl
  by_cases he : start.variablePrefix = ""
  · rw [he, String.empty_append] at hxy
    exact hxy rfl
  · rw [Name.isLegal, String.toList_append] at hy
    have hl := Name.isLegalChars_of_append (by simpa using he) hy
    rw [Name.isLegal, hl] at hp
    cases hp

/-- With a legal lead there is a variable that is handed out under the name of a procedure. -/
theorem exists_clash (hk : start.known = []) (hu : start.used = [])
    (hs : start.sharedPool = true) (hp : Name.isLegal start.variablePrefix = true) :
    ∃ x, allocations (start.transcript
        [.get x .var, .distinct (start.variablePrefix ++ x) .procedure]).entries =
      [(.procedure, start.variablePrefix ++ x), (.var, x)] := by
  let x := longName start.reserved
  let y := start.variablePrefix ++ x
  refine ⟨x, ?_⟩
  have hx : Name.isLegal x = true := isLegal_longName _
  have hxr : x ∉ start.reserved := by
    have h := append_longName_not_mem "" start.reserved
    rwa [String.empty_append] at h
  have hy : Name.isLegal y = true := by
    rw [Name.isLegal, String.toList_append]
    exact Name.isLegalChars_append hp (Name.isLegalChars_word hx).2
  have hyr : y ∉ start.reserved := append_longName_not_mem _ _
  have hxy : y ≠ x := by
    intro he
    have hlist := congrArg String.toList he
    rw [String.toList_append] at hlist
    exact (Name.isLegalChars_word hp).1 (List.append_left_eq_self.1 hlist)
  have hfx : start.isTaken (start.pool .var) x = false :=
    isTaken_eq_false.2 ⟨by simp [hu], hxr⟩
  have hfirst := transcript_get_of_free hk hx hfx
  let a := (start.transcript [.get x .var]).allocator
  have hfy : a.isTaken (a.pool .procedure) y = false := by
    rw [isTaken_eq_false]
    simp only [a, hfirst, pool, hs, hu, if_true, List.mem_singleton, Prod.mk.injEq, true_and]
    exact ⟨hxy, hyr⟩
  have hsecond : (Request.distinct y .procedure).grant a = _ := distinct_of_free hy hfy
  change allocations ((start.transcript [.get x .var]).next (.distinct y .procedure)).entries = _
  simp only [Transcript.next, a, hsecond] at hsecond ⊢
  simp [hfirst, allocations, Entry.allocation?, keptBy, y]

theorem keepsApart_iff (hk : start.known = []) (hu : start.used = [])
    (hs : start.sharedPool = true) :
    start.KeepsApart ↔ Name.isLegal start.variablePrefix = false := by
  constructor
  · intro h
    by_contra hp
    obtain ⟨x, hx⟩ := exists_clash hk hu hs (by simpa using hp)
    have hc := h [.get x .var, .distinct (start.variablePrefix ++ x) .procedure]
    rw [hx] at hc
    refine (List.pairwise_cons.1 hc).1 (.var, x) List.mem_cons_self ?_
    exact String.empty_append
  · intro hp requests
    have hrec := recorded_transcript hk hu requests
    refine hrec.apart.imp_of_mem fun {p q} hpm hqm hpq => ?_
    have hpool : start.pool p.1 = start.pool q.1 := by simp [pool, hs]
    have hne := hpq hpool
    have hpl := hrec.legal p hpm
    have hql := hrec.legal q hqm
    obtain ⟨u, x⟩ := p
    obtain ⟨v, y⟩ := q
    cases u <;> cases v <;> simp only [returned, lead, String.empty_append]
    · exact fun he => hne (String.append_right_inj _ |>.1 he)
    · exact lead_append_ne hp hql hne
    · exact fun he => lead_append_ne hp hpl (Ne.symm hne) he.symm
    · exact hne

/-- A lead is safe with the reserved words exactly if it makes none of them out of an identifier
that is free, and safe in a shared pool exactly if it is not legal itself. -/
theorem returned_texts_clash_free_iff (reserved : List String) (sharedPool : Bool)
    (variablePrefix : String) (maxAttempts : Value) :
    (AvoidsReserved { reserved, sharedPool, variablePrefix, maxAttempts } ↔
      ∀ x, Name.isLegal x = true → variablePrefix ++ x ∈ reserved → x ∈ reserved) ∧
    (KeepsApart { reserved, sharedPool := true, variablePrefix, maxAttempts } ↔
      Name.isLegal variablePrefix = false) :=
  ⟨avoidsReserved_iff rfl rfl, keepsApart_iff rfl rfl rfl⟩

/-- With the lead `i` the variable `f` is handed out as the reserved word `if`, and with the lead
`v_` the variable `x` under the name of the procedure `v_x`. -/
theorem returned_texts_clash :
    ¬ AvoidsReserved { reserved := ["if"], variablePrefix := "i" } ∧
      ¬ KeepsApart { sharedPool := true, variablePrefix := "v_" } := by
  constructor
  · intro h
    have hr : (["if"] : List String).elem ("i" ++ "f") = true := by decide
    have hf := (avoidsReserved_iff rfl rfl).1 h "f" (by decide) (List.elem_iff.1 hr)
    exact absurd hf (by decide)
  · intro h
    have hp := (keepsApart_iff rfl rfl rfl).1 h
    exact absurd hp (by decide)

end BlockCode.Allocator
