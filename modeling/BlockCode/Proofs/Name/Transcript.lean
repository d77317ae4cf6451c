import BlockCode.Proofs.Name.Allocation

namespace BlockCode.Allocator

inductive Request where
  | get (name : String) (type : NameType)
  | distinct (name : String) (type : NameType)
  deriving DecidableEq

namespace Request

def type : Request → NameType
  | .get _ type => type
  | .distinct _ type => type

/-- The identifier without its lead, and the allocator afterwards. -/
def grant (a : Allocator) : Request → Except Fault (Grant × Allocator)
  | .get name type => a.get (.text name) type
  | .distinct name type => a.distinct (.text name) type

end Request

/-- A request and the answer to it, which is an identifier without its lead. -/
structure Entry where
  request : Request
  answer : Except Fault String

/-- The entries so far, the latest first, and the allocator that the next request goes to. -/
structure Transcript where
  entries : List Entry
  allocator : Allocator

/-- A request that fails leaves the allocator as it was. -/
def Transcript.next (t : Transcript) (q : Request) : Transcript :=
  match q.grant t.allocator with
  | .ok (g, a) => ⟨⟨q, .ok g.chosen⟩ :: t.entries, a⟩
  | .error fault => ⟨⟨q, .error fault⟩ :: t.entries, t.allocator⟩

def transcript (a : Allocator) (requests : List Request) : Transcript :=
  requests.foldl Transcript.next ⟨[], a⟩

/-- The identifier that a name got when it was requested with a type, if it ever was. -/
def keptBy (name : String) (type : NameType) : List Entry → Option String
  | [] => none
  | ⟨.get n t, .ok x⟩ :: earlier =>
    if n = name ∧ t = type then some x else keptBy name type earlier
  | _ :: earlier => keptBy name type earlier

/-- The identifier that an entry allocates: one that has to be distinct always is a new one, one
for a name only if the name has none yet. -/
def Entry.allocation? (e : Entry) (earlier : List Entry) : Option (NameType × String) :=
  match e.request, e.answer with
  | .distinct _ type, .ok x => some (type, x)
  | .get name type, .ok x => if (keptBy name type earlier).isNone then some (type, x) else none
  | _, .error _ => none

/-- The identifiers allocated so far with their types, the latest first. -/
def allocations : List Entry → List (NameType × String)
  | [] => []
  | e :: earlier => (e.allocation? earlier).toList ++ allocations earlier

/-- Two allocations clash if they gave one identifier twice in a pool. -/
def Apart (a : Allocator) (p q : NameType × String) : Prop :=
  a.pool p.1 = a.pool q.1 → p.2 ≠ q.2

/-- A name that got an identifier gets it again. -/
def Entry.Repeats (later earlier : Entry) : Prop :=
  ∀ name type x, earlier = ⟨.get name type, .ok x⟩ → later.request = .get name type →
    later.answer = .ok x

/-- What the entries say about the allocator, and about each other. -/
structure Recorded (start : Allocator) (t : Transcript) : Prop where
  allocator_eq : t.allocator = { start with known := t.allocator.known, used := t.allocator.used }
  used_eq : t.allocator.used = (allocations t.entries).map fun p => (start.pool p.1, p.2)
  known_eq : ∀ name type, Entries.get? (.text name, type) t.allocator.known =
    keptBy name type t.entries
  apart : (allocations t.entries).Pairwise start.Apart
  unreserved : ∀ p ∈ allocations t.entries, p.2 ∉ start.reserved
  legal : ∀ p ∈ allocations t.entries, Name.isLegal p.2 = true
  repeats : t.entries.Pairwise Entry.Repeats

variable {start : Allocator} {t : Transcript}

namespace Recorded

theorem pool_eq (h : Recorded start t) (type : NameType) :
    t.allocator.pool type = start.pool type := by
  rw [h.allocator_eq]
  rfl

theorem mem_used (h : Recorded start t) {type : NameType} {x : String} :
    (start.pool type, x) ∈ t.allocator.used ↔
      ∃ p ∈ allocations t.entries, start.pool p.1 = start.pool type ∧ p.2 = x := by
  rw [h.used_eq, List.mem_map]
  simp only [Prod.mk.injEq]

/-- An identifier that is free differs from those allocated before and from the reserved words. -/
theorem apart_of_free (h : Recorded start t) {type : NameType} {x : String}
    (hf : t.allocator.isTaken (t.allocator.pool type) x = false) :
    (∀ p ∈ allocations t.entries, start.Apart (type, x) p) ∧ x ∉ start.reserved := by
  rw [isTaken_eq_false, h.pool_eq, h.mem_used, h.allocator_eq] at hf
  refine ⟨fun p hp hpool he => ?_, hf.2⟩
  exact hf.1 ⟨p, hp, hpool.symm, he.symm⟩

/-- The latest answer for a name is the answer of every request for it. -/
theorem keptBy_eq_of_mem {entries : List Entry} (h : entries.Pairwise Entry.Repeats)
    {name : String} {type : NameType} {x : String}
    (hm : ⟨.get name type, .ok x⟩ ∈ entries) : keptBy name type entries = some x := by
  induction entries with
  | nil => cases hm
  | cons e earlier ih =>
    obtain ⟨he, ht⟩ := List.pairwise_cons.1 h
    rcases List.mem_cons.1 hm with rfl | hearlier
    · simp [keptBy]
    · have hx := ih ht hearlier
      obtain ⟨q, answer⟩ := e
      by_cases hq : q = .get name type
      · have ha := he _ hearlier name type x rfl hq
        subst hq
        cases ha
        simp [keptBy]
      · cases q with
        | distinct n u => exact hx
        | get n u =>
          cases answer with
          | error fault => exact hx
          | ok y =>
            have hne : ¬ (n = name ∧ u = type) := fun hc => hq (by rw [hc.1, hc.2])
            simp only [keptBy, if_neg hne]
            exact hx

/-- A name with an identifier is answered from what is known, and nothing changes. -/
theorem grant_of_keptBy (h : Recorded start t) {name : String} {type : NameType} {x : String}
    (hx : keptBy name type t.entries = some x) :
    (Request.get name type).grant t.allocator = .ok (⟨x, x⟩, t.allocator) := by
  rw [← h.known_eq] at hx
  exact get_of_known rfl hx

theorem repeats_cons (h : Recorded start t) {q : Request} {answer : Except Fault String}
    (hq : ∀ name type x, q = .get name type → keptBy name type t.entries = some x →
      answer = .ok x) :
    (⟨q, answer⟩ :: t.entries).Pairwise Entry.Repeats := by
  refine List.pairwise_cons.2 ⟨?_, h.repeats⟩
  rintro e he name type x rfl hr
  exact hq name type x hr (keptBy_eq_of_mem h.repeats he)

theorem next_error (h : Recorded start t) {q : Request} {fault : Fault}
    (hg : q.grant t.allocator = .error fault) :
    Recorded start ⟨⟨q, .error fault⟩ :: t.entries, t.allocator⟩ := by
  have ha : allocations (⟨q, .error fault⟩ :: t.entries) = allocations t.entries := by
    cases q <;> rfl
  have hk : ∀ name type, keptBy name type (⟨q, .error fault⟩ :: t.entries) =
      keptBy name type t.entries := by
    intro name type
    cases q <;> rfl
  refine ⟨h.allocator_eq, ?_, ?_, ?_, ?_, ?_, ?_⟩
  · simp only [ha, h.used_eq]
  · intro name type
    rw [hk]
    exact h.known_eq name type
  · rw [ha]
    exact h.apart
  · rw [ha]
    exact h.unreserved
  · rw [ha]
    exact h.legal
  · apply h.repeats_cons
    rintro name type x rfl hx
    rw [h.grant_of_keptBy hx] at hg
    cases hg

/-- An entry that allocates an identifier, where `known` is what the allocator knows afterwards. -/
theorem next_allocation (h : Recorded start t) {q : Request} {x : String}
    {known : List ((Key × NameType) × String)}
    (hl : Name.isLegal x = true)
    (hf : t.allocator.isTaken (t.allocator.pool q.type) x = false)
    (ha : allocations (⟨q, .ok x⟩ :: t.entries) = (q.type, x) :: allocations t.entries)
    (hk : ∀ name type, Entries.get? (.text name, type) known =
      keptBy name type (⟨q, .ok x⟩ :: t.entries))
    (hq : ∀ name type, q = .get name type → keptBy name type t.entries = none) :
    Recorded start ⟨⟨q, .ok x⟩ :: t.entries,
      { t.allocator with
        used := (t.allocator.pool q.type, x) :: t.allocator.used
        known }⟩ := by
  obtain ⟨hp, hr⟩ := h.apart_of_free hf
  refine ⟨?_, ?_, hk, ?_, ?_, ?_, ?_⟩
  · rw [h.allocator_eq]
  · simp only [ha, List.map_cons, h.used_eq, h.pool_eq]
  · rw [ha]
    exact List.pairwise_cons.2 ⟨hp, h.apart⟩
  · rw [ha]
    exact List.forall_mem_cons.2 ⟨hr, h.unreserved⟩
  · rw [ha]
    exact List.forall_mem_cons.2 ⟨hl, h.legal⟩
  · apply h.repeats_cons
    intro name type y he hy
    rw [hq name type he] at hy
    cases hy

/-- An entry that repeats what its name already has. -/
theorem next_repeat (h : Recorded start t) {name : String} {type : NameType} {x : String}
    (hx : keptBy name type t.entries = some x) :
    Recorded start ⟨⟨.get name type, .ok x⟩ :: t.entries, t.allocator⟩ := by
  have ha : allocations (⟨.get name type, .ok x⟩ :: t.entries) = allocations t.entries := by
    simp [allocations, Entry.allocation?, hx]
  refine ⟨h.allocator_eq, ?_, ?_, ?_, ?_, ?_, ?_⟩
  · simp only [ha, h.used_eq]
  · intro n u
    rw [h.known_eq]
    simp only [keptBy]
    by_cases hn : name = n ∧ type = u
    · rw [if_pos hn, ← hn.1, ← hn.2, hx]
    · rw [if_neg hn]
  · rw [ha]
    exact h.apart
  · rw [ha]
    exact h.unreserved
  · rw [ha]
    exact h.legal
  · apply h.repeats_cons
    rintro n u y he hy
    cases he
    rw [hx] at hy
    rw [Option.some.inj hy]

theorem next (h : Recorded start t) (q : Request) : Recorded start (t.next q) := by
  unfold Transcript.next
  cases hg : q.grant t.allocator with
  | error fault => exact h.next_error hg
  | ok r =>
    obtain ⟨g, a⟩ := r
    cases q with
    | distinct name type =>
      obtain ⟨hl, hf, rfl⟩ := distinct_eq_ok hg
      exact h.next_allocation hl hf rfl h.known_eq (by intro _ _ he; cases he)
    | get name type =>
      obtain ⟨key, hkey, hcase⟩ := get_eq_ok hg
      cases hkey
      rw [h.known_eq] at hcase
      rcases hcase with ⟨hx, rfl⟩ | ⟨hx, mid, hd, rfl⟩
      · exact h.next_repeat hx
      · obtain ⟨hl, hf, rfl⟩ := distinct_eq_ok hd
        refine h.next_allocation hl hf ?_ ?_ ?_
        · simp [allocations, Entry.allocation?, hx, Request.type]
        · intro n u
          simp only [Entries.get?_put, keptBy, h.known_eq, Prod.mk.injEq, Key.text.injEq]
        · intro n u he
          cases he
          exact hx

theorem start_of_empty (hk : start.known = []) (hu : start.used = []) :
    Recorded start ⟨[], start⟩ := by
  refine ⟨rfl, hu, ?_, List.Pairwise.nil, ?_, ?_, List.Pairwise.nil⟩
  · intro name type
    simp only [hk]
    rfl
  · intro p hp
    cases hp
  · intro p hp
    cases hp

theorem foldl (h : Recorded start t) (requests : List Request) :
    Recorded start (requests.foldl Transcript.next t) := by
  induction requests generalizing t with
  | nil => exact h
  | cons q rest ih => exact ih (h.next q)

end Recorded

theorem recorded_transcript (hk : start.known = []) (hu : start.used = [])
    (requests : List Request) : Recorded start (start.transcript requests) :=
  (Recorded.start_of_empty hk hu).foldl requests

theorem isUsedLabelled_label (a : Allocator) (x : String) (type : NameType) :
    a.isUsedLabelled (.text x) (.text type.label) = .ok (decide ((a.pool type, x) ∈ a.used)) := by
  unfold isUsedLabelled pool
  cases hs : a.sharedPool <;> cases type <;> rfl

/-- Over any run of requests: the identifiers allocated in one pool differ, none is reserved, all
are legal, a name keeps its first identifier, and exactly the allocated identifiers are in use. -/
theorem transcript_keeps_names_apart (reserved : List String) (sharedPool : Bool)
    (variablePrefix : String) (maxAttempts : Value) (requests : List Request) :
    let start : Allocator := { reserved, sharedPool, variablePrefix, maxAttempts }
    let t := start.transcript requests
    (allocations t.entries).Pairwise start.Apart ∧
      (∀ p ∈ allocations t.entries, p.2 ∉ reserved) ∧
      (∀ p ∈ allocations t.entries, Name.isLegal p.2 = true) ∧
      t.entries.Pairwise Entry.Repeats ∧
      ∀ x type, t.allocator.isUsedLabelled (.text x) (.text type.label) =
        .ok (decide (∃ p ∈ allocations t.entries, start.pool p.1 = start.pool type ∧ p.2 = x)) := by
  intro start t
  have h : Recorded start t := recorded_transcript rfl rfl requests
  refine ⟨h.apart, h.unreserved, h.legal, h.repeats, fun x type => ?_⟩
  rw [isUsedLabelled_label, h.pool_eq]
  exact congrArg Except.ok (decide_eq_decide.2 h.mem_used)

end BlockCode.Allocator
