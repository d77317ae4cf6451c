import BlockCode.Proofs.Run.Helpers
import BlockCode.Proofs.Run.Reserved

namespace BlockCode

namespace Gen

variable {α β : Type} {I : Context → Prop} {s : Setting} {Q : α → Prop} {R : β → Prop}

/-- From a run that keeps the fact the action comes to a run that keeps it, and its answer has the
property. -/
def Ensures (I : Context → Prop) (s : Setting) (Q : α → Prop) (x : Gen α) : Prop :=
  ∀ r : Run, r.Keeps I → (exec x s r).2.Keeps I ∧ ∀ a, (exec x s r).1 = .ok a → Q a

namespace Ensures

theorem pure {a : α} (h : Q a) : Ensures I s Q (Pure.pure a) := by
  intro r hr
  refine ⟨hr, ?_⟩
  rintro _ ⟨⟩
  exact h

theorem throw (fault : Fault) : Ensures I s Q (MonadExcept.throw fault) :=
  fun _ hr => ⟨hr, fun _ h => nomatch h⟩

theorem ofExcept {x : Except Fault α} (h : ∀ a, x = .ok a → Q a) :
    Ensures I s Q (Gen.ofExcept x) := by
  intro r hr
  rw [exec_ofExcept]
  exact ⟨hr, h⟩

theorem any (x : Except Fault α) : Ensures I s (fun _ => True) (Gen.ofExcept x) :=
  .ofExcept fun _ _ => trivial

theorem option (site : Site) (field : String) (table : List (String × α)) :
    Ensures I s (fun found => ∃ word, (word, found) ∈ table) (site.option field table) :=
  .ofExcept fun _ h => BlockHead.mem_of_option h

theorem bind {x : Gen α} {f : α → Gen β} (hx : Ensures I s Q x)
    (hf : ∀ a, Q a → Ensures I s R (f a)) : Ensures I s R (x >>= f) := by
  intro r hr
  rw [exec_bind]
  obtain ⟨hkeeps, hanswer⟩ := hx r hr
  generalize exec x s r = result at hkeeps hanswer
  obtain ⟨fault | a, r'⟩ := result
  · exact ⟨hkeeps, fun _ h => nomatch h⟩
  · exact hf a (hanswer a rfl) r' hkeeps

theorem read_bind {f : Setting → Gen β} (h : Ensures I s R (f s)) : Ensures I s R (read >>= f) :=
  fun r hr => h r hr

theorem imp {x : Gen α} {Q' : α → Prop} (h : ∀ a, Q a → Q' a) (hx : Ensures I s Q x) :
    Ensures I s Q' x :=
  fun r hr => ⟨(hx r hr).1, fun a ha => h a ((hx r hr).2 a ha)⟩

theorem mapM {f : β → Gen α} (hf : ∀ b, Ensures I s Q (f b)) (l : List β) :
    Ensures I s (fun as => ∀ a ∈ as, Q a) (l.mapM f) := by
  induction l with
  | nil => exact .pure fun _ h => nomatch h
  | cons b l ih =>
    rw [List.mapM_cons]
    refine (hf b).bind fun a ha => ih.bind fun as has => .pure ?_
    exact List.forall_mem_cons.2 ⟨ha, has⟩

end Ensures

end Gen

namespace Context.Guarded

variable {s : Setting} {c c' : Context}

theorem provide_free (h : c.Guarded s) {key : Value} {template : List String} {x : String}
    {records : List LogRecord} (hp : c.provide key template = .ok (x, records, c')) :
    Name.isLegal x = true ∧ x ∉ s.reserved := by
  obtain ⟨id, -, ⟨hx, -⟩ | ⟨-, g, names, hd, rfl, -⟩⟩ := provide_eq_ok hp
  · exact h.helpers hx
  · exact h.distinct_free hd

end Context.Guarded

namespace Gen.Ensures

variable {s : Setting}

/-- Without a lead, identifiers are legal and not reserved. -/
theorem nameOf (hlead : s.config.variablePrefix = "") (type : NameType) (name : Value) :
    Ensures (Context.Guarded s) s (fun x => Name.isLegal x = true ∧ x ∉ s.reserved)
      (Gen.nameOf type name) := by
  intro r hr
  have hself := (Comparison.exact (Context.Guarded.kept s) Eq s).nameOf type name
  exact ⟨hself.keeps hr, fun _ h => nameOf_free hr hlead h⟩

theorem provide (key : Value) (template : List String) :
    Ensures (Context.Guarded s) s (fun x => Name.isLegal x = true ∧ x ∉ s.reserved)
      (Gen.provide key template) := by
  intro r hr
  have hself := (Comparison.exact (Context.Guarded.kept s) Eq s).provide key template
  refine ⟨hself.keeps hr, fun x hx => ?_⟩
  rw [Gen.provide, exec_step] at hx
  cases hc : r.context with
  | none =>
    rw [hc] at hx
    cases hx
  | some c =>
    rw [hc] at hx
    dsimp only at hx
    cases hp : c.provide key template with
    | error fault =>
      rw [hp] at hx
      cases hx
    | ok result =>
      rw [hp] at hx
      cases hx
      exact (hr c hc).provide_free hp

end Gen.Ensures

end BlockCode
