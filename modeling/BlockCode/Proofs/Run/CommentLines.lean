import BlockCode.Proofs.Run.Sites
import BlockCode.Proofs.Text.Closing

namespace BlockCode

open Text

theorem Value.eq_text_of_asText {v : Value} {text : String} (h : v.asText = .ok text) :
    v = .text text := by
  cases v <;> cases h
  rfl

namespace Site

variable {site : Site} {mark out : String}

theorem ownComment_eq_ok {comment : Value} (h : ownComment mark comment = .ok out) :
    comment.isSet = false ∧ out = "" ∨
      ∃ text, comment = .text text ∧ text ≠ "" ∧ out = leadLines mark text ++ "\n" := by
  unfold ownComment at h
  split at h
  · next hset =>
    obtain ⟨text, htext, h⟩ := exists_of_bind h
    obtain rfl := Value.eq_text_of_asText htext
    cases h
    exact .inr ⟨text, rfl, by simpa [Value.isSet] using hset, rfl⟩
  · next hset =>
    cases h
    exact .inl ⟨Bool.eq_false_iff.2 hset, rfl⟩

theorem nestedLines_eq_ok {comments : List Value} (h : nestedLines mark comments = .ok out) :
    comments = [] ∧ out = "" ∨ ∃ texts : List String, texts ≠ [] ∧ comments = texts.map Value.text ∧
      out = leadLines mark (String.join (texts.map (· ++ "\n"))) := by
  unfold nestedLines at h
  split at h
  · next hnone =>
    cases h
    exact .inl ⟨List.isEmpty_iff.1 hnone, rfl⟩
  · next hne =>
    obtain ⟨joined, hjoined, h⟩ := exists_of_bind h
    cases h
    unfold joinComments at hjoined
    rw [if_neg hne] at hjoined
    obtain ⟨texts, htexts, hjoined⟩ := exists_of_bind hjoined
    cases hjoined
    have hcomments : List.Forall₂ Eq comments (texts.map Value.text) := by
      rw [List.forall₂_map_right_iff]
      exact (forall₂_of_mapM htexts).imp fun _ _ ht => Value.eq_text_of_asText ht
    rw [List.forall₂_eq_eq_eq] at hcomments
    have htne : texts ≠ [] := by
      rintro rfl
      exact hne (by rw [hcomments]; rfl)
    exact .inr ⟨texts, htne, hcomments, by rw [intercalate_append "\n" htne]⟩

/-- The comments in front of a site: its own, then those in its value sockets. -/
theorem commentLines_eq_ok (h : site.commentLines mark = .ok out) :
    site.inline = true ∧ out = "" ∨ ∃ own nested, ownComment mark site.head.comment = .ok own ∧
      List.Forall₂ (fun socket lines => nestedLines mark (Branch.linkComments socket.2) = .ok lines)
        site.inputs nested ∧ out = own ++ String.join nested := by
  rw [commentLines_eq] at h
  split at h
  · next hinline =>
    cases h
    exact .inl ⟨hinline, rfl⟩
  · obtain ⟨own, hown, h⟩ := exists_of_bind h
    obtain ⟨nested, hnested, h⟩ := exists_of_bind h
    cases h
    have hsockets := forall₂_of_mapM hnested
    rw [List.forall₂_map_left_iff] at hsockets
    exact .inr ⟨own, nested, hown, hsockets, rfl⟩

end Site

/-- The comments in front of a site: its own and those in its value sockets. -/
def Site.comments (site : Site) : List Value :=
  site.head.comment :: site.inputs.flatMap fun socket => Branch.linkComments socket.2

/-- The text, if the value is one and is not empty. -/
def Value.note? : Value → Option String
  | .text s => if s = "" then none else some s
  | _ => none

theorem Value.note?_of_isSet {v : Value} (h : v.isSet = false) : v.note? = none := by
  cases v with
  | text s => simpa [isSet, note?] using h
  | _ => rfl

theorem Value.eq_text_of_note? {v : Value} {text : String} (h : v.note? = some text) :
    v = .text text := by
  cases v with
  | text s => simp_all [note?]
  | _ => cases h

/-- Whole lines: the lines of the notes in their order, each of them once and behind the mark. Only an
empty line may do without it. The mark has to be one line itself. -/
structure Shows (mark : String) (notes : List String) (out : String) : Prop where
  closed : Closed out
  marked : '\n' ∉ mark.toList →
    List.Forall₂ (fun shown line => shown = mark.toList ++ line ∨ line = [] ∧ shown = [])
      (lines out.toList) (notes.flatMap fun note => lines (note ++ "\n").toList)

section Shows

variable {mark out rest : String} {notes more : List String}

theorem shows_empty (mark : String) : Shows mark [] "" :=
  ⟨closed_empty, fun _ => .nil⟩

theorem Shows.append (h : Shows mark notes out) (hrest : Shows mark more rest) :
    Shows mark (notes ++ more) (out ++ rest) := by
  refine ⟨h.closed.append hrest.closed, fun hm => ?_⟩
  rw [h.closed.lines_append, List.flatMap_append]
  exact List.rel_append (h.marked hm) (hrest.marked hm)

theorem shows_ownComment {comment : Value} (h : Site.ownComment mark comment = .ok out) :
    Shows mark comment.note?.toList out := by
  rcases Site.ownComment_eq_ok h with ⟨hset, rfl⟩ | ⟨text, rfl, hne, rfl⟩
  · rw [Value.note?_of_isSet hset]
    exact shows_empty mark
  · have hnote : (Value.text text).note? = some text := if_neg hne
    refine ⟨(endsLine_newline _).closed, fun hm => ?_⟩
    rw [hnote, Option.toList_some, List.flatMap_singleton]
    by_cases hends : EndsLine text
    · -- a comment that ends with a newline leaves an empty line behind it
      rw [(closed_leadLines mark hends).closed.lines_append, hends.closed.lines_append,
        lines_leadLines_map hm hends.closed hne]
      refine List.rel_append ?_ (.cons (.inr ⟨rfl, rfl⟩) .nil)
      exact List.forall₂_map_left_iff.2 (List.forall₂_same.2 fun line _ => .inl rfl)
    · rw [← leadLines_newline mark hends, lines_leadLines_map hm (endsLine_newline text).closed
        (endsLine_newline text).ne_empty]
      exact List.forall₂_map_left_iff.2 (List.forall₂_same.2 fun line _ => .inl rfl)

theorem shows_nestedLines {texts : List String}
    (h : Site.nestedLines mark (texts.map Value.text) = .ok out) : Shows mark texts out := by
  rcases Site.nestedLines_eq_ok h with ⟨hnone, rfl⟩ | ⟨others, hne, hothers, rfl⟩
  · rw [List.map_eq_nil_iff.1 hnone]
    exact shows_empty mark
  · obtain rfl : texts = others := List.map_injective_iff.2 (fun _ _ => Value.text.inj) hothers
    have hpieces : ∀ piece ∈ texts.map (· ++ "\n"), Closed piece := by
      intro piece hpiece
      obtain ⟨text, -, rfl⟩ := List.mem_map.1 hpiece
      exact (endsLine_newline text).closed
    have hclosed : Closed (String.join (texts.map (· ++ "\n"))) := closed_join hpieces
    have hjoined : String.join (texts.map (· ++ "\n")) ≠ "" := by
      obtain ⟨text, texts, rfl⟩ := List.exists_cons_of_ne_nil hne
      simp [String.append_eq_empty_iff]
    refine ⟨(closed_leadLines mark (hclosed.resolve_left hjoined)).closed, fun hm => ?_⟩
    rw [lines_leadLines_map hm hclosed hjoined, lines_join hpieces, List.flatMap_map]
    exact List.forall₂_map_left_iff.2 (List.forall₂_same.2 fun line _ => .inl rfl)

end Shows

/-- A line of one of the comments behind the mark, or a bare line. -/
def MarkedLine (mark : String) (comments : List Value) (l : List Char) : Prop :=
  isBare l = true ∨ ∃ text, Value.text text ∈ comments ∧
    ∃ line ∈ lines (text ++ "\n").toList, l = mark.toList ++ line

/-- Whole lines of comments; the mark has to be one line for each of them to be marked. -/
structure Marks (mark : String) (comments : List Value) (out : String) : Prop where
  closed : Closed out
  marked : '\n' ∉ mark.toList → ∀ l ∈ lines out.toList, MarkedLine mark comments l

section Marks

variable {mark : String} {comments more : List Value} {out rest : String}

theorem marks_empty (mark : String) (comments : List Value) : Marks mark comments "" :=
  ⟨closed_empty, fun _ _ hl => nomatch hl⟩

theorem Marks.mono (h : Marks mark comments out) (hsub : comments ⊆ more) : Marks mark more out := by
  refine ⟨h.closed, fun hm l hl => ?_⟩
  rcases h.marked hm l hl with hbare | ⟨text, htext, hline⟩
  · exact .inl hbare
  · exact .inr ⟨text, hsub htext, hline⟩

theorem Marks.append (h : Marks mark comments out) (hrest : Marks mark comments rest) :
    Marks mark comments (out ++ rest) := by
  refine ⟨h.closed.append hrest.closed, fun hm l hl => ?_⟩
  rw [h.closed.lines_append, List.mem_append] at hl
  exact hl.elim (h.marked hm l) (hrest.marked hm l)

theorem Shows.marks {notes : List String} (h : Shows mark notes out)
    (hnotes : ∀ note ∈ notes, Value.text note ∈ comments) : Marks mark comments out := by
  refine ⟨h.closed, fun hm l hl => ?_⟩
  have hlines := h.marked hm
  obtain ⟨i, hi, rfl⟩ := List.getElem_of_mem hl
  have hi' := hlines.length_eq ▸ hi
  rcases hlines.get hi hi' with hshown | ⟨-, hempty⟩
  · obtain ⟨note, hnote, hline⟩ := List.mem_flatMap.1 (List.get_mem _ ⟨i, hi'⟩)
    exact .inr ⟨note, hnotes note hnote, _, hline, hshown⟩
  · have hbare : isBare ((lines out.toList).get ⟨i, hi⟩) = true := by
      rw [hempty]
      rfl
    exact .inl hbare

theorem Site.ownComment_marks {comment : Value} (h : ownComment mark comment = .ok out) :
    Marks mark [comment] out := by
  refine (shows_ownComment h).marks fun note hnote => ?_
  rw [Option.mem_toList] at hnote
  rw [Value.eq_text_of_note? hnote]
  exact List.mem_singleton_self _

theorem Site.nestedLines_marks (h : nestedLines mark comments = .ok out) :
    Marks mark comments out := by
  rcases nestedLines_eq_ok h with ⟨-, rfl⟩ | ⟨texts, -, rfl, -⟩
  · exact marks_empty mark _
  · exact (shows_nestedLines h).marks fun note hnote => List.mem_map_of_mem hnote

/-- The lines of the comments in the value sockets. -/
theorem Site.nested_marks {inputs : List (String × Option Branch)} {nested : List String}
    (h : List.Forall₂ (fun socket lines => nestedLines mark (Branch.linkComments socket.2) = .ok lines)
      inputs nested) (hsub : ∀ socket ∈ inputs, Branch.linkComments socket.2 ⊆ comments) :
    Marks mark comments (String.join nested) := by
  induction h with
  | nil => exact marks_empty mark _
  | cons hsocket _ ih =>
    rw [List.forall_mem_cons] at hsub
    rw [String.join_cons]
    exact ((nestedLines_marks hsocket).mono hsub.1).append (ih hsub.2)

theorem Site.commentLines_marks {site : Site} (h : site.commentLines mark = .ok out) :
    Marks mark site.comments out := by
  rcases commentLines_eq_ok h with ⟨-, rfl⟩ | ⟨own, nested, hown, hnested, rfl⟩
  · exact marks_empty mark _
  · have hfirst : Marks mark site.comments own :=
      (ownComment_marks hown).mono (by simp [Site.comments])
    refine hfirst.append (nested_marks hnested fun socket hsocket v hv => ?_)
    exact List.mem_cons_of_mem _ (List.mem_flatMap.2 ⟨socket, hsocket, hv⟩)

/-- Comments that are texts can be written. -/
theorem Site.exists_commentLines {site : Site} (mark : String)
    (hown : site.head.comment.isSet = true → ∃ text, site.head.comment = .text text)
    (hnested : ∀ v ∈ site.inputs.flatMap fun socket => Branch.linkComments socket.2,
      ∃ text, v = .text text) : ∃ out, site.commentLines mark = .ok out := by
  have hfirst : ∃ own, ownComment mark site.head.comment = .ok own := by
    unfold ownComment
    split
    · next hset =>
      obtain ⟨text, htext⟩ := hown hset
      rw [htext]
      exact ⟨_, rfl⟩
    · exact ⟨"", rfl⟩
  have hrest : ∃ nested, (site.inputs.map fun socket => Branch.linkComments socket.2).mapM
      (nestedLines mark) = .ok nested := by
    refine exists_mapM fun comments hcomments => ?_
    obtain ⟨socket, hsocket, rfl⟩ := List.mem_map.1 hcomments
    have htexts : ∃ texts, (Branch.linkComments socket.2).mapM Value.asText = .ok texts := by
      refine exists_mapM fun v hv => ?_
      obtain ⟨text, rfl⟩ := hnested v (List.mem_flatMap.2 ⟨socket, hsocket, hv⟩)
      exact ⟨text, rfl⟩
    obtain ⟨texts, htexts⟩ := htexts
    unfold nestedLines joinComments
    rw [htexts]
    split
    · exact ⟨_, rfl⟩
    · exact ⟨_, rfl⟩
  obtain ⟨own, hown⟩ := hfirst
  obtain ⟨nested, hnested⟩ := hrest
  rw [commentLines_eq, hown, hnested]
  split
  · exact ⟨_, rfl⟩
  · exact ⟨_, rfl⟩

end Marks

namespace Site

theorem join_of_none {mark : String} {inputs : List (String × Option Branch)} {nested : List String}
    (h : List.Forall₂ (fun socket lines => nestedLines mark (Branch.linkComments socket.2) = .ok lines)
      inputs nested) (hnone : ∀ socket ∈ inputs, Branch.linkComments socket.2 = []) :
    String.join nested = "" := by
  induction h with
  | nil => rfl
  | cons hsocket _ ih =>
    rw [List.forall_mem_cons] at hnone
    rw [hnone.1] at hsocket
    rw [String.join_cons, ih hnone.2, ← Except.ok.inj hsocket]
    rfl

/-- A site without comments has no comment lines. -/
theorem commentLines_of_none {site : Site} (mark : String)
    (hown : site.head.comment.isSet = false)
    (hnested : (site.inputs.flatMap fun socket => Branch.linkComments socket.2) = []) :
    site.commentLines mark = .ok "" := by
  obtain ⟨out, hout⟩ := site.exists_commentLines mark (by simp [hown])
    (by simp [hnested])
  rcases commentLines_eq_ok hout with ⟨-, rfl⟩ | ⟨own, nested, hfirst, hrest, rfl⟩
  · exact hout
  · rw [ownComment, hown] at hfirst
    have hempty : "" = own := Except.ok.inj hfirst
    rw [hout, ← hempty, join_of_none hrest (List.flatMap_eq_nil_iff.1 hnested),
      String.empty_append]

end Site

end BlockCode
