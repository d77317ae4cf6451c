import BlockCode.Proofs.Run.Comments

namespace BlockCode

open Text

namespace Block

mutual

/-- The block and the blocks in value sockets below it, every block after those below it. -/
def postorder : Block → List Block
  | .mk head inputs statements next => socketPostorder inputs ++ [.mk head inputs statements next]

def socketPostorder : List (String × Option Block) → List Block
  | [] => []
  | (_, plug) :: rest => linkPostorder plug ++ socketPostorder rest

def linkPostorder : Option Block → List Block
  | none => []
  | some b => postorder b

end

/-- The comments to be put in front of a block, as far as they are not empty. -/
def notes (b : Block) : List String :=
  (b :: socketPostorder b.inputs).filterMap fun b => b.head.comment.note?

mutual

/-- The comments of a value socket are collected in this order. -/
theorem notes_valueComments : ∀ b : Block,
    (valueComments b).filterMap Value.note? =
      (postorder b).filterMap fun b => b.head.comment.note?
  | .mk head inputs statements next => by
    rw [valueComments, postorder, List.filterMap_append, List.filterMap_append,
      notes_socketComments inputs]
    refine congrArg (_ ++ ·) ?_
    cases hset : head.comment.isSet with
    | true => rfl
    | false => simp [Block.head, Value.note?_of_isSet hset]

theorem notes_socketComments : ∀ m : List (String × Option Block),
    (socketComments m).filterMap Value.note? =
      (socketPostorder m).filterMap fun b => b.head.comment.note?
  | [] => rfl
  | (_, plug) :: rest => by
    rw [socketComments, socketPostorder, List.filterMap_append, List.filterMap_append,
      notes_linkComments plug, notes_socketComments rest]

theorem notes_linkComments : ∀ x : Option Block,
    (linkComments x).filterMap Value.note? =
      (linkPostorder x).filterMap fun b => b.head.comment.note?
  | none => rfl
  | some b => notes_valueComments b

end

end Block

section Shows

variable {mark out : String}

theorem shows_of_isSet {comments : List Value} (h : Site.nestedLines mark comments = .ok out)
    (hset : ∀ v ∈ comments, v.isSet = true) : Shows mark (comments.filterMap Value.note?) out := by
  rcases Site.nestedLines_eq_ok h with ⟨rfl, rfl⟩ | ⟨texts, -, rfl, -⟩
  · exact shows_empty mark
  · have hnotes : (texts.map Value.text).filterMap Value.note? = texts := by
      rw [List.filterMap_map]
      refine (List.filterMap_congr fun text htext => ?_).trans List.filterMap_some
      have hne : (text != "") = true := hset _ (List.mem_map_of_mem htext)
      exact if_neg (bne_iff_ne.1 hne)
    rw [hnotes]
    exact shows_nestedLines h

/-- The comments in the value sockets, one socket after the other. -/
theorem shows_nested {inputs : List (String × Option Branch)} {nested : List String}
    (h : List.Forall₂
      (fun socket lines => Site.nestedLines mark (Branch.linkComments socket.2) = .ok lines)
      inputs nested)
    (hset : ∀ v ∈ inputs.flatMap fun socket => Branch.linkComments socket.2, v.isSet = true) :
    Shows mark ((inputs.flatMap fun socket => Branch.linkComments socket.2).filterMap Value.note?)
      (String.join nested) := by
  induction h with
  | nil => exact shows_empty mark
  | cons hsocket _ ih =>
    rw [List.flatMap_cons, List.forall_mem_append] at hset
    rw [List.flatMap_cons, List.filterMap_append, String.join_cons]
    exact (shows_of_isSet hsocket hset.1).append (ih hset.2)

theorem Block.shows_commentLines {rules : Rulebook} {b : Block}
    (h : (b.site rules).commentLines mark = .ok out) : Shows mark b.notes out := by
  rcases Site.commentLines_eq_ok h with ⟨hinline, -⟩ | ⟨own, nested, hown, hnested, rfl⟩
  · cases (b.site_inline rules).symm.trans hinline
  · have hset : ∀ v ∈ (b.site rules).inputs.flatMap fun socket => Branch.linkComments socket.2,
        v.isSet = true := by
      intro v hv
      rw [site_nested] at hv
      obtain ⟨p, -, -, hv⟩ := mem_socketComments b.inputs b v hv
      exact hv
    have hshows := (shows_ownComment hown).append (shows_nested hnested hset)
    rw [site_nested, notes_socketComments, site_head] at hshows
    rw [notes, List.filterMap_cons]
    cases hnote : b.head.comment.note? with
    | none => rwa [hnote] at hshows
    | some note => rwa [hnote] at hshows

end Shows

end BlockCode
