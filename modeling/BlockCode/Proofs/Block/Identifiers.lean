import BlockCode.Proofs.Block.Document
import BlockCode.Proofs.Run.Exhaustion

namespace BlockCode

theorem numberedId_injective : Function.Injective numberedId :=
  Allocator.numbered_injective "block"

namespace Draft

/-- How many of the heads wait for a number. -/
def unnamed (heads : List DraftHead) : Nat :=
  heads.countP fun head => head.id.isNone

/-- The identifiers of blocks: those that the heads have, and a number for each of the others. -/
def identifiers (heads : List DraftHead) (n : Nat) : List String :=
  heads.filterMap DraftHead.id ++ (List.range' n (unnamed heads)).map numberedId

/-- Blocks made from heads, where `n` is the first free number before and `next` the first after. -/
structure Builds (heads : List DraftHead) (n : Nat) (blocks : List Block.Placed) (next : Nat) :
    Prop where
  made : List.Forall₂ (fun head placed => ∃ inValueSocket id,
    placed.block.head = headAt inValueSocket head id) heads blocks
  next_eq : next = n + unnamed heads
  ids : (blocks.map fun placed => placed.block.head.id).Perm
    ((identifiers heads n).map Value.text)

namespace Builds

variable {heads others : List DraftHead} {n m next : Nat} {blocks more : List Block.Placed}

theorem nil (n : Nat) : Builds [] n [] n :=
  ⟨.nil, rfl, .nil⟩

theorem append (h : Builds heads n blocks m) (hm : Builds others m more next) :
    Builds (heads ++ others) n (blocks ++ more) next where
  made := List.rel_append h.made hm.made
  next_eq := by
    rw [hm.next_eq, h.next_eq, unnamed, unnamed, unnamed, List.countP_append, Nat.add_assoc]
  ids := by
    have hnumbers : identifiers (heads ++ others) n =
        heads.filterMap DraftHead.id ++ others.filterMap DraftHead.id ++
          ((List.range' n (unnamed heads)).map numberedId ++
            (List.range' m (unnamed others)).map numberedId) := by
      rw [identifiers, unnamed, List.countP_append, ← unnamed, ← unnamed, ← List.range'_append_1,
        ← h.next_eq, List.filterMap_append, List.map_append]
    rw [List.map_append, hnumbers]
    refine (h.ids.append hm.ids).trans ?_
    rw [← List.map_append]
    refine List.Perm.map _ (List.perm_iff_count.2 fun id => ?_)
    simp only [identifiers, List.count_append]
    omega

/-- A block takes its number after all blocks below it. -/
theorem cons (h : Builds heads n blocks m) (head : DraftHead) {placed : Block.Placed}
    {inValueSocket : Bool}
    (hplaced : placed.block.head = headAt inValueSocket head (BlockHead.identify head.id m).1) :
    Builds (head :: heads) n (placed :: blocks) (BlockHead.identify head.id m).2 := by
  have hid : placed.block.head.id = .text (BlockHead.identify head.id m).1 := by rw [hplaced]; rfl
  have hfront : ((placed :: blocks).map fun placed => placed.block.head.id).Perm
      (((BlockHead.identify head.id m).1 :: identifiers heads n).map Value.text) := by
    rw [List.map_cons, hid, List.map_cons]
    exact h.ids.cons _
  cases hgiven : head.id with
  | some id =>
    have hcount : unnamed (head :: heads) = unnamed heads := by simp [unnamed, hgiven]
    rw [hgiven] at hfront hplaced
    refine ⟨.cons ⟨_, _, hplaced⟩ h.made, ?_, ?_⟩
    · rw [hcount]
      exact h.next_eq
    · rw [identifiers, hcount, List.filterMap_cons_some hgiven]
      exact hfront
  | none =>
    have hcount : unnamed (head :: heads) = unnamed heads + 1 := by simp [unnamed, hgiven]
    rw [hgiven] at hfront hplaced
    refine ⟨.cons ⟨_, _, hplaced⟩ h.made, ?_, hfront.trans (List.Perm.map _ ?_)⟩
    · rw [hcount]
      exact congrArg (· + 1) h.next_eq
    · rw [identifiers, identifiers, hcount, List.filterMap_cons_none hgiven, List.range'_1_concat,
        List.map_append, ← List.append_assoc, ← h.next_eq]
      exact (List.perm_append_singleton _ _).symm

end Builds

mutual

theorem toBlock_builds : ∀ (draft : Draft) (inValueSocket : Bool) (n : Nat) (parent : Option Block)
    (inline : Bool),
    Builds draft.heads n (Block.descendantsAt parent inline (toBlock inValueSocket n draft).1)
      (toBlock inValueSocket n draft).2
  | .mk head inputs statements next, inValueSocket, n, parent, inline => by
    have hbelow (here : Block) := ((toSockets_builds inputs true n here true).append
      (toSockets_builds statements false (toSockets true n inputs).2 here false)).append
      (toLink_builds next false _ here false)
    exact (hbelow _).cons head rfl

theorem toSockets_builds : ∀ (m : List (String × Option Draft)) (inValueSocket : Bool) (n : Nat)
    (parent : Block) (inline : Bool),
    Builds (socketHeads m) n
      (Block.socketDescendants parent inline (toSockets inValueSocket n m).1)
      (toSockets inValueSocket n m).2
  | [], _, n, _, _ => .nil n
  | (_, plug) :: rest, inValueSocket, n, parent, inline =>
    (toLink_builds plug inValueSocket n parent inline).append
      (toSockets_builds rest inValueSocket _ parent inline)

theorem toLink_builds : ∀ (link : Option Draft) (inValueSocket : Bool) (n : Nat) (parent : Block)
    (inline : Bool),
    Builds (linkHeads link) n (Block.linkDescendants parent inline (toLink inValueSocket n link).1)
      (toLink inValueSocket n link).2
  | none, _, n, _, _ => .nil n
  | some draft, inValueSocket, n, parent, inline =>
    toBlock_builds draft inValueSocket n (some parent) inline

end

theorem toBlocks_builds (drafts : List Draft) (n : Nat) :
    Builds (drafts.flatMap heads) n ((toBlocks n drafts).1.flatMap Block.descendants)
      (toBlocks n drafts).2 := by
  induction drafts generalizing n with
  | nil => exact .nil n
  | cons draft rest ih =>
    rw [List.flatMap_cons]
    exact (toBlock_builds draft false n none false).append (ih _)

end Draft

namespace Snapshot

/-- Where no draft has the identifier of another one, all blocks have identifiers of their own just if
none that a draft has is one of the numbers that the others take. -/
theorem built_ids_distinct_iff {drafts : List Draft} {listed : Option (List String)} {n next : Nat}
    {ws : Workspace} (hbuild : build drafts listed n = (.ok ws, next))
    (hgiven : ((drafts.flatMap Draft.heads).filterMap DraftHead.id).Nodup) :
    next = n + Draft.unnamed (drafts.flatMap Draft.heads) ∧
      ((ws.blocks.map fun placed => placed.block.head.id).Nodup ↔
        ∀ k, n ≤ k → k < next →
          numberedId k ∉ (drafts.flatMap Draft.heads).filterMap DraftHead.id) := by
  obtain ⟨found, htop, -, -⟩ := build_eq_ok hbuild
  have hbuilds := Draft.toBlocks_builds drafts n
  rw [htop] at hbuilds
  have hnext := hbuilds.next_eq
  have hids : (ws.blocks.map fun placed => placed.block.head.id).Perm
      ((Draft.identifiers (drafts.flatMap Draft.heads) n).map Value.text) := hbuilds.ids
  have htext : Function.Injective Value.text := fun _ _ h => Value.text.inj h
  have hnumbers : ((List.range' n (Draft.unnamed (drafts.flatMap Draft.heads))).map
      numberedId).Nodup :=
    (List.nodup_range' 1).map numberedId_injective
  refine ⟨hnext, ?_⟩
  rw [hids.nodup_iff, List.nodup_map_iff htext, Draft.identifiers, List.nodup_append']
  constructor
  · rintro ⟨-, -, hapart⟩ k hn hk hmem
    refine hapart hmem (List.mem_map_of_mem ?_)
    rw [List.mem_range'_1]
    omega
  · intro hfree
    refine ⟨hgiven, hnumbers, fun id hid hnumber => ?_⟩
    obtain ⟨k, hk, rfl⟩ := List.mem_map.1 hnumber
    rw [List.mem_range'_1] at hk
    exact hfree k hk.1 (by omega) hid

/-- The identifiers that a document gives to its blocks. -/
def givenIds (document : Value) : List String :=
  (blockTables document).filterMap givenId

/-- How many blocks of a document are given none. -/
def unnamed (document : Value) : Nat :=
  (blockTables document).countP fun entries => (givenId entries).isNone

/-- The drafts of a document have the identifiers that it gives. -/
theorem ids_contents {document : Value} {drafts : List Draft} {listed : Option (List String)}
    (h : contents document = .good (drafts, listed)) :
    (drafts.flatMap Draft.heads).filterMap DraftHead.id = givenIds document ∧
      Draft.unnamed (drafts.flatMap Draft.heads) = unnamed document := by
  have hids : (drafts.flatMap Draft.heads).map DraftHead.id = (blockTables document).map givenId :=
    (map_eq_map_of_forall₂ (reads_contents h).1 fun _ _ hreads => hreads.id.symm).symm
  constructor
  · have hsame := congrArg (List.filterMap id) hids
    rwa [List.filterMap_map, List.filterMap_map] at hsame
  · have hsame := congrArg (List.countP Option.isNone) hids
    rwa [List.countP_map, List.countP_map] at hsame

/-- Where a document gives no identifier twice, all its blocks have identifiers of their own just if
none that it gives is one of the numbers that its other blocks take. -/
theorem loaded_ids_distinct_iff (document : Value) (n next : Nat) (ws : Workspace)
    (hload : load document n = (.ok ws, next)) (hgiven : (givenIds document).Nodup) :
    next = n + unnamed document ∧
      ((ws.blocks.map fun placed => placed.block.head.id).Nodup ↔
        ∀ k, n ≤ k → k < next → numberedId k ∉ givenIds document) := by
  obtain ⟨drafts, listed, hcontents, hbuild⟩ := load_eq_ok hload
  obtain ⟨hids, hunnamed⟩ := ids_contents hcontents
  rw [← hids] at hgiven ⊢
  rw [← hunnamed]
  exact built_ids_distinct_iff hbuild hgiven

/-- A block that is given a number below the free ones, and two blocks behind it that take theirs. -/
def numberedBefore : Value :=
  .map [("blocks", .list [.map [("type", "text_print"), ("id", "block1"), ("next", .map
    [("type", "text_print"), ("inputs", .map [("TEXT", .map [("type", "text"), ("id", .null)])])])]])]

theorem numberedBefore_distinct :
    givenIds numberedBefore = ["block1"] ∧ ∃ ws, load numberedBefore 2 = (.ok ws, 4) ∧
      (ws.blocks.map fun placed => placed.block.head.id).Nodup := by
  refine ⟨rfl, _, rfl, ?_⟩
  refine (loaded_ids_distinct_iff numberedBefore 2 4 _ rfl (by decide)).2.2 fun k hlow hhigh => ?_
  obtain rfl | rfl : k = 2 ∨ k = 3 := by omega
  · decide
  · decide

/-- The first free number is given to a block, and another block takes it as well. -/
theorem given_number_taken_again :
    ∃ document ws next, load document 1 = (.ok ws, next) ∧ (givenIds document).Nodup ∧
      ¬ (ws.blocks.map fun placed => placed.block.head.id).Nodup := by
  refine ⟨.map [("blocks", .list [.map [("type", "text_print"), ("id", "block1")],
    .map [("type", "text_print")]])], _, _, rfl, by decide, ?_⟩
  intro h
  have hsame : [Value.text "block1", Value.text "block1"].Nodup := h
  simp at hsame

end Snapshot

end BlockCode
