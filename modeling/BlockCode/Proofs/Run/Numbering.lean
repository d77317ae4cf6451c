import BlockCode.Proofs.Run.Blocks
import BlockCode.Session

namespace BlockCode

variable {R : Value → Value → Prop}

namespace Block

mutual

theorem alike_refl (hR : ∀ i, R i i) : ∀ b : Block, Alike R b b
  | .mk head inputs statements next =>
    ⟨rfl, hR head.id, socketsAlike_refl hR inputs, socketsAlike_refl hR statements,
      linksAlike_refl hR next⟩

theorem socketsAlike_refl (hR : ∀ i, R i i) : ∀ m : List (String × Option Block), SocketsAlike R m m
  | [] => trivial
  | (_, plug) :: rest => ⟨rfl, linksAlike_refl hR plug, socketsAlike_refl hR rest⟩

theorem linksAlike_refl (hR : ∀ i, R i i) : ∀ x : Option Block, LinksAlike R x x
  | none => trivial
  | some b => alike_refl hR b

end

end Block

namespace Draft

mutual

/-- Whether every block of the draft carries its own identifier. -/
def isNamed : Draft → Bool
  | .mk head inputs statements next =>
    head.id.isSome && socketsNamed inputs && socketsNamed statements && linkNamed next

def socketsNamed : List (String × Option Draft) → Bool
  | [] => true
  | (_, plug) :: rest => linkNamed plug && socketsNamed rest

def linkNamed : Option Draft → Bool
  | none => true
  | some draft => isNamed draft

end

theorem identify_alike (hR : ∀ i, R i i) {given : Option String}
    (h : (∀ i j, R i j) ∨ given.isSome = true) (n m : Nat) :
    R (.text (BlockHead.identify given n).1) (.text (BlockHead.identify given m).1) := by
  rcases h with h | h
  · exact h _ _
  · obtain ⟨id, rfl⟩ := Option.isSome_iff_exists.1 h
    exact hR _

mutual

theorem toBlock_alike (hR : ∀ i, R i i) : ∀ (d : Draft) {inSocket : Bool} (n m : Nat),
    (∀ i j, R i j) ∨ d.isNamed = true →
      Block.Alike R (toBlock inSocket n d).1 (toBlock inSocket m d).1
  | .mk head inputs statements next, inSocket, n, m, h => by
    simp only [isNamed, Bool.and_eq_true] at h
    exact ⟨rfl, identify_alike hR (h.imp_right fun hd => hd.1.1.1) _ _,
      toSockets_alike hR inputs _ _ (h.imp_right fun hd => hd.1.1.2),
      toSockets_alike hR statements _ _ (h.imp_right fun hd => hd.1.2),
      toLink_alike hR next _ _ (h.imp_right fun hd => hd.2)⟩

theorem toSockets_alike (hR : ∀ i, R i i) :
    ∀ (m : List (String × Option Draft)) {inSocket : Bool} (k l : Nat),
      (∀ i j, R i j) ∨ socketsNamed m = true →
        Block.SocketsAlike R (toSockets inSocket k m).1 (toSockets inSocket l m).1
  | [], _, _, _, _ => trivial
  | (_, plug) :: rest, _, k, l, h => by
    simp only [socketsNamed, Bool.and_eq_true] at h
    exact ⟨rfl, toLink_alike hR plug _ _ (h.imp_right fun hd => hd.1),
      toSockets_alike hR rest _ _ (h.imp_right fun hd => hd.2)⟩

theorem toLink_alike (hR : ∀ i, R i i) : ∀ (x : Option Draft) {inSocket : Bool} (n m : Nat),
    (∀ i j, R i j) ∨ linkNamed x = true →
      Block.LinksAlike R (toLink inSocket n x).1 (toLink inSocket m x).1
  | none, _, _, _, _ => trivial
  | some d, _, n, m, h => toBlock_alike hR d n m h

end

theorem toBlocks_alike (hR : ∀ i, R i i) (drafts : List Draft) (n m : Nat)
    (h : (∀ i j, R i j) ∨ drafts.all isNamed = true) :
    List.Forall₂ (Block.Alike R) (toBlocks n drafts).1 (toBlocks m drafts).1 := by
  induction drafts generalizing n m with
  | nil => exact .nil
  | cons d rest ih =>
    simp only [List.all_cons, Bool.and_eq_true] at h
    exact .cons (toBlock_alike hR d _ _ (h.imp_right fun hd => hd.1))
      (ih _ _ (h.imp_right fun hd => hd.2))

end Draft

theorem Workspace.alike_refl (hR : ∀ i, R i i) (ws : Workspace) : ws.Alike R ws :=
  ⟨List.forall₂_same.2 fun b _ => Block.alike_refl hR b, rfl⟩

/-- Whether no block of the program waits for a number. -/
def Program.isNamed : Program → Bool
  | .snapshot document =>
    match Snapshot.contents document with
    | .good (drafts, _) => drafts.all Draft.isNamed
    | .bad _ _ => true
  | _ => true

theorem Gen.Answers.refl {α : Type} {Q : α → α → Prop} (hQ : ∀ a, Q a a) (x : Except Fault α) :
    Gen.Answers Eq Q x x := by
  cases x with
  | ok a => exact hQ a
  | error fault => rfl

theorem Snapshot.build_alike (hR : ∀ i, R i i) {drafts : List Draft} {listed : Option (List String)}
    (h : (∀ i j, R i j) ∨ drafts.all Draft.isNamed = true) (n m : Nat) :
    Gen.Answers Eq (Workspace.Alike R) (build drafts listed n).1 (build drafts listed m).1 := by
  have hd := Draft.toBlocks_alike hR drafts n m h
  unfold build
  dsimp only
  rw [Block.variablesOf_eq hd]
  split
  · exact rfl
  · exact ⟨hd, rfl⟩

theorem Snapshot.load_alike (hR : ∀ i, R i i) {document : Value}
    (h : (∀ i j, R i j) ∨ (Program.snapshot document).isNamed = true) (n m : Nat) :
    Gen.Answers Eq (Workspace.Alike R) (load document n).1 (load document m).1 := by
  unfold load
  unfold Program.isNamed at h
  split
  · exact rfl
  · next drafts listed hc =>
    exact build_alike hR (h.imp_right fun hd => by simpa only [hc] using hd) n m

theorem Program.toWorkspace_alike (hR : ∀ i, R i i) {program : Program}
    (h : (∀ i j, R i j) ∨ program.isNamed = true) (n m : Nat) :
    Gen.Answers Eq (Workspace.Alike R) (program.toWorkspace n).1 (program.toWorkspace m).1 := by
  unfold toWorkspace
  split
  · exact Snapshot.load_alike hR h n m
  · exact .refl (Workspace.alike_refl hR) _
  · next hp =>
    cases program with
    | workspace ws => exact Workspace.alike_refl hR ws
    | blocks top => exact .refl (Workspace.alike_refl hR) (Workspace.ofBlocks top)
    | snapshot document => exact (hp document rfl).elim

end BlockCode
