import BlockCode.Block.Draft
import Mathlib.Data.List.Forall2
import Mathlib.Data.Option.Basic

namespace BlockCode

/-- A connection of a block to one below it. Sockets are known by their positions. -/
inductive Edge where
  | input (position : Nat)
  | statement (position : Nat)
  | next

def Edge.isInput : Edge → Bool
  | .input _ => true
  | .statement _ => false
  | .next => false

/-- The connections on the way from a block to one below it. -/
abbrev Route := List Edge

/-- What is connected to a block or to a draft of one. -/
structure Connections (τ : Type) where
  inputs : List (String × Option τ)
  statements : List (String × Option τ)
  next : Option τ

namespace Connections

variable {τ : Type}

def plugAt (sockets : List (String × Option τ)) (position : Nat) : Option τ :=
  sockets[position]?.bind Prod.snd

def at? (c : Connections τ) : Edge → Option τ
  | .input i => plugAt c.inputs i
  | .statement i => plugAt c.statements i
  | .next => c.next

/-- The names of sockets in their order, each with whether it is filled. -/
def outline (sockets : List (String × Option τ)) : List (String × Bool) :=
  sockets.map fun socket => (socket.1, socket.2.isSome)

/-- What stands at the end of a route. -/
def follow (view : τ → Connections τ) : Route → τ → Option τ
  | [], t => some t
  | edge :: route, t => ((view t).at? edge).bind (follow view route)

end Connections

open Connections

namespace Draft

def head : Draft → DraftHead
  | .mk head _ _ _ => head

def connections : Draft → Connections Draft
  | .mk _ inputs statements next => ⟨inputs, statements, next⟩

def follow (draft : Draft) (route : Route) : Option Draft :=
  Connections.follow connections route draft

end Draft

namespace Block

def connections (b : Block) : Connections Block :=
  ⟨b.inputs, b.statements, b.next⟩

def follow (b : Block) (route : Route) : Option Block :=
  Connections.follow connections route b

theorem follow_cons (b : Block) (edge : Edge) (route : Route) :
    b.follow (edge :: route) = (b.connections.at? edge).bind fun child => child.follow route :=
  rfl

end Block

section Conversion

/-- The block has what the draft says. Where the draft leaves it open whether there is a value,
`asValue` decides. -/
structure Draft.Becomes (asValue : Bool) (draft : Draft) (b : Block) : Prop where
  kind : b.head.kind = .text draft.head.kind
  fields : b.head.fields = .map draft.head.fields
  comment : b.head.comment = (draft.head.comment.map Value.text).getD .null
  disabled : b.head.disabled = .bool draft.head.disabled
  mutation : b.head.mutation = .map draft.head.mutation
  inputs : outline b.connections.inputs = outline draft.connections.inputs
  statements : outline b.connections.statements = outline draft.connections.statements
  next : b.connections.next.isSome = draft.connections.next.isSome
  output : b.head.output = .bool (draft.head.output.getD asValue)

/-- Whether a route ends in a value socket; an empty route ends where it starts. -/
def Route.endsInline (start : Bool) (route : Route) : Bool :=
  (route.getLast?.map Edge.isInput).getD start

theorem Route.endsInline_cons (start : Bool) (edge : Edge) (route : Route) :
    endsInline start (edge :: route) = endsInline edge.isInput route := by
  cases route <;> simp [endsInline, List.getLast?_cons]

namespace Draft

theorem isSome_toLink (asValue : Bool) (n : Nat) (link : Option Draft) :
    (toLink asValue n link).1.isSome = link.isSome := by
  cases link <;> rfl

theorem outline_toSockets (m : List (String × Option Draft)) (asValue : Bool) (n : Nat) :
    outline (toSockets asValue n m).1 = outline m := by
  induction m generalizing n with
  | nil => rfl
  | cons socket rest ih =>
    obtain ⟨name, plug⟩ := socket
    have hplug := isSome_toLink asValue n plug
    have hrest := ih (toLink asValue n plug).2
    simp only [outline] at hrest
    simp only [toSockets, outline, List.map_cons, hplug, hrest]

/-- A block is made of a draft, whatever number is free. -/
def Makes (asValue : Bool) (draft : Draft) (b : Block) : Prop :=
  ∃ n, b = (toBlock asValue n draft).1

theorem makes_link (asValue : Bool) (n : Nat) (link : Option Draft) :
    Option.Rel (Makes asValue) link (toLink asValue n link).1 := by
  cases link with
  | none => exact .none
  | some draft => exact .some ⟨n, rfl⟩

theorem makes_plugAt (m : List (String × Option Draft)) (asValue : Bool) (n i : Nat) :
    Option.Rel (Makes asValue) (plugAt m i) (plugAt (toSockets asValue n m).1 i) := by
  induction m generalizing n i with
  | nil => exact .none
  | cons socket rest ih =>
    obtain ⟨name, plug⟩ := socket
    cases i with
    | zero => exact makes_link asValue n plug
    | succ i => exact ih (toLink asValue n plug).2 i

variable {asValue : Bool} {draft : Draft} {b : Block}

/-- Blocks are made of what is connected to a draft, as values just in value sockets. -/
theorem Makes.at? (h : Makes asValue draft b) (edge : Edge) :
    Option.Rel (Makes edge.isInput) (draft.connections.at? edge) (b.connections.at? edge) := by
  obtain ⟨n, rfl⟩ := h
  cases draft with
  | mk head inputs statements next =>
    cases edge with
    | input i => exact makes_plugAt inputs true n i
    | statement i => exact makes_plugAt statements false _ i
    | next => exact makes_link false _ next

theorem Makes.becomes (h : Makes asValue draft b) : Becomes asValue draft b := by
  obtain ⟨n, rfl⟩ := h
  cases draft with
  | mk head inputs statements next =>
    exact
      { kind := rfl
        fields := rfl
        comment := rfl
        disabled := rfl
        mutation := rfl
        inputs := outline_toSockets inputs true n
        statements := outline_toSockets statements false _
        next := isSome_toLink false _ next
        output := rfl }

/-- Every route leads to a block made of the draft that it leads to. -/
theorem Makes.follow (h : Makes asValue draft b) (route : Route) :
    Option.Rel (Becomes (Route.endsInline asValue route)) (draft.follow route) (b.follow route) := by
  induction route generalizing asValue draft b with
  | nil => exact .some h.becomes
  | cons edge route ih =>
    have hstep := h.at? edge
    rw [Route.endsInline_cons, Block.follow_cons, Draft.follow, Connections.follow]
    generalize draft.connections.at? edge = below at hstep ⊢
    generalize b.connections.at? edge = child at hstep ⊢
    cases hstep with
    | none => exact .none
    | some hchild => exact ih hchild

end Draft

end Conversion

namespace Block

mutual

/-- The routes to a block and to all blocks below it, in the order in which these are listed. -/
def routes : Block → List Route
  | .mk _ inputs statements next =>
    [] :: (socketRoutes .input 0 inputs ++ socketRoutes .statement 0 statements ++
      linkRoutes .next next)

/-- The routes through sockets, where `start` is the position of the first of them. -/
def socketRoutes (edge : Nat → Edge) (start : Nat) : List (String × Option Block) → List Route
  | [] => []
  | (_, plug) :: rest => linkRoutes (edge start) plug ++ socketRoutes edge (start + 1) rest

def linkRoutes (edge : Edge) : Option Block → List Route
  | none => []
  | some b => (routes b).map (edge :: ·)

end

section Members

theorem mem_linkRoutes {edge : Edge} {link : Option Block} {route : Route} :
    route ∈ linkRoutes edge link ↔
      ∃ child rest, link = some child ∧ rest ∈ child.routes ∧ route = edge :: rest := by
  cases link with
  | none => simp [linkRoutes]
  | some b => simp [linkRoutes, eq_comm]

theorem mem_socketRoutes {edge : Nat → Edge} {start : Nat} {m : List (String × Option Block)}
    {route : Route} :
    route ∈ socketRoutes edge start m ↔ ∃ i child rest, plugAt m i = some child ∧
      rest ∈ child.routes ∧ route = edge (start + i) :: rest := by
  induction m generalizing start with
  | nil => simp [socketRoutes, plugAt]
  | cons socket more ih =>
    obtain ⟨name, plug⟩ := socket
    rw [socketRoutes, List.mem_append, mem_linkRoutes, ih]
    constructor
    · rintro (⟨child, rest, rfl, hrest, rfl⟩ | ⟨i, child, rest, hplug, hrest, rfl⟩)
      · exact ⟨0, child, rest, rfl, hrest, rfl⟩
      · have hshift : start + 1 + i = start + (i + 1) := by omega
        exact ⟨i + 1, child, rest, hplug, hrest, by rw [hshift]⟩
    · rintro ⟨i, child, rest, hplug, hrest, rfl⟩
      cases i with
      | zero => exact .inl ⟨child, rest, hplug, hrest, rfl⟩
      | succ i =>
        have hshift : start + (i + 1) = start + 1 + i := by omega
        exact .inr ⟨i, child, rest, hplug, hrest, by rw [hshift]⟩

theorem cons_mem_routes {b : Block} {edge : Edge} {rest : Route} :
    edge :: rest ∈ b.routes ↔
      ∃ child, b.connections.at? edge = some child ∧ rest ∈ child.routes := by
  cases b with
  | mk head inputs statements next =>
    simp only [routes, List.mem_cons, List.mem_append, mem_socketRoutes, mem_linkRoutes,
      reduceCtorEq, false_or, List.cons.injEq, Nat.zero_add]
    constructor
    · rintro ((⟨i, child, _, hchild, hrest, rfl, rfl⟩ | ⟨i, child, _, hchild, hrest, rfl, rfl⟩) |
        ⟨child, _, hchild, hrest, rfl, rfl⟩)
      all_goals exact ⟨child, hchild, hrest⟩
    · rintro ⟨child, hchild, hrest⟩
      cases edge with
      | input i => exact .inl (.inl ⟨i, child, rest, hchild, hrest, rfl, rfl⟩)
      | statement i => exact .inl (.inr ⟨i, child, rest, hchild, hrest, rfl, rfl⟩)
      | next => exact .inr ⟨child, rest, hchild, hrest, rfl, rfl⟩

theorem nil_mem_routes (b : Block) : [] ∈ b.routes := by
  cases b with
  | mk head inputs statements next => simp [routes]

/-- The routes are those that lead to a block. -/
theorem mem_routes {b : Block} {route : Route} : route ∈ b.routes ↔ (b.follow route).isSome := by
  induction route generalizing b with
  | nil => simp [nil_mem_routes, follow, Connections.follow]
  | cons edge rest ih =>
    rw [cons_mem_routes, follow_cons]
    cases b.connections.at? edge with
    | none => simp
    | some child => simpa using ih

/-- A route that leads to a block goes on from one that does. -/
theorem dropLast_mem_routes {b : Block} {route : Route} (h : route ∈ b.routes) :
    route.dropLast ∈ b.routes := by
  induction route generalizing b with
  | nil => exact h
  | cons edge rest ih =>
    obtain ⟨child, hchild, hrest⟩ := cons_mem_routes.1 h
    cases rest with
    | nil => exact nil_mem_routes b
    | cons second more => exact cons_mem_routes.2 ⟨child, hchild, ih hrest⟩

end Members

section Order

/-- No route stands behind one that goes on from it. -/
def Ordered (routes : List Route) : Prop :=
  routes.Pairwise fun earlier later => ¬ later <+: earlier

theorem not_prefix_of_ne {e f : Edge} (h : e ≠ f) (r t : Route) : ¬ f :: t <+: e :: r := by
  rw [List.cons_prefix_cons]
  rintro ⟨rfl, -⟩
  exact h rfl

mutual

theorem routes_ordered : ∀ b : Block, Ordered b.routes
  | .mk head inputs statements next => by
    have hinputs := socketRoutes_ordered .input (fun _ _ => Edge.input.inj) inputs 0
    have hstatements := socketRoutes_ordered .statement (fun _ _ => Edge.statement.inj) statements 0
    have hnext := linkRoutes_ordered .next next
    rw [routes, Ordered, List.pairwise_cons, List.pairwise_append, List.pairwise_append]
    refine ⟨?_, ⟨hinputs, hstatements, ?_⟩, hnext, ?_⟩
    · intro route hroute hprefix
      rw [List.prefix_nil.1 hprefix] at hroute
      simp [mem_socketRoutes, mem_linkRoutes] at hroute
    · intro first hfirst second hsecond
      obtain ⟨i, -, rest, -, -, rfl⟩ := mem_socketRoutes.1 hfirst
      obtain ⟨j, -, more, -, -, rfl⟩ := mem_socketRoutes.1 hsecond
      exact not_prefix_of_ne (by simp) rest more
    · intro first hfirst second hsecond
      obtain ⟨-, more, -, -, rfl⟩ := mem_linkRoutes.1 hsecond
      rcases List.mem_append.1 hfirst with hfirst | hfirst
      · obtain ⟨i, -, rest, -, -, rfl⟩ := mem_socketRoutes.1 hfirst
        exact not_prefix_of_ne (by simp) rest more
      · obtain ⟨i, -, rest, -, -, rfl⟩ := mem_socketRoutes.1 hfirst
        exact not_prefix_of_ne (by simp) rest more

theorem socketRoutes_ordered (edge : Nat → Edge) (hedge : ∀ i j, edge i = edge j → i = j) :
    ∀ (m : List (String × Option Block)) (start : Nat), Ordered (socketRoutes edge start m)
  | [], _ => .nil
  | (_, plug) :: rest, start => by
    rw [socketRoutes, Ordered, List.pairwise_append]
    refine ⟨linkRoutes_ordered (edge start) plug, socketRoutes_ordered edge hedge rest _, ?_⟩
    intro first hfirst second hsecond
    obtain ⟨-, rest, -, -, rfl⟩ := mem_linkRoutes.1 hfirst
    obtain ⟨i, -, more, -, -, rfl⟩ := mem_socketRoutes.1 hsecond
    refine not_prefix_of_ne (fun heq => ?_) rest more
    have := hedge _ _ heq
    omega

theorem linkRoutes_ordered (edge : Edge) : ∀ link : Option Block, Ordered (linkRoutes edge link)
  | none => .nil
  | some b => by
    have hbelow := routes_ordered b
    rw [linkRoutes, Ordered, List.pairwise_map]
    refine hbelow.imp ?_
    intro earlier later hapart hprefix
    exact hapart (List.cons_prefix_cons.1 hprefix).2

end

theorem Ordered.nodup {routes : List Route} (h : Ordered routes) : routes.Nodup := by
  refine h.imp ?_
  rintro earlier _ hapart rfl
  exact hapart List.prefix_rfl

/-- Every route but the empty one stands behind the route that it goes on from. -/
theorem dropLast_before {b : Block} {front behind : List Route} {route : Route}
    (h : b.routes = front ++ route :: behind) (hne : route ≠ []) : route.dropLast ∈ front := by
  have hmem : route.dropLast ∈ b.routes := dropLast_mem_routes (by simp [h])
  have hordered := routes_ordered b
  rw [h, Ordered, List.pairwise_append, List.pairwise_cons] at hordered
  rw [h, List.mem_append, List.mem_cons] at hmem
  rcases hmem with hfront | hself | hbehind
  · exact hfront
  · have hlength := congrArg List.length hself
    have hpos := List.length_pos_iff.2 hne
    rw [List.length_dropLast] at hlength
    omega
  · exact absurd (List.dropLast_prefix route) (hordered.2.1.1 _ hbehind)

end Order

/-- A block with its place is what a route leads to from `b`, which itself has this parent and stands
in a value socket or not. -/
structure StandsAt (parent : Option Block) (inline : Bool) (b : Block) (route : Route)
    (placed : Placed) : Prop where
  block : b.follow route = some placed.block
  parent : placed.parent = if route.isEmpty then parent else b.follow route.dropLast
  inline : placed.inline = Route.endsInline inline route

section Listing

variable {parent : Option Block} {inline : Bool} {here child : Block} {edge : Edge}

theorem StandsAt.cons (hedge : here.connections.at? edge = some child) {route : Route}
    {placed : Placed} (h : StandsAt (some here) edge.isInput child route placed) :
    StandsAt parent inline here (edge :: route) placed := by
  have hfollow (rest : Route) : here.follow (edge :: rest) = child.follow rest := by
    rw [follow_cons, hedge, Option.bind_some]
  refine ⟨(hfollow route).trans h.block, ?_, ?_⟩
  · rw [h.parent]
    cases route with
    | nil => rfl
    | cons second rest => exact (hfollow _).symm
  · rw [h.inline, Route.endsInline_cons]

mutual

theorem descendantsAt_standAt : ∀ (b : Block) (parent : Option Block) (inline : Bool),
    List.Forall₂ (StandsAt parent inline b) b.routes (descendantsAt parent inline b)
  | .mk head inputs statements next, parent, inline => by
    rw [routes, descendantsAt]
    refine .cons ⟨rfl, rfl, rfl⟩ (List.rel_append (List.rel_append ?_ ?_) ?_)
    · refine socketDescendants_standAt inputs _ .input 0 true fun i child hchild => ⟨?_, rfl⟩
      rw [Nat.zero_add]
      exact hchild
    · refine socketDescendants_standAt statements _ .statement 0 false fun i child hchild =>
        ⟨?_, rfl⟩
      rw [Nat.zero_add]
      exact hchild
    · exact linkDescendants_standAt next _ .next false fun child hchild => ⟨hchild, rfl⟩

theorem socketDescendants_standAt : ∀ (m : List (String × Option Block)) (here : Block)
    (edge : Nat → Edge) (start : Nat) (asValue : Bool) {parent : Option Block} {inline : Bool},
    (∀ i child, plugAt m i = some child →
      here.connections.at? (edge (start + i)) = some child ∧
        (edge (start + i)).isInput = asValue) →
    List.Forall₂ (StandsAt parent inline here) (socketRoutes edge start m)
      (socketDescendants here asValue m)
  | [], _, _, _, _, _, _, _ => .nil
  | (_, plug) :: rest, here, edge, start, asValue, _, _, hall => by
    rw [socketRoutes, socketDescendants]
    refine List.rel_append ?_ ?_
    · exact linkDescendants_standAt plug here (edge start) asValue fun child hchild =>
        hall 0 child hchild
    · refine socketDescendants_standAt rest here edge (start + 1) asValue fun i child hchild => ?_
      have hshift : start + 1 + i = start + (i + 1) := by omega
      rw [hshift]
      exact hall (i + 1) child hchild

theorem linkDescendants_standAt : ∀ (link : Option Block) (here : Block) (edge : Edge)
    (asValue : Bool) {parent : Option Block} {inline : Bool},
    (∀ child, link = some child →
      here.connections.at? edge = some child ∧ edge.isInput = asValue) →
    List.Forall₂ (StandsAt parent inline here) (linkRoutes edge link)
      (linkDescendants here asValue link)
  | none, _, _, _, _, _, _ => .nil
  | some b, here, edge, asValue, _, _, hall => by
    obtain ⟨hedge, hvalue⟩ := hall b rfl
    change List.Forall₂ _ (linkRoutes edge (some b)) (descendantsAt (some here) asValue b)
    rw [linkRoutes, List.forall₂_map_left_iff, ← hvalue]
    exact (descendantsAt_standAt b (some here) edge.isInput).imp fun _ _ h => h.cons hedge

end

end Listing

end Block

namespace Draft

/-- The block made of a draft has what the draft has at the end of every route, and yields a value
where the draft says so or, if it does not say, in value sockets. Its blocks are listed by their
routes, each once and behind its parent, which is at the end of the route without its last part. -/
theorem toBlock_keeps_tree (draft : Draft) (inValueSocket : Bool) (n : Nat) :
    (∀ route, Option.Rel (Becomes (Route.endsInline inValueSocket route)) (draft.follow route)
      ((draft.toBlock inValueSocket n).1.follow route)) ∧
    ∃ routes : List Route, routes.Nodup ∧
      (∀ route, route ∈ routes ↔ ((draft.toBlock inValueSocket n).1.follow route).isSome) ∧
      List.Forall₂ (Block.StandsAt none false (draft.toBlock inValueSocket n).1) routes
        (draft.toBlock inValueSocket n).1.descendants ∧
      ∀ front route behind, routes = front ++ route :: behind → route ≠ [] →
        route.dropLast ∈ front := by
  generalize hb : (draft.toBlock inValueSocket n).1 = b
  have hmakes : Makes inValueSocket draft b := ⟨n, hb.symm⟩
  refine ⟨hmakes.follow, b.routes, b.routes_ordered.nodup, fun route => Block.mem_routes, ?_, ?_⟩
  · exact Block.descendantsAt_standAt b none false
  · intro front route behind hroutes hne
    exact Block.dropLast_before hroutes hne

/-- A condition that says it is no value, in front of an open body and another block. -/
def guarded : Draft :=
  let head (kind : String) (output : Option Bool) : DraftHead :=
    { kind, id := none, fields := [], comment := none, output, disabled := false, mutation := [] }
  .mk (head "controls_if" none)
    [("IF0", some (.mk (head "logic_boolean" (some false)) [] [] none))] [("DO0", none)]
    (some (.mk (head "text_print" none) [] [] none))

theorem guarded_keeps_tree :
    (∃ b, (guarded.toBlock true 1).1.follow [.input 0] = some b ∧ b.head.output = .bool false) ∧
      ∃ front behind : List Route, [] ∈ front ∧
        List.Forall₂ (Block.StandsAt none false (guarded.toBlock true 1).1)
          (front ++ [.next] :: behind) (guarded.toBlock true 1).1.descendants := by
  obtain ⟨hkeeps, routes, -, hmem, hstand, hbefore⟩ := toBlock_keeps_tree guarded true 1
  constructor
  · have hvalue : Option.Rel (Becomes true) (some _) (some _) := hkeeps [.input 0]
    cases hvalue with
    | some hvalue => exact ⟨_, rfl, hvalue.output⟩
  · obtain ⟨front, behind, rfl⟩ := List.append_of_mem ((hmem [.next]).2 rfl)
    have hfront : ([] : Route) ∈ front := hbefore front [.next] behind rfl (by simp)
    exact ⟨front, behind, hfront, hstand⟩

end Draft

end BlockCode
