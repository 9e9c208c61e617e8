import Std.Data.TreeMap
import Semblance.Name.Supply
import Semblance.Syntax.Arena

/-! # Hoisting shared nodes

Hoisting unfolds a syntax graph into a forest.  It walks the nodes below the top-level statements
depth first and notes the place where it meets each node first.  A node that it meets again is
shared: it moves into the initializer of a new top-level declaration, and a reference to that
binding takes its place at every occurrence, the first one included.  The new declarations follow
the given statements; they are not walked, since what they hold was walked at its first occurrence.

Each reference makes the statement around it depend on the declaration that it refers to.  Which
statement is around a node is known only at the end, as any node above it may still be hoisted.

A walk consists of as many steps as there are occurrences.  The given statements and the children of
the given nodes are occurrences; an id without a node may get one during the walk, and a declaration
reached in this way adds itself, its declarator and its initializer, so that four times the
occurrences given at the start are more than enough.

* `placed_eq_ok`   which nodes may stand in which places
* `walk_nil`, `walk_cons`  what one step of a walk does -/

namespace Semblance

/-- Where a node occurs: as a top-level statement, or in a child slot. -/
inductive Occurrence where
  | root (position : Nat)
  | slot (parent : NodeId) (slot : Nat)
deriving DecidableEq, Repr

/-- Whether a place is that of a top-level statement. -/
def Occurrence.isRoot : Occurrence → Bool
  | .root _ => true
  | .slot _ _ => false

/-- A node moved into a declaration of its own: the name of the binding, and the position of the
    declaration among the top-level statements. -/
structure Promotion where
  node : NodeId
  name : String
  root : Nat
deriving DecidableEq, Repr

/-- What is known of a node that was met: where first, and whether it is hoisted. -/
structure Sighting where
  first : Occurrence
  promotion : Option Promotion
deriving DecidableEq, Repr

/-- The state of a walk. -/
structure Hoist where
  arena : Arena
  roots : Array NodeId
  names : NameSupply
  sightings : Std.TreeMap Nat Sighting := ∅
  /-- The nodes met, in order. -/
  trail : Array NodeId := #[]
  promotions : Array Promotion := #[]
  /-- The references put in, each as the node that holds it and the position of the declaration that
      it refers to. -/
  references : Array (NodeId × Nat) := #[]

/-- The result of hoisting. -/
structure Hoisted where
  arena : Arena
  /-- The given statements, followed by a declaration for each hoisted node. -/
  roots : Array NodeId
  /-- For each statement the positions of the declarations that it refers to, in the order of the
      first reference. -/
  deps : Array (Array Nat)
  promotions : Array Promotion
  names : NameSupply

namespace Hoist

/-- Whether a node may stand in a place: an entry or a declarator only below its container. -/
def mayStandIn (arena : Arena) (node : Node) : Occurrence → Bool
  | .root _ => !node.needsContainer
  | .slot parent _ => (arena.node? parent).any fun holder => holder.acceptsChild node

/-- The node with an id that occurs in a place, if it may stand there. -/
def placed (arena : Arena) (id : NodeId) (place : Occurrence) : Except Fault Node :=
  match arena.node? id with
  | none => .error (.unsupportedNode id "dangling")
  | some node =>
    if mayStandIn arena node place then .ok node else .error (.unsupportedNode id node.kindName)

/-- A node is found if its id has one and the place is one for nodes of its kind. -/
theorem placed_eq_ok {arena : Arena} {id : NodeId} {place : Occurrence} {node : Node} :
    placed arena id place = .ok node ↔
      arena.node? id = some node ∧ mayStandIn arena node place = true := by
  unfold placed
  split <;> grind

/-- Declare a binding for a node that was first met in a place. -/
def promote (hoist : Hoist) (id : NodeId) (node : Node) (first : Occurrence) :
    Except Fault (Promotion × Hoist) :=
  if !node.isExpression || first.isRoot then
    .error (.unsupportedNode id node.kindName)
  else
    match hoist.names.fresh? (hoist.arena.hint id) with
    | none => .error (.invalidName (hoist.arena.hint id))
    | some (name, names) =>
      let (decl, arena) := Arena.varDecl name (some id) hoist.arena
      let promotion : Promotion := ⟨id, name, hoist.roots.size⟩
      .ok (promotion,
        { hoist with
          arena
          names
          roots := hoist.roots.push decl
          promotions := hoist.promotions.push promotion
          sightings := hoist.sightings.insert id.index ⟨first, some promotion⟩ })

/-- Put a reference to a hoisted node in a child slot.  Answers whether the slot is there. -/
def link (hoist : Hoist) (promotion : Promotion) (parent : NodeId) (slot : Nat) : Bool × Hoist :=
  let (ident, arena) := Arena.ident promotion.name hoist.arena
  let (linked, arena) := arena.replaceChild parent slot ident
  (linked, { hoist with arena, references := hoist.references.push (parent, promotion.root) })

/-- Put a reference to a hoisted node in a place where it occurs. -/
def refer (hoist : Hoist) (node : Node) (promotion : Promotion) (place : Occurrence) :
    Except Fault Hoist :=
  match place with
  | .root _ => .error (.unsupportedNode promotion.node node.kindName)
  | .slot parent slot =>
    let (linked, hoist) := hoist.link promotion parent slot
    if linked then .ok hoist
    else
      .error (.unsupportedNode parent ((hoist.arena.node? parent).elim "dangling" Node.kindName))

/-- The occurrences that a walk has yet to visit, in order. -/
abbrev Agenda := List (NodeId × Occurrence)

/-- Visit an occurrence of a node.  Answers the occurrences below it that are to be visited next. -/
def visit (hoist : Hoist) (id : NodeId) (place : Occurrence) : Except Fault (Agenda × Hoist) := do
  let node ← placed hoist.arena id place
  match hoist.sightings[id.index]? with
  | some ⟨_, some promotion⟩ =>
    -- Hoisted earlier: this place gets one more reference.
    return ([], ← hoist.refer node promotion place)
  | some ⟨first, none⟩ =>
    -- The second occurrence: hoist the node, and let the first place refer to it as well.
    let (promotion, hoist) ← hoist.promote id node first
    let hoist ← hoist.refer node promotion first
    return ([], ← hoist.refer node promotion place)
  | none =>
    -- The first occurrence: the node stays here for now, and the walk goes on below it.
    let below := node.children.map fun (slot, child) => (child, Occurrence.slot id slot)
    return (below,
      { hoist with
        sightings := hoist.sightings.insert id.index ⟨place, none⟩
        trail := hoist.trail.push id })

/-- Visit the occurrences of an agenda, each followed by those below it, in a limited number of
    steps. -/
def walk : (steps : Nat) → Agenda → Hoist → Except Fault Hoist
  | _, [], hoist => .ok hoist
  | 0, _ :: _, _ => .error .unfinished
  | steps + 1, (id, place) :: rest, hoist => do
    let (below, hoist) ← hoist.visit id place
    walk steps (below ++ rest) hoist

/-- A walk with nothing left to visit is over, even if no steps are left. -/
theorem walk_nil (steps : Nat) (hoist : Hoist) : walk steps [] hoist = .ok hoist := by
  cases steps <;> rfl

/-- A step visits the first occurrence, and what is below it comes before the rest. -/
theorem walk_cons (steps : Nat) (id : NodeId) (place : Occurrence) (rest : Agenda) (hoist : Hoist) :
    walk (steps + 1) ((id, place) :: rest) hoist =
      (hoist.visit id place).bind fun (below, hoist) => walk steps (below ++ rest) hoist := rfl

/-- The statement around each node that was met, by position.  A hoisted node belongs to its
    declaration, and any other node to the statement around the place where it was first met. -/
def owners (hoist : Hoist) : Std.TreeMap Nat Nat :=
  hoist.trail.foldl (fun (owners : Std.TreeMap Nat Nat) (id : NodeId) =>
    match hoist.sightings[id.index]? with
    | some ⟨_, some promotion⟩ => owners.insert id.index promotion.root
    | some ⟨.root position, none⟩ => owners.insert id.index position
    | some ⟨.slot parent _, none⟩ =>
      -- The parent comes earlier on the trail, so its owner is known.
      match owners[parent.index]? with
      | some owner => owners.insert id.index owner
      | none => owners
    | none => owners) ∅

/-- For each statement the declarations that it refers to. -/
def deps (hoist : Hoist) : Array (Array Nat) :=
  let owners := hoist.owners
  hoist.references.foldl (fun deps (holder, target) =>
    match owners[holder.index]? with
    | some owner =>
      deps.modify owner fun targets =>
        if targets.contains target then targets else targets.push target
    | none => deps) (Array.replicate hoist.roots.size #[])

/-- The occurrences that a walk starts from. -/
def agenda (roots : List NodeId) : Agenda :=
  roots.zipIdx.map fun (id, position) => (id, .root position)

/-- A number of steps that is enough for the walk from some roots. -/
def allowance (arena : Arena) (roots : List NodeId) : Nat :=
  4 * (roots.length + arena.nodes.foldl (fun count node => count + node.operands.length) 0)

/-- What a finished walk has found. -/
def result (hoist : Hoist) : Hoisted where
  deps := hoist.deps
  arena := hoist.arena
  roots := hoist.roots
  promotions := hoist.promotions
  names := hoist.names

end Hoist

/-- Unfold the graph below some statements into a forest.  The names in use have to be taken from
    the supply beforehand.  The faults are a node in a place where it may not stand, an id without a
    node, a statement that occurs twice, and a shared node without a hint for its name. -/
def Arena.hoist (arena : Arena) (roots : List NodeId) (names : NameSupply) :
    Except Fault Hoisted := do
  let start : Hoist := { arena, roots := roots.toArray, names }
  let finished ← Hoist.walk (Hoist.allowance arena roots) (Hoist.agenda roots) start
  return finished.result

end Semblance
