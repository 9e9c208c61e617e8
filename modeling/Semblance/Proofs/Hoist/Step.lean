import Semblance.Proofs.Hoist.Sharing
import Semblance.Proofs.Name.Fresh
import Semblance.Proofs.Syntax.Slots

/-!
# What one step of a walk does

A step of a walk meets a node, refers to a node that was hoisted before, or hoists a node and refers
to it twice. This file says for each of the operations what it can do, so that invariants of a walk
are proved without a look at the definitions.

## Key results

- `refer_eq_ok`: a reference is put in a child slot, and it is a `Linked` state that comes out
- `promote_eq_ok`: what hoisting a node adds
- `visit_eq_ok`: the three kinds of steps
-/

namespace Semblance

/-! ### Arenas -/

namespace Arena

variable {arena : Arena}

/-- A declaration comes after its declarator. -/
theorem varDecl_fst (arena : Arena) (name : String) (init : Option NodeId) :
    (varDecl name init arena).1 = ⟨arena.size + 1⟩ := by
  show (⟨(arena.nodes.push _).size⟩ : NodeId) = _
  rw [Array.size_push]
  rfl

/-- A declaration with one declarator takes two nodes. -/
theorem size_varDecl (arena : Arena) (name : String) (init : Option NodeId) :
    (varDecl name init arena).2.size = arena.size + 2 := by
  show ((arena.nodes.push _).push _).size = _
  rw [Array.size_push, Array.size_push]
  rfl

/-- A declaration has no hint, and it changes none. -/
theorem hint_varDecl (arena : Arena) (name : String) (init : Option NodeId) (id : NodeId) :
    (varDecl name init arena).2.hint id = arena.hint id := by
  show (push _ (push _ arena).2).2.hint id = _
  rw [hint_push, hint_push]

/-- A declaration consists of two new nodes. -/
theorem node?_varDecl (arena : Arena) (name : String) (init : Option NodeId) (id : NodeId) :
    (varDecl name init arena).2.node? id =
      if id = ⟨arena.size + 1⟩ then some (.varDecl #[⟨arena.size⟩])
      else if id = ⟨arena.size⟩ then some (.declarator name init)
      else arena.node? id := by
  show (push _ (push _ arena).2).2.node? id = _
  rw [node?_push, node?_push]
  simp only [push, size, Array.size_push]
  rfl

/-- A declaration leaves the nodes that were there alone. -/
theorem node?_of_lt_varDecl {name : String} {init : Option NodeId} {id : NodeId}
    (h : id.index < arena.size) : (varDecl name init arena).2.node? id = arena.node? id := by
  rw [node?_varDecl, if_neg, if_neg] <;> rintro rfl <;> simp only at h <;> omega

/-- A new node leaves those that were there alone. -/
theorem node?_of_lt_push {node : Node} {id : NodeId} (h : id.index < arena.size) :
    (push node arena).2.node? id = arena.node? id := by
  rw [node?_push, if_neg]
  rintro rfl
  exact Nat.lt_irrefl _ h

/-- Replacing a child changes its parent and no other node. -/
theorem node?_replaceChild {parent child : NodeId} {slot : Nat} {node node' : Node}
    (hnode : arena.node? parent = some node) (hset : node.setChild? slot child = some node')
    (id : NodeId) : (arena.replaceChild parent slot child).2.node? id =
      if id = parent then some node' else arena.node? id := by
  have hlt := lt_size_of_node? hnode
  rw [node?, nodes_replaceChild, hnode, Option.bind_some, hset]
  simp only
  split
  · next heq => rw [heq, Array.getElem?_setIfInBounds_self_of_lt hlt]
  · next hne =>
    rw [Array.getElem?_setIfInBounds_ne fun heq => hne (by cases id; cases parent; simp_all)]
    rfl

/-- Replacing a child makes no node. -/
theorem size_replaceChild (parent child : NodeId) (slot : Nat) :
    (arena.replaceChild parent slot child).2.size = arena.size := by
  rw [size, nodes_replaceChild]
  split
  · exact Array.size_setIfInBounds
  · rfl

/-- Replacing a child changes no hints. -/
theorem hint_replaceChild (parent child : NodeId) (slot : Nat) (id : NodeId) :
    (arena.replaceChild parent slot child).2.hint id = arena.hint id := by
  rw [hint, hints_replaceChild, hint]

end Arena

/-! ### Operations of a walk -/

namespace Hoist

variable {hoist hoist' : Hoist}

/-- `hoist'` is `hoist` after a reference to a hoisted node was put in a slot: the reference is a
    new node, and the slot refers to it. -/
structure Linked (hoist : Hoist) (promotion : Promotion) (parent : NodeId) (slot : Nat)
    (hoist' : Hoist) : Prop where
  size_eq : hoist'.arena.size = hoist.arena.size + 1
  hint_eq : ∀ id, hoist'.arena.hint id = hoist.arena.hint id
  ident : hoist'.arena.node? ⟨hoist.arena.size⟩ = some (.ident promotion.name)
  changed : ∃ node node', hoist.arena.node? parent = some node ∧
    node.setChild? slot ⟨hoist.arena.size⟩ = some node' ∧ hoist'.arena.node? parent = some node'
  other : ∀ id, id ≠ parent → id.index < hoist.arena.size →
    hoist'.arena.node? id = hoist.arena.node? id
  roots_eq : hoist'.roots = hoist.roots
  names_eq : hoist'.names = hoist.names
  sightings_eq : hoist'.sightings = hoist.sightings
  trail_eq : hoist'.trail = hoist.trail
  promotions_eq : hoist'.promotions = hoist.promotions
  references_eq : hoist'.references = hoist.references.push (parent, promotion.root)

/-- A link is made if the reference can be put in the slot. -/
theorem link_fst_eq (hoist : Hoist) (promotion : Promotion) (parent : NodeId) (slot : Nat) :
    (hoist.link promotion parent slot).1 =
      ((Arena.ident promotion.name hoist.arena).2.replaceChild parent slot ⟨hoist.arena.size⟩).1 :=
  rfl

/-- The arena of a link has the reference as a new node, put in the slot. -/
theorem arena_link (hoist : Hoist) (promotion : Promotion) (parent : NodeId) (slot : Nat) :
    (hoist.link promotion parent slot).2.arena =
      ((Arena.ident promotion.name hoist.arena).2.replaceChild parent slot ⟨hoist.arena.size⟩).2 :=
  rfl

/-- A slot that holds a child can be linked, and any other cannot. -/
theorem link_fst (hoist : Hoist) (promotion : Promotion) (parent : NodeId) (slot : Nat) :
    (hoist.link promotion parent slot).1 = (hoist.arena.child? parent slot).isSome := by
  rw [Bool.eq_iff_iff, link_fst_eq, Arena.replaceChild_eq_true, Arena.ident]
  simp only [Arena.node?_push, Arena.child?, Option.isSome_bind, Option.any_eq_true]
  constructor
  · rintro ⟨node, hnode, hchild⟩
    split at hnode
    · -- The reference has no slots.
      obtain rfl := Option.some.inj hnode
      simp [Node.child?, Node.operands] at hchild
    · exact ⟨node, hnode, hchild⟩
  · rintro ⟨node, hnode, hchild⟩
    refine ⟨node, ?_, hchild⟩
    rw [if_neg]
    · exact hnode
    · rintro rfl
      exact Nat.lt_irrefl _ (Arena.lt_size_of_node? hnode)

/-- A reference can be put in any slot with a child. -/
theorem linked_link {promotion : Promotion} {parent : NodeId} {slot : Nat}
    (h : (hoist.arena.child? parent slot).isSome) :
    hoist.Linked promotion parent slot (hoist.link promotion parent slot).2 := by
  obtain ⟨child, hchild⟩ := Option.isSome_iff_exists.1 h
  obtain ⟨node, hnode, hchild⟩ := Arena.child?_eq_some.1 hchild
  have hlt := Arena.lt_size_of_node? hnode
  have hset := Node.setChild?_isSome node slot ⟨hoist.arena.size⟩
  rw [hchild, Option.isSome_some] at hset
  obtain ⟨node', hset⟩ := Option.isSome_iff_exists.1 hset
  -- The reference is allocated first, so the node to change is an older one.
  have hpushed : (Arena.push (.ident promotion.name) hoist.arena).2.node? parent = some node := by
    rw [Arena.node?_of_lt_push hlt, hnode]
  have hnodes (id : NodeId) : (hoist.link promotion parent slot).2.arena.node? id =
      if id = parent then some node'
      else (Arena.push (.ident promotion.name) hoist.arena).2.node? id := by
    rw [arena_link, Arena.ident, Arena.node?_replaceChild hpushed hset id]
  constructor
  case size_eq => rw [arena_link, Arena.size_replaceChild, Arena.ident, Arena.size_push]
  case hint_eq =>
    intro id
    rw [arena_link, Arena.hint_replaceChild, Arena.ident, Arena.hint_push]
  case ident =>
    rw [hnodes, if_neg, Arena.node?_push]
    · exact if_pos rfl
    · rintro rfl
      exact Nat.lt_irrefl _ hlt
  case changed => exact ⟨node, node', hnode, hset, by rw [hnodes, if_pos rfl]⟩
  case other =>
    intro id hne hid
    rw [hnodes, if_neg hne, Arena.node?_of_lt_push hid]
  all_goals rfl

/-- A reference goes into a child slot. -/
theorem refer_eq_ok {node : Node} {promotion : Promotion} {place : Occurrence} :
    hoist.refer node promotion place = .ok hoist' ↔
      ∃ parent slot, place = .slot parent slot ∧ (hoist.arena.child? parent slot).isSome ∧
        hoist' = (hoist.link promotion parent slot).2 := by
  cases place with
  | root position => simp [refer]
  | slot parent slot =>
    have hfst := link_fst hoist promotion parent slot
    simp only [refer, hfst, Occurrence.slot.injEq]
    constructor
    · intro h
      split at h
      · next hsome => exact ⟨parent, slot, ⟨rfl, rfl⟩, hsome, (Except.ok.inj h).symm⟩
      · exact nomatch h
    · rintro ⟨_, _, ⟨rfl, rfl⟩, hsome, rfl⟩
      rw [if_pos hsome]

/-- Hoisting a node adds a declaration under a fresh name, and notes it. -/
theorem promote_eq_ok {id : NodeId} {node : Node} {first : Occurrence} {promotion : Promotion} :
    hoist.promote id node first = .ok (promotion, hoist') ↔
      node.isExpression = true ∧ first.isRoot = false ∧
      ∃ name names, hoist.names.fresh? (hoist.arena.hint id) = some (name, names) ∧
        promotion = ⟨id, name, hoist.roots.size⟩ ∧
        hoist' = { hoist with
          arena := (Arena.varDecl name (some id) hoist.arena).2
          names := names
          roots := hoist.roots.push ⟨hoist.arena.size + 1⟩
          promotions := hoist.promotions.push promotion
          sightings := hoist.sightings.insert id.index ⟨first, some promotion⟩ } := by
  unfold promote
  split
  · next hrefused =>
    -- Neither a node that is no expression nor a statement is hoisted.
    simp only [Bool.or_eq_true, Bool.not_eq_true'] at hrefused
    rcases hrefused with hexpr | hroot <;> simp [*]
  · next hgranted =>
    -- Otherwise only the name can be missing.
    simp only [Bool.or_eq_true, Bool.not_eq_true', not_or, Bool.not_eq_false,
      Bool.not_eq_true] at hgranted
    cases hfresh : hoist.names.fresh? (hoist.arena.hint id) with
    | none => simp
    | some drawn =>
      obtain ⟨name, names⟩ := drawn
      simp only [← Arena.varDecl_fst hoist.arena name (some id)]
      constructor
      · intro h
        injection h with h
        injection h with hpromotion hstate
        subst hpromotion hstate
        exact ⟨hgranted.1, hgranted.2, name, names, rfl, rfl, rfl⟩
      · rintro ⟨_, _, _, _, hdrawn, rfl, rfl⟩
        simp only [Option.some.injEq, Prod.mk.injEq] at hdrawn
        obtain ⟨rfl, rfl⟩ := hdrawn
        rfl

/-- The state after the first occurrence of a node. -/
def meet (hoist : Hoist) (id : NodeId) (place : Occurrence) : Hoist :=
  { hoist with
    sightings := hoist.sightings.insert id.index ⟨place, none⟩
    trail := hoist.trail.push id }

/-- The occurrences below a node. -/
def below (id : NodeId) (node : Node) : Agenda :=
  node.children.map fun (slot, child) => (child, Occurrence.slot id slot)

/-- Below a node are its children in their slots. -/
theorem mem_below {id child : NodeId} {node : Node} {place : Occurrence} :
    (child, place) ∈ below id node ↔
      ∃ slot, place = .slot id slot ∧ node.child? slot = some child := by
  simp only [below, List.mem_map, Prod.exists, Prod.mk.injEq, Node.mem_children]
  constructor
  · rintro ⟨slot, _, hchild, rfl, rfl⟩
    exact ⟨slot, rfl, hchild⟩
  · rintro ⟨slot, rfl, hchild⟩
    exact ⟨slot, child, hchild, rfl, rfl⟩

/-- The places below a node are distinct. -/
theorem places_below_nodup (id : NodeId) (node : Node) :
    ((below id node).map (·.2)).Nodup := by
  rw [below, List.map_map, List.Nodup, List.pairwise_map]
  refine node.pairwise_children.imp fun hlt heq => ?_
  simp only [Function.comp_apply, Occurrence.slot.injEq, true_and] at heq
  omega

/-- What is known of a node. -/
def sighting? (hoist : Hoist) (id : NodeId) : Option Sighting :=
  hoist.sightings[id.index]?

/-- Maps by index are maps by id. -/
theorem getElem?_insert_index (map : Std.TreeMap Nat α) (id other : NodeId) (value : α) :
    (map.insert id.index value)[other.index]? =
      if other = id then some value else map[other.index]? := by
  obtain ⟨index⟩ := id
  obtain ⟨index'⟩ := other
  simp only [Std.TreeMap.getElem?_insert, Std.LawfulEqCmp.compare_eq_iff_eq, NodeId.mk.injEq]
  by_cases h : index = index'
  · rw [if_pos h, if_pos h.symm]
  · rw [if_neg h, if_neg (Ne.symm h)]

/-- A node that is met is sighted in its place, with no promotion. -/
theorem sighting?_meet (hoist : Hoist) (id : NodeId) (place : Occurrence) (other : NodeId) :
    (hoist.meet id place).sighting? other =
      if other = id then some ⟨place, none⟩ else hoist.sighting? other := by
  rw [sighting?, meet, getElem?_insert_index, sighting?]

/-- A node that is hoisted keeps the place in which it was met. -/
theorem sighting?_promote {id : NodeId} {node : Node} {first : Occurrence} {promotion : Promotion}
    (h : hoist.promote id node first = .ok (promotion, hoist')) (other : NodeId) :
    hoist'.sighting? other =
      if other = id then some ⟨first, some promotion⟩ else hoist.sighting? other := by
  obtain ⟨_, _, _, _, _, _, rfl⟩ := promote_eq_ok.1 h
  rw [sighting?, getElem?_insert_index, sighting?]

/-- A link changes nothing of what is known of nodes. -/
theorem Linked.sighting?_eq {promotion : Promotion} {parent : NodeId} {slot : Nat}
    (h : hoist.Linked promotion parent slot hoist') (id : NodeId) :
    hoist'.sighting? id = hoist.sighting? id := by
  rw [sighting?, h.sightings_eq, sighting?]

/-- The three kinds of steps: a further reference to a hoisted node, the second occurrence of a
    node, and the first. -/
theorem visit_eq_ok {id : NodeId} {place : Occurrence} {next : Agenda} :
    hoist.visit id place = .ok (next, hoist') ↔
      ∃ node, hoist.arena.node? id = some node ∧ mayStandIn hoist.arena node place = true ∧
        ((∃ first promotion, hoist.sighting? id = some ⟨first, some promotion⟩ ∧
            next = [] ∧ hoist.refer node promotion place = .ok hoist') ∨
          (∃ first promotion hoist₁ hoist₂, hoist.sighting? id = some ⟨first, none⟩ ∧
            next = [] ∧ hoist.promote id node first = .ok (promotion, hoist₁) ∧
            hoist₁.refer node promotion first = .ok hoist₂ ∧
            hoist₂.refer node promotion place = .ok hoist') ∨
          (hoist.sighting? id = none ∧ next = below id node ∧
            hoist' = hoist.meet id place)) := by
  rw [visit, bind_eq_ok]
  simp only [placed_eq_ok, and_assoc]
  refine exists_congr fun node => and_congr_right fun _ => and_congr_right fun _ => ?_
  rw [sighting?]
  -- What is known of the node decides which of the three cases it is.
  cases hsighting : hoist.sightings[id.index]? with
  | none => simp [below, meet, eq_comm, pure, Except.pure]
  | some sighting =>
    obtain ⟨first, _ | promotion⟩ := sighting
    · simp only [reduceCtorEq, Option.some.injEq, Sighting.mk.injEq, and_false, false_and,
        exists_false, false_or, or_false, bind_eq_ok, pure, Except.pure, Except.ok.injEq,
        Prod.mk.injEq, Prod.exists, and_true]
      constructor
      · rintro ⟨promotion, hoist₁, hpromote, hoist₂, hfirst, _, hplace, rfl, rfl⟩
        exact ⟨first, promotion, hoist₁, hoist₂, rfl, rfl, hpromote, hfirst, hplace⟩
      · rintro ⟨_, promotion, hoist₁, hoist₂, rfl, rfl, hpromote, hfirst, hplace⟩
        exact ⟨promotion, hoist₁, hpromote, hoist₂, hfirst, hoist', hplace, rfl, rfl⟩
    · simp only [reduceCtorEq, Option.some.injEq, Sighting.mk.injEq, and_false, false_and,
        exists_false, or_false, bind_eq_ok, pure, Except.pure, Except.ok.injEq, Prod.mk.injEq]
      constructor
      · rintro ⟨_, hplace, rfl, rfl⟩
        exact ⟨first, promotion, ⟨rfl, rfl⟩, rfl, hplace⟩
      · rintro ⟨_, _, ⟨rfl, rfl⟩, rfl, hplace⟩
        exact ⟨hoist', hplace, rfl, rfl⟩

end Hoist

end Semblance
