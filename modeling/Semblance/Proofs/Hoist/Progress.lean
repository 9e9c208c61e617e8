import Semblance.Proofs.Hoist.Unfolding

/-!
# Hoisting succeeds

A walk stops with a fault at a node in a place where it may not stand, and at a shared node that
cannot be given a declaration: one that is no expression, that is a statement itself, or that has no
hint for its name. Where there is neither, every step succeeds. A walk visits each occurrence once,
and the steps it is granted are more than there are occurrences.

## Key results

- `visit_ok`: every step succeeds
- `walk_ok`: there are enough steps
- `hoist_ok`: hoisting succeeds
-/

namespace Semblance

/-- All nodes stand where they may, and those that are shared can be declared. -/
structure Arena.Hoistable (arena : Arena) (roots : List NodeId) : Prop where
  closed : arena.Closed roots
  placed : ∀ {id place node}, arena.Occurs roots id place → arena.node? id = some node →
    Hoist.mayStandIn arena node place = true
  expression : ∀ {id node}, arena.Shared roots id → arena.node? id = some node →
    node.isExpression = true
  not_root : ∀ {id}, arena.Shared roots id → id ∉ roots
  named : ∀ {id}, arena.Shared roots id → ∃ hint, arena.hint id = some hint ∧ hint ≠ ""

namespace Hoist

variable {arena : Arena} {roots : List NodeId} {names : NameSupply} {hoist : Hoist}
  {done rest agenda : Agenda} {id : NodeId} {place : Occurrence}

/-! ### Every step succeeds -/

/-- A reference can be put in any slot that the graph occupies. -/
theorem Rewrites.refer_ok (h : Rewrites arena roots names hoist) (hclosed : arena.Closed roots)
    {parent : NodeId} {slot : Nat} (hoccurs : arena.Occurs roots id (.slot parent slot))
    (node : Node) (promotion : Promotion) :
    ∃ hoist', hoist.refer node promotion (.slot parent slot) = .ok hoist' ∧
      hoist.Linked promotion parent slot hoist' := by
  have hsome : (hoist.arena.child? parent slot).isSome := by
    rw [h.child?_isSome (hclosed.lt_size hoccurs.1), hoccurs.2]
    rfl
  exact ⟨_, refer_eq_ok.2 ⟨parent, slot, rfl, hsome, rfl⟩, linked_link hsome⟩

/-- A node may stand in its places if and only if it may at the start. -/
theorem Rewrites.mayStandIn_eq (h : Rewrites arena roots names hoist) (hclosed : arena.Closed roots)
    (hoccurs : arena.Occurs roots id place) {node node' : Node} (hnode : arena.node? id = some node)
    (hnode' : hoist.arena.node? id = some node') :
    mayStandIn hoist.arena node' place = mayStandIn arena node place := by
  obtain ⟨_, hkept, hskeleton⟩ := h.skeleton_eq hnode
  obtain rfl := Option.some.inj (hkept.symm.trans hnode')
  cases place with
  | root position => rw [mayStandIn, mayStandIn, Node.needsContainer_of_skeleton_eq hskeleton]
  | slot parent slot =>
    obtain ⟨holder, hholder⟩ := Option.isSome_iff_exists.1 (hclosed parent hoccurs.1)
    obtain ⟨holder', hholder', hskeleton'⟩ := h.skeleton_eq hholder
    simp only [mayStandIn, hholder, hholder', Option.any_some]
    rw [Node.acceptsChild_of_skeleton_eq hskeleton' hskeleton]

/-- A check passes on the way because it passes in the given graph: a node is rewritten in its
    children only, and its skeleton is what the check looks at. -/
theorem Rewrites.mayStandIn_ok (h : Rewrites arena roots names hoist)
    (hhoistable : arena.Hoistable roots) (hoccurs : arena.Occurs roots id place) :
    ∃ node node', arena.node? id = some node ∧ hoist.arena.node? id = some node' ∧
      node'.skeleton = node.skeleton ∧ mayStandIn hoist.arena node' place = true := by
  obtain ⟨node, hnode⟩ := Option.isSome_iff_exists.1 (hhoistable.closed id hoccurs.reaches)
  obtain ⟨node', hnode', hskeleton⟩ := h.skeleton_eq hnode
  exact ⟨node, node', hnode, hnode', hskeleton,
    (h.mayStandIn_eq hhoistable.closed hoccurs hnode hnode').trans (hhoistable.placed hoccurs hnode)⟩

/-- A place of a shared node is a slot. -/
theorem slot_of_shared (hhoistable : arena.Hoistable roots) (hshared : arena.Shared roots id)
    (hoccurs : arena.Occurs roots id place) : ∃ parent slot, place = .slot parent slot := by
  cases place with
  | root position => exact absurd (List.mem_of_getElem? hoccurs) (hhoistable.not_root hshared)
  | slot parent slot => exact ⟨parent, slot, rfl⟩

/-- Every step succeeds. -/
theorem visit_ok (hhoistable : arena.Hoistable roots) (hr : Rewrites arena roots names hoist)
    (h : Walked arena roots done ((id, place) :: rest) hoist) :
    ∃ next hoist', hoist.visit id place = .ok (next, hoist') := by
  have hclosed := hhoistable.closed
  obtain ⟨hoccurs, _, hnew⟩ := h.head
  obtain ⟨node, node', hnode, hnode', hskeleton, hstand⟩ := hr.mayStandIn_ok hhoistable hoccurs
  -- A node that was met before occurs in two places, here and where it was met first.
  have hshared {first : Occurrence} {promotion? : Option Promotion}
      (hsighting : hoist.sighting? id = some ⟨first, promotion?⟩) : arena.Shared roots id := by
    have hfirst := h.first_mem hsighting
    refine ⟨first, place, ?_, h.occurs_of_done hfirst, hoccurs⟩
    rintro rfl
    exact hnew id hfirst
  cases hsighting : hoist.sighting? id with
  | none =>
    -- The first occurrence is noted, whatever the node is.
    have hstep := visit_eq_ok.2 ⟨node', hnode', hstand, .inr (.inr ⟨hsighting, rfl, rfl⟩)⟩
    exact ⟨_, _, hstep⟩
  | some sighting =>
    obtain ⟨first, _ | promotion⟩ := sighting
    · -- The second occurrence: both places are slots, and the node is hoisted.
      have hshared := hshared hsighting
      obtain ⟨parent', slot', rfl⟩ := slot_of_shared hhoistable hshared hoccurs
      have hfirst := h.occurs_of_done (h.first_mem hsighting)
      obtain ⟨parent, slot, rfl⟩ := slot_of_shared hhoistable hshared hfirst
      obtain ⟨hint, hhint, hnonempty⟩ := hhoistable.named hshared
      have hexpression : node'.isExpression = true := by
        rw [Node.isExpression_of_skeleton_eq hskeleton, hhoistable.expression hshared hnode]
      -- Its hint gives a name, so the node gets its declaration.
      cases hfresh : hoist.names.fresh? (hoist.arena.hint id) with
      | none =>
        rw [hr.hint_eq, hhint, NameSupply.fresh?_eq_none_iff] at hfresh
        simp [hnonempty] at hfresh
      | some drawn =>
        obtain ⟨name, names'⟩ := drawn
        have hpromote : hoist.promote id node' (.slot parent slot) = .ok (_, _) :=
          promote_eq_ok.2 ⟨hexpression, rfl, name, names', hfresh, rfl, rfl⟩
        have hr₁ := hr.promoted hclosed hpromote hoccurs.reaches fun promotion hmem hid => by
          obtain ⟨first, hhoisted⟩ := h.hoisted hmem
          rw [hid, hsighting] at hhoisted
          exact nomatch hhoisted
        obtain ⟨hoist₂, hrefer, hlink⟩ := hr₁.refer_ok hclosed hfirst node' _
        have hr₂ := hr₁.linked hclosed hlink Array.mem_push_self hfirst.1 hfirst.2
        obtain ⟨hoist₃, hrefer', _⟩ := hr₂.refer_ok hclosed hoccurs node' _
        have hstep := visit_eq_ok.2 ⟨node', hnode', hstand, .inr (.inl
          ⟨_, _, _, hoist₂, hsighting, rfl, hpromote, hrefer, hrefer'⟩)⟩
        exact ⟨_, _, hstep⟩
    · -- A further occurrence takes one more reference.
      obtain ⟨parent, slot, rfl⟩ := slot_of_shared hhoistable (hshared hsighting) hoccurs
      obtain ⟨hoist', hrefer, _⟩ := hr.refer_ok hclosed hoccurs node' promotion
      have hstep := visit_eq_ok.2 ⟨node', hnode', hstand, .inl
        ⟨first, promotion, hsighting, rfl, hrefer⟩⟩
      exact ⟨_, _, hstep⟩

/-! ### There are enough steps -/

/-- All places of the statements and of the slots of all nodes. -/
def places (arena : Arena) (roots : List NodeId) : List Occurrence :=
  (List.range roots.length).map .root ++ arena.nodes.toList.zipIdx.flatMap fun (node, index) =>
    (List.range node.operands.length).map (.slot ⟨index⟩)

/-- All places of a graph are among those that are counted. -/
theorem mem_places (hoccurs : arena.Occurs roots id place) : place ∈ places arena roots := by
  rw [places, List.mem_append]
  cases place with
  | root position =>
    have hlt := (List.getElem?_eq_some_iff.1 hoccurs).1
    exact .inl (List.mem_map.2 ⟨position, List.mem_range.2 hlt, rfl⟩)
  | slot parent slot =>
    -- A slot with a child is among the operands of its node.
    obtain ⟨node, hnode, hchild⟩ := Arena.child?_eq_some.1 hoccurs.2
    right
    refine List.mem_flatMap.2 ⟨(node, parent.index), ?_, ?_⟩
    · rw [List.mem_zipIdx_iff_getElem?, Array.getElem?_toList]
      exact hnode
    · refine List.mem_map.2 ⟨slot, List.mem_range.2 (Nat.lt_of_not_le fun hge => ?_), rfl⟩
      rw [Node.child?_eq, List.getElem?_eq_none hge] at hchild
      exact nomatch hchild

/-- There are more steps than places. -/
theorem length_places_le (arena : Arena) (roots : List NodeId) :
    (places arena roots).length ≤ allowance arena roots := by
  -- The count of the slots, for nodes from any index on and any count so far.
  have hsum (nodes : List Node) (start count : Nat) :
      ((nodes.zipIdx start).flatMap fun (node, index) =>
        (List.range node.operands.length).map (Occurrence.slot ⟨index⟩)).length + count =
      nodes.foldl (fun count node => count + node.operands.length) count := by
    induction nodes generalizing start count with
    | nil => simp
    | cons node nodes ih =>
      rw [List.zipIdx_cons, List.flatMap_cons, List.length_append, List.foldl_cons,
        ← ih (start + 1)]
      simp
      omega
  have hnodes := hsum arena.nodes.toList 0 0
  rw [places, allowance, List.length_append, List.length_map, List.length_range,
    ← Array.foldl_toList, ← hnodes]
  omega

/-- A walk that has made as many steps as it has visited occurrences is not stopped early. -/
theorem walk_ok (hhoistable : arena.Hoistable roots) {steps : Nat}
    (hr : Rewrites arena roots names hoist) (h : Walked arena roots done agenda hoist)
    (hsteps : done.length + steps = allowance arena roots) :
    ∃ hoist', walk steps agenda hoist = .ok hoist' := by
  induction steps generalizing done agenda hoist with
  | zero =>
    cases agenda with
    | nil => exact ⟨hoist, rfl⟩
    | cons head rest =>
      -- The next occurrence would be one more than there are.
      have hnodup := h.places_nodup_step
      rw [List.map_append, List.nodup_append] at hnodup
      have hsub : ((head :: done).map (·.2)) ⊆ places arena roots := by
        intro place hplace
        obtain ⟨⟨id, _⟩, hmem, rfl⟩ := List.mem_map.1 hplace
        rcases List.mem_cons.1 hmem with rfl | hdone
        · exact mem_places h.head.1
        · exact mem_places (h.occurs_of_done hdone)
      have hcount := hnodup.1.length_le_of_subset hsub
      have hplaces := length_places_le arena roots
      rw [List.length_map, List.length_cons] at hcount
      omega
  | succ steps ih =>
    cases agenda with
    | nil => exact ⟨hoist, rfl⟩
    | cons head rest =>
      obtain ⟨id, place⟩ := head
      obtain ⟨next, hoist', hstep⟩ := visit_ok hhoistable hr h
      obtain ⟨hr', h'⟩ := visit_walked hhoistable.closed hr h hstep
      rw [walk_cons, hstep]
      exact ih hr' h' (by rw [List.length_cons]; omega)

/-- Hoisting succeeds. -/
theorem hoist_ok (hhoistable : arena.Hoistable roots) (names : NameSupply) :
    ∃ hoisted, arena.hoist roots names = .ok hoisted := by
  obtain ⟨hoist, hwalk⟩ := walk_ok hhoistable (.start hhoistable.closed)
    (Walked.start arena roots names) (Nat.zero_add _)
  exact ⟨hoist.result, bind_eq_ok.2 ⟨hoist, hwalk, rfl⟩⟩

end Hoist

end Semblance
