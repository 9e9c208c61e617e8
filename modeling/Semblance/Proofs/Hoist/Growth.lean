import Semblance.Proofs.Hoist.Walk

/-!
# How a walk grows its arena

`Rewrites` and `Walked` relate a walk to a graph in which every id that is reached has a node. Where
that is not so, a walk may come to a node that it has put in itself: the id of the node was dangling
at the start, and a reference or a part of a declaration was allocated for it since.

This file is about walks from any graph. A walk puts in one node for each reference and two for each
declaration, and it changes only nodes that it has met. So the nodes that it comes to are nodes of
the start as they were, or nodes that it has put in and left alone, of which there are three kinds.

## Key results

- `Grown.linked`, `Grown.promoted`, `Grown.meet`: each operation of a walk keeps the invariant
- `Grown.visit`: so does one step
- `Grown.start`: a walk starts with it
- `Grown.visit_error`: what a step is refused for
-/

namespace Semblance.Hoist

/-- `hoist'` is `hoist` with more nodes and with changes to nodes that were met. -/
structure Grows (hoist hoist' : Hoist) : Prop where
  size_le : hoist.arena.size ≤ hoist'.arena.size
  first_eq : ∀ id, (hoist'.sighting? id).map (·.first) = (hoist.sighting? id).map (·.first)
  unmet : ∀ id, hoist.sighting? id = none → id.index < hoist.arena.size →
    hoist'.arena.node? id = hoist.arena.node? id

/-- The nodes that a walk puts in, as they are until it meets them: a reference, and the two parts
    of a declaration of a node that was met. -/
inductive Made (hoist : Hoist) : Node → Prop
  | ident (name : String) : Made hoist (.ident name)
  | declarator {name : String} {init : NodeId} : (hoist.sighting? init).isSome →
      Made hoist (.declarator name (some init))
  | varDecl {declarator : NodeId} : ((hoist.sighting? declarator).isSome ∨
      ∃ name init, hoist.arena.node? declarator = some (.declarator name init)) →
      Made hoist (.varDecl #[declarator])

/-- What a walk from `arena` that is to visit the occurrences of `agenda` has put in and met. -/
structure Grown (arena : Arena) (agenda : Agenda) (hoist : Hoist) : Prop where
  size_eq : hoist.arena.size =
    arena.size + 2 * hoist.promotions.size + hoist.references.size
  met_lt : ∀ {id}, (hoist.sighting? id).isSome → id.index < hoist.arena.size
  opened : ∀ {id place}, (id, place) ∈ agenda → hoist.Opened place
  first_opened : ∀ {id first promotion?}, hoist.sighting? id = some ⟨first, promotion?⟩ →
    hoist.Opened first
  /-- A given node that was not met is as it was. -/
  given : ∀ {id}, hoist.sighting? id = none → id.index < arena.size →
    hoist.arena.node? id = arena.node? id
  /-- A node that was put in and not met is as it was put in. -/
  made : ∀ {id node}, hoist.sighting? id = none → arena.size ≤ id.index →
    hoist.arena.node? id = some node → hoist.Made node

variable {arena : Arena} {hoist hoist' hoist'' : Hoist} {rest next : Agenda} {id : NodeId}
  {place first : Occurrence} {promotion : Promotion} {node : Node} {fault : Fault}

/-! ### Growing -/

namespace Grows

/-- No further node is met. -/
theorem isSome_eq (h : Grows hoist hoist') (id : NodeId) :
    (hoist'.sighting? id).isSome = (hoist.sighting? id).isSome := by
  rw [← Option.isSome_map (f := Sighting.first), h.first_eq, Option.isSome_map]

/-- What was not met is still not met. -/
theorem eq_none_iff (h : Grows hoist hoist') : hoist'.sighting? id = none ↔
    hoist.sighting? id = none := by
  rw [← Option.isNone_iff_eq_none, ← Option.isNone_iff_eq_none, ← Option.not_isSome,
    ← Option.not_isSome, h.isSome_eq]

/-- The places that can be rewritten are the same. -/
theorem opened_iff (h : Grows hoist hoist') (place : Occurrence) :
    hoist'.Opened place ↔ hoist.Opened place := by
  cases place with
  | root position => exact Iff.rfl
  | slot parent slot => rw [Opened, Opened, h.isSome_eq]

theorem trans (h : Grows hoist hoist') (h' : Grows hoist' hoist'') : Grows hoist hoist'' where
  size_le := Nat.le_trans h.size_le h'.size_le
  first_eq id := (h'.first_eq id).trans (h.first_eq id)
  unmet id hunmet hlt := by
    rw [h'.unmet id (h.eq_none_iff.2 hunmet) (Nat.lt_of_lt_of_le hlt h.size_le),
      h.unmet id hunmet hlt]

/-- A node that was put in and not met stays what it is. -/
theorem made (h : Grows hoist hoist') (hmade : hoist.Made node) : hoist'.Made node := by
  cases hmade with
  | ident name => exact .ident name
  | declarator hmet => exact .declarator (by rwa [h.isSome_eq])
  | varDecl hparts =>
    refine .varDecl ?_
    rw [h.isSome_eq]
    refine Decidable.or_iff_not_imp_left.2 fun hunmet => ?_
    obtain ⟨name, init, hnode⟩ := hparts.resolve_left hunmet
    rw [Option.not_isSome_iff_eq_none] at hunmet
    exact ⟨name, init, by rw [h.unmet _ hunmet (Arena.lt_size_of_node? hnode), hnode]⟩

end Grows

/-- A reference in a slot of a node that was met. -/
theorem Linked.grows {parent : NodeId} {slot : Nat}
    (hlink : hoist.Linked promotion parent slot hoist') (hmet : hoist.Opened (.slot parent slot)) :
    Grows hoist hoist' where
  size_le := by rw [hlink.size_eq]; exact Nat.le_succ _
  first_eq id := by rw [hlink.sighting?_eq]
  unmet id hunmet hlt := by
    refine hlink.other id ?_ hlt
    rintro rfl
    exact not_opened_slot hunmet slot hmet

/-- A declaration for a node that was met. -/
theorem grows_promote (hmet : hoist.sighting? id = some ⟨first, none⟩)
    (hstep : hoist.promote id node first = .ok (promotion, hoist')) : Grows hoist hoist' where
  size_le := by
    obtain ⟨_, _, _, _, _, _, rfl⟩ := promote_eq_ok.1 hstep
    rw [Arena.size_varDecl]
    exact Nat.le_add_right _ _
  first_eq other := by
    rw [sighting?_promote hstep]
    split
    · next heq => rw [heq, hmet]; rfl
    · rfl
  unmet _ _ hlt := node?_promote hstep hlt

/-! ### The operations of a walk -/

namespace Grown

/-- The invariant says no more of a longer agenda than of a shorter one. -/
theorem tail (h : Grown arena ((id, place) :: rest) hoist) : Grown arena rest hoist :=
  { h with opened := fun hmem => h.opened (List.mem_cons_of_mem _ hmem) }

/-- What nodes are put in decides whether the invariant is kept. -/
theorem grows (h : Grown arena rest hoist) (hgrows : Grows hoist hoist')
    (hsize : hoist'.arena.size =
      arena.size + 2 * hoist'.promotions.size + hoist'.references.size)
    (hmade : ∀ {id node}, hoist.arena.size ≤ id.index → hoist'.arena.node? id = some node →
      hoist'.Made node) : Grown arena rest hoist' where
  size_eq := hsize
  met_lt hmet := Nat.lt_of_lt_of_le (h.met_lt (by rwa [← hgrows.isSome_eq])) hgrows.size_le
  opened hmem := (hgrows.opened_iff _).2 (h.opened hmem)
  first_opened {other first promotion?} hsighting := by
    rw [hgrows.opened_iff]
    have hfirst := hgrows.first_eq other
    rw [hsighting] at hfirst
    obtain ⟨⟨_, _⟩, hformer, rfl⟩ := Option.map_eq_some_iff.1 hfirst.symm
    exact h.first_opened hformer
  given hunmet hlt := by
    rw [hgrows.eq_none_iff] at hunmet
    rw [hgrows.unmet _ hunmet (by rw [h.size_eq]; omega), h.given hunmet hlt]
  made {other node} hunmet hge hnode := by
    -- The node was put in before, or it is one of those put in now.
    by_cases hlt : other.index < hoist.arena.size
    · rw [hgrows.eq_none_iff] at hunmet
      rw [hgrows.unmet _ hunmet hlt] at hnode
      exact hgrows.made (h.made hunmet hge hnode)
    · exact hmade (Nat.not_lt.1 hlt) hnode

/-- Putting in a reference keeps the invariant. -/
theorem linked (h : Grown arena rest hoist) {parent : NodeId} {slot : Nat}
    (hlink : hoist.Linked promotion parent slot hoist')
    (hmet : hoist.Opened (.slot parent slot)) : Grown arena rest hoist' := by
  refine h.grows (hlink.grows hmet) ?_ ?_
  · rw [hlink.size_eq, h.size_eq, hlink.promotions_eq, hlink.references_eq, Array.size_push]
    omega
  · -- The one new node is the reference.
    intro id node hge hnode
    have hlt := Arena.lt_size_of_node? hnode
    rw [hlink.size_eq] at hlt
    obtain rfl : id = ⟨hoist.arena.size⟩ := congrArg NodeId.mk (by omega)
    rw [hlink.ident] at hnode
    exact Option.some.inj hnode ▸ .ident _

/-- Hoisting a node that was met keeps the invariant. -/
theorem promoted (h : Grown arena rest hoist)
    (hmet : hoist.sighting? id = some ⟨first, none⟩)
    (hstep : hoist.promote id node first = .ok (promotion, hoist')) :
    Grown arena rest hoist' ∧ Grows hoist hoist' ∧
      hoist'.arena.size = hoist.arena.size + 2 := by
  have hsightings := sighting?_promote hstep
  have hgrows := grows_promote hmet hstep
  obtain ⟨_, _, name, names, _, rfl, rfl⟩ := promote_eq_ok.1 hstep
  refine ⟨h.grows hgrows ?_ ?_, hgrows, Arena.size_varDecl ..⟩
  · have := h.size_eq
    simp only [Arena.size_varDecl, Array.size_push]
    omega
  · -- The two new nodes are the parts of the declaration.
    intro other node' hge hnode
    rw [Arena.node?_varDecl] at hnode
    split at hnode
    · refine Option.some.inj hnode ▸ .varDecl (.inr ⟨name, some id, ?_⟩)
      rw [Arena.node?_varDecl, if_neg (by simp), if_pos rfl]
    · split at hnode
      · refine Option.some.inj hnode ▸ .declarator ?_
        rw [hsightings, if_pos rfl]
        rfl
      · exact absurd (Arena.lt_size_of_node? hnode) (Nat.not_lt.2 hge)

/-- Meeting a node keeps the invariant, with the occurrences below the node on the agenda. -/
theorem meet (h : Grown arena ((id, place) :: rest) hoist) (hunmet : hoist.sighting? id = none)
    (hnode : hoist.arena.node? id = some node) :
    Grown arena (below id node ++ rest) (hoist.meet id place) := by
  have hsightings := sighting?_meet hoist id place
  have hmono {other : NodeId} (hmet : (hoist.sighting? other).isSome) :
      ((hoist.meet id place).sighting? other).isSome := by
    rw [hsightings]
    split
    · rfl
    · exact hmet
  have hopened {place' : Occurrence} (hplace : hoist.Opened place') :
      (hoist.meet id place).Opened place' := by
    cases place' with
    | root position => trivial
    | slot parent slot => exact hmono hplace
  -- What is not met afterwards was not met before.
  have hformer {other : NodeId} (hother : (hoist.meet id place).sighting? other = none) :
      hoist.sighting? other = none := by
    rw [hsightings] at hother
    split at hother
    · exact nomatch hother
    · exact hother
  constructor
  case size_eq => exact h.size_eq
  case met_lt =>
    intro other hmet
    rw [hsightings] at hmet
    split at hmet
    · next heq =>
      subst heq
      exact Arena.lt_size_of_node? hnode
    · exact h.met_lt hmet
  case opened =>
    intro other place' hmem
    rcases List.mem_append.1 hmem with hbelow | hmem
    · obtain ⟨slot, rfl, _⟩ := mem_below.1 hbelow
      rw [Opened, hsightings, if_pos rfl]
      rfl
    · exact hopened (h.opened (List.mem_cons_of_mem _ hmem))
  case first_opened =>
    intro other first promotion? hsighting
    rw [hsightings] at hsighting
    split at hsighting
    · obtain ⟨rfl, _⟩ := Sighting.mk.inj (Option.some.inj hsighting)
      exact hopened (h.opened (List.mem_cons_self ..))
    · exact hopened (h.first_opened hsighting)
  case given => exact fun hother => h.given (hformer hother)
  case made =>
    intro other node' hother hge hnode'
    -- The parts that were met are still met.
    cases h.made (hformer hother) hge hnode' with
    | ident name => exact .ident name
    | declarator hmet => exact .declarator (hmono hmet)
    | varDecl hparts => exact .varDecl (hparts.imp_left hmono)

/-- One step keeps the invariant, and it puts in four nodes at most. It comes to a node that was
    met, or to one that was not and to what is below it. -/
theorem visit (h : Grown arena ((id, place) :: rest) hoist)
    (hstep : hoist.visit id place = .ok (next, hoist')) : Grown arena (next ++ rest) hoist' ∧
      hoist'.arena.size ≤ hoist.arena.size + 4 ∧
      ((hoist.sighting? id).isSome ∧ next = [] ∧ Grows hoist hoist' ∨
        hoist.sighting? id = none ∧ hoist' = hoist.meet id place ∧
          ∃ node, hoist.arena.node? id = some node ∧ next = below id node) := by
  obtain ⟨node, hnode, _, hcases⟩ := visit_eq_ok.1 hstep
  have hopened := h.opened (List.mem_cons_self ..)
  rcases hcases with ⟨first, promotion, hsighting, rfl, hrefer⟩ |
    ⟨first, promotion, hoist₁, hoist₂, hsighting, rfl, hpromote, hrefer, hrefer'⟩ |
    ⟨hunmet, rfl, rfl⟩
  · -- A further occurrence of a node that was hoisted.
    obtain ⟨parent, slot, rfl, hsome, rfl⟩ := refer_eq_ok.1 hrefer
    have hlink : Linked _ promotion parent slot _ := linked_link hsome
    exact ⟨h.tail.linked hlink hopened, by rw [hlink.size_eq]; omega,
      .inl ⟨by rw [hsighting]; rfl, rfl, hlink.grows hopened⟩⟩
  · -- The second occurrence, which is referred to after the first.
    obtain ⟨hgrown₁, hgrows, hsize⟩ := h.tail.promoted hsighting hpromote
    obtain ⟨parent, slot, rfl, hsome, rfl⟩ := refer_eq_ok.1 hrefer
    obtain ⟨parent', slot', rfl, hsome', rfl⟩ := refer_eq_ok.1 hrefer'
    have hlink : Linked _ promotion parent slot _ := linked_link hsome
    have hlink' : Linked _ promotion parent' slot' _ := linked_link hsome'
    have hfirst := (hgrows.opened_iff _).2 (h.first_opened hsighting)
    have hgrows₂ := hgrows.trans (hlink.grows hfirst)
    have hplace := (hgrows₂.opened_iff _).2 hopened
    exact ⟨(hgrown₁.linked hlink hfirst).linked hlink' hplace,
      Nat.le_of_eq (by rw [hlink'.size_eq, hlink.size_eq, hsize]),
      .inl ⟨by rw [hsighting]; rfl, rfl, hgrows₂.trans (hlink'.grows hplace)⟩⟩
  · exact ⟨h.meet hunmet hnode, Nat.le_add_right .., .inr ⟨hunmet, rfl, node, hnode, rfl⟩⟩

/-- A walk starts with nothing put in. -/
theorem start (arena : Arena) (roots : List NodeId) (names : NameSupply) :
    Grown arena (agenda roots) { arena, roots := roots.toArray, names } := by
  have hunmet := sighting?_start arena roots names
  constructor
  case opened =>
    intro id place hmem
    obtain ⟨_, _, heq⟩ := List.mem_map.1 hmem
    rw [← (Prod.mk.inj heq).2]
    trivial
  case made =>
    exact fun _ hge hnode => absurd (Arena.lt_size_of_node? hnode) (Nat.not_lt.2 hge)
  all_goals simp [hunmet]

end Grown

/-! ### Faults -/

/-- A reference to a hoisted node is refused in a place that holds nothing, with the kind of a node
    that is there. -/
theorem Grown.refer_error (h : Grown arena rest hoist) (hopened : hoist.Opened place)
    (hrefer : hoist.refer node promotion place = .error fault) :
    ∃ other node', fault = .unsupportedNode other (Node.kindName node') := by
  cases place with
  | root position => exact ⟨promotion.node, node, (Except.error.inj hrefer).symm⟩
  | slot parent slot =>
    simp only [refer] at hrefer
    split at hrefer
    · cases hrefer
    · -- The node that was to hold the reference was met, so it is there.
      have hlt : parent.index < (hoist.link promotion parent slot).2.arena.size := by
        have := h.met_lt hopened
        rw [arena_link, Arena.size_replaceChild, Arena.ident, Arena.size_push]
        omega
      have hnode : (hoist.link promotion parent slot).2.arena.node? parent = some _ :=
        Array.getElem?_eq_getElem hlt
      rw [hnode] at hrefer
      exact ⟨parent, _, (Except.error.inj hrefer).symm⟩

/-- A node is hoisted unless it is of the wrong kind, a statement, or without a name. -/
theorem promote_error (hpromote : hoist.promote id node first = .error fault) :
    fault = .unsupportedNode id node.kindName ∨ ∃ hint, fault = .invalidName hint := by
  unfold promote at hpromote
  split at hpromote
  · exact .inl (Except.error.inj hpromote).symm
  · split at hpromote
    · exact .inr ⟨_, (Except.error.inj hpromote).symm⟩
    · exact nomatch hpromote

/-- A step is refused at an id without a node, or for the kind of a node, or for want of a name. -/
theorem Grown.visit_error (h : Grown arena ((id, place) :: rest) hoist)
    (hstep : hoist.visit id place = .error fault) :
    hoist.arena.node? id = none ∧ fault = .unsupportedNode id "dangling" ∨
      (hoist.arena.node? id).isSome ∧
        ((∃ other node, fault = .unsupportedNode other (Node.kindName node)) ∨
          ∃ hint, fault = .invalidName hint) := by
  have hopened := h.opened (List.mem_cons_self ..)
  rcases bind_eq_error.1 hstep with hplaced | ⟨node, hplaced, hstep⟩
  · unfold placed at hplaced
    split at hplaced
    · next hnone => exact .inl ⟨hnone, (Except.error.inj hplaced).symm⟩
    · next node hnode =>
      split at hplaced
      · exact nomatch hplaced
      · exact .inr ⟨by rw [hnode]; rfl, .inl ⟨id, node, (Except.error.inj hplaced).symm⟩⟩
  · obtain ⟨hnode, _⟩ := placed_eq_ok.1 hplaced
    refine .inr ⟨by rw [hnode]; rfl, ?_⟩
    -- What is known of the node decides which of the three cases it is.
    cases hsighting : hoist.sightings[id.index]? with
    | none =>
      rw [hsighting] at hstep
      exact nomatch hstep
    | some sighting =>
      rw [hsighting] at hstep
      obtain ⟨first, _ | promotion⟩ := sighting
      · rcases bind_eq_error.1 hstep with hpromote | ⟨⟨promotion, hoist₁⟩, hpromote, hstep⟩
        · exact (promote_error hpromote).imp_left fun heq => ⟨id, node, heq⟩
        · obtain ⟨hgrown₁, hgrows, _⟩ := h.tail.promoted hsighting hpromote
          have hfirst := (hgrows.opened_iff _).2 (h.first_opened hsighting)
          rcases bind_eq_error.1 hstep with hrefer | ⟨hoist₂, hrefer, hstep⟩
          · exact .inl (hgrown₁.refer_error hfirst hrefer)
          · obtain ⟨parent, slot, rfl, hsome, rfl⟩ := refer_eq_ok.1 hrefer
            have hlink : Linked _ promotion parent slot _ := linked_link hsome
            have hplace := ((hgrows.trans (hlink.grows hfirst)).opened_iff _).2 hopened
            rcases bind_eq_error.1 hstep with hrefer' | ⟨_, _, hstep⟩
            · exact .inl ((hgrown₁.linked hlink hfirst).refer_error hplace hrefer')
            · exact nomatch hstep
      · rcases bind_eq_error.1 hstep with hrefer | ⟨_, _, hstep⟩
        · exact .inl (h.refer_error hopened hrefer)
        · exact nomatch hstep

end Semblance.Hoist
