import Semblance.Proofs.Hoist.Walk

/-!
# What hoisting results in

A finished walk has visited every occurrence of the graph. So the hoisted nodes are the shared ones,
and each occurrence of a shared node holds a reference to its declaration. `Unfolded` says this in
terms of the graph alone.

## Key results

- `Walked.unfolded`: a walk with nothing left to visit unfolds the graph
- `hoist_eq_ok`: what `Arena.hoist` answers is the result of such a walk
-/

namespace Semblance.Hoist

open Arena (occurs_root occurs_slot)

/-- What hoisting makes of the graph below `roots` in `arena`. -/
structure Unfolded (arena : Arena) (roots : List NodeId) (names : NameSupply) (hoist : Hoist) :
    Prop extends Rewrites arena roots names hoist where
  shared_iff : ∀ {id}, arena.Shared roots id ↔
    ∃ promotion ∈ hoist.promotions, promotion.node = id
  slot_eq : ∀ {parent slot child}, arena.Reaches roots parent →
    arena.child? parent slot = some child → ¬ arena.Shared roots child →
    hoist.arena.child? parent slot = some child
  slot_links : ∀ {parent slot promotion}, arena.Reaches roots parent →
    promotion ∈ hoist.promotions → arena.child? parent slot = some promotion.node →
    arena.Links hoist.arena parent slot promotion.name
  /-- No statement is shared. -/
  root_not_shared : ∀ {id}, id ∈ roots → ¬ arena.Shared roots id

variable {arena : Arena} {roots : List NodeId} {names : NameSupply} {hoist : Hoist}
  {done : Agenda} {id : NodeId} {place : Occurrence}

namespace Walked

/-- Every node that is reached was met. -/
theorem met (h : Walked arena roots done [] hoist) (hid : arena.Reaches roots id) :
    (hoist.sighting? id).isSome := by
  have hvisited {id : NodeId} {place : Occurrence} (hoccurs : arena.Occurs roots id place)
      (hopened : hoist.Opened place) : (hoist.sighting? id).isSome := by
    rcases h.occurs_iff.2 ⟨hoccurs, hopened⟩ with hdone | hleft
    · exact h.met_iff.2 ⟨place, hdone⟩
    · exact nomatch hleft
  induction hid with
  | root hmem =>
    obtain ⟨position, hposition⟩ := List.getElem?_of_mem hmem
    exact hvisited (occurs_root.2 hposition) trivial
  | child hparent hchild ih => exact hvisited (occurs_slot.2 ⟨hparent, hchild⟩) ih

/-- The visited occurrences are all there are. -/
theorem mem_done_iff (h : Walked arena roots done [] hoist) :
    (id, place) ∈ done ↔ arena.Occurs roots id place := by
  refine ⟨h.occurs_of_done, fun hoccurs => ?_⟩
  have hopened : hoist.Opened place := by
    cases place with
    | root => trivial
    | slot parent slot => exact h.met hoccurs.1
  exact (h.occurs_iff.2 ⟨hoccurs, hopened⟩).resolve_right fun hleft => nomatch hleft

/-- The shared nodes are the hoisted ones. -/
theorem shared_iff (h : Walked arena roots done [] hoist) :
    arena.Shared roots id ↔ ∃ promotion ∈ hoist.promotions, promotion.node = id := by
  constructor
  · rintro ⟨place, place', hne, hoccurs, hoccurs'⟩
    obtain ⟨⟨first, _ | promotion⟩, hsighting⟩ :=
      Option.isSome_iff_exists.1 (h.met hoccurs.reaches)
    · -- A node that is not hoisted was visited in one place only.
      exact absurd ((h.alone hsighting (h.mem_done_iff.2 hoccurs)).trans
        (h.alone hsighting (h.mem_done_iff.2 hoccurs')).symm) hne
    · obtain ⟨hmem, hnode, _⟩ := h.again hsighting
      exact ⟨promotion, hmem, hnode⟩
  · rintro ⟨promotion, hmem, rfl⟩
    obtain ⟨first, hsighting⟩ := h.hoisted hmem
    obtain ⟨_, _, place, hne, hdone⟩ := h.again hsighting
    exact ⟨place, first, hne, h.mem_done_iff.1 hdone, h.mem_done_iff.1 (h.first_mem hsighting)⟩

/-- A walk with nothing left to visit unfolds the graph. -/
theorem unfolded (hr : Rewrites arena roots names hoist) (h : Walked arena roots done [] hoist) :
    Unfolded arena roots names hoist where
  toRewrites := hr
  shared_iff := h.shared_iff
  slot_eq hparent hchild hshared := by
    refine h.unlinked ⟨hparent, hchild⟩ ?_
    -- A node that was linked is hoisted, so it is shared.
    rintro ⟨_, first, promotion, hsighting⟩
    obtain ⟨hmem, hnode, _⟩ := h.again hsighting
    exact hshared (h.shared_iff.2 ⟨promotion, hmem, hnode⟩)
  slot_links hparent hmem hchild := by
    obtain ⟨first, hsighting⟩ := h.hoisted hmem
    exact h.links (h.mem_done_iff.2 ⟨hparent, hchild⟩) hsighting
  root_not_shared hid hshared := by
    obtain ⟨promotion, hmem, rfl⟩ := h.shared_iff.1 hshared
    obtain ⟨first, hsighting⟩ := h.hoisted hmem
    obtain ⟨position, hposition⟩ := List.getElem?_of_mem hid
    exact h.not_root (h.mem_done_iff.2 (occurs_root.2 hposition)) hsighting

end Walked

/-- What `Arena.hoist` answers is the result of a walk that has visited everything. -/
theorem hoist_eq_ok (hclosed : arena.Closed roots) {hoisted : Hoisted}
    (h : arena.hoist roots names = .ok hoisted) :
    ∃ hoist done, hoisted = hoist.result ∧ Unfolded arena roots names hoist ∧
      Walked arena roots done [] hoist := by
  obtain ⟨hoist, hwalk, hresult⟩ := bind_eq_ok.1 h
  obtain ⟨hr, done, hw⟩ :=
    walk_walked hclosed (.start hclosed) (Walked.start arena roots names) hwalk
  exact ⟨hoist, done, (Except.ok.inj hresult).symm, hw.unfolded hr, hw⟩

end Semblance.Hoist
