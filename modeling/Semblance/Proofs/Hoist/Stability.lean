import Semblance.Proofs.Hoist.Progress
import Semblance.Proofs.Syntax.Forest

/-!
# Hoisting leaves forests alone

In a forest no node is met twice. So a walk takes note of every node at its first occurrence, and it
does nothing else.

## Key results

- `hoistable_of_forest`: a forest can be hoisted if its nodes stand where they may
- `visit_untouched`: one step changes only what is known
- `hoist_forest`: hoisting gives the forest back
-/

namespace Semblance

/-- All nodes stand where they may. -/
def Arena.Placed (arena : Arena) (roots : List NodeId) : Prop :=
  ∀ id place node, arena.Occurs roots id place → arena.node? id = some node →
    Hoist.mayStandIn arena node place = true

variable {arena : Arena} {roots : List NodeId} {names : NameSupply}

/-- In a forest, no node occurs in two places. -/
theorem Arena.IsForest.not_shared (h : arena.IsForest roots) (id : NodeId) :
    ¬ arena.Shared roots id :=
  fun ⟨_, _, hne, hoccurs, hoccurs'⟩ => hne (h.place_unique hoccurs hoccurs')

/-- A forest can be hoisted if its nodes stand where they may. -/
theorem Arena.IsForest.hoistable (h : arena.IsForest roots) (hplaced : arena.Placed roots) :
    arena.Hoistable roots where
  closed := h.closed
  placed := hplaced _ _ _
  expression hshared := absurd hshared (h.not_shared _)
  not_root hshared := absurd hshared (h.not_shared _)
  named hshared := absurd hshared (h.not_shared _)

namespace Hoist

variable {hoist hoist' : Hoist} {done rest next : Agenda} {id : NodeId} {place : Occurrence}

/-- A walk has changed nothing but what it knows. -/
structure Untouched (arena : Arena) (roots : List NodeId) (names : NameSupply) (hoist : Hoist) :
    Prop where
  arena_eq : hoist.arena = arena
  roots_eq : hoist.roots = roots.toArray
  names_eq : hoist.names = names
  promotions_eq : hoist.promotions = #[]
  references_eq : hoist.references = #[]

/-- No node of a forest was met before. -/
theorem Walked.not_met (h : Walked arena roots done ((id, place) :: rest) hoist)
    (hforest : arena.IsForest roots) : hoist.sighting? id = none := by
  obtain ⟨hoccurs, _, hnew⟩ := h.head
  refine Option.eq_none_iff_forall_ne_some.2 fun sighting hsighting => ?_
  have hfirst := h.first_mem hsighting
  rw [hforest.place_unique (h.occurs_of_done hfirst) hoccurs] at hfirst
  exact hnew id hfirst

/-- One step in a forest changes only what is known. -/
theorem visit_untouched (hforest : arena.IsForest roots)
    (hw : Walked arena roots done ((id, place) :: rest) hoist)
    (h : Untouched arena roots names hoist) (hstep : hoist.visit id place = .ok (next, hoist')) :
    Untouched arena roots names hoist' := by
  obtain ⟨_, _, _, hcases⟩ := visit_eq_ok.1 hstep
  rcases hcases with ⟨_, _, hsighting, _⟩ | ⟨_, _, _, _, hsighting, _⟩ | ⟨_, _, rfl⟩
  · exact nomatch (hw.not_met hforest).symm.trans hsighting
  · exact nomatch (hw.not_met hforest).symm.trans hsighting
  · exact ⟨h.arena_eq, h.roots_eq, h.names_eq, h.promotions_eq, h.references_eq⟩

/-- Without references there are no dependencies. -/
theorem Untouched.deps_eq (h : Untouched arena roots names hoist) :
    hoist.deps = Array.replicate roots.length #[] := by
  rw [deps, h.references_eq, h.roots_eq, List.size_toArray]
  rfl

/-- Hoisting gives a forest back. -/
theorem hoist_forest (h : arena.IsForest roots) (hplaced : arena.Placed roots)
    (names : NameSupply) :
    arena.hoist roots names =
      .ok { arena, roots := roots.toArray, deps := Array.replicate roots.length #[],
            promotions := #[], names } := by
  obtain ⟨hoisted, hhoisted⟩ := hoist_ok (h.hoistable hplaced) names
  obtain ⟨hoist, hwalk, hresult⟩ := bind_eq_ok.1 hhoisted
  obtain ⟨_, _, _, huntouched⟩ := walk_keeps h.closed (fun _ => Untouched arena roots names)
    (fun _ hw huntouched hstep => visit_untouched h hw huntouched hstep) (.start h.closed)
    (Walked.start arena roots names) ⟨rfl, rfl, rfl, rfl, rfl⟩ hwalk
  rw [hhoisted, ← Except.ok.inj hresult, result, huntouched.deps_eq, huntouched.arena_eq,
    huntouched.roots_eq, huntouched.promotions_eq, huntouched.names_eq]

end Hoist

end Semblance
