import Semblance.Proofs.Hoist.Progress

/-!
# What hoisting has checked

Where a graph can be hoisted, hoisting succeeds. The converse holds as well: a walk looks at every
occurrence before it goes on, so that it ends only where all nodes stand where they may, and all
shared nodes can be declared.

## Key results

- `visit_vetted`: one step checks the occurrence that it visits
- `hoist_ok_iff`: hoisting succeeds if and only if the graph can be hoisted
-/

namespace Semblance.Hoist

open Arena (occurs_root)

/-- What a walk has let through: the occurrences that it has visited stand where they may, and the
    nodes that it has hoisted are expressions. -/
structure Vetted (arena : Arena) (done : Agenda) (hoist : Hoist) : Prop where
  placed : ∀ {id place node}, (id, place) ∈ done → arena.node? id = some node →
    mayStandIn arena node place = true
  expression : ∀ {promotion node}, promotion ∈ hoist.promotions →
    arena.node? promotion.node = some node → node.isExpression = true

variable {arena : Arena} {roots : List NodeId} {names : NameSupply} {hoist hoist' : Hoist}
  {done rest next : Agenda} {id : NodeId} {place : Occurrence}

/-- Putting in a reference hoists nothing. -/
theorem promotions_refer {node : Node} {promotion : Promotion}
    (h : hoist.refer node promotion place = .ok hoist') : hoist'.promotions = hoist.promotions := by
  obtain ⟨_, _, _, hsome, rfl⟩ := refer_eq_ok.1 h
  exact (linked_link hsome).promotions_eq

/-- One step checks the occurrence that it visits. -/
theorem visit_vetted (hclosed : arena.Closed roots) (hr : Rewrites arena roots names hoist)
    (hw : Walked arena roots done ((id, place) :: rest) hoist) (h : Vetted arena done hoist)
    (hstep : hoist.visit id place = .ok (next, hoist')) :
    Vetted arena ((id, place) :: done) hoist' := by
  obtain ⟨node', hnode', hstand, hcases⟩ := visit_eq_ok.1 hstep
  obtain ⟨hoccurs, _⟩ := hw.head
  refine ⟨fun {other place' node} hmem hnode => ?_, fun {promotion node} hmem hnode => ?_⟩
  · rcases List.mem_cons.1 hmem with heq | hmem
    · obtain ⟨rfl, rfl⟩ := Prod.mk.inj heq
      rwa [← hr.mayStandIn_eq hclosed hoccurs hnode hnode']
    · exact h.placed hmem hnode
  · rcases hcases with ⟨_, _, _, _, hrefer⟩ | ⟨_, _, _, _, _, _, hpromote, hrefer, hrefer'⟩ |
      ⟨_, _, rfl⟩
    · exact h.expression (promotions_refer hrefer ▸ hmem) hnode
    · rw [promotions_refer hrefer', promotions_refer hrefer] at hmem
      obtain ⟨hexpression, _, _, _, _, rfl, rfl⟩ := promote_eq_ok.1 hpromote
      rcases Array.mem_push.1 hmem with hmem | rfl
      · exact h.expression hmem hnode
      · -- The node of this step is hoisted, and it has kept its kind.
        obtain ⟨_, hkept, hskeleton⟩ := hr.skeleton_eq hnode
        obtain rfl := Option.some.inj (hkept.symm.trans hnode')
        rwa [← Node.isExpression_of_skeleton_eq hskeleton]
    · exact h.expression hmem hnode

/-- A graph that a finished walk has checked can be hoisted. -/
theorem Vetted.hoistable (h : Vetted arena done hoist) (hclosed : arena.Closed roots)
    (hr : Rewrites arena roots names hoist) (hw : Walked arena roots done [] hoist) :
    arena.Hoistable roots where
  closed := hclosed
  placed hoccurs hnode := h.placed (hw.mem_done_iff.2 hoccurs) hnode
  expression hshared hnode := by
    obtain ⟨promotion, hmem, rfl⟩ := hw.shared_iff.1 hshared
    exact h.expression hmem hnode
  not_root hshared hmem := (hw.unfolded hr).root_not_shared hmem hshared
  named hshared := by
    obtain ⟨promotion, hmem, rfl⟩ := hw.shared_iff.1 hshared
    obtain ⟨_, _, hdrawn⟩ := hr.name_drawn hmem
    obtain ⟨hint, hhint, hne, _⟩ := NameSupply.fresh?_eq_some hdrawn
    exact ⟨hint, hhint, hne⟩

/-- Hoisting succeeds if and only if the graph can be hoisted. -/
theorem hoist_ok_iff (hclosed : arena.Closed roots) :
    (∃ hoisted, arena.hoist roots names = .ok hoisted) ↔ arena.Hoistable roots := by
  refine ⟨fun ⟨hoisted, h⟩ => ?_, fun hhoistable => hoist_ok hhoistable names⟩
  obtain ⟨hoist, hwalk, _⟩ := bind_eq_ok.1 h
  have hstart : Vetted arena [] { arena, roots := roots.toArray, names } :=
    ⟨fun hmem => (nomatch hmem), fun hmem => by simp at hmem⟩
  obtain ⟨hr, done, hw, hvetted⟩ := walk_keeps hclosed (Vetted arena) (visit_vetted hclosed)
    (.start hclosed) (Walked.start arena roots names) hstart hwalk
  exact hvetted.hoistable hclosed hr hw

end Semblance.Hoist
