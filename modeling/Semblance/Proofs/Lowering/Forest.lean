import Semblance.Lowering
import Semblance.Proofs.Hoist.Preservation
import Semblance.Proofs.Hoist.Sites
import Semblance.Proofs.Program.Layout
import Semblance.Proofs.Schedule.Search
import Semblance.Proofs.Syntax.Forest

/-!
# A lowered program is a forest

Whatever sharing and whatever cycles there are in a graph, its lowering has neither: every node of
the program stands in one place, and the program can be written out. And nothing is lost on the way,
since every node of the graph stands in the program.

## Key results

- `lower_eq_ok`: a lowering in terms of a finished walk
- `lower_isForest`: a lowered program is a forest with all nodes of the graph
-/

namespace Semblance

variable {arena : Arena} {roots : List NodeId} {names : NameSupply} {lowering : Lowering}

/-- An unfolded graph is a forest. -/
theorem Hoist.Unfolded.isForest {hoist : Hoist} (h : Hoist.Unfolded arena roots names hoist)
    (hclosed : arena.Closed roots) : hoist.arena.IsForest hoist.roots.toList where
  place_unique := h.place_unique hclosed
  closed id hid := by
    -- Each kind of site holds a node that is there.
    obtain ⟨place, hsite⟩ := h.exists_site hclosed hid
    cases hsite with
    | kept hoccurs _ =>
      obtain ⟨node, hnode⟩ := Option.isSome_iff_exists.1 (hclosed id hoccurs.reaches)
      obtain ⟨node', hnode', _⟩ := h.skeleton_eq hnode
      rw [hnode', Option.isSome_some]
    | reference _ _ _ _ _ hnode => rw [hnode, Option.isSome_some]
    | decl hdecl => rw [hdecl.decl_node, Option.isSome_some]
    | declarator hdecl => rw [hdecl.declarator_node, Option.isSome_some]
    | hoisted hdecl =>
      obtain ⟨node, hnode⟩ := Option.isSome_iff_exists.1 (hclosed _ (h.node_reached hdecl.mem))
      obtain ⟨node', hnode', _⟩ := h.skeleton_eq hnode
      rw [hnode', Option.isSome_some]

/-- A hoisted statement stands in one position. -/
theorem Hoist.Unfolded.position_unique {hoist : Hoist}
    (h : Hoist.Unfolded arena roots names hoist) (hclosed : arena.Closed roots) {i j : Nat}
    {root : NodeId} (hi : hoist.roots[i]? = some root) (hj : hoist.roots[j]? = some root) : i = j :=
  (h.isForest hclosed).position_unique (Array.getElem?_toList.trans hi)
    (Array.getElem?_toList.trans hj)

/-- A lowering schedules and lays out what a walk has unfolded. -/
theorem lower_eq_ok (hclosed : arena.Closed roots) (h : arena.lower roots names = .ok lowering) :
    ∃ hoist done, Hoist.Unfolded arena roots names hoist ∧
      Hoist.Walked arena roots done [] hoist ∧
      lowering = ⟨hoist.result, .ofDeps hoist.roots.size hoist.deps⟩ := by
  obtain ⟨hoisted, hhoist, hresult⟩ := bind_eq_ok.1 h
  obtain ⟨hoist, done, rfl, hunfolded, hwalked⟩ := Hoist.hoist_eq_ok hclosed hhoist
  exact ⟨hoist, done, hunfolded, hwalked, (Except.ok.inj hresult).symm⟩

/-- A lowering fails where hoisting does. -/
theorem lower_eq_error_iff {fault : Fault} :
    arena.lower roots names = .error fault ↔ arena.hoist roots names = .error fault := by
  rw [Arena.lower, bind_eq_error]
  exact ⟨fun h => h.resolve_right fun ⟨_, _, hresult⟩ => (nomatch hresult), .inl⟩

/-- A program consists of the hoisted statements. -/
theorem program_body_perm (arena : Arena) (roots : Array NodeId) (deps : Array (Array Nat)) :
    (Program.ofOrder arena roots (Schedule.ofDeps roots.size deps).order.toList).body.Perm
      roots.toList :=
  Program.body_perm (Schedule.order_perm deps roots.size)

/-- The statements of a program are the given ones, in whatever order. -/
theorem mem_program_body (arena : Arena) {roots : Array NodeId} (deps : Array (Array Nat))
    {root : NodeId} :
    root ∈ (Program.ofOrder arena roots (Schedule.ofDeps roots.size deps).order.toList).body ↔
      ∃ i : Nat, roots[i]? = some root :=
  (program_body_perm arena roots deps).mem_iff.trans
    (Array.mem_toList_iff.trans Array.mem_iff_getElem?)

/-- A program is what a walk has unfolded, in another order. -/
theorem lower_forest (hclosed : arena.Closed roots) (h : arena.lower roots names = .ok lowering) :
    lowering.program.arena.IsForest lowering.program.body := by
  obtain ⟨hoist, _, hunfolded, _, rfl⟩ := lower_eq_ok hclosed h
  exact (hunfolded.isForest hclosed).perm (program_body_perm hoist.arena hoist.roots hoist.deps)

/-- A lowered program is a forest, and every node of the graph stands in it once. -/
theorem lower_isForest (hclosed : arena.Closed roots)
    (h : arena.lower roots names = .ok lowering) :
    (∀ id, lowering.program.arena.Reaches lowering.program.body id →
      (lowering.program.arena.node? id).isSome ∧
      lowering.program.arena.OccursOnce lowering.program.body id ∧
      ¬ lowering.program.arena.Beneath id id) ∧
    lowering.program.dump?.isSome ∧
    ∀ id, arena.Reaches roots id →
      lowering.program.arena.OccursOnce lowering.program.body id := by
  obtain ⟨hoist, _, hunfolded, _, rfl⟩ := lower_eq_ok hclosed h
  have hperm := program_body_perm hoist.arena hoist.roots hoist.deps
  have hforest := (hunfolded.isForest hclosed).perm hperm
  refine ⟨fun id hid => ?_, hforest.dumpAll?_isSome, fun id hid => ?_⟩
  · exact ⟨hforest.closed id hid, hforest.occursOnce hid, hforest.not_beneath_self hid⟩
  · exact hforest.occursOnce
      ((hunfolded.reaches hid).mono fun _ hmem => .root (hperm.mem_iff.2 hmem))

/-- The value that holds itself is lowered to a forest. -/
theorem lower_isForest_selfReference :
    ∃ lowering, Hoist.selfReference.lower [⟨4⟩] (NameSupply.empty.reserve "log") = .ok lowering ∧
      lowering.program.dump?.isSome ∧
      lowering.program.arena.OccursOnce lowering.program.body ⟨1⟩ := by
  have hok : (Hoist.selfReference.lower [⟨4⟩] (NameSupply.empty.reserve "log")).isOk = true := by
    decide +kernel
  obtain ⟨lowering, hlower⟩ := isOk_iff.1 hok
  obtain ⟨_, hdump, hkept⟩ := lower_isForest Hoist.selfReference_closed hlower
  refine ⟨lowering, hlower, hdump, hkept ⟨1⟩ ?_⟩
  have hcall : Hoist.selfReference.child? ⟨4⟩ 0 = some ⟨3⟩ := by decide
  have hvalue : Hoist.selfReference.child? ⟨3⟩ 1 = some ⟨0⟩ := by decide
  have hentry : Hoist.selfReference.child? ⟨0⟩ 0 = some ⟨1⟩ := by decide
  exact (((Arena.Reaches.root (List.mem_singleton_self _)).child hcall).child hvalue).child hentry

end Semblance
