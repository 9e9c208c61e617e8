import Semblance.Proofs.Hoist.Dependencies
import Semblance.Proofs.Lowering.Warnings

/-!
# Warnings blame cycles of the graph

A broken dependency lies on a cycle of dependencies, so that both of its statements are declarations
and each needs the other one. Then each of the declared nodes lies beneath the other one in the graph
that went in.

## Key results

- `lower_cycles`: a warning is for two declarations of nodes that lie beneath each other
-/

namespace Semblance

variable {arena : Arena} {roots : List NodeId} {names : NameSupply} {lowering : Lowering}

/-- A declaration declares its name. -/
theorem Arena.DeclaresAnew.declaredName_eq {out : Arena} {decl node : NodeId} {name : String}
    (h : arena.DeclaresAnew out decl name node) : out.declaredName decl = some name := by
  obtain ⟨declarator, _, _, hdecl, hdeclarator⟩ := h
  simp only [declaredName, hdecl]
  simp [hdeclarator]

/-- A broken dependency is one of two hoisted nodes that lie beneath each other. -/
theorem Hoist.Unfolded.beneath_of_broken {hoist : Hoist} {done : Agenda}
    (h : Hoist.Unfolded arena roots names hoist) (hw : Hoist.Walked arena roots done [] hoist)
    {i j : Nat}
    (hbroken : (i, j) ∈ (Schedule.ofDeps hoist.roots.size hoist.deps).broken.toList) :
    ∃ promotion ∈ hoist.promotions, ∃ promotion' ∈ hoist.promotions,
      promotion.root = i ∧ promotion'.root = j ∧
      arena.Beneath promotion.node promotion'.node ∧
      arena.Beneath promotion'.node promotion.node := by
  obtain ⟨hdepends, hneeds⟩ := Schedule.needs_of_broken hbroken
  -- Only declarations are depended on, and on a cycle this goes for both statements.
  obtain ⟨_, _, promotion', hmem', rfl, _⟩ := (h.depends_iff hw).1 hdepends
  obtain ⟨promotion, hmem, rfl, hbeneath'⟩ := h.beneath_of_needs hw hmem' hneeds
  obtain ⟨promotion'', hmem'', hroot, hbeneath⟩ := h.beneath_of_depends hw hmem hdepends
  rw [h.root_inj hmem'' hmem' hroot] at hbeneath
  exact ⟨promotion, hmem, promotion', hmem', rfl, rfl, hbeneath, hbeneath'⟩

/-- A warning is for two declarations of nodes that lie beneath each other, and there is none if no
    node lies beneath itself. -/
theorem lower_cycles (hclosed : arena.Closed roots) (h : arena.lower roots names = .ok lowering) :
    (∀ warning ∈ lowering.warnings, warning.source ≠ warning.target ∧
      warning.source ∈ lowering.program.body ∧ warning.target ∈ lowering.program.body ∧
      ∃ name node name' node',
        arena.DeclaresAnew lowering.program.arena warning.source name node ∧
        arena.DeclaresAnew lowering.program.arena warning.target name' node' ∧
        warning.sourceName = some name ∧ warning.targetName = some name' ∧
        arena.Beneath node node' ∧ arena.Beneath node' node) ∧
    ((∀ id, arena.Reaches roots id → ¬ arena.Beneath id id) → lowering.warnings = []) := by
  obtain ⟨hoist, done, hunfolded, hwalked, rfl⟩ := lower_eq_ok hclosed h
  refine ⟨fun warning hwarning => ?_, fun hacyclic => List.eq_nil_iff_forall_not_mem.2 ?_⟩
  · obtain ⟨i, j, hbroken, hi, hj, hname, hname'⟩ := Schedule.mem_warnings_iff.1 hwarning
    -- Both ends of a broken dependency declare nodes that lie beneath each other.
    obtain ⟨promotion, hpromotion, promotion', hpromotion', rfl, rfl, hbeneath, hbeneath'⟩ :=
      hunfolded.beneath_of_broken hwalked hbroken
    have hdecl := hunfolded.declaresAnew hpromotion hi
    have hdecl' := hunfolded.declaresAnew hpromotion' hj
    refine ⟨fun heq => (Schedule.mem_broken_iff.1 hbroken).1 ?_, (mem_program_body ..).2 ⟨_, hi⟩,
      (mem_program_body ..).2 ⟨_, hj⟩, _, _, _, _, hdecl, hdecl',
      hname.trans hdecl.declaredName_eq, hname'.trans hdecl'.declaredName_eq, hbeneath, hbeneath'⟩
    exact hunfolded.position_unique hclosed hj (heq ▸ hi)
  · intro warning hwarning
    obtain ⟨i, j, hbroken, _⟩ := Schedule.mem_warnings_iff.1 hwarning
    obtain ⟨promotion, hpromotion, promotion', _, _, _, hbeneath, hbeneath'⟩ :=
      hunfolded.beneath_of_broken hwalked hbroken
    -- One of these nodes lies beneath itself.
    exact hacyclic _ (hunfolded.node_reached hpromotion) (hbeneath.trans hbeneath')

/-- Each of two values that hold each other is blamed for referring to the other one. -/
theorem lower_cycles_mutualReference :
    ∃ lowering, mutualReference.lower [⟨4⟩, ⟨5⟩] ∅ = .ok lowering ∧
      lowering.warnings ≠ [] ∧
      ∀ warning ∈ lowering.warnings, ∃ name node name' node',
        mutualReference.DeclaresAnew lowering.program.arena warning.source name node ∧
        mutualReference.DeclaresAnew lowering.program.arena warning.target name' node' ∧
        mutualReference.Beneath node node' ∧ mutualReference.Beneath node' node := by
  have hrun : (mutualReference.lower [⟨4⟩, ⟨5⟩] ∅).toOption.any
      (fun lowering => decide (lowering.warnings ≠ [])) = true := by decide +kernel
  obtain ⟨lowering, hlower, hrun⟩ := exists_of_any hrun
  obtain ⟨hwarnings, _⟩ := lower_cycles mutualReference_closed hlower
  refine ⟨lowering, hlower, of_decide_eq_true hrun, fun warning hmem => ?_⟩
  obtain ⟨_, _, _, name, node, name', node', hdecl, hdecl', _, _, hbeneath, hbeneath'⟩ :=
    hwarnings warning hmem
  exact ⟨name, node, name', node', hdecl, hdecl', hbeneath, hbeneath'⟩

end Semblance
