import Semblance.Proofs.Generate.Termination
import Semblance.Synthesis

/-!
# Synthesis succeeds

A graph that was recorded by observations of known shapes is valid, cyclic or not. Generation from a
valid graph comes to an end with an arena that is sound for the statements it emitted, and such an
arena can be hoisted. Nothing in the stages that follow can fail.

## Key results

- `generate_ok`: generation succeeds, with a graph that can be hoisted
- `synthesize_ok`: synthesis succeeds
-/

namespace Semblance

/-- There are no ids in an empty arena that could dangle. -/
theorem Arena.sound_empty : Arena.Sound ∅ [] where
  hints_size := rfl
  accepts hnode := by simp [node?, EmptyCollection.emptyCollection, empty] at hnode
  allocated id hmem := by simp at hmem
  linear id _ := by simp [uses, EmptyCollection.emptyCollection, empty]

/-- A builder starts with nothing that could dangle. -/
theorem Builder.sound_start (names : NameSupply) : (start names).Sound [] where
  arena := Arena.sound_empty
  expression id hmem := by simp at hmem
  statement id hmem := by simp [start, roots] at hmem
  node hnode := by simp [start] at hnode
  inst hnode := by simp [start] at hnode

namespace Gen

/-- A generation whose result is not used. -/
theorem discard_eq_bind (gen : Gen α) : discard gen = gen >>= fun _ => pure ⟨⟩ := by
  rw [Functor.discard, LawfulFunctor.map_const, Function.comp_apply, ← bind_pure_comp]

/-- Leaving out the result makes no difference to what a generation leaves. -/
theorem leaves_discard {gen : Gen α} {builder : Builder} {held : List NodeId}
    (h : Leaves gen builder held) : Leaves (discard gen) builder held := by
  rw [discard_eq_bind]
  exact .step h fun _ _ _ h => runs_pure ⟨.rfl, h⟩

end Gen

namespace ShapeGraph

variable {graph : ShapeGraph} {config : Config}

/-- What the global names are bound to is what the shape of the global scope refers to. -/
theorem mem_refs_of_globals {binding : String × ShapeId} (hmem : binding ∈ graph.globals) :
    ∃ shape, graph.shape? global = some shape ∧ binding.2 ∈ shape.refs := by
  unfold globals at hmem
  split at hmem
  · next properties hproperties =>
    obtain ⟨shape, hshape, hproperties⟩ := Option.bind_eq_some_iff.1 hproperties
    exact ⟨shape, hshape, Shape.mem_refs_of_property hproperties (List.mem_map_of_mem hmem)⟩
  · simp at hmem

/-- The properties of the global scope are shapes of the graph. -/
theorem known_globals (h : graph.Valid) {binding : String × ShapeId}
    (hmem : binding ∈ graph.globals) : (graph.shape? binding.2).isSome := by
  obtain ⟨shape, hshape, hmem⟩ := mem_refs_of_globals hmem
  exact (h.fits hshape).known _ hmem

/-- A builder has made the assignments to all global names, one after the other. -/
def Generates (graph : ShapeGraph) (config : Config) (builder : Builder) : Prop :=
  (graph.globals.forM fun binding =>
    discard (Gen.assignGlobal config.toSettings graph binding.1 binding.2))
    (.start (graph.initialNames config)) = (.ok ⟨⟩, builder)

/-- The assignments to the global names come to an end. -/
theorem assignments_ok (h : graph.Valid) (hname : config.globalName ≠ "") :
    ∃ builder, graph.Generates config builder ∧ builder.Sound [] := by
  obtain ⟨_, builder, hassignments, hbecomes⟩ :=
    Gen.runs_forM (fun binding hmem _ _ hsound => Gen.leaves_discard
      (Gen.runs_assignGlobal h hname hsound (known_globals h hmem) binding.1))
      (Builder.sound_start (graph.initialNames config))
  exact ⟨builder, hassignments, hbecomes.sound⟩

/-- Generation succeeds, with a graph that can be hoisted. -/
theorem generate_ok (h : graph.Valid) (hname : config.globalName ≠ "") :
    ∃ generated, graph.generate config = .ok generated ∧
      generated.arena.Hoistable generated.roots := by
  obtain ⟨builder, hassignments, hsound⟩ := assignments_ok h hname
  refine ⟨builder.finish, ?_, hsound.arena.hoistable hsound.statement⟩
  rw [generate, show _ = _ from hassignments]

/-- Synthesis succeeds for every graph that was recorded by observations of known shapes. -/
theorem synthesize_ok (h : graph.Recorded) (hname : config.globalName ≠ "") :
    ∃ synthesis, graph.synthesize config = .ok synthesis := by
  obtain ⟨generated, hgenerate, hhoistable⟩ := generate_ok h.valid hname
  -- Scheduling and layout are total, so hoisting decides.
  obtain ⟨hoisted, hhoist⟩ := Hoist.hoist_ok hhoistable generated.names
  have hlower : generated.arena.lower generated.roots generated.names = .ok _ :=
    bind_eq_ok.2 ⟨hoisted, hhoist, rfl⟩
  exact ⟨_, bind_eq_ok.2 ⟨generated, hgenerate, bind_eq_ok.2 ⟨_, hlower, rfl⟩⟩⟩

/-! ### Recorded graphs -/

/-- Record a property that was not seen before. -/
def hold (graph : ShapeGraph) (owner : ShapeId) (name : String) (value : ShapeId) : ShapeGraph :=
  graph.modify owner (Shape.modifyProperties (·.insert name value))

/-- A graph stays recorded if the property was added to it. -/
theorem Recorded.hold (h : graph.Recorded) (owner : ShapeId) (name : String) (value : ShapeId)
    (hvalue : (graph.shape? value).isSome)
    (hnew : graph.addProperty owner name value = .ok (true, graph.hold owner name value)) :
    (graph.hold owner name value).Recorded :=
  .addProperty h hvalue hnew

/-- Record that a function uses a parameter. -/
def use (graph : ShapeGraph) (function : ShapeId) (index : Nat) : ShapeGraph :=
  (graph.parameter ⟨function, index⟩).2.modify function
    (Shape.useParam index (graph.parameter ⟨function, index⟩).1)

/-- A graph stays recorded if the parameter was added to its function. -/
theorem Recorded.use (h : graph.Recorded) (function : ShapeId) (index : Nat)
    (hused : graph.useParam function index =
      .ok (some (graph.parameter ⟨function, index⟩).1, graph.use function index)) :
    (graph.use function index).Recorded :=
  .useParam h hused

/-- Record an accessor of an object. -/
def access (graph : ShapeGraph) (kind : AccessorKind) (owner : ShapeId) (name : String)
    (function : ShapeId) : ShapeGraph :=
  (graph.modify function (Shape.markAccessor kind)).modify owner
    (Shape.setAccessor kind name function)

/-- A graph stays recorded if the accessor was added to it. -/
theorem Recorded.access (h : graph.Recorded) (kind : AccessorKind) (owner : ShapeId) (name : String)
    (function : ShapeId) (hadd : graph.addAccessor kind owner name function =
      .ok (true, graph.access kind owner name function)) :
    (graph.access kind owner name function).Recorded := by
  cases kind with
  | getter => exact .addGetter h hadd
  | setter => exact .addSetter h hadd

/-- A global binding with an object that holds itself. -/
def selfReference : ShapeGraph :=
  ((empty.object none).2.modify ⟨7⟩ (Shape.modifyProperties (·.insert "self" ⟨7⟩))).modify global
    (Shape.modifyProperties (·.insert "value" ⟨7⟩))

/-- The object is what its operations record. -/
theorem selfReference_recorded : selfReference.Recorded := by
  have hself : (empty.object none).2.addProperty ⟨7⟩ "self" ⟨7⟩ = .ok (true, _) := rfl
  have hvalue : ((empty.object none).2.modify ⟨7⟩
      (Shape.modifyProperties (·.insert "self" ⟨7⟩))).addProperty global "value" ⟨7⟩ =
      .ok (true, selfReference) := rfl
  exact .addProperty (.addProperty (.object none .empty) rfl hself) rfl hvalue

/-- The object that holds itself is synthesized. -/
theorem synthesize_ok_selfReference :
    selfReference.Recorded ∧ (Config.withGlobalName "scope").globalName ≠ "" ∧
      ∃ synthesis, selfReference.synthesize (.withGlobalName "scope") = .ok synthesis :=
  ⟨selfReference_recorded, by decide, synthesize_ok selfReference_recorded (by decide)⟩

end ShapeGraph

end Semblance
