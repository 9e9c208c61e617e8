import Semblance.Proofs.Generate.Agreement
import Semblance.Proofs.Synthesis.Scope

/-!
# Only what is reached matters

The result of a synthesis depends on the shapes that are reached from the global scope, and on
nothing else that a graph holds: not on shapes beside them, on their number, or on the keys under
which shapes are found. The one thing that depends on the size of a graph is the number of levels
that are granted to a request, and no request runs out of levels.

## Key results

- `assignments_finish`: the assignments to the global names do not run out of levels
- `synthesize_eq_of_agrees`: graphs that agree on what is reached have the same synthesis
-/

namespace Semblance

/-- Leaving out the results makes no difference to whether generations agree. -/
theorem Gen.AgreesUnless.discard {excused : Fault → Prop} {gen gen' : Gen α}
    (h : AgreesUnless excused gen gen') :
    AgreesUnless excused (Functor.discard gen) (Functor.discard gen') := by
  rw [discard_eq_bind, discard_eq_bind]
  exact h.before _

namespace ShapeGraph

variable {graph graph' : ShapeGraph} {config : Config}

/-- The assignments to all global names, one after the other. -/
def assignments (graph : ShapeGraph) (settings : Settings) : Gen Unit :=
  graph.globals.forM fun binding =>
    discard (Gen.assignGlobal settings graph binding.1 binding.2)

/-- A generation runs the assignments, and it finishes the builder if they meet no fault. -/
theorem generate_eq (graph : ShapeGraph) (config : Config) : graph.generate config =
    match graph.assignments config.toSettings (.start (graph.initialNames config)) with
    | (.ok (), builder) => .ok builder.finish
    | (.error fault, _) => .error fault := rfl

/-- The assignments agree in graphs that agree. -/
theorem agrees_assignments {excused : Fault → Prop} {settings settings' : Settings}
    (h : Gen.Comparable excused settings settings' graph graph')
    (hlevels : Gen.levels graph = Gen.levels graph' ∨
      Gen.levels graph ≤ Gen.levels graph' ∧ excused .unfinished) :
    Gen.AgreesUnless excused (graph.assignments settings) (graph'.assignments settings') := by
  unfold assignments
  rw [← h.graphs.globals_eq]
  refine .forM fun binding hmem => ?_
  obtain ⟨shape, hshape, hmem⟩ := mem_refs_of_globals hmem
  exact (h.assignGlobal hlevels (.ref .root hshape hmem) binding.1).discard

/-- The assignments do not run out of levels. With a hint for the name of the global scope they come
    to an end; without one, a reference to the global scope ends them, or they make none. -/
theorem assignments_finish (h : graph.Valid) (hagrees : graph.Agrees graph) (config : Config) :
    (graph.assignments config.toSettings (.start (graph.initialNames config))).1 ≠
      .error .unfinished := by
  intro hunfinished
  by_cases hname : config.globalName = ""
  · -- The default hint stands in for the empty one.
    obtain ⟨builder, hassignments, _⟩ :=
      @assignments_ok graph { config with globalName := "global" } h (by simp)
    have hcomparable : Gen.Comparable (fun fault => ∃ hint, fault = .invalidName hint)
        config.toSettings { config.toSettings with globalName := "global" } graph graph :=
      ⟨hagrees, rfl, Gen.agrees_global_of_empty hname _⟩
    rcases agrees_assignments hcomparable (.inl rfl) (.start (graph.initialNames config)) with
      ⟨_, ⟨hint, rfl⟩, hinvalid⟩ | hsame
    · exact nomatch hunfinished.symm.trans hinvalid
    · have hend := hsame.symm.trans hassignments
      rw [hend] at hunfinished
      exact nomatch hunfinished
  · obtain ⟨builder, hassignments, _⟩ := assignments_ok h hname
    rw [show graph.assignments _ _ = _ from hassignments] at hunfinished
    exact nomatch hunfinished

/-- The graph with more shapes grants more levels, which makes no difference since the levels of the
    other one are enough. -/
theorem generate_eq_of_le (h : graph.Valid) (hagrees : graph.Agrees graph')
    (hsize : graph.size ≤ graph'.size) (config : Config) :
    graph.generate config = graph'.generate config := by
  have hnames : graph.initialNames config = graph'.initialNames config := by
    rw [initialNames, initialNames, hagrees.globals_eq]
  have hcomparable :
      Gen.Comparable (· = .unfinished) config.toSettings config.toSettings graph graph' :=
    ⟨hagrees, rfl, .rfl⟩
  have hlevels : Gen.levels graph ≤ Gen.levels graph' := by
    unfold Gen.levels
    omega
  rcases agrees_assignments hcomparable (.inr ⟨hlevels, rfl⟩) (.start (graph.initialNames config))
    with ⟨_, rfl, hunfinished⟩ | hsame
  · exact absurd hunfinished (assignments_finish h hagrees.left config)
  · rw [generate_eq, generate_eq, ← hnames, hsame]

/-- Graphs that agree on what is reached from the global scope have the same synthesis: the same
    program with the same warnings, or the same fault. -/
theorem synthesize_eq_of_agrees (h : graph.Recorded) (h' : graph'.Recorded)
    (hagrees : graph.Agrees graph') (config : Config) :
    graph.synthesize config = graph'.synthesize config := by
  have hgenerate : graph.generate config = graph'.generate config := by
    rcases Nat.le_total graph.size graph'.size with hsize | hsize
    · exact generate_eq_of_le h.valid hagrees hsize config
    · exact (generate_eq_of_le h'.valid hagrees.symm hsize config).symm
  rw [synthesize, synthesize, hgenerate]

/-- A global binding with an object that holds itself, in a graph of seven shapes and one more. -/
def withSelfReference (graph : ShapeGraph) : ShapeGraph :=
  ((graph.object none).2.hold ⟨8⟩ "self" ⟨8⟩).hold global "value" ⟨8⟩

/-- Nothing leads to the other object. -/
def besideObject : ShapeGraph :=
  (empty.object none).2.withSelfReference

/-- Nothing leads to the array that holds the object, or to the function. -/
def besideArray : ShapeGraph :=
  (((empty.array none).2.withSelfReference.hold ⟨7⟩ "0" ⟨8⟩).function none).2

/-- The graph with a further object is what its operations record. -/
theorem besideObject_recorded : besideObject.Recorded :=
  ((Recorded.object none (.object none .empty)).hold ⟨8⟩ "self" ⟨8⟩ rfl rfl).hold global "value" ⟨8⟩
    rfl rfl

/-- The graph with a further array is what its operations record. -/
theorem besideArray_recorded : besideArray.Recorded :=
  .function none ((((Recorded.object none (.array none .empty)).hold ⟨8⟩ "self" ⟨8⟩ rfl rfl).hold
    global "value" ⟨8⟩ rfl rfl).hold ⟨7⟩ "0" ⟨8⟩ rfl rfl)

/-- The global scope and the object that holds itself are all that is reached. -/
theorem besideObject_agrees : besideObject.Agrees besideArray := by
  intro id hid
  have hmem : id ∈ [global, ⟨8⟩] := by
    refine hid.mem List.mem_cons_self fun id hmem shape hshape => ?_
    have hcases : id = global ∨ id = ⟨8⟩ := by simpa using hmem
    rcases hcases with rfl | rfl <;> cases hshape <;> decide
  have hcases : id = global ∨ id = ⟨8⟩ := by simpa using hmem
  rcases hcases with rfl | rfl <;> exact ⟨_, _, rfl, rfl, .rfl⟩

/-- The two graphs hold different shapes under the same id, and have the same synthesis. -/
theorem synthesize_eq_of_agrees_beside :
    besideObject.Recorded ∧ besideArray.Recorded ∧ besideObject.Agrees besideArray ∧
      (besideObject.shape? ⟨7⟩).map Shape.kindName = some "object" ∧
      (besideArray.shape? ⟨7⟩).map Shape.kindName = some "array" ∧
      besideObject.synthesize {} = besideArray.synthesize {} :=
  ⟨besideObject_recorded, besideArray_recorded, besideObject_agrees, rfl, rfl,
    synthesize_eq_of_agrees besideObject_recorded besideArray_recorded besideObject_agrees {}⟩

end ShapeGraph

end Semblance
