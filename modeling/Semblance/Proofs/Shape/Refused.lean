import Semblance.Proofs.Shape.Recorded

/-!
# Refused observations

An observation is refused when its owner is of a kind that cannot hold it. Whether the owner can is
decided before the graph changes, so a refusal leaves the graph as it was. Accessors are the
exception: the accessor function is marked before the owner is looked at.

## Key results

- `observe_refused`: what a refused observation leaves behind
- `observe_refused_getter`: a refused getter does change a graph
-/

namespace Semblance

/-- What is observed of a shape that may be unable to hold it. -/
inductive Observation where
  | property (owner : ShapeId) (name : String) (value : ShapeId)
  | accessor (kind : AccessorKind) (owner : ShapeId) (name : String) (function : ShapeId)
  | instanceProperty (function : ShapeId) (name : String) (value : ShapeId)
  | returned (function value : ShapeId)
  | usedParam (function : ShapeId) (index : Nat)
  | constructed (constructor : ShapeId)

/-- Whether an accessor is observed. -/
def Observation.isAccessor : Observation → Bool
  | accessor _ _ _ _ => true
  | _ => false

namespace ShapeGraph

/-- Record an observation, and answer whether it was accepted. -/
def observe (graph : ShapeGraph) : Observation → Except OutOfRange (Bool × ShapeGraph)
  | .property owner name value => graph.addProperty owner name value
  | .accessor .getter owner name function => graph.addGetter owner name function
  | .accessor .setter owner name function => graph.addSetter owner name function
  | .instanceProperty function name value => graph.addInstanceProperty function name value
  | .returned function value => graph.observeReturn function value
  | .usedParam function index => do
    let (parameter, graph) ← graph.useParam function index
    return (parameter.isSome, graph)
  | .constructed constructor => do
    let (constructed, graph) ← graph.instanceOf constructor
    return (constructed.isSome, graph)

/-- A change of a shape adds none. -/
@[simp] theorem size_modify (graph : ShapeGraph) (id : ShapeId) (change : Shape → Shape) :
    (graph.modify id change).size = graph.size := by
  simp [modify, size]

variable {graph graph' : ShapeGraph}

/-! ### One kind of observation at a time -/

/-- A property that is refused changes nothing. -/
theorem addProperty_refused {owner value : ShapeId} {name : String}
    (h : graph.addProperty owner name value = .ok (false, graph')) : graph' = graph := by
  obtain ⟨_, _, ⟨_, _, hsame⟩ | ⟨_, _, _, _, _, haccepted, _⟩⟩ := addProperty_eq_ok h
  · exact hsame
  · -- A shape with properties accepts every name.
    exact nomatch haccepted

/-- A refused accessor has marked its function all the same. -/
theorem addAccessor_refused {kind : AccessorKind} {owner function : ShapeId} {name : String}
    (h : graph.addAccessor kind owner name function = .ok (false, graph')) :
    graph' = graph.modify function (Shape.markAccessor kind) := by
  obtain ⟨_, _, h⟩ := bind_eq_ok.1 h
  obtain ⟨shape, _, h⟩ := bind_eq_ok.1 h
  split at h
  · cases h
  · cases h
    rfl

/-- A property of what a function constructs that is refused changes nothing. -/
theorem addInstanceProperty_refused {function value : ShapeId} {name : String}
    (h : graph.addInstanceProperty function name value = .ok (false, graph')) :
    graph' = graph := by
  obtain ⟨shape, _, h⟩ := bind_eq_ok.1 h
  split at h
  · exact addProperty_refused h
  · cases h
    rfl

/-- A return that is refused changes nothing. -/
theorem observeReturn_refused {function value : ShapeId}
    (h : graph.observeReturn function value = .ok (false, graph')) : graph' = graph := by
  unfold observeReturn at h
  split at h
  · -- The undefined value is dropped.
    cases h
    rfl
  · obtain ⟨shape, _, h⟩ := bind_eq_ok.1 h
    split at h
    · obtain ⟨_, _, h⟩ := bind_eq_ok.1 h
      obtain ⟨_, _, h⟩ := bind_eq_ok.1 h
      cases h
    · cases h
      rfl

/-- The use of a parameter that is refused changes nothing. -/
theorem useParam_refused {function : ShapeId} {index : Nat}
    (h : graph.useParam function index = .ok (none, graph')) : graph' = graph := by
  obtain ⟨shape, _, h⟩ := bind_eq_ok.1 h
  split at h
  · cases h
  · cases h
    rfl

/-- An instance that is refused changes nothing. -/
theorem instanceOf_refused {constructor : ShapeId}
    (h : graph.instanceOf constructor = .ok (none, graph')) : graph' = graph := by
  obtain ⟨shape, _, h⟩ := bind_eq_ok.1 h
  split at h
  · cases h
  · split at h <;> cases h
  · cases h
    rfl

/-! ### All of them -/

/-- Accessors apart, a refusal leaves the graph as it was. -/
theorem observe_refused_eq {observation : Observation} (hkind : observation.isAccessor = false)
    (h : graph.observe observation = .ok (false, graph')) : graph' = graph := by
  cases observation with
  | property owner name value => exact addProperty_refused h
  | accessor kind owner name function => exact nomatch hkind
  | instanceProperty function name value => exact addInstanceProperty_refused h
  | returned function value => exact observeReturn_refused h
  | usedParam function index =>
    obtain ⟨⟨answer, graph₁⟩, huse, h⟩ := bind_eq_ok.1 h
    cases answer with
    | some id => cases h
    | none =>
      cases h
      exact useParam_refused huse
  | constructed constructor =>
    obtain ⟨⟨answer, graph₁⟩, hinstance, h⟩ := bind_eq_ok.1 h
    cases answer with
    | some id => cases h
    | none =>
      cases h
      exact instanceOf_refused hinstance

/-- A refused observation adds no shape. It changes none either, unless it is of an accessor, which
    leaves its mark on the accessor function and nowhere else. -/
theorem observe_refused {observation : Observation}
    (h : graph.observe observation = .ok (false, graph')) :
    graph'.size = graph.size ∧
      (observation.isAccessor = false → graph' = graph) ∧
      ∀ kind owner name function, observation = .accessor kind owner name function →
        graph' = graph.modify function (Shape.markAccessor kind) := by
  have hmarked : ∀ kind owner name function, observation = .accessor kind owner name function →
      graph' = graph.modify function (Shape.markAccessor kind) := by
    rintro kind owner name function rfl
    cases kind <;> exact addAccessor_refused h
  refine ⟨?_, fun hkind => observe_refused_eq hkind h, hmarked⟩
  cases hkind : observation.isAccessor with
  | false => rw [observe_refused_eq hkind h]
  | true =>
    cases observation with
    | accessor kind owner name function => rw [hmarked kind owner name function rfl, size_modify]
    | _ => exact nomatch hkind

/-- A number takes neither a property nor a setter. -/
theorem observe_refused_number :
    let graph := (empty.function none).2
    graph.Recorded ∧
      (∃ graph', graph.observe (.property (primitive .number) "v" global) = .ok (false, graph') ∧
        graph' = graph) ∧
      ∃ graph', graph.observe (.accessor .setter (primitive .number) "v" ⟨7⟩) =
          .ok (false, graph') ∧
        graph'.size = graph.size := by
  intro graph
  have hproperty : graph.observe (.property (primitive .number) "v" global) =
      .ok (false, graph) := rfl
  have hsetter : graph.observe (.accessor .setter (primitive .number) "v" ⟨7⟩) =
      .ok (false, graph.modify ⟨7⟩ (Shape.markAccessor .setter)) := rfl
  exact ⟨.function none .empty, ⟨_, hproperty, (observe_refused hproperty).2.1 rfl⟩,
    _, hsetter, (observe_refused hsetter).1⟩

/-- A number has no getters, so a getter on a number is refused. Its function is a getter from then
    on all the same. -/
theorem observe_refused_getter :
    let graph := (empty.function none).2
    graph.Recorded ∧ ∃ graph' fn fn',
      graph.observe (.accessor .getter (primitive .number) "v" ⟨7⟩) = .ok (false, graph') ∧
        graph.shape? ⟨7⟩ = some (.function fn) ∧ fn.accessor = none ∧
        graph'.shape? ⟨7⟩ = some (.function fn') ∧ fn'.accessor = some .getter :=
  ⟨.function none .empty, _, _, _, rfl, rfl, rfl, rfl, rfl⟩

end ShapeGraph

end Semblance
