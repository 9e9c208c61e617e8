import Semblance.Proofs.Shape.Outcomes
import Semblance.Proofs.Shape.Steps

/-!
# Operations

`Operation` has one constructor for each way in which a tracer can add to a graph. An operation that
is told of known shapes only is performed without a failure, since every shape that it comes across
is known then.

## Key results

- `perform_ok`: operations on known shapes succeed
- `perform_observes`: they are the observations that recorded graphs come from
-/

namespace Semblance

/-- What a tracer asks of a graph. -/
inductive Operation where
  | object (site : Option CodeSite)
  | array (site : Option CodeSite)
  | function (site : Option CodeSite)
  | builtin (fullName : String) (constructible : Bool)
  | instanceOf (constructor : ShapeId)
  | parameter (use : Parameter)
  | union (ids : List ShapeId)
  | addProperty (owner : ShapeId) (name : String) (value : ShapeId)
  | addGetter (owner : ShapeId) (name : String) (function : ShapeId)
  | addSetter (owner : ShapeId) (name : String) (function : ShapeId)
  | addInstanceProperty (function : ShapeId) (name : String) (value : ShapeId)
  | observeReturn (function value : ShapeId)
  | useParam (function : ShapeId) (index : Nat)

/-- What a graph answers. -/
inductive Answer where
  | shape (id : ShapeId)
  | shape? (id : Option ShapeId)
  | accepted (accepted : Bool)
deriving DecidableEq

/-- The shapes that an operation is told of. -/
@[simp] def Operation.ids : Operation → List ShapeId
  | .object _ | .array _ | .function _ | .builtin _ _ => []
  | .instanceOf constructor => [constructor]
  | .parameter use => [use.function]
  | .union ids => ids
  | .addProperty owner _ value => [owner, value]
  | .addGetter owner _ fn | .addSetter owner _ fn => [owner, fn]
  | .addInstanceProperty fn _ value | .observeReturn fn value => [fn, value]
  | .useParam fn _ => [fn]

/-- The shapes that an operation is told of are known. -/
def Operation.Known (graph : ShapeGraph) (operation : Operation) : Prop :=
  ∀ id ∈ operation.ids, (graph.shape? id).isSome

instance (graph : ShapeGraph) (operation : Operation) : Decidable (operation.Known graph) :=
  inferInstanceAs (Decidable (∀ id ∈ operation.ids, (graph.shape? id).isSome = true))

/-- Whether an operation finds the shape that it made. Objects, arrays and functions do so by their
    code site, and unions do not. -/
def Operation.isRepeatable : Operation → Bool
  | .object site | .array site | .function site => site.isSome
  | .union _ => false
  | _ => true

namespace ShapeGraph

variable {graph graph' : ShapeGraph} {id : ShapeId} {operation : Operation} {answer : Answer}

/-- An outcome with its answer made an `Answer`. -/
def reply (wrap : α → Answer) (outcome : Except OutOfRange (α × ShapeGraph)) :
    Except OutOfRange (Answer × ShapeGraph) := do
  let (value, graph) ← outcome
  return (wrap value, graph)

/-- Perform an operation. -/
def perform (graph : ShapeGraph) : Operation → Except OutOfRange (Answer × ShapeGraph)
  | .object site => reply .shape (.ok (graph.object site))
  | .array site => reply .shape (.ok (graph.array site))
  | .function site => reply .shape (.ok (graph.function site))
  | .builtin fullName constructible => reply .shape (.ok (graph.builtin fullName constructible))
  | .instanceOf constructor => reply .shape? (graph.instanceOf constructor)
  | .parameter use => reply .shape (.ok (graph.parameter use))
  | .union ids => reply .shape (graph.union ids)
  | .addProperty owner name value => reply .accepted (graph.addProperty owner name value)
  | .addGetter owner name function => reply .accepted (graph.addGetter owner name function)
  | .addSetter owner name function => reply .accepted (graph.addSetter owner name function)
  | .addInstanceProperty function name value =>
    reply .accepted (graph.addInstanceProperty function name value)
  | .observeReturn function value => reply .accepted (graph.observeReturn function value)
  | .useParam function index => reply .shape? (graph.useParam function index)

/-- An outcome with its answer wrapped is one if it was one before. -/
theorem reply_eq_ok {wrap : α → Answer} {outcome : Except OutOfRange (α × ShapeGraph)} :
    reply wrap outcome = .ok (answer, graph') ↔
      ∃ value, outcome = .ok (value, graph') ∧ answer = wrap value := by
  rw [reply, bind_eq_ok]
  constructor
  · rintro ⟨⟨value, _⟩, houtcome, h⟩
    cases h
    exact ⟨value, houtcome, rfl⟩
  · rintro ⟨value, houtcome, rfl⟩
    exact ⟨_, houtcome, rfl⟩

/-! ### Operations succeed -/

/-- Wrapping an answer makes no fault. -/
theorem isOk_reply {wrap : α → Answer} {outcome : Except OutOfRange (α × ShapeGraph)} :
    (reply wrap outcome).isOk = outcome.isOk := by
  cases outcome <;> rfl

/-- An instance is answered if the constructor is known. -/
theorem isOk_instanceOf (hid : (graph.shape? id).isSome) : (graph.instanceOf id).isOk = true := by
  obtain ⟨shape, hshape⟩ := Option.isSome_iff_exists.1 hid
  rw [instanceOf, shape_eq_ok.2 hshape]
  simp only [bind, Except.bind]
  split
  · rfl
  · split <;> rfl
  · rfl

/-- A union is answered if all that go into it are known. -/
theorem isOk_union {ids : List ShapeId} (hids : ∀ id ∈ ids, (graph.shape? id).isSome) :
    (graph.union ids).isOk = true := by
  have habsorb (members : List ShapeId) : (ids.foldlM graph.absorb members).isOk = true := by
    induction ids generalizing members with
    | nil => rfl
    | cons id ids ih =>
      obtain ⟨hid, hids⟩ := List.forall_mem_cons.1 hids
      rw [List.foldlM_cons, absorb_eq_ok.2 ⟨hid, rfl⟩]
      exact ih hids _
  obtain ⟨members, hmembers⟩ := isOk_iff.1 (habsorb [])
  rw [union, hmembers]
  rfl

/-- A slot can be widened by what is known. -/
theorem isOk_widen {existing incoming : ShapeId} (hexisting : (graph.shape? existing).isSome)
    (hincoming : (graph.shape? incoming).isSome) : (graph.widen existing incoming).isOk = true := by
  by_cases hcovers : graph.Covers existing incoming
  · rw [widen_of_covers hcovers hincoming]
    rfl
  · rw [widen_of_not_covers hcovers hexisting hincoming]
    rfl

/-- What a slot holds already is known. -/
theorem Valid.isOk_addProperty (h : graph.Valid) {owner value : ShapeId} (name : String)
    (howner : (graph.shape? owner).isSome) (hvalue : (graph.shape? value).isSome) :
    (graph.addProperty owner name value).isOk = true := by
  obtain ⟨shape, hshape⟩ := Option.isSome_iff_exists.1 howner
  cases hproperties : shape.properties? with
  | none =>
    rw [addProperty_of_none hshape hproperties]
    rfl
  | some properties =>
    rw [addProperty_of_some hshape hproperties]
    cases hslot : properties.get? (shape.slotName name) with
    | none => rfl
    | some existing =>
      obtain ⟨_, hwiden⟩ :=
        isOk_iff.1 (isOk_widen (h.known_of_get? hshape hproperties hslot) hvalue)
      rw [ShapeGraph.fill, hwiden]
      rfl

/-- An accessor is answered if its owner and its function are known. -/
theorem isOk_addAccessor {kind : AccessorKind} {owner function : ShapeId} (name : String)
    (howner : (graph.shape? owner).isSome) (hfunction : (graph.shape? function).isSome) :
    (graph.addAccessor kind owner name function).isOk = true := by
  obtain ⟨shape, hshape⟩ := Option.isSome_iff_exists.1 howner
  obtain ⟨fn, hfn⟩ := Option.isSome_iff_exists.1 hfunction
  rw [addAccessor, shape_eq_ok.2 hfn, shape_eq_ok.2 hshape]
  show (if shape.holdsAccessors then _ else _ : Except OutOfRange (Bool × ShapeGraph)).isOk = true
  split <;> rfl

/-- A function constructs a known shape. -/
theorem Valid.isOk_addInstanceProperty (h : graph.Valid) {function value : ShapeId} (name : String)
    (hfunction : (graph.shape? function).isSome) (hvalue : (graph.shape? value).isSome) :
    (graph.addInstanceProperty function name value).isOk = true := by
  obtain ⟨shape, hshape⟩ := Option.isSome_iff_exists.1 hfunction
  rw [ShapeGraph.addInstanceProperty, shape_eq_ok.2 hshape]
  simp only [bind, Except.bind]
  split
  · exact h.isOk_addProperty name ((h.fits hshape).known _ (by simp [Shape.refs])) hvalue
  · rfl

/-- A function returns a known union. -/
theorem Valid.isOk_observeReturn (h : graph.Valid) {function value : ShapeId}
    (hfunction : (graph.shape? function).isSome) (hvalue : (graph.shape? value).isSome) :
    (graph.observeReturn function value).isOk = true := by
  obtain ⟨shape, hshape⟩ := Option.isSome_iff_exists.1 hfunction
  rw [ShapeGraph.observeReturn, shape_eq_ok.2 hshape]
  split
  · rfl
  · simp only [bind, Except.bind]
    split
    · next fn =>
      have hreturns := (h.fits hshape).known fn.returns (by simp [Shape.refs])
      rw [flatten_eq_ok_iff.2 ⟨hreturns, rfl⟩]
      simp only [absorb_eq_ok.2 ⟨hvalue, rfl⟩]
      rfl
    · rfl

/-- The use of a parameter is answered if the function is known. -/
theorem isOk_useParam {function : ShapeId} (index : Nat)
    (hfunction : (graph.shape? function).isSome) : (graph.useParam function index).isOk = true := by
  obtain ⟨shape, hshape⟩ := Option.isSome_iff_exists.1 hfunction
  rw [useParam, shape_eq_ok.2 hshape]
  simp only [bind, Except.bind]
  split <;> rfl

/-- An operation on known shapes succeeds. -/
theorem perform_ok (h : graph.Recorded) (hknown : operation.Known graph) :
    ∃ answer graph', graph.perform operation = .ok (answer, graph') := by
  suffices hok : (graph.perform operation).isOk = true by
    obtain ⟨⟨answer, graph'⟩, hperform⟩ := isOk_iff.1 hok
    exact ⟨answer, graph', hperform⟩
  cases operation with
  | instanceOf constructor =>
    rw [perform, isOk_reply]
    exact isOk_instanceOf (hknown constructor (by simp))
  | union ids =>
    rw [perform, isOk_reply]
    exact isOk_union hknown
  | addProperty owner name value =>
    rw [perform, isOk_reply]
    exact h.valid.isOk_addProperty name (hknown owner (by simp))
      (hknown value (by simp))
  | addGetter owner name function | addSetter owner name function =>
    rw [perform, isOk_reply]
    exact isOk_addAccessor name (hknown owner (by simp))
      (hknown function (by simp))
  | addInstanceProperty function name value =>
    rw [perform, isOk_reply]
    exact h.valid.isOk_addInstanceProperty name (hknown function (by simp))
      (hknown value (by simp))
  | observeReturn function value =>
    rw [perform, isOk_reply]
    exact h.valid.isOk_observeReturn (hknown function (by simp))
      (hknown value (by simp))
  | useParam function index =>
    rw [perform, isOk_reply]
    exact isOk_useParam index (hknown function (by simp))
  | _ => rfl

/-- What is performed on known shapes is an observation of them. -/
theorem perform_observes (hknown : operation.Known graph)
    (hperform : graph.perform operation = .ok (answer, graph')) : graph.Observes graph' := by
  cases operation with
  | object site =>
    cases hperform
    exact .object site
  | array site =>
    cases hperform
    exact .array site
  | «function» site =>
    cases hperform
    exact .function site
  | builtin fullName constructible =>
    cases hperform
    exact .builtin fullName constructible
  | «parameter» use =>
    cases hperform
    exact .parameter (hknown use.function (by simp))
  | instanceOf constructor =>
    obtain ⟨_, hinstance, _⟩ := reply_eq_ok.1 hperform
    exact .instanceOf hinstance
  | union ids =>
    obtain ⟨_, hunion, _⟩ := reply_eq_ok.1 hperform
    exact .union hunion
  | addProperty owner name value =>
    obtain ⟨_, hadd, _⟩ := reply_eq_ok.1 hperform
    exact .addProperty (hknown value (by simp)) hadd
  | addGetter owner name function | addSetter owner name function =>
    obtain ⟨_, hadd, _⟩ := reply_eq_ok.1 hperform
    exact .addAccessor hadd
  | addInstanceProperty function name value =>
    obtain ⟨_, hadd, _⟩ := reply_eq_ok.1 hperform
    exact .addInstanceProperty (hknown value (by simp)) hadd
  | observeReturn function value =>
    obtain ⟨_, hreturn, _⟩ := reply_eq_ok.1 hperform
    exact .observeReturn hreturn
  | useParam function index =>
    obtain ⟨_, huse, _⟩ := reply_eq_ok.1 hperform
    exact .useParam huse

end ShapeGraph

end Semblance
