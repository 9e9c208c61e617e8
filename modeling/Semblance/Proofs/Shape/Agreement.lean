import Semblance.Generate.Basic
import Semblance.Proofs.Shape.Recorded

/-!
# Graphs that agree on what is reached

The shapes that matter to a synthesis are those that are reached from the global scope. Two graphs
agree if they hold the same shapes under the ids that are reached; what else they hold, and under
which keys shapes are found, may differ. The global scope and the primitives have the same ids in
all graphs. Shapes are compared by what they list: a property map also holds a tree of positions,
whose form says nothing about the bindings.

Whatever generation looks up about a shape that is reached is the same in graphs that agree.

## Key results

- `Agrees.left`, `Agrees.symm`: each of two graphs that agree does so with itself and with the other
- `Agrees.label_eq`, `Agrees.isAbsent_eq`, `Agrees.isEmptyObject_eq`, `Agrees.isOwnMember_eq`,
  `Agrees.instanceProperties_eq`, `Agrees.globals_eq`: what is looked up
-/

namespace Semblance

/-! ### Shapes that are the same -/

/-- Aggregates with the same bindings in the same order, made at the same place. -/
structure Aggregate.Same (entries entries' : Aggregate) : Prop where
  site : entries.site = entries'.site
  properties : entries.properties.toList = entries'.properties.toList
  getters : entries.getters.toList = entries'.getters.toList
  setters : entries.setters.toList = entries'.setters.toList

/-- Functions of which the same was seen. -/
structure FunctionShape.Same (fn fn' : FunctionShape) : Prop where
  site : fn.site = fn'.site
  usedParams : fn.usedParams = fn'.usedParams
  properties : fn.properties.toList = fn'.properties.toList
  constructs : fn.constructs = fn'.constructs
  returns : fn.returns = fn'.returns
  accessor : fn.accessor = fn'.accessor

/-- Shapes of the same kind with the same contents. -/
inductive Shape.Same : Shape → Shape → Prop
  | primitive (kind) : Same (.primitive kind) (.primitive kind)
  | object {entries entries'} : entries.Same entries' → Same (.object entries) (.object entries')
  | array {entries entries'} (degraded) : entries.Same entries' →
    Same (.array entries degraded) (.array entries' degraded)
  | function {fn fn'} : fn.Same fn' → Same (.function fn) (.function fn')
  | instanceOf {properties properties'} (constructor) : properties.toList = properties'.toList →
    Same (.instanceOf constructor properties) (.instanceOf constructor properties')
  | union (members) : Same (.union members) (.union members)
  | builtin {properties properties'} (fullName constructible) :
    properties.toList = properties'.toList →
    Same (.builtin fullName properties constructible) (.builtin fullName properties' constructible)
  | global {properties properties'} : properties.toList = properties'.toList →
    Same (.global properties) (.global properties')
  | parameter (use) : Same (.parameter use) (.parameter use)

/-- Properties that are listed alike refer to the same shapes. -/
theorem Properties.refs_eq {properties properties' : Properties}
    (h : properties.toList = properties'.toList) : properties.refs = properties'.refs :=
  congrArg (·.map (·.2)) h

/-- Properties that are listed alike are empty together. -/
theorem Properties.isEmpty_eq {properties properties' : Properties}
    (h : properties.toList = properties'.toList) : properties.isEmpty = properties'.isEmpty := by
  rw [isEmpty, isEmpty, ← Array.isEmpty_toList, ← Array.isEmpty_toList]
  exact congrArg List.isEmpty h

namespace Aggregate.Same

variable {entries entries' : Aggregate}

/-- Aggregates with the same bindings refer to the same shapes. -/
theorem refs_eq (h : entries.Same entries') : entries.refs = entries'.refs := by
  rw [refs, refs, Properties.refs_eq h.properties, Properties.refs_eq h.getters,
    Properties.refs_eq h.setters]

/-- Aggregates with the same bindings are empty together. -/
theorem isEmpty_eq (h : entries.Same entries') : entries.isEmpty = entries'.isEmpty := by
  rw [isEmpty, isEmpty, Properties.isEmpty_eq h.properties, Properties.isEmpty_eq h.getters,
    Properties.isEmpty_eq h.setters]

/-- Aggregates with the same bindings have the same elements. -/
theorem elements?_eq (h : entries.Same entries') : entries.elements? = entries'.elements? := by
  rw [elements?, elements?, h.properties]

end Aggregate.Same

/-- Functions of which the same was seen have the same formal parameters. -/
theorem FunctionShape.Same.formals_eq {fn fn' : FunctionShape} (h : fn.Same fn') :
    fn.formals = fn'.formals := by
  rw [formals, formals, maxParam, maxParam, h.accessor, h.usedParams]

namespace Shape.Same

variable {shape shape' : Shape}

theorem rfl : ∀ {shape : Shape}, shape.Same shape
  | .primitive kind => .primitive kind
  | .object _ => .object ⟨Eq.refl _, Eq.refl _, Eq.refl _, Eq.refl _⟩
  | .array _ degraded => .array degraded ⟨Eq.refl _, Eq.refl _, Eq.refl _, Eq.refl _⟩
  | .function _ => .function ⟨Eq.refl _, Eq.refl _, Eq.refl _, Eq.refl _, Eq.refl _, Eq.refl _⟩
  | .instanceOf constructor _ => .instanceOf constructor (Eq.refl _)
  | .union members => .union members
  | .builtin fullName _ constructible => .builtin fullName constructible (Eq.refl _)
  | .global _ => .global (Eq.refl _)
  | .parameter use => .parameter use

theorem symm (h : shape.Same shape') : shape'.Same shape := by
  cases h with
  | primitive kind => exact .primitive kind
  | object h => exact .object ⟨h.site.symm, h.properties.symm, h.getters.symm, h.setters.symm⟩
  | array degraded h =>
    exact .array degraded ⟨h.site.symm, h.properties.symm, h.getters.symm, h.setters.symm⟩
  | function h =>
    exact .function ⟨h.site.symm, h.usedParams.symm, h.properties.symm, h.constructs.symm,
      h.returns.symm, h.accessor.symm⟩
  | instanceOf constructor h => exact .instanceOf constructor h.symm
  | union members => exact .union members
  | builtin fullName constructible h => exact .builtin fullName constructible h.symm
  | global h => exact .global h.symm
  | parameter use => exact .parameter use

/-- The same shapes refer to the same shapes. -/
theorem refs_eq (h : shape.Same shape') : shape.refs = shape'.refs := by
  cases h with
  | primitive | union | parameter => exact Eq.refl _
  | object h | array _ h => exact h.refs_eq
  | function h =>
    rw [refs, refs, h.usedParams, Properties.refs_eq h.properties, h.constructs, h.returns]
  | instanceOf constructor h => exact congrArg (constructor :: ·) (Properties.refs_eq h)
  | builtin _ _ h | global h => exact Properties.refs_eq h

/-- The same shapes were made at the same place. -/
theorem site?_eq (h : shape.Same shape') : shape.site? = shape'.site? := by
  cases h with
  | object h | array _ h | function h => exact h.site
  | _ => exact Eq.refl _

/-- What the plain properties list is the same. -/
theorem bindings_eq (h : shape.Same shape') :
    shape.properties?.map Properties.toList = shape'.properties?.map Properties.toList := by
  cases h with
  | primitive | union | parameter => exact Eq.refl _
  | object h | array _ h | function h => exact congrArg some h.properties
  | instanceOf _ h | builtin _ _ h | global h => exact congrArg some h

end Shape.Same

namespace ShapeGraph

/-! ### Graphs that agree -/

/-- The ids that are reached from the global scope, from a shape to the shapes that it refers to. -/
inductive Reached (graph : ShapeGraph) : ShapeId → Prop
  | root : Reached graph global
  | ref {id ref shape} : Reached graph id → graph.shape? id = some shape → ref ∈ shape.refs →
    Reached graph ref

/-- Two graphs hold the same shapes under the ids that are reached in the first. -/
def Agrees (graph graph' : ShapeGraph) : Prop :=
  ∀ id, graph.Reached id → ∃ shape shape', graph.shape? id = some shape ∧
    graph'.shape? id = some shape' ∧ shape.Same shape'

variable {graph graph' : ShapeGraph} {id : ShapeId}

/-- Ids that include the global scope and that only refer to each other are all that is reached. -/
theorem Reached.mem {ids : List ShapeId} (h : graph.Reached id) (hglobal : global ∈ ids)
    (hclosed : ∀ id ∈ ids, ∀ shape, graph.shape? id = some shape → shape.refs ⊆ ids) :
    id ∈ ids := by
  induction h with
  | root => exact hglobal
  | ref _ hshape hmem ih => exact hclosed _ ih _ hshape hmem

namespace Agrees

variable (h : graph.Agrees graph')
include h

/-- A graph that agrees with another one knows all that it refers to. -/
theorem left : graph.Agrees graph := by
  intro id hid
  obtain ⟨shape, _, hshape, _, _⟩ := h id hid
  exact ⟨shape, shape, hshape, hshape, .rfl⟩

/-- What is reached in the second graph is reached in the first. -/
theorem reached (hid : graph'.Reached id) : graph.Reached id := by
  induction hid with
  | root => exact .root
  | ref _ hshape' hmem ih =>
    obtain ⟨shape, shape'', hshape, hshape'', hsame⟩ := h _ ih
    obtain rfl := Option.some.inj (hshape'.symm.trans hshape'')
    exact .ref ih hshape (hsame.refs_eq ▸ hmem)

/-- What is reached in the second graph is reached in the first, so the second agrees with the
    first. -/
theorem symm : graph'.Agrees graph := by
  intro id hid
  obtain ⟨shape, shape', hshape, hshape', hsame⟩ := h id (h.reached hid)
  exact ⟨shape', shape, hshape', hshape, hsame.symm⟩

/-! ### What generation looks up -/

/-- Labels come from code sites, or from ids where there is none. -/
theorem label_eq (hid : graph.Reached id) : graph.label id = graph'.label id := by
  obtain ⟨shape, shape', hshape, hshape', hsame⟩ := h id hid
  rw [label, label, shape_eq_ok.2 hshape, shape_eq_ok.2 hshape']
  change Except.ok _ = Except.ok _
  rw [hsame.site?_eq]

/-- Whether nothing was seen in a shape is read off the shape. -/
theorem isAbsent_eq (hid : graph.Reached id) : graph.isAbsent id = graph'.isAbsent id := by
  obtain ⟨shape, shape', hshape, hshape', hsame⟩ := h id hid
  rw [isAbsent, isAbsent, shape_eq_ok.2 hshape, shape_eq_ok.2 hshape']
  cases hsame <;> exact Eq.refl _

/-- Whether a shape is an empty object is decided on the way from a union to its member, which is
    reached. -/
theorem emptyObjectWithin_eq (levels : Nat) (hid : graph.Reached id) :
    graph.emptyObjectWithin levels id = graph'.emptyObjectWithin levels id := by
  induction levels generalizing id with
  | zero => exact Eq.refl _
  | succ levels ih =>
    obtain ⟨shape, shape', hshape, hshape', hsame⟩ := h id hid
    rw [emptyObjectWithin, emptyObjectWithin, hshape, hshape']
    cases hsame with
    | union members =>
      match members with
      | [only] => exact ih (.ref hid hshape List.mem_cons_self)
      | [] | _ :: _ :: _ => exact Eq.refl _
    | object h => exact congrArg some h.isEmpty_eq
    | array degraded h => exact congrArg (fun empty => some (degraded && empty)) h.isEmpty_eq
    | _ => exact Eq.refl _

/-- Graphs that agree decide alike whether a shape is an empty object. -/
theorem isEmptyObject_eq (hid : graph.Reached id) :
    graph.isEmptyObject id = graph'.isEmptyObject id := by
  rw [isEmptyObject, isEmptyObject, h.emptyObjectWithin_eq 2 hid]

/-- Whether the platform has a member of a builtin depends on the name of what is bound. -/
theorem isOwnMember_eq {binding : String × ShapeId} (hid : graph.Reached binding.2)
    (fullName : String) :
    Gen.isOwnMember graph fullName binding = Gen.isOwnMember graph' fullName binding := by
  obtain ⟨shape, shape', hshape, hshape', hsame⟩ := h _ hid
  rw [Gen.isOwnMember, Gen.isOwnMember, hshape, hshape']
  cases hsame <;> exact Eq.refl _

/-- The plain properties of a shape that is reached. -/
theorem bindings_eq (hid : graph.Reached id) :
    ((graph.shape? id).bind Shape.properties?).map Properties.toList =
      ((graph'.shape? id).bind Shape.properties?).map Properties.toList := by
  obtain ⟨shape, shape', hshape, hshape', hsame⟩ := h id hid
  rw [hshape, hshape']
  exact hsame.bindings_eq

/-- The instances of a function have the same properties. -/
theorem instanceProperties_eq {fn fn' : FunctionShape} (hfn : fn.Same fn')
    (hid : graph.Reached fn.constructs) : (Gen.instanceProperties graph fn).toList =
      (Gen.instanceProperties graph' fn').toList := by
  have hbindings := h.bindings_eq hid
  rw [Gen.instanceProperties, Gen.instanceProperties, ← hfn.constructs,
    ← Option.getD_map Properties.toList, ← Option.getD_map Properties.toList, hbindings]

/-- The hint for an instance is made from its constructor. -/
theorem instanceHint_eq (hid : graph.Reached id) :
    Gen.instanceHint graph id = Gen.instanceHint graph' id := by
  obtain ⟨shape, shape', hshape, hshape', hsame⟩ := h id hid
  rw [Gen.instanceHint, Gen.instanceHint, ← h.label_eq hid, shape_eq_ok.2 hshape,
    shape_eq_ok.2 hshape']
  cases hsame <;> exact Eq.refl _

/-- The rule for a parameter looks at the label of its function and at nothing else of the graph. -/
theorem parameter_eq {use : Parameter} (huse : graph.Reached use.function) :
    Gen.parameter graph id use = Gen.parameter graph' id use := by
  rw [Gen.parameter, Gen.parameter, h.label_eq huse]

/-- The global scope is reached, and it has the same properties. -/
theorem globals_eq : graph.globals = graph'.globals := by
  have hbindings := h.bindings_eq .root
  unfold globals
  split <;> split <;> simp_all

end Agrees

end ShapeGraph

end Semblance
