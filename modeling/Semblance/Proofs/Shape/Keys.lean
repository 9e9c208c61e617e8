import Semblance.Proofs.Shape.Changes

/-!
# Keys of shapes

A graph finds a shape by its key: an object, an array or a function by its code site, a builtin by
its name, an instance by its constructor and a parameter by its use. `ShapeGraph.keyOf?` reads the
key of a shape, and `ShapeGraph.find?` is what the indices of a graph say of a key.

What a shape is found by does not change. `Shape.identity` keeps this part of a shape and leaves out
all that is seen of it later.

## Key results

- `Grows.identity`: whatever is seen of a shape, its identity stays
- `find?_register`: what an entry in an index adds
-/

namespace Semblance

/-- What a shape is found by. -/
inductive ShapeKey where
  | primitive (kind : PrimitiveKind)
  | global
  | object (site : CodeSite)
  | array (site : CodeSite)
  | function (site : CodeSite)
  | builtin (fullName : String)
  | instanceOf (constructor : ShapeId)
  | parameter (use : Parameter)
deriving DecidableEq

namespace Shape

/-- What the shape is found by. Shapes without a code site are found by their id only, and so are
    unions. -/
def key? : Shape → Option ShapeKey
  | primitive kind => some (.primitive kind)
  | object entries => entries.site.map .object
  | array entries _ => entries.site.map .array
  | function fn => fn.site.map .function
  | instanceOf constructor _ => some (.instanceOf constructor)
  | union _ => none
  | builtin fullName _ _ => some (.builtin fullName)
  | global _ => some .global
  | parameter use => some (.parameter use)

/-- The shape of what a function constructs. -/
def constructs? : Shape → Option ShapeId
  | function fn => some fn.constructs
  | _ => none

/-- The union of what a function returns. -/
def returns? : Shape → Option ShapeId
  | function fn => some fn.returns
  | _ => none

/-- Whether there are instances of the shape. -/
def mayConstruct : Shape → Bool
  | function _ => true
  | builtin _ _ constructible => constructible
  | _ => false

/-- The used parameters of a function. -/
def usedParams : Shape → List (Nat × ShapeId)
  | function fn => fn.usedParams
  | _ => []

/-- What the shape is from the beginning. All that is seen of it later is left out. -/
def identity : Shape → Shape
  | primitive kind => primitive kind
  | object entries => object { site := entries.site }
  | array entries _ => array { site := entries.site } false
  | function fn =>
    function { site := fn.site, constructs := fn.constructs, returns := fn.returns }
  | instanceOf constructor _ => instanceOf constructor ∅
  | union _ => union []
  | builtin fullName _ _ => builtin fullName ∅ false
  | global _ => global ∅
  | parameter use => parameter use

variable {shape shape' : Shape}

/-- What a shape is found by is part of what it is from the beginning. -/
theorem key?_of_identity (h : shape'.identity = shape.identity) : shape'.key? = shape.key? := by
  have hidentity (shape : Shape) : shape.identity.key? = shape.key? := by cases shape <;> rfl
  rw [← hidentity shape', h, hidentity]

/-- What a function constructs is part of what it is from the beginning. -/
theorem constructs?_of_identity (h : shape'.identity = shape.identity) :
    shape'.constructs? = shape.constructs? := by
  have hidentity (shape : Shape) : shape.identity.constructs? = shape.constructs? := by
    cases shape <;> rfl
  rw [← hidentity shape', h, hidentity]

/-- The union of what a function returns is part of what it is from the beginning. -/
theorem returns?_of_identity (h : shape'.identity = shape.identity) :
    shape'.returns? = shape.returns? := by
  have hidentity (shape : Shape) : shape.identity.returns? = shape.returns? := by
    cases shape <;> rfl
  rw [← hidentity shape', h, hidentity]

/-- Whether a shape is a union is part of what it is from the beginning. -/
theorem isUnion_of_identity (h : shape'.identity = shape.identity) :
    shape'.isUnion = shape.isUnion := by
  have hidentity (shape : Shape) : shape.identity.isUnion = shape.isUnion := by
    cases shape <;> rfl
  rw [← hidentity shape', h, hidentity]

/-- Only instances are found by their constructor. -/
theorem key?_eq_instanceOf {constructor : ShapeId} (h : shape.key? = some (.instanceOf constructor)) :
    ∃ properties, shape = .instanceOf constructor properties := by
  cases shape <;> simp_all [key?]

/-- Only a parameter is found by its function and index, and it is nothing more than them. -/
theorem key?_eq_parameter {use : Parameter} :
    shape.key? = some (.parameter use) ↔ shape = .parameter use := by
  cases shape <;> simp [key?]

/-- A union has members. -/
theorem isUnion_eq_true : shape.isUnion = true ↔ ∃ members, shape = .union members := by
  cases shape <;> simp [isUnion]

end Shape

namespace ShapeGraph

/-- Whatever is seen of a shape, its identity stays. -/
theorem Grows.identity {graph : ShapeGraph} {shape shape' : Shape} (h : graph.Grows shape shape') :
    shape'.identity = shape.identity := by
  cases h with
  | same => rfl
  | property degrades => cases degrades <;> cases shape <;> rfl
  | @bind kind => cases kind <;> cases shape <;> rfl
  | _ => cases shape <;> rfl

/-- What may construct goes on to do so. -/
theorem Grows.mayConstruct {graph : ShapeGraph} {shape shape' : Shape}
    (h : graph.Grows shape shape') (hshape : shape.mayConstruct = true) :
    shape'.mayConstruct = true := by
  cases h with
  | same => exact hshape
  | property degrades => cases degrades <;> cases shape <;> exact hshape
  | construct => cases shape <;> first | rfl | exact hshape
  | _ => cases shape <;> exact hshape

/-- A constructible builtin remains one. -/
theorem Grows.of_builtin {graph : ShapeGraph} {fullName : String} {properties : Properties}
    {shape : Shape} (h : graph.Grows (.builtin fullName properties true) shape) :
    ∃ properties', shape = .builtin fullName properties' true := by
  have hmay := h.mayConstruct rfl
  have hidentity := h.identity
  cases shape with
  | builtin fullName' properties' constructible =>
    cases hidentity
    exact ⟨properties', congrArg _ hmay⟩
  | _ => cases hidentity

/-- The key of the shape with an id. -/
def keyOf? (graph : ShapeGraph) (id : ShapeId) : Option ShapeKey :=
  (graph.shape? id).bind Shape.key?

/-- The shape that a key leads to. A function leads to its instances itself. -/
def find? (graph : ShapeGraph) : ShapeKey → Option ShapeId
  | .primitive kind => some (primitive kind)
  | .global => some global
  | .object site => graph.objects[site.offset]?
  | .array site => graph.arrays[site.offset]?
  | .function site => graph.functions[site.offset]?
  | .builtin fullName => graph.builtins[fullName]?
  | .instanceOf constructor =>
    ((graph.shape? constructor).bind Shape.constructs?).or graph.constructed[constructor.index]?
  | .parameter use => graph.parameters[use]?

/-- Let a key lead to a shape. -/
def register (graph : ShapeGraph) (id : ShapeId) : ShapeKey → ShapeGraph
  | .primitive _ | .global => graph
  | .object site => { graph with objects := graph.objects.insert site.offset id }
  | .array site => { graph with arrays := graph.arrays.insert site.offset id }
  | .function site => { graph with functions := graph.functions.insert site.offset id }
  | .builtin fullName => { graph with builtins := graph.builtins.insert fullName id }
  | .instanceOf constructor =>
    { graph with constructed := graph.constructed.insert constructor.index id }
  | .parameter use => { graph with parameters := graph.parameters.insert use id }

variable {graph graph' : ShapeGraph} {id id' : ShapeId} {key : ShapeKey}

/-- Letting a key lead to a shape changes no shape. -/
@[simp] theorem shapes_register (graph : ShapeGraph) (id : ShapeId) (key : ShapeKey) :
    (graph.register id key).shapes = graph.shapes := by
  cases key <;> rfl

/-- The shapes are found by their ids as before. -/
@[simp] theorem shape?_register (graph : ShapeGraph) (id : ShapeId) (key : ShapeKey)
    (other : ShapeId) : (graph.register id key).shape? other = graph.shape? other := by
  rw [shape?, shapes_register, shape?]

/-- The keys of the shapes are as before. -/
@[simp] theorem keyOf?_register (graph : ShapeGraph) (id : ShapeId) (key : ShapeKey)
    (other : ShapeId) : (graph.register id key).keyOf? other = graph.keyOf? other := by
  rw [keyOf?, shape?_register, keyOf?]

/-- A key that led nowhere leads to what is registered, and the other keys lead where they did. -/
theorem find?_register (h : graph.find? key = none) (id : ShapeId) (other : ShapeKey) :
    (graph.register id key).find? other = if key = other then some id else graph.find? other := by
  have hsame (site site' : CodeSite) : site.offset = site'.offset ↔ site = site' := by
    cases site
    cases site'
    simp
  have hsame' (constructor constructor' : ShapeId) :
      constructor.index = constructor'.index ↔ constructor = constructor' := by
    cases constructor
    cases constructor'
    simp
  cases key with
  | primitive | global => cases h
  | instanceOf constructor =>
    -- The constructor is no function, so it is its index entry that counts.
    obtain ⟨hconstructs, _⟩ := Option.or_eq_none_iff.1 h
    cases other with
    | instanceOf constructor' =>
      by_cases heq : constructor = constructor'
      · subst heq
        simp [register, find?, shape?, shape?.eq_def graph constructor ▸ hconstructs]
      · simp [register, find?, shape?, Std.TreeMap.getElem?_insert, hsame', heq]
    | _ => rfl
  | _ => 
    cases other <;> simp [register, find?, Std.TreeMap.getElem?_insert, hsame, shape?]

/-- Only the key of an instance touches what builtins lead to. -/
theorem constructed_register {constructor : ShapeId}
    (h : (graph.register id key).constructed[constructor.index]? = some id') :
    graph.constructed[constructor.index]? = some id' ∨ key = .instanceOf constructor := by
  cases key with
  | instanceOf constructor' =>
    simp only [register, Std.TreeMap.getElem?_insert, Std.LawfulEqCmp.compare_eq_iff_eq] at h
    split at h
    · next heq =>
      refine .inr ?_
      cases constructor
      cases constructor'
      exact congrArg (ShapeKey.instanceOf ⟨·⟩) heq
    · exact .inl h
  | _ => exact .inl h

end ShapeGraph

end Semblance
