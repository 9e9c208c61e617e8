import Semblance.Shape.Properties

/-! # Shapes

A shape is the structure that a value of a traced program was seen to have.  Shapes refer to each
other by `ShapeId`, so they may share parts and run in cycles.  There is one shape for each
primitive kind and one for the global scope; objects, arrays and functions belong to the place in
the program that made them, where it is known. -/

namespace Semblance

/-- The kinds of primitive values. -/
inductive PrimitiveKind where
  | undefined
  | null
  | boolean
  | number
  | string
  | regexp
deriving DecidableEq, Repr

namespace PrimitiveKind

/-- All kinds, in the order in which a graph holds their shapes. -/
def all : List PrimitiveKind :=
  [undefined, null, boolean, number, string, regexp]

/-- The place of a kind in `all`. -/
def rank : PrimitiveKind → Nat
  | undefined => 0
  | null => 1
  | boolean => 2
  | number => 3
  | string => 4
  | regexp => 5

/-- A kind stands in its own place. -/
theorem all_rank (kind : PrimitiveKind) : all[kind.rank]? = some kind := by
  cases kind <;> rfl

end PrimitiveKind

/-- The place in the traced program that makes a value, as an offset into its source. -/
structure CodeSite where
  offset : Nat
deriving DecidableEq, Repr

/-- The place at an offset reported by a tracer.  Negative offsets stand for synthetic positions,
    and neither they nor offsets from 2³² on name a place. -/
def CodeSite.ofOffset? (offset : Int) : Option CodeSite :=
  if 0 ≤ offset ∧ offset < 4294967296 then some ⟨offset.toNat⟩ else none

/-- Which way an accessor function works. -/
inductive AccessorKind where
  | getter
  | setter
deriving DecidableEq, Repr

/-- What a keyed aggregate holds: plain properties and accessors. -/
structure Aggregate where
  site : Option CodeSite := none
  properties : Properties := ∅
  getters : Properties := ∅
  setters : Properties := ∅

/-- Whether an aggregate has no entries of any sort. -/
def Aggregate.isEmpty (aggregate : Aggregate) : Bool :=
  aggregate.properties.isEmpty && aggregate.getters.isEmpty && aggregate.setters.isEmpty

/-- What was seen of a function. -/
structure FunctionShape where
  site : Option CodeSite := none
  /-- The used parameters in ascending order, each with the shape of what is passed for it.
      Parameter 0 is the receiver. -/
  usedParams : List (Nat × ShapeId) := []
  /-- Properties of the function value itself. -/
  properties : Properties := ∅
  /-- The shape of what the function constructs. -/
  constructs : ShapeId
  /-- The union of the shapes it returned. -/
  returns : ShapeId
  /-- Set when the function serves as an accessor. -/
  accessor : Option AccessorKind := none

/-- The highest used parameter. -/
def FunctionShape.maxParam (fn : FunctionShape) : Option Nat :=
  fn.usedParams.getLast?.map (·.1)

/-- A list of used parameters with one more entry, in ascending order.  A parameter that is already
    there gets the new shape. -/
def recordParam (index : Nat) (shape : ShapeId) : List (Nat × ShapeId) → List (Nat × ShapeId)
  | [] => [(index, shape)]
  | (other, known) :: rest =>
    if index < other then (index, shape) :: (other, known) :: rest
    else if index = other then (index, shape) :: rest
    else (other, known) :: recordParam index shape rest

/-- A parameter of a function, seen from outside: whatever callers pass for it. -/
structure Parameter where
  function : ShapeId
  index : Nat
deriving DecidableEq, Repr

namespace Parameter

/-- Parameters are ordered by function, and by index within a function. -/
instance : Ord Parameter :=
  ⟨compareLex (compareOn (·.function.index)) (compareOn (·.index))⟩

instance : Std.TransOrd Parameter :=
  inferInstanceAs (Std.TransCmp (compareLex
    (compareOn fun parameter : Parameter => parameter.function.index)
    (compareOn fun parameter : Parameter => parameter.index)))

instance : Std.LawfulEqOrd Parameter where
  compare_self := Std.ReflCmp.compare_self
  eq_of_compare := by
    rintro ⟨⟨function⟩, index⟩ ⟨⟨function'⟩, index'⟩ heq
    obtain ⟨hfunction, hindex⟩ := Ordering.then_eq_eq.1 heq
    have hfunction : function = function' := Nat.compare_eq_eq.1 hfunction
    have hindex : index = index' := Nat.compare_eq_eq.1 hindex
    rw [hfunction, hindex]

end Parameter

/-- The structure that a value was seen to have. -/
inductive Shape where
  | primitive (kind : PrimitiveKind)
  | object (entries : Aggregate)
  /-- A degraded array is one that had a property other than an element; it is rebuilt as an
      object. -/
  | array (entries : Aggregate) (degraded : Bool)
  | function (fn : FunctionShape)
  /-- What a function or a builtin constructs, with the properties seen on it. -/
  | instanceOf (constructor : ShapeId) (properties : Properties)
  /-- Several shapes seen in one place: no member twice, and no union among them. -/
  | union (members : List ShapeId)
  /-- A value of the platform, reached by a dotted name, with the properties that were added to
      it. -/
  | builtin (fullName : String) (properties : Properties) (constructible : Bool)
  /-- The global scope. -/
  | global (properties : Properties)
  | parameter (parameter : Parameter)

namespace Shape

instance : Inhabited Shape := ⟨.primitive .undefined⟩

/-- The word for a shape's kind in messages. -/
def kindName : Shape → String
  | primitive _ => "primitive"
  | object _ => "object"
  | array _ _ => "array"
  | function _ => "function"
  | instanceOf _ _ => "instance"
  | union _ => "union"
  | builtin _ _ _ => "builtin"
  | global _ => "global"
  | parameter _ => "external parameter"

/-- The plain properties of a shape, for the kinds that have them. -/
def properties? : Shape → Option Properties
  | object entries => some entries.properties
  | array entries _ => some entries.properties
  | function fn => some fn.properties
  | instanceOf _ properties => some properties
  | builtin _ properties _ => some properties
  | global properties => some properties
  | primitive _ | union _ | parameter _ => none

/-- The shape with its plain properties changed.  Shapes without properties stay as they are. -/
def modifyProperties (change : Properties → Properties) : Shape → Shape
  | object entries => object { entries with properties := change entries.properties }
  | array entries degraded =>
    array { entries with properties := change entries.properties } degraded
  | function fn => function { fn with properties := change fn.properties }
  | instanceOf constructor properties => instanceOf constructor (change properties)
  | builtin fullName properties constructible => builtin fullName (change properties) constructible
  | global properties => global (change properties)
  | shape => shape

/-- The place that makes values of the shape. -/
def site? : Shape → Option CodeSite
  | object entries => entries.site
  | array entries _ => entries.site
  | function fn => fn.site
  | _ => none

/-- The plain properties of a changed shape are the changed properties of the shape. -/
@[simp] theorem properties?_modifyProperties (change : Properties → Properties) (shape : Shape) :
    (shape.modifyProperties change).properties? = shape.properties?.map change := by
  cases shape <;> rfl

/-- A change of its properties does not move a shape to another site. -/
@[simp] theorem site?_modifyProperties (change : Properties → Properties) (shape : Shape) :
    (shape.modifyProperties change).site? = shape.site? := by
  cases shape <;> rfl

/-- A shape keeps its kind. -/
@[simp] theorem kindName_modifyProperties (change : Properties → Properties) (shape : Shape) :
    (shape.modifyProperties change).kindName = shape.kindName := by
  cases shape <;> rfl

end Shape

end Semblance
