import Semblance.Name.ArrayIndex
import Semblance.Shape.Graph

/-! # Recording observations

What a tracer sees of values accumulates in a shape graph.  A property that is seen with several
shapes holds their union; arrays keep their properties under the folded names of `arraySlot` and
degrade when one of these is no element.  An observation that its owner cannot hold is refused,
which the answer `false` or `none` tells; an id that was never recorded is an error. -/

namespace Semblance

namespace Shape

/-- Whether recording a property makes the shape a degraded array that was none before. -/
def degradesUnder : Shape → String → Bool
  | array _ degraded, name => !degraded && (arrayIndex? (arraySlot name)).isNone
  | _, _ => false

/-- The name under which the shape keeps a property. -/
def slotName : Shape → String → String
  | array _ _, name => arraySlot name
  | _, name => name

/-- Mark an array as degraded. -/
def degrade : Shape → Shape
  | array entries _ => array entries true
  | shape => shape

/-- Mark a function as an accessor. -/
def markAccessor (kind : AccessorKind) : Shape → Shape
  | function fn => function { fn with accessor := kind }
  | shape => shape

/-- Bind a name to an accessor function.  An array degrades. -/
def setAccessor (kind : AccessorKind) (name : String) (id : ShapeId) : Shape → Shape
  | object entries => object (bind entries)
  | array entries _ => array (bind entries) true
  | shape => shape
where
  /-- The aggregate with the accessor bound. -/
  bind (entries : Aggregate) : Aggregate :=
    match kind with
    | .getter => { entries with getters := entries.getters.insert name id }
    | .setter => { entries with setters := entries.setters.insert name id }

/-- Whether the shape can hold accessors. -/
def holdsAccessors : Shape → Bool
  | object _ | array _ _ => true
  | _ => false

/-- Set the members of a union. -/
def setMembers (members : List ShapeId) : Shape → Shape
  | union _ => union members
  | shape => shape

/-- Record a used parameter of a function. -/
def useParam (index : Nat) (parameter : ShapeId) : Shape → Shape
  | function fn => function { fn with usedParams := recordParam index parameter fn.usedParams }
  | shape => shape

end Shape

namespace ShapeGraph

/-- Record that property `name` of `owner` was seen to hold `value`. -/
def addProperty (graph : ShapeGraph) (owner : ShapeId) (name : String) (value : ShapeId) :
    Except OutOfRange (Bool × ShapeGraph) := do
  let shape ← graph.shape owner
  match shape.properties? with
  | none => return (false, graph)
  | some properties =>
    -- Both are decided by the shape as it was before.
    let slot := shape.slotName name
    let degrades := shape.degradesUnder name
    let (held, graph) ← match properties.get? slot with
      | some existing => graph.widen existing value
      | none => pure (value, graph)
    return (true, graph.modify owner fun shape =>
      (if degrades then shape.degrade else shape).modifyProperties (·.insert slot held))

/-- Record that `name` of an object or array is read or written through a function. -/
def addAccessor (graph : ShapeGraph) (kind : AccessorKind) (owner : ShapeId) (name : String)
    (function : ShapeId) : Except OutOfRange (Bool × ShapeGraph) := do
  discard (graph.shape function)
  let shape ← graph.shape owner
  -- The function is marked even if the owner holds no accessors.
  let graph := graph.modify function (Shape.markAccessor kind)
  if shape.holdsAccessors then
    return (true, graph.modify owner (Shape.setAccessor kind name function))
  else
    return (false, graph)

/-- Record a getter. -/
def addGetter (graph : ShapeGraph) (owner : ShapeId) (name : String) (function : ShapeId) :
    Except OutOfRange (Bool × ShapeGraph) :=
  graph.addAccessor .getter owner name function

/-- Record a setter. -/
def addSetter (graph : ShapeGraph) (owner : ShapeId) (name : String) (function : ShapeId) :
    Except OutOfRange (Bool × ShapeGraph) :=
  graph.addAccessor .setter owner name function

/-- Record that a function, called as a constructor, wrote property `name` of its receiver. -/
def addInstanceProperty (graph : ShapeGraph) (function : ShapeId) (name : String)
    (value : ShapeId) : Except OutOfRange (Bool × ShapeGraph) := do
  match ← graph.shape function with
  | .function fn => graph.addProperty fn.constructs name value
  | _ => return (false, graph)

/-- Record that a function returned a value of a shape.  The shape of the undefined value is
    dropped. -/
def observeReturn (graph : ShapeGraph) (function value : ShapeId) :
    Except OutOfRange (Bool × ShapeGraph) := do
  if value = primitive .undefined then
    return (false, graph)
  match ← graph.shape function with
  | .function fn =>
    let members ← graph.absorb (← graph.flatten fn.returns) value
    return (true, graph.modify fn.returns (Shape.setMembers members))
  | _ => return (false, graph)

/-- Record that a function uses a parameter, and answer the shape of what is passed for it. -/
def useParam (graph : ShapeGraph) (function : ShapeId) (index : Nat) :
    Except OutOfRange (Option ShapeId × ShapeGraph) := do
  match ← graph.shape function with
  | .function _ =>
    let (id, graph) := graph.parameter ⟨function, index⟩
    return (some id, graph.modify function (Shape.useParam index id))
  | _ => return (none, graph)

/-- Whether a shape stands for no value worth rebuilding: the undefined value, or a union of
    nothing. -/
def isAbsent (graph : ShapeGraph) (id : ShapeId) : Except OutOfRange Bool := do
  return match ← graph.shape id with
    | .primitive .undefined => true
    | .union members => members.isEmpty
    | _ => false

end ShapeGraph

end Semblance
