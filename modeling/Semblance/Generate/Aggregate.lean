import Semblance.Generate.Builder

/-! # Rules for objects, arrays and unions

The node of an aggregate is allocated and remembered before its entries are generated, so that a
cycle back into the aggregate finds the node and ends there. -/

namespace Semblance

/-- Arrays with an element beyond this index, 2¹⁶, are rebuilt as objects. -/
def maxDenseIndex : Nat := 65536

/-- The elements of an array with their indices, unless a property is no element or lies too far
    out. -/
def Aggregate.elements? (entries : Aggregate) : Option (List (Nat × ShapeId)) :=
  entries.properties.toList.mapM fun (name, shape) =>
    (arrayIndex? name).bind fun index =>
      if index ≤ maxDenseIndex then some (index, shape) else none

/-- Whether a shape other than a union is rebuilt as an object without entries. -/
def Shape.isEmptyObject : Shape → Bool
  | .object entries => entries.isEmpty
  | .array entries degraded => degraded && entries.isEmpty
  | _ => false

/-- Whether a shape is rebuilt as an object without entries, if this is found in so many levels.  A
    union of one member is rebuilt as that member. -/
def ShapeGraph.emptyObjectWithin (graph : ShapeGraph) : (levels : Nat) → ShapeId → Option Bool
  | 0, _ => none
  | levels + 1, id =>
    match graph.shape? id with
    | some (.union [only]) => graph.emptyObjectWithin levels only
    | some shape => some shape.isEmptyObject
    | none => some false

/-- Whether a shape is rebuilt as an object without entries.  The members of a union are no unions,
    so two levels are enough. -/
def ShapeGraph.isEmptyObject (graph : ShapeGraph) (id : ShapeId) : Bool :=
  (graph.emptyObjectWithin 2 id).getD false

namespace Gen

/-- Append an entry with the node of a shape to an object. -/
def addEntry (visit : Visit) (object : NodeId) (kind : EntryKind) (binding : String × ShapeId) :
    Gen Unit := do
  let value ← visit binding.2
  onArena do
    let entry ← Arena.entry binding.1 value kind
    modify fun arena => arena.appendEntry object entry

/-- An object with an entry for each property, then for each getter, then for each setter. -/
def object (graph : ShapeGraph) (visit : Visit) (id : ShapeId) (entries : Aggregate) :
    Gen NodeId := do
  let label ← checked (graph.label id)
  let node ← onArena (Arena.pushHinted (.object #[]) ("obj_" ++ toString label))
  -- Remembered without entries, since an entry may lead back to the object.
  remember id node
  entries.properties.toList.forM (addEntry visit node .value)
  entries.getters.toList.forM (addEntry visit node .getter)
  entries.setters.toList.forM (addEntry visit node .setter)
  return node

/-- An array literal with holes where there is no element. -/
def denseArray (graph : ShapeGraph) (visit : Visit) (id : ShapeId)
    (elements : List (Nat × ShapeId)) : Gen NodeId := do
  let label ← checked (graph.label id)
  let node ← onArena (Arena.pushHinted (.array #[]) ("array_" ++ toString label))
  -- Remembered without elements, since an element may lead back to the array.
  remember id node
  let length := elements.foldl (fun length element => max length (element.1 + 1)) 0
  let slots ← elements.foldlM (fun slots element => do
      let value ← visit element.2
      return slots.setIfInBounds element.1 (some value))
    (Array.replicate length none)
  onArena (modify fun arena => arena.modifyNode node fun _ => .array slots)
  return node

/-- An array literal, or an object where the properties do not allow one. -/
def array (graph : ShapeGraph) (visit : Visit) (id : ShapeId) (entries : Aggregate)
    (degraded : Bool) : Gen NodeId :=
  if degraded then
    object graph visit id entries
  else
    match entries.elements? with
    | some elements => denseArray graph visit id elements
    | none => object graph visit id entries

/-- The members of a union, each to be used where those before it are falsy.  A member may lead back
    to the union and have its node built before the members are all there; that node is then the
    result. -/
def union (visit : Visit) (id : ShapeId) : List ShapeId → Gen NodeId
  | [] => onArena Arena.undefined
  | [only] => visit only
  | first :: rest => do
    let head ← visit first
    let operands ← rest.mapM visit
    -- A member may have led back here.
    match ← known? id with
    | some node => return node
    | none =>
      let node ← onArena (operands.foldlM Arena.or head)
      onArena (modify fun arena => arena.setHint node ("union_" ++ toString id.index))
      remember id node
      return node

end Gen

end Semblance
