import Semblance.Fault
import Semblance.Shape.Basic

/-! # The shape graph

A shape graph holds the shapes recorded for one trace.  Observing a code site, a builtin, what a
builtin constructs or a parameter of a function again finds the shape recorded before, since the
graph keeps an index from each of these keys to its shape.  The shapes of the primitive kinds and of
the global scope are in every graph, at fixed ids.

* `shape_alloc`            allocating a shape adds it at the end and changes no other
* `shape?_modify`          changing a shape changes no other
* `empty_primitive`, `empty_global`  the fixed shapes of the empty graph -/

namespace Semblance

/-- The shapes of a trace by id, with the indices that find the shapes that have a key. -/
structure ShapeGraph where
  shapes : Array Shape
  objects : Std.TreeMap Nat ShapeId := ∅
  arrays : Std.TreeMap Nat ShapeId := ∅
  functions : Std.TreeMap Nat ShapeId := ∅
  builtins : Std.TreeMap String ShapeId := ∅
  /-- What each builtin constructs, by the id of the builtin. -/
  constructed : Std.TreeMap Nat ShapeId := ∅
  parameters : Std.TreeMap Parameter ShapeId := ∅

namespace ShapeGraph

/-- The graph that holds the primitives and an empty global scope. -/
def empty : ShapeGraph where
  shapes := (PrimitiveKind.all.map Shape.primitive ++ [Shape.global ∅]).toArray

instance : EmptyCollection ShapeGraph := ⟨empty⟩
instance : Inhabited ShapeGraph := ⟨empty⟩

/-- The shape of a primitive kind. -/
def primitive (kind : PrimitiveKind) : ShapeId :=
  ⟨kind.rank⟩

/-- The global scope. -/
def global : ShapeId :=
  ⟨PrimitiveKind.all.length⟩

/-- The number of shapes. -/
def size (graph : ShapeGraph) : Nat :=
  graph.shapes.size

/-- Whether the graph has no shapes. -/
def isEmpty (graph : ShapeGraph) : Bool :=
  graph.shapes.isEmpty

/-- The shape with an id, if the graph recorded it. -/
def shape? (graph : ShapeGraph) (id : ShapeId) : Option Shape :=
  graph.shapes[id.index]?

/-- The shape with an id, or the access that failed. -/
def shape (graph : ShapeGraph) (id : ShapeId) : Except OutOfRange Shape :=
  lookup graph.shapes id.index

/-- The number that names of bindings refer to a shape by: the offset of its code site, or its id
    for a shape without one. -/
def label (graph : ShapeGraph) (id : ShapeId) : Except OutOfRange Nat := do
  let shape ← graph.shape id
  return match shape.site? with
    | some site => site.offset
    | none => id.index

/-- Add a shape. -/
def alloc (graph : ShapeGraph) (shape : Shape) : ShapeId × ShapeGraph :=
  (⟨graph.shapes.size⟩, { graph with shapes := graph.shapes.push shape })

/-- Change the shape with an id, if there is one. -/
def modify (graph : ShapeGraph) (id : ShapeId) (change : Shape → Shape) : ShapeGraph :=
  { graph with shapes := graph.shapes.modify id.index change }

/-! ## Shapes with a key -/

/-- The shape of the objects made at a code site.  Without a site the shape is new. -/
def object (graph : ShapeGraph) (site : Option CodeSite) : ShapeId × ShapeGraph :=
  match site with
  | none => graph.alloc (.object {})
  | some place =>
    match graph.objects[place.offset]? with
    | some id => (id, graph)
    | none =>
      let (id, graph) := graph.alloc (.object { site := place })
      (id, { graph with objects := graph.objects.insert place.offset id })

/-- The shape of the arrays made at a code site.  Without a site the shape is new. -/
def array (graph : ShapeGraph) (site : Option CodeSite) : ShapeId × ShapeGraph :=
  match site with
  | none => graph.alloc (.array {} false)
  | some place =>
    match graph.arrays[place.offset]? with
    | some id => (id, graph)
    | none =>
      let (id, graph) := graph.alloc (.array { site := place } false)
      (id, { graph with arrays := graph.arrays.insert place.offset id })

/-- A new function shape, followed by the shape of what it constructs and by the union of what it
    returns. -/
def allocFunction (graph : ShapeGraph) (site : Option CodeSite) : ShapeId × ShapeGraph :=
  -- The three shapes refer to each other by ids that are known before they are allocated.
  let next := graph.shapes.size
  let (id, graph) :=
    graph.alloc (.function { site, constructs := ⟨next + 1⟩, returns := ⟨next + 2⟩ })
  let (_, graph) := graph.alloc (.instanceOf id ∅)
  let (_, graph) := graph.alloc (.union [])
  (id, graph)

/-- The shape of the functions made at a code site.  Without a site the shape is new. -/
def function (graph : ShapeGraph) (site : Option CodeSite) : ShapeId × ShapeGraph :=
  match site with
  | none => graph.allocFunction none
  | some place =>
    match graph.functions[place.offset]? with
    | some id => (id, graph)
    | none =>
      let (id, graph) := graph.allocFunction (some place)
      (id, { graph with functions := graph.functions.insert place.offset id })

/-- Mark a builtin as one that constructs. -/
def markConstructible : Shape → Shape
  | .builtin fullName properties _ => .builtin fullName properties true
  | shape => shape

/-- The shape of a builtin.  Once seen to construct, it stays constructible. -/
def builtin (graph : ShapeGraph) (fullName : String) (constructible : Bool) :
    ShapeId × ShapeGraph :=
  match graph.builtins[fullName]? with
  | some id => (id, if constructible then graph.modify id markConstructible else graph)
  | none =>
    let (id, graph) := graph.alloc (.builtin fullName ∅ constructible)
    (id, { graph with builtins := graph.builtins.insert fullName id })

/-- The shape of what a function or a constructible builtin constructs. -/
def instanceOf (graph : ShapeGraph) (constructor : ShapeId) :
    Except OutOfRange (Option ShapeId × ShapeGraph) := do
  match ← graph.shape constructor with
  | .function fn => return (some fn.constructs, graph)
  | .builtin _ _ true =>
    match graph.constructed[constructor.index]? with
    | some id => return (some id, graph)
    | none =>
      let (id, graph) := graph.alloc (.instanceOf constructor ∅)
      return (some id, { graph with constructed := graph.constructed.insert constructor.index id })
  | _ => return (none, graph)

/-- The shape of whatever callers pass for a parameter. -/
def parameter (graph : ShapeGraph) (parameter : Parameter) : ShapeId × ShapeGraph :=
  match graph.parameters[parameter]? with
  | some id => (id, graph)
  | none =>
    let (id, graph) := graph.alloc (.parameter parameter)
    (id, { graph with parameters := graph.parameters.insert parameter id })

/-! ## Unions -/

/-- A list of members with one more at its end, unless it is there already. -/
def addMember (members : List ShapeId) (member : ShapeId) : List ShapeId :=
  if members.contains member then members else members ++ [member]

/-- What a shape contributes to a union: the members of a union, and otherwise the shape itself. -/
def flatten (graph : ShapeGraph) (id : ShapeId) : Except OutOfRange (List ShapeId) := do
  match ← graph.shape id with
  | .union members => return members
  | _ => return [id]

/-- A list of members extended by what a shape contributes. -/
def absorb (graph : ShapeGraph) (members : List ShapeId) (id : ShapeId) :
    Except OutOfRange (List ShapeId) := do
  return (← graph.flatten id).foldl addMember members

/-- A new union of shapes. -/
def union (graph : ShapeGraph) (ids : List ShapeId) :
    Except OutOfRange (ShapeId × ShapeGraph) := do
  let members ← ids.foldlM graph.absorb []
  return graph.alloc (.union members)

/-- A shape that covers `existing` and `incoming`: `existing` itself if it does so already, and a
    new union otherwise. -/
def widen (graph : ShapeGraph) (existing incoming : ShapeId) :
    Except OutOfRange (ShapeId × ShapeGraph) := do
  if existing = incoming then
    return (existing, graph)
  let members ← graph.absorb (← graph.absorb [] existing) incoming
  -- A union that gains no member is kept.
  match ← graph.shape existing with
  | .union former =>
    if former = members then return (existing, graph) else return graph.alloc (.union members)
  | _ => return graph.alloc (.union members)

/-! ## What the operations do -/

/-- A checked access finds the shape that the graph recorded. -/
theorem shape_eq_ok {graph : ShapeGraph} {id : ShapeId} {shape : Shape} :
    graph.shape id = .ok shape ↔ graph.shape? id = some shape :=
  lookup_eq_ok

/-- Allocating a shape adds it at the end and changes no other. -/
theorem shape_alloc (graph : ShapeGraph) (shape : Shape) (id : ShapeId) :
    (graph.alloc shape).2.shape? id =
      if id = (graph.alloc shape).1 then some shape else graph.shape? id := by
  obtain ⟨index⟩ := id
  simp [alloc, shape?, Array.getElem?_push]

/-- The id of a new shape is one that was not in use. -/
theorem shape?_alloc_fst (graph : ShapeGraph) (shape : Shape) :
    graph.shape? (graph.alloc shape).1 = none := by
  simp [alloc, shape?]

/-- A shape that was there before is there still. -/
theorem shape?_alloc_of_some {graph : ShapeGraph} {id : ShapeId} {shape new : Shape}
    (h : graph.shape? id = some shape) : (graph.alloc new).2.shape? id = some shape := by
  rw [shape_alloc, if_neg, h]
  rintro rfl
  rw [shape?_alloc_fst] at h
  cases h

/-- A shape that was not there before is the new one. -/
theorem shape?_alloc_of_none {graph : ShapeGraph} {id : ShapeId} {shape new : Shape}
    (hnone : graph.shape? id = none) (h : (graph.alloc new).2.shape? id = some shape) :
    id = (graph.alloc new).1 ∧ shape = new := by
  rw [shape_alloc] at h
  split at h
  · next heq => exact ⟨heq, (Option.some.inj h).symm⟩
  · cases hnone.symm.trans h

/-- Changing a shape changes no other. -/
theorem shape?_modify (graph : ShapeGraph) (id other : ShapeId) (change : Shape → Shape) :
    (graph.modify id change).shape? other =
      if id = other then (graph.shape? other).map change else graph.shape? other := by
  obtain ⟨index⟩ := id
  obtain ⟨index'⟩ := other
  simp [modify, shape?, Array.getElem?_modify]

/-- A list with one more member has this member and those that it had. -/
theorem mem_addMember {members : List ShapeId} {member other : ShapeId} :
    other ∈ addMember members member ↔ other ∈ members ∨ other = member := by
  grind [addMember]

/-- A member that is there already is not listed again. -/
theorem nodup_addMember {members : List ShapeId} (h : members.Nodup) (member : ShapeId) :
    (addMember members member).Nodup := by
  unfold addMember
  split
  · exact h
  · next hnot => simp_all [List.nodup_append]; grind

/-- Each primitive kind has its shape from the start. -/
@[simp] theorem empty_primitive (kind : PrimitiveKind) :
    empty.shape? (primitive kind) = some (.primitive kind) := by
  cases kind <;> rfl

/-- The global scope has its shape from the start, without properties. -/
@[simp] theorem empty_global : empty.shape? global = some (.global ∅) := rfl

end ShapeGraph

end Semblance
