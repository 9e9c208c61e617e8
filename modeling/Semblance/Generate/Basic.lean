import Semblance.Generate.Function
import Semblance.Generate.Primitive
import Semblance.Generate.Scope

/-! # Generation

`Gen.toNode` gives the node that rebuilds a shape, by the rule for the shape's kind.  A rule that
asks for further shapes does so one level deeper.  Among three consecutive levels there is one whose
shape is met there for the first time and found ready by every level below, so three levels for each
shape of the graph are enough, and three more to find that a shape is ready. -/

namespace Semblance

namespace Gen

/-- The rule for a shape, given how to get the nodes of other shapes. -/
def rule (settings : Settings) (graph : ShapeGraph) (visit : Visit) (id : ShapeId) :
    Gen NodeId := do
  match ← checked (graph.shape id) with
  | .primitive kind => primitive kind
  | .object entries => object graph visit id entries
  | .array entries degraded => array graph visit id entries degraded
  | .function fn => function settings graph visit id fn
  | .instanceOf constructor _ => instanceOf graph visit constructor
  | .union members => union visit id members
  | .builtin fullName properties _ => builtin graph visit id fullName properties
  | .global _ => global settings
  | .parameter param => parameter graph id param

/-- The node of a shape, at most so many levels deep. -/
def nodeWithin (settings : Settings) (graph : ShapeGraph) : (levels : Nat) → Visit
  | 0, _ => throw .unfinished
  | levels + 1, id => logged id do
    match ← known? id with
    | some node => return node
    | none => rule settings graph (nodeWithin settings graph levels) id

/-- The levels that are enough for every shape of a graph. -/
def levels (graph : ShapeGraph) : Nat :=
  3 * graph.size + 3

/-- The node that rebuilds a shape.  A shape with an identity of its own has one node; the undefined
    value, null and references by name are new leaves at each call. -/
def toNode (settings : Settings) (graph : ShapeGraph) (id : ShapeId) : Gen NodeId :=
  nodeWithin settings graph (levels graph) id

/-- Emit the statement that gives the global binding `name` a value of a shape.  A name that is no
    identifier is written as a property of the global scope. -/
def assignGlobal (settings : Settings) (graph : ShapeGraph) (name : String) (id : ShapeId) :
    Gen NodeId := do
  let value ← toNode settings graph id
  let target ←
    if isIdentifier name then
      leaf (.global name)
    else
      let scope ← global settings
      onArena (Arena.member scope name)
  let stmt ← onArena (Arena.assignStmt target value)
  emit stmt
  return stmt

end Gen

/-- The properties of the global scope in order. -/
def ShapeGraph.globals (graph : ShapeGraph) : List (String × ShapeId) :=
  match (graph.shape? ShapeGraph.global).bind Shape.properties? with
  | some properties => properties.toList
  | none => []

/-- What a generation hands on: syntax nodes, the top-level statements among them, the names that
    are still free, the leaves that refer to the global scope or to a placeholder, the other names
    and receivers with what they were made for, and the nodes of the shapes. -/
structure Generated where
  arena : Arena
  roots : List NodeId
  names : NameSupply
  references : Array (NodeId × Referent)
  origins : Array (NodeId × Origin)
  nodes : Std.TreeMap Nat NodeId

/-- The result of a generation. -/
def Builder.finish (builder : Builder) : Generated where
  arena := builder.arena
  roots := builder.roots
  names := builder.names
  references := builder.references
  origins := builder.origins
  nodes := builder.nodes

end Semblance
