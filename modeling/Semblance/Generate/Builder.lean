import Std.Data.TreeSet
import Semblance.Name.Supply
import Semblance.Shape.Record
import Semblance.Syntax.Arena

/-! # The state of a generation

Generation turns shapes into syntax nodes that rebuild values of these shapes.  It works on a
`Builder`: the arena under construction, the names in use, the top-level statements emitted so far,
and what has been generated already.  A shape with an identity of its own is generated once and its
node is remembered, so that two references to the shape become two references to one node.

`Gen` is the monad of generation.  A fault ends the call that meets it, and the builder keeps what
was done before; a builder can go on after a fault. -/

namespace Semblance

/-- Choices of the output. -/
structure Settings where
  /-- The hint for the name of the binding that holds the global scope. -/
  globalName : String := "global"
  /-- Leave out the assignment of a prototype that is rebuilt as an empty object. -/
  suppressEmptyPrototype : Bool := true
deriving DecidableEq, Repr

/-- What a leaf stands for that refers to a binding by its name. -/
inductive Referent where
  /-- The global scope. -/
  | scope
  /-- A parameter of a function, which is referred to through its placeholder. -/
  | parameter (shape : ShapeId)
deriving DecidableEq, Repr

/-- The name of the `n`-th formal parameter, counted from one. -/
def formalName (n : Nat) : String :=
  "x" ++ toString n

/-- What a leaf was made for, unless it refers to a binding. -/
inductive Origin where
  /-- The first component of a dotted name of the platform. -/
  | platform (path : String)
  /-- A global binding that gets its value. -/
  | global (name : String)
  /-- What a function was called on. -/
  | receiver (function : ShapeId)
  /-- A formal parameter of a function. -/
  | formal (function : ShapeId) (index : Nat)
deriving DecidableEq, Repr

/-- The leaf itself. -/
def Origin.node : Origin → Node
  | platform path => .ident (Arena.dotComponents path).1
  | global name => .ident name
  | receiver _ => .this
  | formal _ index => .ident (formalName index)

/-- The state of a generation. -/
structure Builder where
  arena : Arena := ∅
  names : NameSupply := ∅
  /-- The declaration of the parameter placeholders, once there is one. -/
  placeholderDecl : Option NodeId := none
  /-- The other top-level statements in order of emission. -/
  statements : Array NodeId := #[]
  /-- The nodes of the shapes that are generated once. -/
  nodes : Std.TreeMap Nat NodeId := ∅
  /-- The node that constructs an instance, by constructor. -/
  instances : Std.TreeMap Nat NodeId := ∅
  /-- The builtins whose added properties are written out. -/
  patched : Std.TreeSet Nat := ∅
  /-- The name of the binding that holds the global scope, once it is declared. -/
  globalName : Option String := none
  /-- The names of the placeholders, by parameter shape. -/
  placeholders : Std.TreeMap Nat String := ∅
  /-- The leaves that refer to the global scope or to a placeholder. -/
  references : Array (NodeId × Referent) := #[]
  /-- The other names and receivers, each with what it was made for. -/
  origins : Array (NodeId × Origin) := #[]
  /-- The shapes that were asked for, each with the answer, in the order of the answers. -/
  visits : Array (ShapeId × Except Fault NodeId) := #[]

namespace Builder

/-- A builder that has generated nothing, and that draws names from the given supply. -/
def start (names : NameSupply) : Builder := { names }

/-- The top-level statements in order, the declaration of the placeholders first. -/
def roots (builder : Builder) : List NodeId :=
  builder.placeholderDecl.toList ++ builder.statements.toList

/-- The number of top-level statements. -/
def rootCount (builder : Builder) : Nat :=
  builder.statements.size + (if builder.placeholderDecl.isSome then 1 else 0)

/-- The statements are counted with the declaration of the placeholders. -/
theorem length_roots (builder : Builder) : builder.roots.length = builder.rootCount := by
  cases hdecl : builder.placeholderDecl <;> simp [roots, rootCount, hdecl]

end Builder

/-- Generation: a computation on a builder that may end in a fault. -/
abbrev Gen := ExceptT Fault (StateM Builder)

/-- How a rule of generation asks for the nodes of other shapes. -/
abbrev Visit := ShapeId → Gen NodeId

namespace Gen

/-- Allocate nodes. -/
def onArena (build : StateM Arena α) : Gen α :=
  modifyGet fun builder =>
    let (result, arena) := build builder.arena
    (result, { builder with arena })

/-- The result of a checked access to the shapes. -/
def checked (access : Except OutOfRange α) : Gen α :=
  match access with
  | .ok result => pure result
  | .error failed => throw (.outOfRange failed)

/-- The node of a shape that was generated before. -/
def known? (shape : ShapeId) : Gen (Option NodeId) :=
  return (← get).nodes[shape.index]?

/-- Remember the node of a shape. -/
def remember (shape : ShapeId) (node : NodeId) : Gen Unit :=
  modify fun builder => { builder with nodes := builder.nodes.insert shape.index node }

/-- Note the answer to a request for a shape. -/
def logged (shape : ShapeId) (gen : Gen NodeId) : Gen NodeId := fun builder =>
  let (answer, builder) := gen builder
  (answer, { builder with visits := builder.visits.push (shape, answer) })

/-- Emit a top-level statement. -/
def emit (stmt : NodeId) : Gen Unit :=
  modify fun builder => { builder with statements := builder.statements.push stmt }

/-- Draw a name from the supply. -/
def freshName (hint : Option String) : Gen String := do
  match (← get).names.fresh? hint with
  | some (name, names) =>
    modify fun builder => { builder with names }
    return name
  | none => throw (.invalidName hint)

/-- A new leaf that refers to a binding by its name. -/
def refer (name : String) (referent : Referent) : Gen NodeId := do
  let leaf ← onArena (Arena.ident name)
  modify fun builder => { builder with references := builder.references.push (leaf, referent) }
  return leaf

/-- A new leaf that refers to no binding. -/
def leaf (origin : Origin) : Gen NodeId := do
  let leaf ← onArena (Arena.push origin.node)
  modify fun builder => { builder with origins := builder.origins.push (leaf, origin) }
  return leaf

/-- The member chain of a dotted name of the platform. -/
def platform (path : String) : Gen NodeId := do
  let root ← leaf (.platform path)
  onArena ((Arena.dotComponents path).2.foldlM Arena.member root)

/-- The chain is that of `Arena.path`. -/
theorem arena_platform (path : String) (builder : Builder) :
    (platform path builder).2.arena = (Arena.path path builder.arena).2 := rfl

/-- Emit the assignment of `value` to `target`. -/
def emitAssign (target value : NodeId) : Gen Unit := do
  emit (← onArena (Arena.assignStmt target value))

/-- Append the assignment of `value` to `target` to a block. -/
def assignIn (block target value : NodeId) : Gen Unit := onArena do
  let stmt ← Arena.assignStmt target value
  modify fun arena => arena.appendStmt block stmt

end Gen

end Semblance
