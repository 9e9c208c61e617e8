import Semblance.Generate.Aggregate

/-! # Rules for functions and their instances

The body of a function copies its used parameters to their placeholders, writes the properties of
its instances to the receiver and returns a value of the shape it was seen to return.  Properties of
the function itself become top-level statements. -/

namespace Semblance

/-- The formal parameters of a function: none for a getter, one for a setter, and otherwise enough
    for every parameter used. -/
def FunctionShape.formals (fn : FunctionShape) : Array String :=
  match fn.accessor with
  | some .getter => #[]
  | some .setter => #[formalName 1]
  | none => (Array.range (fn.maxParam.getD 0)).map fun n => formalName (n + 1)

namespace Gen

/-- Copy a used parameter to its placeholder. -/
def copyParam (visit : Visit) (id : ShapeId) (body : NodeId) (used : Nat × ShapeId) :
    Gen Unit := do
  let target ← visit used.2
  let source ← leaf (if used.1 = 0 then .receiver id else .formal id used.1)
  assignIn body target source

/-- Write a property of the function value, unless it is a prototype that the settings leave out. -/
def writeStatic (settings : Settings) (graph : ShapeGraph) (visit : Visit) (node : NodeId)
    (binding : String × ShapeId) : Gen Unit := do
  unless binding.1 == "prototype" && settings.suppressEmptyPrototype
      && graph.isEmptyObject binding.2 do
    let value ← visit binding.2
    let target ← onArena (Arena.member node binding.1)
    emitAssign target value

/-- Write a property of an instance to the receiver. -/
def writeToReceiver (visit : Visit) (id : ShapeId) (body : NodeId) (binding : String × ShapeId) :
    Gen Unit := do
  let value ← visit binding.2
  let receiver ← leaf (.receiver id)
  let target ← onArena (Arena.member receiver binding.1)
  assignIn body target value

/-- The properties that were seen on what a function constructs. -/
def instanceProperties (graph : ShapeGraph) (fn : FunctionShape) : Properties :=
  ((graph.shape? fn.constructs).bind Shape.properties?).getD ∅

/-- Fill the body of a function, and write the properties of the function value. -/
def fillFunction (settings : Settings) (graph : ShapeGraph) (visit : Visit) (id : ShapeId)
    (fn : FunctionShape) (node body : NodeId) : Gen Unit := do
  if fn.accessor.isNone then
    fn.usedParams.forM (copyParam visit id body)
  fn.properties.toList.forM (writeStatic settings graph visit node)
  (instanceProperties graph fn).toList.forM (writeToReceiver visit id body)
  -- The return comes last, after everything that the body writes.
  unless ← checked (graph.isAbsent fn.returns) do
    let value ← visit fn.returns
    onArena do
      let stmt ← Arena.ret value
      modify fun arena => arena.appendStmt body stmt

/-- The function value. -/
def function (settings : Settings) (graph : ShapeGraph) (visit : Visit) (id : ShapeId)
    (fn : FunctionShape) : Gen NodeId := do
  let label ← checked (graph.label id)
  let body ← onArena (Arena.push (.block #[]))
  let node ← onArena
    (Arena.pushHinted (.function fn.formals body) ("function_" ++ toString label))
  -- Remembered while the body is empty, since everything below may refer to the function.
  remember id node
  fillFunction settings graph visit id fn node body
  return node

/-- The hint for the name of an instance. -/
def instanceHint (graph : ShapeGraph) (constructor : ShapeId) : Gen String := do
  match ← checked (graph.shape constructor) with
  | .builtin fullName _ _ =>
    return "new_" ++ fullName.map fun c => if c = '.' then '_' else c
  | _ => return "new_" ++ toString (← checked (graph.label constructor))

/-- A construction without arguments, one for each constructor.  Generating the constructor may lead
    back to the instance and build the node; that node is then the result. -/
def instanceOf (graph : ShapeGraph) (visit : Visit) (constructor : ShapeId) : Gen NodeId := do
  match (← get).instances[constructor.index]? with
  | some node => return node
  | none =>
    let callee ← visit constructor
    -- The constructor may have led back here.
    match (← get).instances[constructor.index]? with
    | some node => return node
    | none =>
      let node ← onArena (Arena.pushHinted (.new callee #[]) (← instanceHint graph constructor))
      modify fun builder =>
        { builder with instances := builder.instances.insert constructor.index node }
      return node

end Gen

end Semblance
