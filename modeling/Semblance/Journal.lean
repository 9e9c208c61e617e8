import Semblance.Synthesis

/-! # The journal

The journal of a run is the list of its events in order, for diagnosis.  Events do not influence
results, so they are read off the results and, for observations, off the graph before the
observation. -/

namespace Semblance

/-- The importance of an event, ascending. -/
inductive Level where
  | trace
  | debug
  | warn
deriving DecidableEq, Repr

/-- The word for a level. -/
def Level.word : Level → String
  | trace => "TRACE"
  | debug => "DEBUG"
  | warn => "WARN"

/-- The value of a field of an event. -/
inductive FieldValue where
  | number (value : Nat)
  | text (value : String)
deriving DecidableEq, Repr

/-- Something that happened, or the beginning of a span of events. -/
structure Event where
  level : Level
  /-- Set for the beginning of a span. -/
  isSpan : Bool := false
  title : String
  fields : List (String × FieldValue) := []
deriving DecidableEq, Repr

namespace ShapeGraph

/-- What there is to note when property `name` of `owner` is recorded in a graph: an array that
    degrades, or an owner that holds no properties. -/
def propertyEvents (graph : ShapeGraph) (owner : ShapeId) (name : String) : List Event :=
  match graph.shape? owner with
  | none => []
  | some shape =>
    if shape.properties?.isNone then
      [{ level := .debug
         title := "ignoring property on a model without properties"
         fields := [("owner", .number owner.index), ("kind", .text shape.kindName),
           ("name", .text name)] }]
    else if shape.degradesUnder name then
      [{ level := .trace
         title := "array degraded to object"
         fields := [("array", .number owner.index), ("name", .text name)] }]
    else []

end ShapeGraph

/-- The event that ends a generation. -/
def Builder.finishEvent (builder : Builder) : Event where
  level := .debug
  title := "generation finished"
  fields := [("nodes", .number builder.arena.size), ("roots", .number builder.rootCount)]

/-- The event for a hoisted node. -/
def Promotion.event (promotion : Promotion) : Event where
  level := .trace
  title := "promoted shared node"
  fields := [("node", .text (toString promotion.node)), ("name", .text promotion.name),
    ("root", .number promotion.root)]

/-- The events of hoisting the nodes below `roots` statements of an arena of `nodes` nodes. -/
def Hoisted.events (hoisted : Hoisted) (roots nodes : Nat) : List Event :=
  { level := .debug, title := "lowering"
    fields := [("roots", .number roots), ("nodes", .number nodes)] } ::
  hoisted.promotions.toList.map Promotion.event ++
  [{ level := .debug, title := "lowering finished"
     fields := [("promoted", .number hoisted.promotions.size)] }]

/-- The events of a schedule with its warnings, which are left out unless they are to be
    reported. -/
def Schedule.events (schedule : Schedule) (warnings : List CycleWarning) (report : Bool) :
    List Event :=
  (if report then warnings.map fun warning => { level := .warn, title := warning.message }
    else []) ++
  [{ level := .debug, title := "ordering finished"
     fields := [("statements", .number schedule.order.size),
       ("cycles", .number schedule.broken.size)] }]

/-- The event that ends the layout of a program. -/
def Program.event (program : Program) : Event where
  level := .debug
  title := "program assembled"
  fields := [("statements", .number program.length)]

/-- The events of lowering `roots` statements of an arena of `nodes` nodes. -/
def Lowering.events (lowering : Lowering) (roots nodes : Nat) (report : Bool) : List Event :=
  lowering.hoisted.events roots nodes ++ lowering.schedule.events lowering.warnings report ++
    [lowering.program.event]

/-- The events of a synthesis from a graph. -/
def Synthesis.events (synthesis : Synthesis) (graph : ShapeGraph) (config : Config) : List Event :=
  let generated := synthesis.generated
  let nodes := generated.arena.size
  let roots := generated.roots.length
  { level := .debug, isSpan := true, title := "synthesize"
    fields := [("models", .number graph.size)] } ::
  { level := .debug, title := "generation finished"
    fields := [("nodes", .number nodes), ("roots", .number roots)] } ::
  synthesis.lowering.events roots nodes config.reportCycles ++
  [{ level := .debug, title := "synthesis finished"
     fields := [("statements", .number synthesis.program.length),
       ("warnings", .number synthesis.warnings.length)] }]

end Semblance
