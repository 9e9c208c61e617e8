import Semblance.Generate.Basic
import Semblance.Lowering

/-! # Synthesis

Synthesis turns the shapes recorded for a trace into a program that rebuilds values of these shapes.
Each property of the global scope becomes a statement.  All of them are generated before the result
is lowered, since generating one may emit statements that others rely on. -/

namespace Semblance

/-- Choices of a synthesis. -/
structure Config extends Settings where
  /-- Keep the names of the traced program's own globals from being given to other bindings. -/
  reserveGlobalNames : Bool := true
  /-- Log broken dependencies.  The result has them either way. -/
  reportCycles : Bool := true
deriving DecidableEq, Repr

namespace Config

/-- The default with another hint for the name of the global scope. -/
def withGlobalName (globalName : String) : Config := { globalName }

/-- The default, except that empty prototypes are written. -/
def keepingEmptyPrototypes : Config := { suppressEmptyPrototype := false }

/-- The default, except that broken dependencies are not logged. -/
def withSilentCycles : Config := { reportCycles := false }

end Config

/-- The results of the stages of a synthesis. -/
structure Synthesis where
  generated : Generated
  lowering : Lowering

namespace Synthesis

/-- The program. -/
def program (synthesis : Synthesis) : Program :=
  synthesis.lowering.program

/-- The dependencies that the program does not respect. -/
def warnings (synthesis : Synthesis) : List CycleWarning :=
  synthesis.lowering.warnings

end Synthesis

namespace ShapeGraph

/-- The names that a synthesis starts from. -/
def initialNames (graph : ShapeGraph) (config : Config) : NameSupply :=
  if config.reserveGlobalNames then
    graph.globals.foldl (fun names binding => names.reserve binding.1) ∅
  else ∅

/-- Generate a statement for each property of the global scope. -/
def generate (graph : ShapeGraph) (config : Config) : Except Fault Generated :=
  let assignments := graph.globals.forM fun binding =>
    discard (Gen.assignGlobal config.toSettings graph binding.1 binding.2)
  -- The builder of a generation that gave up is dropped with all it holds.
  match assignments (Builder.start (graph.initialNames config)) with
  | (.ok (), builder) => .ok builder.finish
  | (.error fault, _) => .error fault

/-- The program that rebuilds the shapes of the global bindings. -/
def synthesize (graph : ShapeGraph) (config : Config) : Except Fault Synthesis := do
  let generated ← graph.generate config
  let lowering ← generated.arena.lower generated.roots generated.names
  return { generated, lowering }

end ShapeGraph

end Semblance
