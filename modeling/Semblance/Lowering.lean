import Semblance.Hoist
import Semblance.Program
import Semblance.Schedule

/-! # From a syntax graph to a program

Lowering hoists the shared nodes below some statements, schedules the statements by the references
that this put in, and lays them out.  Broken dependencies do not make it fail; they are reported as
warnings. -/

namespace Semblance

/-- The results of the stages of a lowering. -/
structure Lowering where
  hoisted : Hoisted
  schedule : Schedule

namespace Lowering

/-- The program. -/
def program (lowering : Lowering) : Program :=
  .ofOrder lowering.hoisted.arena lowering.hoisted.roots lowering.schedule.order.toList

/-- The dependencies that the program does not respect. -/
def warnings (lowering : Lowering) : List CycleWarning :=
  lowering.schedule.warnings lowering.hoisted.arena lowering.hoisted.roots

/-- The names that are free after the lowering. -/
def names (lowering : Lowering) : NameSupply :=
  lowering.hoisted.names

end Lowering

/-- Lower the graph below some statements to a program. -/
def Arena.lower (arena : Arena) (roots : List NodeId) (names : NameSupply) :
    Except Fault Lowering := do
  let hoisted ← arena.hoist roots names
  return { hoisted, schedule := .ofDeps hoisted.roots.size hoisted.deps }

end Semblance
