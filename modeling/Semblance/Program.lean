import Semblance.Syntax.Dump

/-! # Programs

A program is an arena with the list of its top-level statements in order.  It is laid out from
statements and an order of their positions, which may repeat positions, leave some out or name some
that do not exist: each statement appears once, those of the order first.

* `place_known`, `place_new`   what a mention of a position does to a layout -/

namespace Semblance

/-- A program: statements in order, and the arena of their nodes. -/
structure Program where
  arena : Arena := ∅
  body : List NodeId := []
deriving DecidableEq, Repr

namespace Program

/-- The number of top-level statements. -/
def length (program : Program) : Nat :=
  program.body.length

/-- Whether there is no statement. -/
def isEmpty (program : Program) : Bool :=
  program.body.isEmpty

/-- The dump of the statements, one a line, unless there is a cycle below one. -/
def dump? (program : Program) : Option String :=
  program.arena.dumpAll? program.body

/-- The name that each statement declares. -/
def declaredNames (program : Program) : List (Option String) :=
  program.body.map program.arena.declaredName

/-- Put a position into a layout, unless it is there or does not exist. -/
def place (state : Array Bool × Array Nat) (position : Nat) : Array Bool × Array Nat :=
  if state.1[position]? = some false then
    (state.1.setIfInBounds position true, state.2.push position)
  else state

/-- A position that is in the layout already, or that does not exist, changes nothing. -/
theorem place_known {state : Array Bool × Array Nat} {position : Nat}
    (hknown : state.1[position]? ≠ some false) : place state position = state := by
  simp [place, hknown]

/-- A position that is mentioned for the first time goes to the end of the layout. -/
theorem place_new {state : Array Bool × Array Nat} {position : Nat}
    (hnew : state.1[position]? = some false) :
    place state position = (state.1.setIfInBounds position true, state.2.push position) := by
  simp [place, hnew]

/-- All positions below `count`: first those of an order, each at its first mention, and then the
    others ascending. -/
def layout (count : Nat) (order : List Nat) : List Nat :=
  let (placed, front) := order.foldl place (Array.replicate count false, #[])
  front.toList ++ (List.range count).filter fun position => placed[position]? = some false

/-- The program that has the given statements in the order of a list of positions. -/
def ofOrder (arena : Arena) (roots : Array NodeId) (order : List Nat) : Program where
  arena
  body := (layout roots.size order).filterMap (roots[·]?)

end Program

end Semblance
