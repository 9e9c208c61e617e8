import Semblance.Generate.Builder

/-! # Rules for primitives

A random number stands for every number, and booleans, strings and regular expressions are made from
it, so that the four share one chain of nodes.  The undefined value and null are leaves, new at each
occurrence. -/

namespace Semblance.Gen

/-- The remembered node of a primitive kind, built at its first use. -/
def shared (kind : PrimitiveKind) (build : Gen NodeId) : Gen NodeId := do
  match ← known? (ShapeGraph.primitive kind) with
  | some node => return node
  | none =>
    let node ← build
    remember (ShapeGraph.primitive kind) node
    return node

/-- `Math.random()` -/
def numberNode : Gen NodeId :=
  shared .number do
    let random ← platform "Math.random"
    onArena (Arena.pushHinted (.call random #[]) "$NUMBER$")

/-- The negation of a number. -/
def booleanNode : Gen NodeId :=
  shared .boolean do
    let number ← numberNode
    onArena (Arena.pushHinted (.unary .not number) "$BOOLEAN$")

/-- `String` of a number. -/
def stringNode : Gen NodeId :=
  shared .string do
    let number ← numberNode
    let callee ← leaf (.platform "String")
    onArena (Arena.pushHinted (.call callee #[number]) "$STRING$")

/-- A regular expression made from a string. -/
def regexpNode : Gen NodeId :=
  shared .regexp do
    let string ← stringNode
    let callee ← leaf (.platform "RegExp")
    onArena (Arena.pushHinted (.new callee #[string]) "$REGEXP$")

/-- The node of a primitive kind. -/
def primitive : PrimitiveKind → Gen NodeId
  | .undefined => onArena Arena.undefined
  | .null => onArena (Arena.literal .null)
  | .boolean => booleanNode
  | .number => numberNode
  | .string => stringNode
  | .regexp => regexpNode

end Semblance.Gen
