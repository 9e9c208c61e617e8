import Semblance.Syntax.Arena

/-! # Structural dumps

A dump writes a node and everything below it as nested lists, one word for the kind and then the
parts:

    (var (obj_1 (object (prop x (call (. Math random))))))
    (stmt (= p obj_1))

It shows structure and is no program text.  A node is first turned into a list of `Piece`s, texts
and nodes to be written in their place, and `write` works through a list of pending pieces.  Below a
node of a cycle there is no end of nodes, so `dump?` answers `none` there; it grants one level of
depth to every node of the arena and one to an id without a node, which is enough for every other
node.

* `write_text`, `write_node`   what one step of `write` does -/

namespace Semblance

/-- A part of a written node: text as it stands, or a node to be written in this place. -/
inductive Piece where
  | text (text : String)
  | node (id : NodeId)
deriving DecidableEq, Repr

/-- The word for an operator. -/
def UnaryOp.symbol : UnaryOp → String
  | .not => "!"
  | .void => "void"

/-- The word for a kind of entry. -/
def EntryKind.word : EntryKind → String
  | .value => "prop"
  | .getter => "get"
  | .setter => "set"

/-- The key of an entry as it is written. -/
def EntryKey.written : EntryKey → String
  | .bare name => name
  | .quoted name => Text.quote name

/-- A literal as it is written. -/
def Literal.written : Literal → String
  | .null => "null"
  | .int value => toString value
  | .str value => Text.quote value

namespace Node

/-- A head and items in parentheses, separated by single spaces. -/
def listed (head : String) (items : List Piece) : List Piece :=
  .text "(" :: .text head :: (items.flatMap fun item => [.text " ", item]) ++ [.text ")"]

/-- The pieces of a node: its kind and data as text, and its children in order. -/
def pieces : Node → List Piece
  | ident name => [.text name]
  | literal value => [.text value.written]
  | this => [.text "this"]
  | unary op operand => listed op.symbol [.node operand]
  | or left right => listed "||" [.node left, .node right]
  | assign target value => listed "=" [.node target, .node value]
  | call callee args => listed "call" (.node callee :: args.toList.map .node)
  | new callee args => listed "new" (.node callee :: args.toList.map .node)
  | member owner (.named name) => listed "." [.node owner, .text name]
  | member owner (.computed key) => listed ".[]" [.node owner, .node key]
  | function params body =>
    listed "function" [.text ("(" ++ " ".intercalate params.toList ++ ")"), .node body]
  | object entries => listed "object" (entries.toList.map .node)
  | entry key value kind => listed kind.word [.text key.written, .node value]
  | array elements =>
    listed "array" (elements.toList.map fun
      | some element => .node element
      | none => .text "_")
  | block statements => listed "block" (statements.toList.map .node)
  | exprStmt expr => listed "stmt" [.node expr]
  | ret value => listed "return" (value.toList.map .node)
  | varDecl declarators => listed "var" (declarators.toList.map .node)
  | declarator name (some init) => listed name [.node init]
  | declarator name none => [.text name]

end Node

namespace Arena

/-- The pieces of the node with an id, or a mark for an id without a node. -/
def pieces (arena : Arena) (id : NodeId) : List Piece :=
  match arena.node? id with
  | some node => node.pieces
  | none => [.text ("<dangling " ++ toString id ++ ">")]

/-- The number of steps in which `write` is done with a piece that may reach so many levels down. -/
def writeSteps (arena : Arena) : (levels : Nat) → Piece → Nat
  | _, .text _ => 1
  | 0, .node _ => 1
  | levels + 1, .node id =>
    (arena.pieces id).foldr (fun piece steps => writeSteps arena levels piece + steps) 1

/-- The number of steps in which `write` is done with all pending pieces. -/
def pendingSteps (arena : Arena) : List (Nat × Piece) → Nat
  | [] => 0
  | (levels, piece) :: rest => arena.writeSteps levels piece + pendingSteps arena rest

/-- Writing a node takes the steps for its pieces and one more for itself. -/
theorem pendingSteps_map_append (arena : Arena) (levels : Nat) (pieces : List Piece)
    (rest : List (Nat × Piece)) :
    arena.pendingSteps (pieces.map (levels, ·) ++ rest) + 1 =
      pieces.foldr (fun piece steps => arena.writeSteps levels piece + steps) 1 +
        arena.pendingSteps rest := by
  induction pieces with
  | nil => simp only [List.map_nil, List.nil_append, List.foldr_nil, Nat.add_comm]
  | cons piece pieces ih =>
    simp only [List.map_cons, List.cons_append, pendingSteps, List.foldr_cons]
    omega

/-- Write out the pending pieces in order, each with the number of levels that it may reach down.
    Answers `none` when a node has none left. -/
def write (arena : Arena) (pending : List (Nat × Piece)) (out : String) : Option String :=
  match pending with
  | [] => some out
  | (_, .text text) :: rest => write arena rest (out ++ text)
  -- A path as long as this runs in a cycle.
  | (0, .node _) :: _ => none
  | (levels + 1, .node id) :: rest =>
    write arena ((arena.pieces id).map (levels, ·) ++ rest) out
termination_by arena.pendingSteps pending
decreasing_by
  · simp only [pendingSteps, writeSteps]
    omega
  · have := pendingSteps_map_append arena levels (arena.pieces id) rest
    simp only [pendingSteps, writeSteps]
    omega

/-- Text is written as it stands. -/
theorem write_text (arena : Arena) (levels : Nat) (text : String) (rest : List (Nat × Piece))
    (out : String) :
    arena.write ((levels, .text text) :: rest) out = arena.write rest (out ++ text) := by
  rw [write]

/-- A node is replaced by its pieces, which may reach one level less far down. -/
theorem write_node (arena : Arena) (levels : Nat) (id : NodeId) (rest : List (Nat × Piece))
    (out : String) :
    arena.write ((levels + 1, .node id) :: rest) out =
      arena.write ((arena.pieces id).map (levels, ·) ++ rest) out := by
  rw [write]

/-- The dump of a node, unless a cycle lies below it. -/
def dump? (arena : Arena) (id : NodeId) : Option String :=
  arena.write [(arena.size + 1, .node id)] ""

/-- The dumps of a list of statements, one a line, unless a cycle lies below one of them. -/
def dumpAll? (arena : Arena) (body : List NodeId) : Option String :=
  (body.mapM arena.dump?).map "\n".intercalate

end Arena

end Semblance
