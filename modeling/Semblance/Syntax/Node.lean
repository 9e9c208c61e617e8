/-! # Syntax nodes

A node of the syntax graph refers to its children by `NodeId`, so that a node may occur below any
number of parents.  `Node.operands` is the view through which children are listed and read: the list
of a node's child slots, where the entry `none` is a slot that exists in the notation but holds
nothing (a hole of an array, a missing initializer).  Children are replaced by `Node.setChild?`, which
goes through the kinds of nodes on its own.

* `child?_eq`                  the child in a slot is the operand there
* `mem_children`               `children` lists the occupied slots with what they hold
* `setChild?_isSome`           exactly the occupied slots can be replaced
* `operands_setChild?`         replacing a child changes that operand and no other -/

namespace Semblance

/-- The identity of a syntax node: its position in the arena that allocated it. -/
structure NodeId where
  index : Nat
deriving DecidableEq, Repr, Inhabited

instance : ToString NodeId := ⟨fun id => "#" ++ toString id.index⟩

/-- Literal values. -/
inductive Literal where
  | null
  | int (value : Int)
  | str (value : String)
deriving DecidableEq, Repr

/-- Operators with one operand: negation, and evaluation for effect only. -/
inductive UnaryOp where
  | not
  | void
deriving DecidableEq, Repr

/-- The key of an entry of an object: a bare identifier, or any other name, which is written
    quoted. -/
inductive EntryKey where
  | bare (name : String)
  | quoted (name : String)
deriving DecidableEq, Repr

/-- The name of the property that an entry defines. -/
def EntryKey.name : EntryKey → String
  | .bare name => name
  | .quoted name => name

/-- Whether an entry of an object holds a value or an accessor. -/
inductive EntryKind where
  | value
  | getter
  | setter
deriving DecidableEq, Repr

/-- The property side of a member access: a bare name, or a computed key, which is a child. -/
inductive MemberKey where
  | named (name : String)
  | computed (key : NodeId)
deriving DecidableEq, Repr

/-- A node of the syntax graph.  An `entry` belongs directly below an `object`, and a `declarator`
    directly below a `varDecl`. -/
inductive Node where
  | ident (name : String)
  | literal (value : Literal)
  | this
  | unary (op : UnaryOp) (operand : NodeId)
  | or (left right : NodeId)
  | assign (target value : NodeId)
  | call (callee : NodeId) (args : Array NodeId)
  | new (callee : NodeId) (args : Array NodeId)
  | member (owner : NodeId) (key : MemberKey)
  | function (params : Array String) (body : NodeId)
  | object (entries : Array NodeId)
  | entry (key : EntryKey) (value : NodeId) (kind : EntryKind)
  | array (elements : Array (Option NodeId))
  | block (statements : Array NodeId)
  | exprStmt (expr : NodeId)
  | ret (value : Option NodeId)
  | varDecl (declarators : Array NodeId)
  | declarator (name : String) (init : Option NodeId)
deriving DecidableEq, Repr

namespace Node

instance : Inhabited Node := ⟨.this⟩

/-- The word for a node's kind in messages. -/
def kindName : Node → String
  | ident _ => "ident"
  | literal _ => "literal"
  | this => "this"
  | unary _ _ => "unary"
  | or _ _ => "logical"
  | assign _ _ => "assign"
  | call _ _ => "call"
  | new _ _ => "new"
  | member _ _ => "member"
  | function _ _ => "function"
  | object _ => "object"
  | entry _ _ _ => "property"
  | array _ => "array"
  | block _ => "block"
  | exprStmt _ => "expr-stmt"
  | ret _ => "return"
  | varDecl _ => "var"
  | declarator _ _ => "declarator"

/-- Whether nodes of this kind never have children. -/
def isLeaf : Node → Bool
  | ident _ | literal _ | this => true
  | _ => false

/-- Whether the node denotes a value, and so may initialize a declaration. -/
def isExpression : Node → Bool
  | entry _ _ _ | block _ | exprStmt _ | ret _ | varDecl _ | declarator _ _ => false
  | _ => true

/-- Whether the node occurs only directly below one kind of container. -/
def needsContainer : Node → Bool
  | entry _ _ _ | declarator _ _ => true
  | _ => false

/-- Whether `child` may stand in a slot of `parent`. -/
def acceptsChild (parent child : Node) : Bool :=
  match child, parent with
  | entry _ _ _, object _ => true
  | entry _ _ _, _ => false
  | declarator _ _, varDecl _ => true
  | declarator _ _, _ => false
  | _, _ => true

/-- The child slots of a node in order. -/
def operands : Node → List (Option NodeId)
  | ident _ | literal _ | this => []
  | unary _ operand => [some operand]
  | or left right => [some left, some right]
  | assign target value => [some target, some value]
  | call callee args | new callee args => some callee :: args.toList.map some
  | member owner (.named _) => [some owner]
  | member owner (.computed key) => [some owner, some key]
  | function _ body => [some body]
  | object entries => entries.toList.map some
  | entry _ value _ => [some value]
  | array elements => elements.toList
  | block statements => statements.toList.map some
  | exprStmt expr => [some expr]
  | ret value => [value]
  | varDecl declarators => declarators.toList.map some
  | declarator _ init => [init]

/-- The child in a slot. -/
def child? (node : Node) (slot : Nat) : Option NodeId :=
  node.operands[slot]?.join

/-- The occupied child slots, each with its child, in order. -/
def children (node : Node) : List (Nat × NodeId) :=
  node.operands.zipIdx.filterMap fun (operand, slot) => operand.map (slot, ·)

/-- A list of ids with the entry at a position replaced, if there is such an entry. -/
def replaceAt? (ids : Array NodeId) (position : Nat) (child : NodeId) : Option (Array NodeId) :=
  if position < ids.size then some (ids.setIfInBounds position child) else none

/-- The node with the child in a slot replaced.  A slot that holds no child is refused. -/
def setChild? (node : Node) (slot : Nat) (child : NodeId) : Option Node :=
  match node with
  | ident _ | literal _ | this => none
  | unary op _ => if slot = 0 then some (unary op child) else none
  | or left right =>
    if slot = 0 then some (or child right)
    else if slot = 1 then some (or left child)
    else none
  | assign target value =>
    if slot = 0 then some (assign child value)
    else if slot = 1 then some (assign target child)
    else none
  | call callee args =>
    if slot = 0 then some (call child args)
    else (replaceAt? args (slot - 1) child).map (call callee)
  | new callee args =>
    if slot = 0 then some (new child args)
    else (replaceAt? args (slot - 1) child).map (new callee)
  | member _ (.named name) => if slot = 0 then some (member child (.named name)) else none
  | member owner (.computed key) =>
    if slot = 0 then some (member child (.computed key))
    else if slot = 1 then some (member owner (.computed child))
    else none
  | function params _ => if slot = 0 then some (function params child) else none
  | object entries => (replaceAt? entries slot child).map object
  | entry key _ kind => if slot = 0 then some (entry key child kind) else none
  | array elements =>
    if elements[slot]?.join.isSome then some (array (elements.setIfInBounds slot (some child)))
    else none
  | block statements => (replaceAt? statements slot child).map block
  | exprStmt _ => if slot = 0 then some (exprStmt child) else none
  | ret value => if slot = 0 ∧ value.isSome then some (ret (some child)) else none
  | varDecl declarators => (replaceAt? declarators slot child).map varDecl
  | declarator name init =>
    if slot = 0 ∧ init.isSome then some (declarator name (some child)) else none

/-- The child in a slot is the operand there. -/
theorem child?_eq (node : Node) (slot : Nat) : node.child? slot = node.operands[slot]?.join := rfl

/-- The occupied slots are listed with what they hold. -/
theorem mem_children {node : Node} {slot : Nat} {child : NodeId} :
    (slot, child) ∈ node.children ↔ node.child? slot = some child := by
  simp only [children, child?, List.mem_filterMap, Prod.exists, List.mem_zipIdx_iff_getElem?,
    Option.map_eq_some_iff, Prod.mk.injEq, Option.join_eq_some_iff]
  constructor
  · rintro ⟨operand, position, hoperand, id, rfl, rfl, rfl⟩
    exact hoperand
  · intro hoperand
    exact ⟨some child, slot, hoperand, child, rfl, rfl, rfl⟩

/-- Wrapping what an optional operand holds adds nothing. -/
private theorem join_map_some (operand : Option NodeId) : (operand.map some).join = operand := by
  cases operand <;> rfl

/-- An entry is replaced where there is one. -/
theorem replaceAt?_isSome (ids : Array NodeId) (position : Nat) (child : NodeId) :
    (replaceAt? ids position child).isSome = ids[position]?.isSome := by
  grind [replaceAt?]

/-- Replacing an entry and listing the entries as operands may be done in either order. -/
theorem replaceAt?_map_some {ids ids' : Array NodeId} {position : Nat} {child : NodeId}
    (h : replaceAt? ids position child = some ids') :
    ids'.toList.map some = (ids.toList.map some).set position (some child) := by
  grind [replaceAt?, List.map_set]

/-- The slots in which a child is replaced are those that hold one. -/
theorem setChild?_isSome (node : Node) (slot : Nat) (child : NodeId) :
    (node.setChild? slot child).isSome = (node.child? slot).isSome := by
  rcases slot with _ | _ | slot <;> fun_cases setChild? node _ child <;>
    simp_all [child?, operands, replaceAt?_isSome, join_map_some]

/-- Replacing a child changes one operand. -/
theorem operands_setChild? {node node' : Node} {slot : Nat} {child : NodeId}
    (h : node.setChild? slot child = some node') :
    node'.operands = node.operands.set slot (some child) := by
  fun_cases operands node <;> rcases slot with _ | _ | slot <;>
    grind [setChild?, operands, replaceAt?_map_some, Option.map_eq_some_iff]

end Node

end Semblance
