import Semblance.Fault
import Semblance.Name.Identifier

/-! # The arena of syntax nodes

An arena allocates nodes in sequence and keeps, next to each, an optional hint for the name of a
binding that the node may be moved into.  Nodes and hints are two lists, so that arenas read from
elsewhere may have more or fewer hints than nodes.  The constructors of this module build the usual
combinations of nodes, allocating parts before wholes.

* `node?_push`, `hint_push`          what an allocation adds
* `nodes_replaceChild`               replacing a child touches one node, through `Node.setChild?`
* `splitAtDots_join`                 the components of a dotted name, joined, are the name -/

namespace Semblance

/-- Syntax nodes by id, with the hints for binding names. -/
structure Arena where
  nodes : Array Node := #[]
  hints : Array (Option String) := #[]
deriving DecidableEq, Repr

namespace Arena

/-- The arena without nodes. -/
def empty : Arena := {}

instance : EmptyCollection Arena := ⟨empty⟩
instance : Inhabited Arena := ⟨empty⟩

/-- The number of nodes. -/
def size (arena : Arena) : Nat :=
  arena.nodes.size

/-- Whether the arena has no nodes. -/
def isEmpty (arena : Arena) : Bool :=
  arena.nodes.isEmpty

/-- The node with an id, if the arena allocated it. -/
def node? (arena : Arena) (id : NodeId) : Option Node :=
  arena.nodes[id.index]?

/-- The node with an id, or the access that failed. -/
def node (arena : Arena) (id : NodeId) : Except OutOfRange Node :=
  lookup arena.nodes id.index

/-- The hint for the name of a binding that holds the node. -/
def hint (arena : Arena) (id : NodeId) : Option String :=
  arena.hints[id.index]?.join

/-- Attach or replace a hint.  An id beyond the hints is left alone. -/
def setHint (arena : Arena) (id : NodeId) (hint : String) : Arena :=
  { arena with hints := arena.hints.setIfInBounds id.index (some hint) }

/-! ## Allocation -/

/-- Allocate a node without a hint. -/
def push (node : Node) : StateM Arena NodeId := fun arena =>
  (⟨arena.nodes.size⟩,
    { nodes := arena.nodes.push node, hints := arena.hints.push none })

/-- Allocate a node with a hint. -/
def pushHinted (node : Node) (hint : String) : StateM Arena NodeId := do
  let id ← push node
  modify fun arena => arena.setHint id hint
  return id

/-- Allocate a node with a hint in an arena that may have too few hints.  Where there is no place
    for the hint, the node is allocated without it, and the answer is the access that failed. -/
def pushHinted? (node : Node) (hint : String) : StateM Arena (Except OutOfRange NodeId) := do
  let id ← push node
  let hints := (← get).hints.size
  if id.index < hints then
    modify fun arena => arena.setHint id hint
    return .ok id
  else
    return .error ⟨hints, id.index⟩

/-! ## Construction -/

/-- A reference to a binding. -/
def ident (name : String) : StateM Arena NodeId :=
  push (.ident name)

/-- The receiver. -/
def this : StateM Arena NodeId :=
  push .this

/-- A literal. -/
def literal (value : Literal) : StateM Arena NodeId :=
  push (.literal value)

/-- The undefined value, `void 0`. -/
def undefined : StateM Arena NodeId := do
  let zero ← literal (.int 0)
  push (.unary .void zero)

/-- The member `name` of a value: by bare name for an identifier, by computed key otherwise. -/
def member (owner : NodeId) (name : String) : StateM Arena NodeId := do
  if isIdentifier name then
    push (.member owner (.named name))
  else
    -- The key is allocated before the access that holds it.
    let key ← literal (.str name)
    push (.member owner (.computed key))

/-- The characters of a dotted name: those before the first dot, and the runs after each dot. -/
def splitAtDots (name : List Char) : List Char × List (List Char) :=
  name.foldr
    (fun c (head, rest) => if c = '.' then ([], head :: rest) else (c :: head, rest)) ([], [])

/-- The components of a dotted name, the first apart. -/
def dotComponents (name : String) : String × List String :=
  let (head, rest) := splitAtDots name.toList
  (String.ofList head, rest.map String.ofList)

/-- The member chain over the components of a dotted name. -/
def path (name : String) : StateM Arena NodeId := do
  let (head, rest) := dotComponents name
  let root ← ident head
  rest.foldlM member root

/-- An entry of an object, with a bare key where the name allows it. -/
def entry (name : String) (value : NodeId) (kind : EntryKind) : StateM Arena NodeId :=
  push (.entry (if isIdentifier name then .bare name else .quoted name) value kind)

/-- The value `left`, or `right` where that is falsy. -/
def or (left right : NodeId) : StateM Arena NodeId :=
  push (.or left right)

/-- The statement that assigns `value` to `target`. -/
def assignStmt (target value : NodeId) : StateM Arena NodeId := do
  let expr ← push (.assign target value)
  push (.exprStmt expr)

/-- The statement that returns a value. -/
def ret (value : NodeId) : StateM Arena NodeId :=
  push (.ret (some value))

/-- The declaration of one binding. -/
def varDecl (name : String) (init : Option NodeId) : StateM Arena NodeId := do
  let declarator ← push (.declarator name init)
  push (.varDecl #[declarator])

/-! ## Change -/

/-- Let a child slot of `parent` refer to `child`.  Answers whether the slot holds a child that
    could be replaced; if not, nothing changes. -/
def replaceChild (arena : Arena) (parent : NodeId) (slot : Nat) (child : NodeId) : Bool × Arena :=
  let ⟨nodes, hints⟩ := arena
  match nodes[parent.index]?.bind (·.setChild? slot child) with
  | some node => (true, ⟨nodes.setIfInBounds parent.index node, hints⟩)
  | none => (false, ⟨nodes, hints⟩)

/-- Change the node with an id, if there is one. -/
def modifyNode (arena : Arena) (id : NodeId) (change : Node → Node) : Arena :=
  { arena with nodes := arena.nodes.modify id.index change }

/-- Append an entry to an object.  Other nodes are left alone. -/
def appendEntry (arena : Arena) (object entry : NodeId) : Arena :=
  arena.modifyNode object fun
    | .object entries => .object (entries.push entry)
    | node => node

/-- Append a statement to a block.  Other nodes are left alone. -/
def appendStmt (arena : Arena) (block stmt : NodeId) : Arena :=
  arena.modifyNode block fun
    | .block statements => .block (statements.push stmt)
    | node => node

/-- Append a declarator to a declaration.  Other nodes are left alone. -/
def appendDeclarator (arena : Arena) (varDecl declarator : NodeId) : Arena :=
  arena.modifyNode varDecl fun
    | .varDecl declarators => .varDecl (declarators.push declarator)
    | node => node

/-- `appendEntry` for an id that may not be allocated. -/
def appendEntry? (arena : Arena) (object entry : NodeId) : Except OutOfRange Arena := do
  discard (arena.node object)
  return arena.appendEntry object entry

/-- `appendStmt` for an id that may not be allocated. -/
def appendStmt? (arena : Arena) (block stmt : NodeId) : Except OutOfRange Arena := do
  discard (arena.node block)
  return arena.appendStmt block stmt

/-! ## Reading -/

/-- The name bound by the first declarator of a declaration. -/
def declaredName (arena : Arena) (id : NodeId) : Option String :=
  match arena.node? id with
  | some (.varDecl declarators) =>
    match declarators[0]?.bind arena.node? with
    | some (.declarator name _) => some name
    | _ => none
  | _ => none

/-! ## What the operations do -/

/-- The empty arena has no nodes. -/
@[simp] theorem node?_empty (id : NodeId) : empty.node? id = none := by
  simp [node?, empty]

/-- An allocation adds a node and changes no other. -/
theorem node?_push (node : Node) (arena : Arena) (id : NodeId) :
    (push node arena).2.node? id =
      if id = (push node arena).1 then some node else arena.node? id := by
  obtain ⟨index⟩ := id
  simp [push, node?, Array.getElem?_push]

/-- An allocation makes the arena longer by one. -/
theorem size_push (node : Node) (arena : Arena) : (push node arena).2.size = arena.size + 1 := by
  simp [push, size]

/-- An allocation without a hint adds no hint. -/
theorem hint_push (node : Node) (arena : Arena) (id : NodeId) :
    (push node arena).2.hint id = arena.hint id := by
  simp only [push, hint, Array.getElem?_push]
  split
  · next heq => simp [heq]
  · rfl

/-- Replacing a child changes the one node that holds it. -/
theorem nodes_replaceChild {arena : Arena} {parent child : NodeId} {slot : Nat} :
    (arena.replaceChild parent slot child).2.nodes =
      match (arena.node? parent).bind (·.setChild? slot child) with
      | some node => arena.nodes.setIfInBounds parent.index node
      | none => arena.nodes := by
  simp only [replaceChild, node?]
  split <;> simp_all

/-- Replacing a child leaves the hints as they are. -/
theorem hints_replaceChild {arena : Arena} {parent child : NodeId} {slot : Nat} :
    (arena.replaceChild parent slot child).2.hints = arena.hints := by
  simp only [replaceChild]
  split <;> rfl

/-- A child is replaced where there is one. -/
theorem replaceChild_eq_true {arena : Arena} {parent child : NodeId} {slot : Nat} :
    (arena.replaceChild parent slot child).1 = true ↔
      ∃ node, arena.node? parent = some node ∧ (node.child? slot).isSome := by
  simp only [← Node.setChild?_isSome _ _ child, replaceChild, node?]
  cases arena.nodes[parent.index]? with
  | none => simp
  | some node => cases hset : node.setChild? slot child <;> simp [hset]

/-- The runs between dots, joined with dots, are the characters of the name. -/
theorem splitAtDots_join (name : List Char) :
    (splitAtDots name).1 ++ (splitAtDots name).2.flatMap ('.' :: ·) = name := by
  induction name with
  | nil => rfl
  | cons c rest ih =>
    simp only [splitAtDots, List.foldr_cons] at ih ⊢
    split
    · next hdot => simp [hdot, ih]
    · simp [ih]

end Arena

end Semblance
