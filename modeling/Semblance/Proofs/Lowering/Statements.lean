import Semblance.Proofs.Generate.Rendering
import Semblance.Proofs.Lowering.Functions

/-!
# Statements in a lowered program

Statements, assignments and member accesses have no hints, so lowering leaves them where they are. A
value in one of them may have been hoisted, and then a reference to its declaration stands in its
place.

## Key results

- `lower_holds`: what stands in the place of a child
- `lower_assigns`, `lower_ret`: statements after lowering
- `lower_node?_of_unhinted`, `lower_isMember`: what lowering does not change
-/

namespace Semblance

/-- A place of a program holds a node: it is the node, or a reference to a declaration of the
    node. -/
def Program.Holds (program : Program) (place node : NodeId) : Prop :=
  place = node ∨ ∃ decl ∈ program.body, ∃ name, program.arena.Declares decl name node ∧
    program.arena.node? place = some (.ident name)

variable {arena : Arena} {roots : List NodeId} {names : NameSupply} {lowering : Lowering}
  {id owner stmt target value : NodeId} {name : String}

/-- A child stays in its place, or a reference to its declaration stands there. -/
theorem lower_holds (hclosed : arena.Closed roots) (h : arena.lower roots names = .ok lowering)
    {parent child : NodeId} {slot : Nat} (hparent : arena.Reaches roots parent)
    (hchild : arena.child? parent slot = some child) :
    ∃ place, lowering.program.arena.child? parent slot = some place ∧
      lowering.program.Holds place child := by
  by_cases hshared : arena.Shared roots child
  · obtain ⟨decl, hdecl, name, hdeclares, reference, hreference, hident⟩ :=
      lower_child?_of_shared hclosed h hparent hchild hshared
    exact ⟨reference, hreference, .inr ⟨decl, hdecl, name, hdeclares, hident⟩⟩
  · exact ⟨child, lower_child?_eq hclosed h hparent hchild hshared, .inl rfl⟩

/-- A return statement stays one. -/
theorem lower_ret (hclosed : arena.Closed roots) (h : arena.lower roots names = .ok lowering)
    (hstmt : arena.Reaches roots stmt) (hret : arena.node? stmt = some (.ret (some value))) :
    ∃ place, lowering.program.arena.node? stmt = some (.ret (some place)) ∧
      lowering.program.Holds place value := by
  obtain ⟨node', hnode', hskeleton⟩ := lower_skeleton_eq hclosed h hret
  obtain ⟨value', rfl⟩ := Node.eq_ret_of_skeleton_eq hskeleton
  obtain ⟨place, hplace, hholds⟩ := lower_holds hclosed h hstmt (Arena.child?_of_node? hret 0)
  rw [Arena.child?_of_node? hnode'] at hplace
  obtain rfl := Option.some.inj hplace
  exact ⟨value', hnode', hholds⟩

section

variable (hsound : arena.Sound roots) (hroots : ∀ id ∈ roots, arena.IsStatement id)
  (hhints : arena.HintsFit) (h : arena.lower roots names = .ok lowering)
include hsound hroots hhints h

/-- A node is not changed if none of its children may have a hint. -/
theorem lower_node?_of_unhinted {node : Node} (hid : arena.Reaches roots id)
    (hnode : arena.node? id = some node) (hchildren : ∀ child, some child ∈ node.operands →
      ∃ node', arena.node? child = some node' ∧ node'.takesHint = false) :
    lowering.program.arena.node? id = some node := by
  have hhoistable := hsound.hoistable hroots
  refine lower_node?_eq hhoistable.closed h hid hnode fun slot child hchild => ?_
  rw [Node.child?_eq, Option.join_eq_some_iff] at hchild
  obtain ⟨node', hnode', htakes⟩ := hchildren child (List.mem_of_getElem? hchild)
  exact hhints.not_shared hhoistable hnode' htakes

/-- A member access keeps its owner and its name. -/
theorem lower_isMember (hid : arena.Reaches roots id) (hmember : arena.IsMember id owner name)
    {node : Node} (howner : arena.node? owner = some node) (htakes : node.takesHint = false) :
    lowering.program.arena.IsMember id owner name := by
  cases hmember with
  | named hname hnode =>
    refine .named hname (lower_node?_of_unhinted hsound hroots hhints h hid hnode
      fun child hchild => ?_)
    obtain rfl : child = owner := by simpa [Node.operands] using hchild
    exact ⟨node, howner, htakes⟩
  | @computed key hname hnode hkey =>
    -- The string for the name takes no hint, so it stays with the member.
    have hbelow : arena.Reaches roots key := hid.operand hnode (by simp [Node.operands])
    have hkept := lower_node?_of_unhinted hsound hroots hhints h hbelow hkey fun _ hchild =>
      absurd hchild List.not_mem_nil
    refine .computed hname ?_ hkept
    refine lower_node?_of_unhinted hsound hroots hhints h hid hnode fun child hchild => ?_
    rcases (show child = owner ∨ child = key by simpa [Node.operands] using hchild) with rfl | rfl
    · exact ⟨node, howner, htakes⟩
    · exact ⟨_, hkey, rfl⟩

/-- An assignment keeps its target. -/
theorem lower_assigns (hstmt : arena.Reaches roots stmt) (hassigns : arena.Assigns stmt target value)
    {node : Node} (htarget : arena.node? target = some node) (htakes : node.takesHint = false) :
    ∃ place, lowering.program.arena.Assigns stmt target place ∧
      lowering.program.Holds place value := by
  have hclosed := (hsound.hoistable hroots).closed
  obtain ⟨expr, hnode, hexpr⟩ := hassigns
  have hbelow : arena.Reaches roots expr := hstmt.operand hnode List.mem_cons_self
  have hkept := lower_node?_of_unhinted hsound hroots hhints h hstmt hnode fun child hchild => by
    obtain rfl : child = expr := by simpa [Node.operands] using hchild
    exact ⟨_, hexpr, rfl⟩
  obtain ⟨node', hnode', hskeleton⟩ := lower_skeleton_eq hclosed h hexpr
  obtain ⟨target', value', rfl⟩ := Node.eq_assign_of_skeleton_eq hskeleton
  obtain ⟨place, hplace, hholds⟩ := lower_holds hclosed h hbelow (Arena.child?_of_node? hexpr 1)
  -- The target takes no hint, so it is not shared and stays in its slot.
  have hsame := lower_child?_eq hclosed h hbelow (Arena.child?_of_node? hexpr 0)
    (hhints.not_shared (hsound.hoistable hroots) htarget htakes)
  rw [Arena.child?_of_node? hnode'] at hplace hsame
  obtain rfl := Option.some.inj hplace
  obtain rfl := Option.some.inj hsame
  exact ⟨value', ⟨expr, hkept, hnode'⟩, hholds⟩

/-- An assignment of a node that may have no hint is not changed. -/
theorem lower_assigns_of_unhinted (hstmt : arena.Reaches roots stmt)
    (hassigns : arena.Assigns stmt target value) {node node' : Node}
    (htarget : arena.node? target = some node) (htakes : node.takesHint = false)
    (hvalue : arena.node? value = some node') (htakes' : node'.takesHint = false) :
    lowering.program.arena.Assigns stmt target value := by
  obtain ⟨expr, hnode, hexpr⟩ := hassigns
  have hbelow : arena.Reaches roots expr := hstmt.operand hnode List.mem_cons_self
  refine ⟨expr, lower_node?_of_unhinted hsound hroots hhints h hstmt hnode fun child hchild => ?_,
    lower_node?_of_unhinted hsound hroots hhints h hbelow hexpr fun child hchild => ?_⟩
  · obtain rfl : child = expr := by simpa [Node.operands] using hchild
    exact ⟨_, hexpr, rfl⟩
  · rcases (show child = target ∨ child = value by simpa [Node.operands] using hchild) with
      rfl | rfl
    · exact ⟨node, htarget, htakes⟩
    · exact ⟨node', hvalue, htakes'⟩

end

end Semblance
