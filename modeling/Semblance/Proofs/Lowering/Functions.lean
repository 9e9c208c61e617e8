import Semblance.Proofs.Generate.Origins
import Semblance.Proofs.Lowering.Names

/-!
# Functions in a lowered program

Lowering moves nodes out of functions, but only such as have a hint. What stands in the body of a
function with no node on the way that may have one stays there, and since the program is a forest,
the function is the nearest one above it.

## Key results

- `IsForest.within_unique`: the nearest function above a node is unique
- `Below.reaches`: what is in use has all that is above it in use
- `lower_within_iff`: the nearest function above a node of a lowered program
-/

namespace Semblance

namespace Arena

variable {arena : Arena} {roots : List NodeId} {id function function' : NodeId}

/-! ### The nearest function -/

/-- A node stands in the body of a function, and in that of no function further down. -/
inductive Within (arena : Arena) (function : NodeId) : NodeId → Prop where
  | body {params : Array String} {body : NodeId} :
      arena.node? function = some (.function params body) → Within arena function body
  | child {parent child : NodeId} {slot : Nat} : Within arena function parent →
      (∀ params body, arena.node? parent ≠ some (.function params body)) →
      arena.child? parent slot = some child → Within arena function child

/-- The body is the only child of a function. -/
theorem child?_function {params : Array String} {body : NodeId}
    (h : arena.node? function = some (.function params body)) :
    arena.child? function 0 = some body :=
  child?_of_node? h 0

/-- What stands in a function is reached from it. -/
theorem Within.reaches (h : arena.Within function id) (hfunction : arena.Reaches roots function) :
    arena.Reaches roots id := by
  induction h with
  | body hnode => exact hfunction.child (child?_function hnode)
  | child _ _ hchild ih => exact ih.child hchild

/-- In a forest there is one nearest function above a node, if there is any. -/
theorem IsForest.within_unique (hforest : arena.IsForest roots)
    (hfunction : arena.Reaches roots function) (hfunction' : arena.Reaches roots function')
    (h : arena.Within function id) (h' : arena.Within function' id) : function = function' := by
  -- Both ways up from the node are the same, up to the first function.
  induction h with
  | @body params _ hnode =>
    cases h' with
    | body hnode' =>
      exact (hforest.slot_unique hfunction (child?_function hnode) hfunction'
        (child?_function hnode')).1
    | child hparent hnone hchild =>
      obtain ⟨rfl, _⟩ := hforest.slot_unique hfunction (child?_function hnode)
        (hparent.reaches hfunction') hchild
      exact absurd hnode (hnone _ _)
  | child hparent hnone hchild ih =>
    cases h' with
    | body hnode' =>
      obtain ⟨rfl, _⟩ := hforest.slot_unique hfunction' (child?_function hnode')
        (hparent.reaches hfunction) hchild
      exact absurd hnode' (hnone _ _)
    | child hparent' _ hchild' =>
      obtain ⟨rfl, _⟩ := hforest.slot_unique (hparent.reaches hfunction) hchild
        (hparent'.reaches hfunction') hchild'
      exact ih hparent'

/-! ### Nodes without hints -/

/-- Only nodes of certain kinds have hints. -/
def HintsFit (arena : Arena) : Prop :=
  ∀ {id hint}, arena.hint id = some hint →
    ∃ node, arena.node? id = some node ∧ node.takesHint = true

/-- A node of a kind without hints has none. -/
theorem HintsFit.not_hasHint (h : arena.HintsFit) {node : Node} (hnode : arena.node? id = some node)
    (htakes : node.takesHint = false) : ¬ arena.HasHint id := by
  rintro ⟨hint, hhint, _⟩
  obtain ⟨node', hnode', htakes'⟩ := h hhint
  obtain rfl := Option.some.inj (hnode.symm.trans hnode')
  exact Bool.false_ne_true (htakes.symm.trans htakes')

/-- A node of a kind without hints cannot be shared, since there is nothing to name it after. -/
theorem HintsFit.not_shareable (h : arena.HintsFit) {node : Node}
    (hnode : arena.node? id = some node) (htakes : node.takesHint = false) :
    ¬ arena.Shareable id :=
  fun hshareable => h.not_hasHint hnode htakes hshareable.2

/-- A node of a kind without hints is not shared where all that is shared can be. -/
theorem HintsFit.not_shared (h : arena.HintsFit) (hhoistable : arena.Hoistable roots) {node : Node}
    (hnode : arena.node? id = some node) (htakes : node.takesHint = false) :
    ¬ arena.Shared roots id :=
  fun hshared => h.not_hasHint hnode htakes (hhoistable.named hshared)

/-- What holds a node that is reached and cannot be shared is reached itself. -/
theorem Below.reaches {top : NodeId} (h : arena.Below top id) (hsound : arena.Sound roots)
    (hhints : arena.HintsFit) (hid : arena.Reaches roots id) : arena.Reaches roots top := by
  induction h with
  | self => exact hid
  | child _ hchild hnode htakes ih =>
    apply ih
    exact hsound.reaches_parent (hhints.not_shareable hnode htakes) hid hchild

end Arena

/-! ### Lowering -/

section

variable {arena : Arena} {roots : List NodeId} {names : NameSupply} {lowering : Lowering}
  {function body leaf : NodeId} {params : Array String}
  (hsound : arena.Sound roots) (hroots : ∀ id ∈ roots, arena.IsStatement id)
  (hhints : arena.HintsFit) (h : arena.lower roots names = .ok lowering)
include hsound hroots hhints h

/-- A function keeps its parameters and its body. -/
theorem lower_function (hfunction : arena.node? function = some (.function params body))
    {block : Node} (hblock : arena.node? body = some block) (htakes : block.takesHint = false)
    (hreached : arena.Reaches roots function) :
    lowering.program.arena.node? function = some (.function params body) := by
  have hhoistable := hsound.hoistable hroots
  refine lower_node?_eq hhoistable.closed h hreached hfunction fun slot child hchild => ?_
  cases slot with
  | zero =>
    obtain rfl := Option.some.inj hchild
    exact hhints.not_shared hhoistable hblock htakes
  | succ => exact nomatch hchild

/-- What is below the body of a function stays within the function. -/
theorem lower_within (hbelow : arena.Below body leaf) (hleaf : arena.Reaches roots leaf)
    (hbody : lowering.program.arena.Within function body) :
    lowering.program.arena.Within function leaf := by
  have hhoistable := hsound.hoistable hroots
  induction hbelow with
  | self => exact hbody
  | @child parent child slot node hparent hchild hnode htakes ih =>
    have hreached := hsound.reaches_parent (hhints.not_shareable hnode htakes) hleaf hchild
    refine .child (ih hreached) (fun params body hfunction => ?_)
      (lower_child?_eq hhoistable.closed h hreached hchild
        (hhints.not_shared hhoistable hnode htakes))
    -- A function may have a hint, and no node on the way may.
    obtain ⟨holder, hholder, hplain⟩ := hparent.node
    obtain ⟨holder', hholder', hskeleton⟩ := lower_skeleton_eq hhoistable.closed h hholder
    obtain rfl := Option.some.inj (hfunction.symm.trans hholder')
    obtain ⟨_, rfl⟩ := Node.eq_function_of_skeleton_eq hskeleton.symm
    exact nomatch hplain

/-- The function around what is below its body is the nearest one in the program. -/
theorem lower_within_iff (hfunction : arena.node? function = some (.function params body))
    (hbelow : arena.Below body leaf)
    (hleaf : lowering.program.arena.Reaches lowering.program.body leaf) :
    lowering.program.arena.Reaches lowering.program.body function ∧
      lowering.program.arena.node? function = some (.function params body) ∧
      ∀ nearest, lowering.program.arena.Reaches lowering.program.body nearest →
        (lowering.program.arena.Within nearest leaf ↔ nearest = function) := by
  have hclosed := (hsound.hoistable hroots).closed
  obtain ⟨node, hnode, _⟩ := hbelow.node
  have hold := (lower_reaches_iff hclosed h (Arena.lt_size_of_node? hnode)).1 hleaf
  -- The function is in use, as its body cannot be shared.
  have hbody := hbelow.reaches hsound hhints hold
  obtain ⟨block, hblock, htakes⟩ := hbelow.top_node
  have hreached := hsound.reaches_parent (hhints.not_shareable hblock htakes) hbody
    (Arena.child?_function hfunction)
  have hfunction' := lower_function hsound hroots hhints h hfunction hblock htakes hreached
  have hprogram := (lower_reaches_iff hclosed h (Arena.lt_size_of_node? hfunction)).2 hreached
  have hwithin := lower_within hsound hroots hhints h hbelow hold (.body hfunction')
  refine ⟨hprogram, hfunction', fun nearest hnearest => ⟨fun hwithin' => ?_, ?_⟩⟩
  · exact (lower_forest hclosed h).within_unique hnearest hprogram hwithin' hwithin
  · rintro rfl
    exact hwithin

end

end Semblance
