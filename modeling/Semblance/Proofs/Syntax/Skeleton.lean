import Semblance.Syntax.Node

/-!
# Renaming the children of a node

A node is its children and the rest: its kind, its names, keys and literals, and the places of its
children. `Node.mapChildren` changes the children and keeps the rest, and `Node.skeleton` is the
rest alone. Replacing a child keeps the skeleton, so that a node which had children replaced is
known from its former skeleton and its operands.

## Key results

- `operands_mapChildren`: the operands of a renamed node
- `skeleton_setChild?`: replacing a child keeps the skeleton
- `eq_of_skeleton_eq`: skeleton and operands determine a node
- `skeleton_acceptsChild`, `skeleton_isExpression`: what may stand where depends on skeletons only
-/

namespace Semblance.Node

/-- The node with every child renamed. -/
def mapChildren (f : NodeId → NodeId) : Node → Node
  | ident name => ident name
  | literal value => literal value
  | this => this
  | unary op operand => unary op (f operand)
  | or left right => or (f left) (f right)
  | assign target value => assign (f target) (f value)
  | call callee args => call (f callee) (args.map f)
  | new callee args => new (f callee) (args.map f)
  | member owner (.named name) => member (f owner) (.named name)
  | member owner (.computed key) => member (f owner) (.computed (f key))
  | function params body => function params (f body)
  | object entries => object (entries.map f)
  | entry key value kind => entry key (f value) kind
  | array elements => array (elements.map (Option.map f))
  | block statements => block (statements.map f)
  | exprStmt expr => exprStmt (f expr)
  | ret value => ret (value.map f)
  | varDecl declarators => varDecl (declarators.map f)
  | declarator name init => declarator name (init.map f)

/-- The node with all children made equal: its kind, its data and its occupied slots. -/
def skeleton (node : Node) : Node :=
  node.mapChildren fun _ => ⟨0⟩

/-- The operands are renamed, and left out where they were left out. -/
theorem operands_mapChildren (f : NodeId → NodeId) (node : Node) :
    (node.mapChildren f).operands = node.operands.map (Option.map f) := by
  fun_cases operands node <;> simp [mapChildren, operands]

/-- The children are renamed in their slots. -/
theorem child?_mapChildren (f : NodeId → NodeId) (node : Node) (slot : Nat) :
    (node.mapChildren f).child? slot = (node.child? slot).map f := by
  simp only [child?, operands_mapChildren, List.getElem?_map]
  rcases node.operands[slot]? with _ | _ | child <;> rfl

/-- Renaming twice is renaming once. -/
theorem mapChildren_mapChildren (f g : NodeId → NodeId) (node : Node) :
    (node.mapChildren f).mapChildren g = node.mapChildren (g ∘ f) := by
  fun_cases mapChildren f node <;> simp [mapChildren, Function.comp_def]

/-- The skeleton is what is left alone when children are renamed. -/
theorem skeleton_mapChildren (f : NodeId → NodeId) (node : Node) :
    (node.mapChildren f).skeleton = node.skeleton := by
  rw [skeleton, mapChildren_mapChildren]
  rfl

/-- Nodes with the same skeleton have their children in the same slots. -/
theorem child?_isSome_of_skeleton_eq {node node' : Node} (h : node'.skeleton = node.skeleton)
    (slot : Nat) : (node'.child? slot).isSome = (node.child? slot).isSome := by
  have hslot := congrArg (fun node => (node.child? slot).isSome) h
  simpa only [skeleton, child?_mapChildren, Option.isSome_map] using hslot

private theorem map_some_inj {ids ids' : Array NodeId}
    (h : ids'.toList.map some = ids.toList.map some) : ids' = ids :=
  Array.toList_inj.1 ((List.map_inj_right fun _ _ => Option.some.inj).1 h)

/-- A node is its skeleton and its operands. -/
theorem eq_of_operands_eq {node node' : Node} (h : node'.skeleton = node.skeleton)
    (hop : node'.operands = node.operands) : node' = node := by
  cases node with
  | member owner key =>
    cases key <;> cases node' with
    | member owner' key' => cases key' <;> simp_all [skeleton, mapChildren, operands]
    | _ => simp [skeleton, mapChildren] at h
  | _ =>
    cases node' with
    | member owner' key' => cases key' <;> simp [skeleton, mapChildren] at h
    | _ =>
      -- Only nodes of one kind are left; lists of children are equal if they are as operands.
      first
        | (simp only [skeleton, mapChildren, reduceCtorEq] at h; done)
        | (simp_all [skeleton, mapChildren, operands]; done)
        | (simp only [operands, List.cons.injEq] at hop
           simp only [map_some_inj hop])
        | (simp only [operands, List.cons.injEq, Option.some.injEq] at hop
           simp only [hop.1, map_some_inj hop.2])

/-- A node is its skeleton and its children. -/
theorem eq_of_child?_eq {node node' : Node} (h : node'.skeleton = node.skeleton)
    (hchild : ∀ slot, node'.child? slot = node.child? slot) : node' = node := by
  refine eq_of_operands_eq h (List.ext_getElem? fun slot => ?_)
  have hplace := congrArg (·.operands[slot]?) h
  simp only [skeleton, operands_mapChildren, List.getElem?_map] at hplace
  have hhere := hchild slot
  simp only [child?] at hhere
  revert hplace hhere
  rcases node.operands[slot]? with _ | _ | child <;>
    rcases node'.operands[slot]? with _ | _ | child' <;> simp

/-- A reference is all skeleton. -/
theorem eq_ident_of_skeleton_eq {node : Node} {name : String}
    (h : node.skeleton = (ident name).skeleton) : node = ident name := by
  cases node with
  | ident => exact h
  | member _ key => cases key <;> exact nomatch h
  | _ => exact nomatch h

/-- The skeleton of a declarator has its name. -/
theorem eq_declarator_of_skeleton_eq {node : Node} {name : String} {init : Option NodeId}
    (h : node.skeleton = (declarator name init).skeleton) :
    ∃ init', node = declarator name init' := by
  cases node with
  | declarator name' init' => exact ⟨init', by rw [(declarator.inj h).1]⟩
  | member _ key => cases key <;> exact nomatch h
  | _ => exact nomatch h

/-- A declarator without an initializer is all skeleton. -/
theorem eq_bare_of_skeleton_eq {node : Node} {name : String}
    (h : node.skeleton = (declarator name none).skeleton) : node = declarator name none := by
  obtain ⟨init, rfl⟩ := eq_declarator_of_skeleton_eq h
  cases init with
  | none => rfl
  | some => cases (declarator.inj h).2

/-- A receiver is all skeleton. -/
theorem eq_this_of_skeleton_eq {node : Node} (h : node.skeleton = this.skeleton) : node = this := by
  cases node with
  | this => rfl
  | member _ key => cases key <;> exact nomatch h
  | _ => exact nomatch h

/-- The skeleton of a function has its parameters. -/
theorem eq_function_of_skeleton_eq {node : Node} {params : Array String} {body : NodeId}
    (h : node.skeleton = (function params body).skeleton) :
    ∃ body', node = function params body' := by
  cases node with
  | function params' body' => exact ⟨body', by rw [(function.inj h).1]⟩
  | member _ key => cases key <;> exact nomatch h
  | _ => exact nomatch h

/-- The skeleton of an entry has its key and its kind. -/
theorem eq_entry_of_skeleton_eq {node : Node} {key : EntryKey} {value : NodeId} {kind : EntryKind}
    (h : node.skeleton = (entry key value kind).skeleton) :
    ∃ value', node = entry key value' kind := by
  cases node with
  | entry key' value' kind' =>
    obtain ⟨rfl, _, rfl⟩ := entry.inj h
    exact ⟨value', rfl⟩
  | member _ key => cases key <;> exact nomatch h
  | _ => exact nomatch h

/-- A node with the skeleton of an assignment is an assignment. -/
theorem eq_assign_of_skeleton_eq {node : Node} {target value : NodeId}
    (h : node.skeleton = (assign target value).skeleton) :
    ∃ target' value', node = assign target' value' := by
  cases node with
  | assign target' value' => exact ⟨target', value', rfl⟩
  | member _ key => cases key <;> exact nomatch h
  | _ => exact nomatch h

/-- A node with the skeleton of a return with a value is one. -/
theorem eq_ret_of_skeleton_eq {node : Node} {value : NodeId}
    (h : node.skeleton = (ret (some value)).skeleton) : ∃ value', node = ret (some value') := by
  cases node with
  | ret value' =>
    cases value' with
    | some value' => exact ⟨value', rfl⟩
    | none => exact nomatch h
  | member _ key => cases key <;> exact nomatch h
  | _ => exact nomatch h

/-! ### Replacing a child -/

private theorem map_replaceAt? {ids ids' : Array NodeId} {position : Nat} {child : NodeId}
    (h : replaceAt? ids position child = some ids') (a : α) :
    ids'.map (fun _ => a) = ids.map (fun _ => a) := by
  unfold replaceAt? at h
  split at h
  · obtain rfl := Option.some.inj h
    apply Array.ext
    · simp only [Array.size_map, Array.size_setIfInBounds]
    · intro i _ _
      simp only [Array.getElem_map]
  · exact nomatch h

private theorem map_setIfInBounds {elements : Array (Option NodeId)} {slot : Nat}
    (h : elements[slot]?.join.isSome = true) (child : NodeId) (a : α) :
    (elements.setIfInBounds slot (some child)).map (Option.map fun _ => a) =
      elements.map (Option.map fun _ => a) := by
  apply Array.ext
  · simp only [Array.size_map, Array.size_setIfInBounds]
  · intro i _ hi
    rw [Array.size_map] at hi
    simp only [Array.getElem_map, Array.getElem_setIfInBounds hi]
    split
    · next hslot =>
      subst hslot
      rw [Array.getElem?_eq_getElem hi, Option.join_some] at h
      obtain ⟨former, hformer⟩ := Option.isSome_iff_exists.1 h
      simp only [hformer, Option.map_some]
    · rfl

/-- Replacing a child keeps all that is not a child. -/
theorem skeleton_setChild? {node node' : Node} {slot : Nat} {child : NodeId}
    (h : node.setChild? slot child = some node') : node'.skeleton = node.skeleton := by
  fun_cases setChild? node slot child with
  | case26 elements hslot =>
    simp only [setChild?, hslot, if_true, Option.some.injEq] at h
    subst h
    simp only [skeleton, mapChildren, map_setIfInBounds hslot]
  | case31 value hslot =>
    simp only [setChild?, hslot, if_true, and_self, Option.some.injEq] at h
    obtain ⟨former, rfl⟩ := Option.isSome_iff_exists.1 hslot.2
    subst h
    rfl
  | case34 name init hslot =>
    simp only [setChild?, hslot, if_true, and_self, Option.some.injEq] at h
    obtain ⟨former, rfl⟩ := Option.isSome_iff_exists.1 hslot.2
    subst h
    rfl
  | _ =>
    simp only [setChild?, *, if_true, if_false, Option.some.injEq, reduceCtorEq,
      Option.map_eq_some_iff] at h
    -- What is left replaces a child of its own or one of a list.
    all_goals first
      | (subst h; rfl)
      | (obtain ⟨ids, hids, rfl⟩ := h
         simp only [skeleton, mapChildren, map_replaceAt? hids])

/-- Setting a child changes one slot. -/
theorem child?_setChild? {node node' : Node} {slot : Nat} {child : NodeId}
    (h : node.setChild? slot child = some node') (other : Nat) :
    node'.child? other = if other = slot then some child else node.child? other := by
  have hsome := setChild?_isSome node slot child
  rw [h, Option.isSome_some] at hsome
  simp only [child?, operands_setChild? h, List.getElem?_set]
  by_cases hslot : slot = other
  · subst hslot
    have hlt : slot < node.operands.length := by
      refine Nat.lt_of_not_le fun hge => ?_
      simp [child?, List.getElem?_eq_none hge] at hsome
    simp [hlt]
  · simp [hslot, Ne.symm hslot]

/-! ### What may stand where -/

/-- The skeleton tells whether a node needs a container. -/
theorem needsContainer_of_skeleton_eq {node node' : Node} (h : node'.skeleton = node.skeleton) :
    node'.needsContainer = node.needsContainer := by
  have hkeep (node : Node) : node.skeleton.needsContainer = node.needsContainer := by
    fun_cases mapChildren (fun _ => ⟨0⟩) node <;> rfl
  rw [← hkeep, h, hkeep]

/-- The skeleton tells whether a node is an expression. -/
theorem isExpression_of_skeleton_eq {node node' : Node} (h : node'.skeleton = node.skeleton) :
    node'.isExpression = node.isExpression := by
  have hkeep (node : Node) : node.skeleton.isExpression = node.isExpression := by
    fun_cases mapChildren (fun _ => ⟨0⟩) node <;> rfl
  rw [← hkeep, h, hkeep]

/-- The skeleton tells what a node accepts, and where a node is accepted. -/
theorem acceptsChild_of_skeleton_eq {parent parent' child child' : Node}
    (hparent : parent'.skeleton = parent.skeleton) (hchild : child'.skeleton = child.skeleton) :
    parent'.acceptsChild child' = parent.acceptsChild child := by
  have hkeep (parent child : Node) :
      parent.skeleton.acceptsChild child.skeleton = parent.acceptsChild child := by
    fun_cases mapChildren (fun _ => ⟨0⟩) parent <;>
      fun_cases mapChildren (fun _ => ⟨0⟩) child <;> rfl
  rw [← hkeep, hparent, hchild, hkeep]

end Semblance.Node
