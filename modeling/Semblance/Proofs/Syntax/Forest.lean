import Semblance.Proofs.Hoist.Sharing
import Semblance.Syntax.Dump

/-!
# Forests

The graph below some statements is a forest if every node that is reached is allocated and occurs in
one place. Then no node lies beneath itself, no node lies below two statements, and writing out the
statements comes to an end: a way down visits distinct nodes, so that it is no longer than the arena
is large, and `dump?` grants as many levels.

## Key results

- `IsForest.not_beneath_self`: there are no cycles
- `IsForest.statement_unique`: the trees of different statements are disjoint
- `IsForest.dumpAll?_isSome`: the statements have a dump
-/

namespace Semblance.Arena

/-- Every node that is reached is allocated and occurs in one place. -/
structure IsForest (arena : Arena) (roots : List NodeId) : Prop where
  closed : arena.Closed roots
  place_unique : ∀ {id place place'}, arena.Occurs roots id place →
    arena.Occurs roots id place' → place = place'

/-- A node occurs in exactly one place. -/
def OccursOnce (arena : Arena) (roots : List NodeId) (id : NodeId) : Prop :=
  ∃ place, arena.Occurs roots id place ∧ ∀ place', arena.Occurs roots id place' → place' = place

/-- A node lies beneath another, by one step down or more. -/
inductive Beneath (arena : Arena) (ancestor : NodeId) : NodeId → Prop where
  | child {child : NodeId} {slot : Nat} : arena.child? ancestor slot = some child →
      Beneath arena ancestor child
  | step {parent child : NodeId} {slot : Nat} : Beneath arena ancestor parent →
      arena.child? parent slot = some child → Beneath arena ancestor child

variable {arena : Arena} {roots : List NodeId}

/-- What lies beneath a node lies beneath all above it. -/
theorem Beneath.trans {a b c : NodeId} (h : arena.Beneath a b) (h' : arena.Beneath b c) :
    arena.Beneath a c := by
  induction h' with
  | child hchild => exact .step h hchild
  | step _ hchild ih => exact .step ih hchild

/-- The first step down. -/
theorem Beneath.exists_child {a b : NodeId} (h : arena.Beneath a b) :
    ∃ slot child, arena.child? a slot = some child ∧ (child = b ∨ arena.Beneath child b) := by
  induction h with
  | child hchild => exact ⟨_, _, hchild, .inl rfl⟩
  | step _ hchild ih =>
    obtain ⟨slot, first, hfirst, rfl | hbeneath⟩ := ih
    · exact ⟨slot, _, hfirst, .inr (.child hchild)⟩
    · exact ⟨slot, first, hfirst, .inr (.step hbeneath hchild)⟩

/-- What lies beneath a node that is reached is reached. -/
theorem Beneath.reaches {id id' : NodeId} (h : arena.Beneath id id')
    (hid : arena.Reaches roots id) : arena.Reaches roots id' := by
  induction h with
  | child hchild => exact .child hid hchild
  | step _ hchild ih => exact .child ih hchild

/-- Statements that are reached from others reach no more than these do. -/
theorem Reaches.mono {roots' : List NodeId} (hsub : ∀ root ∈ roots, arena.Reaches roots' root)
    {id : NodeId} (h : arena.Reaches roots id) : arena.Reaches roots' id := by
  induction h with
  | root hmem => exact hsub _ hmem
  | child _ hchild ih => exact .child ih hchild

namespace IsForest

variable (h : arena.IsForest roots)
include h

/-- What stands below a reached node stands in that slot only. -/
theorem slot_unique {parent parent' child : NodeId} {slot slot' : Nat}
    (hparent : arena.Reaches roots parent) (hchild : arena.child? parent slot = some child)
    (hparent' : arena.Reaches roots parent') (hchild' : arena.child? parent' slot' = some child) :
    parent = parent' ∧ slot = slot' :=
  Occurrence.slot.inj
    (h.place_unique (occurs_slot.2 ⟨hparent, hchild⟩) (occurs_slot.2 ⟨hparent', hchild'⟩))

/-- A statement stands in no slot. -/
theorem not_child_of_root {root parent : NodeId} {slot : Nat} (hroot : root ∈ roots)
    (hparent : arena.Reaches roots parent) : arena.child? parent slot ≠ some root := by
  intro hchild
  obtain ⟨position, hposition⟩ := List.getElem?_of_mem hroot
  exact nomatch h.place_unique (occurs_root.2 hposition) (occurs_slot.2 ⟨hparent, hchild⟩)

/-- There are no cycles. -/
theorem not_beneath_self {id : NodeId} (hid : arena.Reaches roots id) : ¬ arena.Beneath id id := by
  induction hid with
  | @root root hmem =>
    rintro (hchild | ⟨hbeneath, hchild⟩)
    · exact h.not_child_of_root hmem (.root hmem) hchild
    · exact h.not_child_of_root hmem (hbeneath.reaches (.root hmem)) hchild
  | @child parent child slot hparent hchild ih =>
    -- The last step up from the node leads to its only parent, which would lie beneath itself.
    have hid := hparent.child hchild
    rintro (hchild' | ⟨hbeneath, hchild'⟩)
    · obtain ⟨rfl, _⟩ := h.slot_unique hparent hchild hid hchild'
      exact ih (.child hchild)
    · obtain ⟨rfl, _⟩ := h.slot_unique hparent hchild (hbeneath.reaches hid) hchild'
      exact ih (Beneath.trans (.child hchild) hbeneath)

/-- A statement stands in one position. -/
theorem position_unique {i j : Nat} {root : NodeId} (hi : roots[i]? = some root)
    (hj : roots[j]? = some root) : i = j :=
  Occurrence.root.inj (h.place_unique (occurs_root.2 hi) (occurs_root.2 hj))

/-- The trees of different statements are disjoint. -/
theorem statement_unique {i j : Nat} {root root' id : NodeId} (hi : roots[i]? = some root)
    (hj : roots[j]? = some root') (hid : arena.Reaches [root] id)
    (hid' : arena.Reaches [root'] id) : i = j := by
  have hroots {k : Nat} {root id : NodeId} (hk : roots[k]? = some root)
      (hid : arena.Reaches [root] id) : arena.Reaches roots id :=
    hid.mono fun _ hmem => List.mem_singleton.1 hmem ▸ .root (List.mem_of_getElem? hk)
  -- Both ways down end in the same slot, so they run together up to their statements.
  induction hid with
  | root hmem =>
    obtain rfl := List.mem_singleton.1 hmem
    cases hid' with
    | root hmem' =>
      obtain rfl := List.mem_singleton.1 hmem'
      exact Occurrence.root.inj (h.place_unique (occurs_root.2 hi) (occurs_root.2 hj))
    | child hparent' hchild' =>
      exact absurd hchild' (h.not_child_of_root (List.mem_of_getElem? hi) (hroots hj hparent'))
  | child hparent hchild ih =>
    cases hid' with
    | root hmem' =>
      obtain rfl := List.mem_singleton.1 hmem'
      exact absurd hchild (h.not_child_of_root (List.mem_of_getElem? hj) (hroots hi hparent))
    | child hparent' hchild' =>
      obtain ⟨rfl, _⟩ :=
        h.slot_unique (hroots hi hparent) hchild (hroots hj hparent') hchild'
      exact ih hparent'

/-- No statement of a forest stands in two positions. -/
theorem roots_nodup : roots.Nodup := by
  rw [List.Nodup, List.pairwise_iff_getElem]
  intro i j hi hj hlt heq
  exact Nat.ne_of_lt hlt (h.position_unique (List.getElem?_eq_getElem hi)
    (heq ▸ List.getElem?_eq_getElem hj))

/-- The order of the statements does not matter. -/
theorem perm {body : List NodeId} (hperm : body.Perm roots) : arena.IsForest body where
  closed id hid := h.closed id (hid.mono fun _ hmem => .root (hperm.mem_iff.1 hmem))
  place_unique {id place place'} hoccurs hoccurs' := by
    -- The same nodes are reached from the same statements in another order.
    have hreaches {id : NodeId} (hid : arena.Reaches body id) : arena.Reaches roots id :=
      hid.mono fun _ hmem => .root (hperm.mem_iff.1 hmem)
    have hroot {id : NodeId} {position : Nat} (hposition : body[position]? = some id) :
        id ∈ roots :=
      hperm.mem_iff.1 (List.mem_of_getElem? hposition)
    cases place <;> cases place'
    case root.root i j =>
      have hnodup := hperm.nodup_iff.2 h.roots_nodup
      have hi := (List.getElem?_eq_some_iff.1 hoccurs).1
      rw [(List.getElem?_inj hi hnodup).1 (hoccurs.trans hoccurs'.symm)]
    case root.slot i parent slot =>
      exact absurd hoccurs'.2 (h.not_child_of_root (hroot hoccurs) (hreaches hoccurs'.1))
    case slot.root parent slot i =>
      exact absurd hoccurs.2 (h.not_child_of_root (hroot hoccurs') (hreaches hoccurs.1))
    case slot.slot parent slot parent' slot' =>
      obtain ⟨rfl, rfl⟩ :=
        h.slot_unique (hreaches hoccurs.1) hoccurs.2 (hreaches hoccurs'.1) hoccurs'.2
      rfl

/-- What is reached occurs in exactly one place. -/
theorem occursOnce {id : NodeId} (hid : arena.Reaches roots id) : arena.OccursOnce roots id := by
  obtain ⟨place, hoccurs⟩ := exists_occurs hid
  exact ⟨place, hoccurs, fun place' hoccurs' => h.place_unique hoccurs' hoccurs⟩

end IsForest

/-! ### The dump of a forest -/

/-- No way down from a node is longer than so many nodes. -/
def Fits (arena : Arena) : Nat → NodeId → Prop
  | 0, _ => False
  | levels + 1, id => ∀ slot child, arena.child? id slot = some child → Fits arena levels child

/-- A node fits into the levels that are left, if it lies beneath as many distinct nodes as were
    used up. -/
theorem fits_of_path (hclosed : arena.Closed roots)
    (hacyclic : ∀ id, arena.Reaches roots id → ¬ arena.Beneath id id) {levels : Nat} {id : NodeId}
    (hid : arena.Reaches roots id) {path : List NodeId} (hnodup : path.Nodup)
    (hpath : ∀ above ∈ path, arena.Reaches roots above ∧ arena.Beneath above id)
    (hlength : path.length + levels = arena.size + 1) : arena.Fits levels id := by
  induction levels generalizing id path with
  | zero =>
    -- There are no more distinct nodes than are allocated.
    have hsub : path.map (·.index) ⊆ List.range arena.size := by
      intro index hindex
      obtain ⟨above, hmem, rfl⟩ := List.mem_map.1 hindex
      exact List.mem_range.2 (hclosed.lt_size (hpath above hmem).1)
    have hdistinct : (path.map (·.index)).Nodup :=
      List.Pairwise.map _ (fun above above' hne heq => hne (by cases above; cases above'; simp_all))
        hnodup
    have hle := hdistinct.length_le_of_subset hsub
    rw [List.length_map, List.length_range] at hle
    omega
  | succ levels ih =>
    intro slot child hchild
    -- The node is new on the path, as it does not lie beneath itself.
    have hnew : id ∉ path := fun hmem => hacyclic id hid (hpath id hmem).2
    refine ih (.child hid hchild) (List.nodup_cons.2 ⟨hnew, hnodup⟩) ?_ (by simp; omega)
    intro above hmem
    rcases List.mem_cons.1 hmem with rfl | hmem
    · exact ⟨hid, .child hchild⟩
    · exact ⟨(hpath above hmem).1, .step (hpath above hmem).2 hchild⟩

/-- Where there is no cycle, no way down is longer than there are nodes. -/
theorem fits_of_acyclic (hclosed : arena.Closed roots)
    (hacyclic : ∀ id, arena.Reaches roots id → ¬ arena.Beneath id id) {id : NodeId}
    (hid : arena.Reaches roots id) : arena.Fits (arena.size + 1) id :=
  fits_of_path hclosed hacyclic hid List.nodup_nil (fun _ hmem => nomatch hmem) (Nat.zero_add _)

/-- A way down in a forest meets each node once, so it is no longer than the arena. -/
theorem IsForest.fits (h : arena.IsForest roots) {id : NodeId} (hid : arena.Reaches roots id) :
    arena.Fits (arena.size + 1) id :=
  fits_of_acyclic h.closed (fun _ => h.not_beneath_self) hid

/-- The nodes among the pieces of a node are its children. -/
theorem child?_of_mem_pieces {id child : NodeId} (hmem : .node child ∈ arena.pieces id) :
    ∃ slot, arena.child? id slot = some child := by
  unfold pieces at hmem
  split at hmem
  · next node hnode =>
    -- Every kind of node writes its operands and no other nodes.
    have hoperand : some child ∈ node.operands := by
      fun_cases Node.pieces node <;>
        simp_all [Node.pieces, Node.listed, Node.operands, List.mem_flatMap]
      case case14 elements =>
        obtain ⟨_ | element, hmem, heq⟩ := hmem
        · cases heq
        · cases heq
          exact hmem
    obtain ⟨slot, hslot⟩ := List.getElem?_of_mem hoperand
    exact ⟨slot, by rw [child?_of_node? hnode, Node.child?_eq, hslot, Option.join_some]⟩
  · simp at hmem

/-- The pieces of a node are granted one level less, and its children fit into it. -/
theorem fits_pieces {levels : Nat} {id : NodeId} {rest : List (Nat × Piece)}
    (hfits : ∀ levels' id', (levels', .node id') ∈ (levels + 1, .node id) :: rest →
      arena.Fits levels' id') {levels' : Nat} {id' : NodeId}
    (hmem : (levels', .node id') ∈ (arena.pieces id).map (levels, ·) ++ rest) :
    arena.Fits levels' id' := by
  rcases List.mem_append.1 hmem with hbelow | hrest
  · obtain ⟨piece, hpiece, heq⟩ := List.mem_map.1 hbelow
    obtain ⟨rfl, rfl⟩ := Prod.mk.inj heq
    obtain ⟨slot, hchild⟩ := child?_of_mem_pieces hpiece
    exact hfits (levels + 1) id (List.mem_cons_self ..) slot id' hchild
  · exact hfits levels' id' (List.mem_cons_of_mem _ hrest)

/-- Writing comes to an end if every pending node fits into the levels that it is granted. -/
theorem write_isSome {pending : List (Nat × Piece)} {out : String}
    (hfits : ∀ levels id, (levels, .node id) ∈ pending → arena.Fits levels id) :
    (arena.write pending out).isSome := by
  fun_induction write arena pending out with
  | case1 out => rfl
  | case2 out levels text rest ih =>
    exact ih fun levels' id hmem => hfits levels' id (List.mem_cons_of_mem _ hmem)
  | case3 out id rest => exact (hfits 0 id (List.mem_cons_self ..)).elim
  | case4 out levels id rest ih => exact ih fun _ _ => fits_pieces hfits

/-- Every node of a forest can be dumped. -/
theorem IsForest.dump?_isSome (h : arena.IsForest roots) {id : NodeId}
    (hid : arena.Reaches roots id) : (arena.dump? id).isSome := by
  refine write_isSome fun levels id' hmem => ?_
  obtain ⟨rfl, heq⟩ := Prod.mk.inj (List.mem_singleton.1 hmem)
  rw [Piece.node.inj heq]
  exact h.fits hid

/-- The statements of a forest have a dump. -/
theorem IsForest.dumpAll?_isSome (h : arena.IsForest roots) : (arena.dumpAll? roots).isSome := by
  have hdumps (body : List NodeId) (hbody : ∀ id ∈ body, (arena.dump? id).isSome) :
      (body.mapM arena.dump?).isSome := by
    induction body with
    | nil => rfl
    | cons id body ih =>
      obtain ⟨text, htext⟩ := Option.isSome_iff_exists.1 (hbody id (List.mem_cons_self ..))
      obtain ⟨texts, htexts⟩ := Option.isSome_iff_exists.1
        (ih fun id hmem => hbody id (List.mem_cons_of_mem _ hmem))
      simp [List.mapM_cons, htext, htexts]
  rw [dumpAll?, Option.isSome_map]
  exact hdumps roots fun id hmem => h.dump?_isSome (.root hmem)

end Semblance.Arena
