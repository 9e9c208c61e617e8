import Semblance.Proofs.Hoist.Owners
import Semblance.Proofs.Hoist.Sites
import Semblance.Proofs.Schedule.Precedence
import Semblance.Proofs.Syntax.Forest

/-!
# Dependencies and the graph that goes into hoisting

A dependency is attributed to the statement around a reference, and it stands for a path of the graph
below the node that this statement holds. Read downwards, each node that is reached belongs to a
statement that one of the given statements needs. Read upwards, the nodes around which a declaration
is lie below the node that it declares, so that one declaration needs another only if its node
reaches the other one.

## Key results

- `Unfolded.needs_of_promotion`: some given statement needs each declaration
- `Unfolded.beneath_of_needs`: what a declaration needs are declarations of nodes beneath its own
-/

namespace Semblance.Hoist

open Arena (occurs_root occurs_slot)

/-- A statement in one position depends on that in another. -/
abbrev Depends (hoist : Hoist) : Nat → Nat → Prop :=
  Schedule.Depends hoist.deps hoist.roots.size

/-- A statement in one position needs that in another. -/
abbrev Needs (hoist : Hoist) : Nat → Nat → Prop :=
  Schedule.Needs hoist.deps hoist.roots.size

variable {arena : Arena} {roots : List NodeId} {names : NameSupply} {hoist : Hoist}
  {done : Agenda} {id parent child : NodeId} {slot position target owner owner' : Nat}

namespace Unfolded

variable (h : Unfolded arena roots names hoist) (hw : Walked arena roots done [] hoist)
include h

/-- A declaration is behind the given statements. -/
theorem promotion_root_lt {promotion : Promotion} (hmem : promotion ∈ hoist.promotions) :
    roots.length ≤ promotion.root ∧ promotion.root < hoist.roots.size := by
  obtain ⟨k, hk⟩ := Array.getElem?_of_mem hmem
  obtain ⟨hroot, decl, hdecl, _⟩ := h.declared hk
  exact ⟨hroot ▸ Nat.le_add_right .., (Array.getElem?_eq_some_iff.1 hdecl).1⟩

/-- A position is that of one declaration. -/
theorem root_inj {promotion promotion' : Promotion} (hmem : promotion ∈ hoist.promotions)
    (hmem' : promotion' ∈ hoist.promotions) (hroot : promotion.root = promotion'.root) :
    promotion = promotion' := by
  obtain ⟨decl, declarator, hdecl⟩ := h.declaring hmem
  obtain ⟨decl', declarator', hdecl'⟩ := h.declaring hmem'
  obtain rfl := Option.some.inj (hdecl.root.symm.trans (hroot ▸ hdecl'.root))
  obtain rfl := hdecl.declarator_eq hdecl'
  exact hdecl.promotion_eq h hdecl'

include hw

/-- A dependency is on a hoisted node that is a child of a node in the statement. -/
theorem depends_iff : hoist.Depends position target ↔
    ∃ holder slot, ∃ promotion ∈ hoist.promotions, promotion.root = target ∧
      hoist.Around holder position ∧ arena.Reaches roots holder ∧
      arena.child? holder slot = some promotion.node := by
  rw [Depends, Schedule.Depends, hw.mem_deps_iff h.toRewrites]
  constructor
  · rintro ⟨_, holder, hreference, haround⟩
    obtain ⟨hholder, slot, promotion, hmem, hroot, hchild, _⟩ := (h.references_iff ..).1 hreference
    exact ⟨holder, slot, promotion, hmem, hroot, haround, hholder, hchild⟩
  · rintro ⟨holder, slot, promotion, hmem, rfl, haround, hholder, hchild⟩
    exact ⟨(h.promotion_root_lt hmem).2, holder, (h.references_iff ..).2
      ⟨hholder, slot, promotion, hmem, rfl, hchild, h.slot_links hholder hmem hchild⟩, haround⟩

/-- No statement depends on a given one. -/
theorem not_depends_root (hlt : target < roots.length) : ¬ hoist.Depends position target := by
  intro hdepends
  obtain ⟨_, _, promotion, hmem, rfl, _⟩ := (h.depends_iff hw).1 hdepends
  exact Nat.not_lt.2 (h.promotion_root_lt hmem).1 hlt

/-! ### From the given statements down -/

/-- A child belongs to the statement around its parent, or this depends on the child. -/
theorem around_child (hparent : arena.Reaches roots parent)
    (hchild : arena.child? parent slot = some child) (haround : hoist.Around parent owner)
    (haround' : hoist.Around child owner') : owner' = owner ∨ hoist.Depends owner owner' := by
  have hoccurs := occurs_slot.2 ⟨hparent, hchild⟩
  cases haround' with
  | hoisted hsighting =>
    obtain ⟨hmem, rfl, _⟩ := hw.again hsighting
    exact .inr ((h.depends_iff hw).2 ⟨parent, slot, _, hmem, rfl, haround, hparent, hchild⟩)
  | root hsighting => exact nomatch hw.alone hsighting (hw.mem_done_iff.2 hoccurs)
  | slot hsighting hholder =>
    obtain ⟨rfl, _⟩ := Occurrence.slot.inj (hw.alone hsighting (hw.mem_done_iff.2 hoccurs))
    exact .inl (hholder.unique haround)

/-- A node belongs to a given statement or to one that such a statement needs. -/
theorem needs_of_reaches (hid : arena.Reaches roots id) (haround : hoist.Around id owner) :
    ∃ root < roots.length, owner = root ∨ hoist.Needs root owner := by
  induction hid generalizing owner with
  | root hmem =>
    obtain ⟨position, hposition⟩ := List.getElem?_of_mem hmem
    -- A statement is never hoisted, so the one around it is itself.
    have hdone := hw.mem_done_iff.2 (occurs_root.2 hposition)
    have hlt := (List.getElem?_eq_some_iff.1 hposition).1
    refine ⟨position, hlt, .inl ?_⟩
    cases haround with
    | hoisted hsighting => exact absurd hsighting (hw.not_root hdone)
    | root hsighting => exact (Occurrence.root.inj (hw.alone hsighting hdone)).symm
    | slot hsighting _ => exact nomatch hw.alone hsighting hdone
  | child hparent hchild ih =>
    -- The child belongs to the statement around its parent or to one on which this depends.
    obtain ⟨k, hk⟩ := Array.getElem?_of_mem (hw.mem_trail.2 (hw.met hparent))
    obtain ⟨owner', haround'⟩ := hw.exists_around hk
    obtain ⟨root, hlt, hroot⟩ := ih haround'
    refine ⟨root, hlt, ?_⟩
    rcases h.around_child hw hparent hchild haround' haround with rfl | hdepends
    · exact hroot
    · rcases hroot with rfl | hneeds
      · exact .inr (.single hdepends)
      · exact .inr (.tail hneeds hdepends)

/-- Some given statement needs each declaration. -/
theorem needs_of_promotion {promotion : Promotion} (hmem : promotion ∈ hoist.promotions) :
    ∃ root < roots.length, hoist.Needs root promotion.root := by
  obtain ⟨first, hsighting⟩ := hw.hoisted hmem
  obtain ⟨root, hlt, hroot⟩ := h.needs_of_reaches hw (h.node_reached hmem) (.hoisted hsighting)
  refine ⟨root, hlt, hroot.resolve_left ?_⟩
  rintro rfl
  exact Nat.not_lt.2 (h.promotion_root_lt hmem).1 hlt

/-! ### From a declaration up -/

/-- What a declaration is around lies in the graph below the node that it declares. -/
theorem beneath_of_around {promotion : Promotion} (hmem : promotion ∈ hoist.promotions)
    (haround : hoist.Around id promotion.root) :
    id = promotion.node ∨ arena.Beneath promotion.node id := by
  generalize hroot : promotion.root = owner at haround
  induction haround with
  | hoisted hsighting =>
    obtain ⟨hmem', rfl, _⟩ := hw.again hsighting
    rw [h.root_inj hmem hmem' hroot]
    exact .inl rfl
  | root hsighting =>
    -- The position of a declaration is not one of a given statement.
    have hposition := occurs_root.1 (hw.occurs_of_done (hw.first_mem hsighting))
    have hlt := (List.getElem?_eq_some_iff.1 hposition).1
    exact absurd hlt (Nat.not_lt.2 (hroot ▸ (h.promotion_root_lt hmem).1))
  | slot hsighting _ ih =>
    obtain ⟨_, hchild⟩ := occurs_slot.1 (hw.occurs_of_done (hw.first_mem hsighting))
    rcases ih hroot with rfl | hbeneath
    · exact .inr (.child hchild)
    · exact .inr (.step hbeneath hchild)

/-- What a declaration depends on is a declaration of a node beneath its own. -/
theorem beneath_of_depends {promotion : Promotion} (hmem : promotion ∈ hoist.promotions)
    (hdepends : hoist.Depends promotion.root target) :
    ∃ promotion' ∈ hoist.promotions, promotion'.root = target ∧
      arena.Beneath promotion.node promotion'.node := by
  obtain ⟨holder, slot, promotion', hmem', hroot, haround, _, hchild⟩ :=
    (h.depends_iff hw).1 hdepends
  refine ⟨promotion', hmem', hroot, ?_⟩
  rcases h.beneath_of_around hw hmem haround with rfl | hbeneath
  · exact .child hchild
  · exact .step hbeneath hchild

/-- What a declaration needs are declarations of nodes beneath its own. -/
theorem beneath_of_needs {promotion : Promotion} (hmem : promotion ∈ hoist.promotions)
    (hneeds : hoist.Needs promotion.root target) :
    ∃ promotion' ∈ hoist.promotions, promotion'.root = target ∧
      arena.Beneath promotion.node promotion'.node := by
  induction hneeds with
  | single hdepends => exact h.beneath_of_depends hw hmem hdepends
  | tail _ hdepends ih =>
    obtain ⟨between, hbetween, rfl, hbeneath⟩ := ih
    obtain ⟨promotion', hmem', hroot, hbeneath'⟩ := h.beneath_of_depends hw hbetween hdepends
    exact ⟨promotion', hmem', hroot, hbeneath.trans hbeneath'⟩

end Unfolded

end Semblance.Hoist
