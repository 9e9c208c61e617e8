import Semblance.Proofs.Hoist.Unfolding
import Semblance.Schedule

/-!
# The statement around a node

A hoisted node belongs to its declaration, a statement to itself, and any other node to the
statement around the node that holds it. `owners` computes this along the trail, where holders come
first, and `deps` attributes each reference to the statement around its holder.

## Key results

- `owners_eq_some_iff`: `owners` computes `Around`
- `mem_deps_iff`: a statement depends on the declarations that nodes in it refer to
- `deps_nodup`: no dependency is listed twice
-/

namespace Semblance.Hoist

/-- The statement in a position is around a node. -/
inductive Around (hoist : Hoist) : NodeId → Nat → Prop
  | hoisted {id : NodeId} {first : Occurrence} {promotion : Promotion} :
      hoist.sighting? id = some ⟨first, some promotion⟩ → Around hoist id promotion.root
  | root {id : NodeId} {position : Nat} :
      hoist.sighting? id = some ⟨.root position, none⟩ → Around hoist id position
  | slot {id parent : NodeId} {slot owner : Nat} :
      hoist.sighting? id = some ⟨.slot parent slot, none⟩ → Around hoist parent owner →
      Around hoist id owner

variable {arena : Arena} {roots : List NodeId} {names : NameSupply} {hoist : Hoist}
  {done agenda : Agenda} {id : NodeId} {owner owner' : Nat}

/-- One statement is around a node. -/
theorem Around.unique (h : hoist.Around id owner) (h' : hoist.Around id owner') :
    owner = owner' := by
  -- What is known of the node decides by which rule the statement is around it.
  induction h with
  | hoisted hsighting =>
    cases h' with
    | hoisted hsighting' =>
      obtain ⟨_, heq⟩ := Sighting.mk.inj (Option.some.inj (hsighting.symm.trans hsighting'))
      rw [Option.some.inj heq]
    | root hsighting' => exact nomatch hsighting.symm.trans hsighting'
    | slot hsighting' => exact nomatch hsighting.symm.trans hsighting'
  | root hsighting =>
    cases h' with
    | hoisted hsighting' => exact nomatch hsighting.symm.trans hsighting'
    | root hsighting' =>
      obtain ⟨heq, _⟩ := Sighting.mk.inj (Option.some.inj (hsighting.symm.trans hsighting'))
      exact Occurrence.root.inj heq
    | slot hsighting' => exact nomatch hsighting.symm.trans hsighting'
  | slot hsighting _ ih =>
    cases h' with
    | hoisted hsighting' => exact nomatch hsighting.symm.trans hsighting'
    | root hsighting' => exact nomatch hsighting.symm.trans hsighting'
    | slot hsighting' hparent' =>
      obtain ⟨heq, _⟩ := Sighting.mk.inj (Option.some.inj (hsighting.symm.trans hsighting'))
      obtain ⟨rfl, _⟩ := Occurrence.slot.inj heq
      exact ih hparent'

/-- A node that a statement is around was met. -/
theorem Around.met (h : hoist.Around id owner) : (hoist.sighting? id).isSome := by
  cases h <;> simp [*]

namespace Walked

/-- A statement is around each node of the trail. -/
theorem exists_around (h : Walked arena roots done agenda hoist) {k : Nat}
    (hk : hoist.trail[k]? = some id) : ∃ owner, hoist.Around id owner := by
  -- The holder of a node is further up the trail.
  induction k using Nat.strongRecOn generalizing id with
  | ind k ih =>
    obtain ⟨⟨first, promotion?⟩, hsighting⟩ :=
      Option.isSome_iff_exists.1 (h.mem_trail.1 (Array.mem_of_getElem? hk))
    cases promotion? with
    | some promotion => exact ⟨_, .hoisted hsighting⟩
    | none =>
      cases first with
      | root position => exact ⟨_, .root hsighting⟩
      | slot parent slot =>
        obtain ⟨k', hlt, hk'⟩ := h.earlier hk hsighting
        obtain ⟨owner, hparent⟩ := ih k' hlt hk'
        exact ⟨owner, .slot hsighting hparent⟩

/-- The first entries of a list with one more are the former ones and this one. -/
private theorem mem_take_succ {entries : Array α} {i : Nat} {here entry : α}
    (hi : entries[i]? = some here) :
    entry ∈ entries.toList.take (i + 1) ↔ entry ∈ entries.toList.take i ∨ entry = here := by
  rw [List.take_add_one, Array.getElem?_toList, hi, Option.toList_some, List.mem_append,
    List.mem_singleton]

private theorem mem_take_of_lt {entries : Array α} {k i : Nat} {entry : α} (hlt : k < i)
    (hk : entries[k]? = some entry) : entry ∈ entries.toList.take i :=
  List.mem_of_getElem? (i := k) (by rw [List.getElem?_take_of_lt hlt, Array.getElem?_toList, hk])

private theorem mem_take_size {entries : Array α} {entry : α} :
    entry ∈ entries.toList.take entries.size ↔ entry ∈ entries := by
  rw [← Array.length_toList, List.take_length, Array.mem_toList_iff]

/-- `owners` computes the statement around each node. -/
theorem owners_eq_some_iff (h : Walked arena roots done agenda hoist) :
    hoist.owners[id.index]? = some owner ↔ hoist.Around id owner := by
  have hall : ∀ (id : NodeId) (owner : Nat), hoist.owners[id.index]? = some owner ↔
      id ∈ hoist.trail.toList.take hoist.trail.size ∧ hoist.Around id owner := by
    unfold owners
    -- After `i` steps the first `i` nodes of the trail have their owners.
    refine Array.foldl_induction (motive := fun i (owners : Std.TreeMap Nat Nat) =>
      ∀ (id : NodeId) (owner : Nat), owners[id.index]? = some owner ↔
        id ∈ hoist.trail.toList.take i ∧ hoist.Around id owner) ?_ ?_
    · intro id owner
      simp
    · intro i owners hsofar id owner
      have hi : hoist.trail[i.1]? = some hoist.trail[i] := Array.getElem?_eq_getElem i.2
      generalize hoist.trail[i] = here at hi
      obtain ⟨hereOwner, haround⟩ := h.exists_around hi
      -- What the step does is to enter the owner of the node at this place of the trail.
      suffices hstep : ∀ owners' : Std.TreeMap Nat Nat,
          owners'[id.index]? = (if id = here then some hereOwner else owners[id.index]?) →
          (owners'[id.index]? = some owner ↔
            id ∈ hoist.trail.toList.take (i.1 + 1) ∧ hoist.Around id owner) by
        refine hstep _ ?_
        cases haround with
        | hoisted hsighting =>
          rw [sighting?] at hsighting
          simp only [hsighting]
          exact getElem?_insert_index ..
        | root hsighting =>
          rw [sighting?] at hsighting
          simp only [hsighting]
          exact getElem?_insert_index ..
        | slot hsighting hparent =>
          -- The holder is further up the trail, so its owner was entered before.
          obtain ⟨k, hlt, hk⟩ := h.earlier hi hsighting
          have hmem := mem_take_of_lt hlt hk
          rw [sighting?] at hsighting
          simp only [hsighting, (hsofar _ _).2 ⟨hmem, hparent⟩]
          exact getElem?_insert_index ..
      intro owners' howners'
      rw [howners', mem_take_succ hi]
      split
      · next heq =>
        subst heq
        rw [Option.some.injEq]
        refine ⟨?_, fun hor => haround.unique hor.2⟩
        rintro rfl
        exact ⟨.inr rfl, haround⟩
      · next hne =>
        rw [hsofar]
        exact and_congr_left fun _ => ⟨.inl, fun hor => hor.resolve_right hne⟩
  rw [hall, mem_take_size]
  exact ⟨fun hor => hor.2, fun haround => ⟨h.mem_trail.2 haround.met, haround⟩⟩

/-- The statement around a node is there. -/
theorem around_lt (h : Walked arena roots done agenda hoist)
    (hr : Rewrites arena roots names hoist) (haround : hoist.Around id owner) :
    owner < hoist.roots.size := by
  induction haround with
  | hoisted hsighting =>
    obtain ⟨k, hk⟩ := Array.getElem?_of_mem (h.again hsighting).1
    obtain ⟨_, decl, hdecl, _⟩ := hr.declared hk
    exact (Array.getElem?_eq_some_iff.1 hdecl).1
  | root hsighting =>
    have hroot := h.occurs_of_done (h.first_mem hsighting)
    have hlt := (List.getElem?_eq_some_iff.1 hroot).1
    rw [hr.roots_size]
    exact Nat.lt_add_right _ hlt
  | slot _ _ ih => exact ih

/-- One more reference adds its target to the statement around its holder. -/
private theorem mem_add {targets : Array Nat} {target other : Nat} :
    other ∈ (if targets.contains target then targets else targets.push target).toList ↔
      other ∈ targets.toList ∨ other = target := by
  split
  · next hmem =>
    refine ⟨.inl, fun hor => hor.elim (fun hother => hother) ?_⟩
    rintro rfl
    exact Array.mem_toList_iff.2 (Array.contains_iff_mem.1 hmem)
  · rw [Array.toList_push, List.mem_append, List.mem_singleton]

private theorem nodup_add {targets : Array Nat} {target : Nat} (h : targets.toList.Nodup) :
    (if targets.contains target then targets else targets.push target).toList.Nodup := by
  split
  · exact h
  · next hnew =>
    rw [Array.toList_push, List.nodup_append]
    refine ⟨h, by simp, ?_⟩
    rintro other hother _ hmem rfl
    rw [List.mem_singleton] at hmem
    subst hmem
    exact hnew (Array.contains_iff_mem.2 (Array.mem_toList_iff.1 hother))

/-- A statement depends on the declarations that the nodes in it refer to, each listed once. -/
theorem deps_spec (h : Walked arena roots done agenda hoist) :
    hoist.deps.size = hoist.roots.size ∧ ∀ (owner : Nat) targets,
      hoist.deps[owner]? = some targets → targets.toList.Nodup ∧ ∀ target,
        target ∈ targets.toList ↔
          ∃ holder, (holder, target) ∈ hoist.references ∧ hoist.Around holder owner := by
  have hentries (entry : NodeId × Nat) := @mem_take_size _ hoist.references entry
  simp only [← hentries]
  unfold deps
  -- After `i` steps the first `i` references are attributed.
  refine Array.foldl_induction (motive := fun i (deps : Array (Array Nat)) =>
    deps.size = hoist.roots.size ∧ ∀ (owner : Nat) targets,
      deps[owner]? = some targets → targets.toList.Nodup ∧ ∀ target,
        target ∈ targets.toList ↔ ∃ holder,
          (holder, target) ∈ hoist.references.toList.take i ∧ hoist.Around holder owner) ?_ ?_
  · refine ⟨Array.size_replicate, fun owner targets htargets => ?_⟩
    rw [Array.getElem?_replicate, Option.ite_none_right_eq_some] at htargets
    obtain rfl := Option.some.inj htargets.2
    simp
  · rintro i deps ⟨hsize, hsofar⟩
    have hi : hoist.references[i.1]? = some hoist.references[i] := Array.getElem?_eq_getElem i.2
    generalize hoist.references[i] = reference at hi
    obtain ⟨here, hereTarget⟩ := reference
    have hstep (owner target : Nat) : (∃ holder,
        (holder, target) ∈ hoist.references.toList.take (i.1 + 1) ∧ hoist.Around holder owner) ↔
        (∃ holder, (holder, target) ∈ hoist.references.toList.take i.1 ∧
          hoist.Around holder owner) ∨ (target = hereTarget ∧ hoist.Around here owner) := by
      simp only [mem_take_succ hi, Prod.mk.injEq, or_and_right, exists_or, and_assoc,
        exists_eq_left]
    simp only [hstep]
    cases howner : hoist.owners[here.index]? with
    | none =>
      -- A holder without an owner is in no statement.
      have hnot (owner : Nat) : ¬ hoist.Around here owner := by
        rw [← h.owners_eq_some_iff, howner]
        exact nofun
      simpa only [hnot, and_false, or_false] using ⟨hsize, hsofar⟩
    | some hereOwner =>
      have haround := h.owners_eq_some_iff.1 howner
      refine ⟨by rw [Array.size_modify, hsize], fun owner targets htargets => ?_⟩
      rw [Array.getElem?_modify] at htargets
      split at htargets
      · next heq =>
        -- The owner of the holder takes up the target.
        subst heq
        obtain ⟨former, hformer, rfl⟩ := Option.map_eq_some_iff.1 htargets
        obtain ⟨hnodup, hmem⟩ := hsofar _ _ hformer
        refine ⟨nodup_add hnodup, fun target => ?_⟩
        rw [mem_add, hmem]
        simp only [haround, and_true]
      · next hne =>
        obtain ⟨hnodup, hmem⟩ := hsofar _ _ htargets
        refine ⟨hnodup, fun target => ?_⟩
        have hnot : ¬ hoist.Around here owner := fun hother => hne (haround.unique hother)
        simp only [hmem, hnot, and_false, or_false]

/-- A statement depends on the declarations that the nodes in it refer to. -/
theorem mem_deps_iff (h : Walked arena roots done agenda hoist)
    (hr : Rewrites arena roots names hoist) {target : Nat} :
    target ∈ Schedule.edges hoist.deps owner ↔
      ∃ holder, (holder, target) ∈ hoist.references ∧ hoist.Around holder owner := by
  obtain ⟨hsize, hspec⟩ := h.deps_spec
  unfold Schedule.edges
  split
  · next targets htargets => exact (hspec owner targets htargets).2 target
  · next hnone =>
    refine iff_of_false List.not_mem_nil ?_
    rintro ⟨holder, _, haround⟩
    have hlt := h.around_lt hr haround
    rw [← hsize] at hlt
    rw [Array.getElem?_eq_getElem hlt] at hnone
    exact nomatch hnone

/-- No dependency is listed twice. -/
theorem deps_nodup (h : Walked arena roots done agenda hoist) (owner : Nat) :
    (Schedule.edges hoist.deps owner).Nodup := by
  unfold Schedule.edges
  split
  · next targets htargets => exact (h.deps_spec.2 owner targets htargets).1
  · exact List.nodup_nil

end Walked

end Semblance.Hoist
