import Semblance.Proofs.Hoist.Dependencies
import Semblance.Proofs.Lowering.Warnings

/-!
# What the dependencies of a statement are

The dependencies that hoisting lists for a statement are the references in its tree. They are found
by climbing: from the node that holds a reference to the node below which that was met first, and so
on, up to a hoisted node or a statement. A node may be hoisted long after references below it were
noted, so this is done at the end. On a graph with cycles the climb ends too, since each node comes
later on the trail than the one below which it was met.

## Key results

- `Walked.climb_eq`: climbing from a node ends, at the statement that is its owner
- `lower_deps`: the dependencies of a statement
-/

namespace Semblance

namespace Hoist

/-- Climb from a node to the statement around it, in a limited number of steps. There is none if the
    node was not met. -/
def climb (hoist : Hoist) : (steps : Nat) → NodeId → Except Fault (Option Nat)
  | 0, _ => .error .unfinished
  | steps + 1, id =>
    match hoist.sighting? id with
    | none => .ok none
    | some ⟨_, some promotion⟩ => .ok (some promotion.root)
    | some ⟨.root position, none⟩ => .ok (some position)
    | some ⟨.slot parent _, none⟩ => hoist.climb steps parent

variable {arena : Arena} {roots : List NodeId} {names : NameSupply} {hoist : Hoist}
  {done ahead : Agenda} {id : NodeId}

namespace Walked

/-- Climbing from a node of the trail takes no more steps than there are nodes up to it. -/
theorem climb_of_trail (h : Walked arena roots done ahead hoist) {k steps : Nat}
    (hk : hoist.trail[k]? = some id) (hsteps : k < steps) :
    ∃ owner, hoist.Around id owner ∧ hoist.climb steps id = .ok (some owner) := by
  -- The holder of a node is further up the trail.
  induction steps generalizing k id with
  | zero => omega
  | succ steps ih =>
    obtain ⟨⟨first, promotion?⟩, hsighting⟩ :=
      Option.isSome_iff_exists.1 (h.mem_trail.1 (Array.mem_of_getElem? hk))
    rw [climb, hsighting]
    cases promotion? with
    | some promotion => exact ⟨promotion.root, .hoisted hsighting, rfl⟩
    | none =>
      cases first with
      | root position => exact ⟨position, .root hsighting, rfl⟩
      | slot parent slot =>
        obtain ⟨k', hlt, hk'⟩ := h.earlier hk hsighting
        obtain ⟨owner, hparent, hclimb⟩ := ih hk' (by omega)
        exact ⟨owner, .slot hsighting hparent, hclimb⟩

/-- Climbing from a node ends, at the statement that is its owner. -/
theorem climb_eq (h : Walked arena roots done ahead hoist) (id : NodeId) :
    hoist.climb (hoist.trail.size + 1) id = .ok hoist.owners[id.index]? := by
  by_cases hmet : (hoist.sighting? id).isSome
  · obtain ⟨k, hk⟩ := Array.getElem?_of_mem (h.mem_trail.2 hmet)
    have hlt := (Array.getElem?_eq_some_iff.1 hk).1
    obtain ⟨owner, haround, hclimb⟩ := h.climb_of_trail hk (Nat.lt_succ_of_lt hlt)
    rw [hclimb, h.owners_eq_some_iff.2 haround]
  · have howner : hoist.owners[id.index]? = none :=
      Option.eq_none_iff_forall_ne_some.2 fun owner howner =>
        hmet (h.owners_eq_some_iff.1 howner).met
    rw [howner, climb, Option.not_isSome_iff_eq_none.1 hmet]

/-- Each reference is attributed to the statement to which climbing from its holder leads. -/
theorem mem_deps_of_reference (h : Walked arena roots done ahead hoist)
    (hr : Rewrites arena roots names hoist) (hmet : ∀ {id}, arena.Reaches roots id →
      (hoist.sighting? id).isSome) {holder : NodeId} {target : Nat}
    (hreference : (holder, target) ∈ hoist.references) :
    ∃ owner, hoist.climb (hoist.trail.size + 1) holder = .ok (some owner) ∧
      target ∈ Schedule.edges hoist.deps owner := by
  obtain ⟨hholder, _⟩ := (hr.references_iff holder target).1 hreference
  obtain ⟨k, hk⟩ := Array.getElem?_of_mem (h.mem_trail.2 (hmet hholder))
  have hlt := (Array.getElem?_eq_some_iff.1 hk).1
  obtain ⟨owner, haround, hclimb⟩ := h.climb_of_trail hk (Nat.lt_succ_of_lt hlt)
  exact ⟨owner, hclimb, (h.mem_deps_iff hr).2 ⟨holder, hreference, haround⟩⟩

end Walked

end Hoist

variable {arena : Arena} {roots : List NodeId} {names : NameSupply} {lowering : Lowering}

/-- A lowering has a list of dependencies for each of its statements. These are positions of added
    declarations, each of them listed once, and exactly those to which an added reference in the
    tree of the statement refers. They come from a walk after which climbing from any node ends at
    its owner, and each reference is attributed to the owner of its holder. -/
theorem lower_deps (hclosed : arena.Closed roots) (h : arena.lower roots names = .ok lowering) :
    lowering.hoisted.deps.size = lowering.hoisted.roots.size ∧
    (∀ (i : Nat) targets, lowering.hoisted.deps[i]? = some targets → targets.toList.Nodup ∧
      (∀ j ∈ targets, roots.length ≤ j ∧ j < lowering.hoisted.roots.size) ∧
      ∀ (j : Nat) source target, lowering.hoisted.roots[i]? = some source →
        lowering.hoisted.roots[j]? = some target →
        (j ∈ targets ↔ arena.RefersTo lowering.hoisted.arena source target)) ∧
    ∃ hoist, Hoist.walk (Hoist.allowance arena roots) (Hoist.agenda roots)
        { arena, roots := roots.toArray, names } = .ok hoist ∧
      lowering.hoisted = hoist.result ∧
      (∀ id, hoist.climb (hoist.trail.size + 1) id = .ok hoist.owners[id.index]?) ∧
      ∀ holder target, (holder, target) ∈ hoist.references →
        ∃ owner targets, hoist.climb (hoist.trail.size + 1) holder = .ok (some owner) ∧
          hoist.deps[owner]? = some targets ∧ target ∈ targets := by
  obtain ⟨hoisted, hhoist, hlowering⟩ := bind_eq_ok.1 h
  obtain ⟨hoist, hwalk, hresult⟩ := bind_eq_ok.1 hhoist
  obtain rfl := Except.ok.inj hresult
  obtain rfl := Except.ok.inj hlowering
  -- The walk ends with both of its invariants, from which all the rest is read off.
  obtain ⟨hr, done, hw⟩ := Hoist.walk_walked hclosed (.start hclosed)
    (Hoist.Walked.start arena roots names) hwalk
  have hunfolded := hw.unfolded hr
  have hedges {i : Nat} {targets : Array Nat} (htargets : hoist.deps[i]? = some targets) (j : Nat) :
      j ∈ Schedule.edges hoist.deps i ↔ j ∈ targets := by
    rw [Schedule.edges, htargets]
    exact Array.mem_toList_iff
  obtain ⟨hsize, hspec⟩ := hw.deps_spec
  refine ⟨hsize, fun i targets htargets => ⟨(hspec i targets htargets).1, ?_, ?_⟩,
    hoist, hwalk, rfl, hw.climb_eq, ?_⟩
  · intro j hj
    obtain ⟨_, hreference, _⟩ := (hspec i targets htargets).2 j |>.1 (Array.mem_toList_iff.2 hj)
    obtain ⟨_, _, promotion, hmem, rfl, _⟩ := (hr.references_iff ..).1 hreference
    exact hunfolded.promotion_root_lt hmem
  · intro j source target hi hj
    rw [← hedges htargets]
    exact hunfolded.mem_deps_iff_refersTo hw hclosed hi hj
  · intro holder target hreference
    obtain ⟨owner, hclimb, hedge⟩ := hw.mem_deps_of_reference hr hw.met hreference
    cases htargets : hoist.deps[owner]? with
    | none =>
      rw [Schedule.edges, htargets] at hedge
      exact nomatch hedge
    | some targets => exact ⟨owner, targets, hclimb, htargets, (hedges htargets target).1 hedge⟩

/-- Of two values that hold each other, the declaration of each depends on that of the other one,
    and refers to it. -/
theorem lower_deps_mutualReference :
    ∃ lowering, mutualReference.lower [⟨4⟩, ⟨5⟩] ∅ = .ok lowering ∧
      lowering.hoisted.deps = #[#[2], #[3], #[3], #[2]] ∧
      mutualReference.RefersTo lowering.hoisted.arena ⟨7⟩ ⟨11⟩ ∧
      mutualReference.RefersTo lowering.hoisted.arena ⟨11⟩ ⟨7⟩ ∧
      ¬ mutualReference.RefersTo lowering.hoisted.arena ⟨7⟩ ⟨7⟩ := by
  have hrun : (mutualReference.lower [⟨4⟩, ⟨5⟩] ∅).toOption.any (fun lowering =>
      decide (lowering.hoisted.deps = #[#[2], #[3], #[3], #[2]] ∧
        lowering.hoisted.roots = #[⟨4⟩, ⟨5⟩, ⟨7⟩, ⟨11⟩])) = true := by
    decide +kernel
  obtain ⟨lowering, hlower, hrun⟩ := exists_of_any hrun
  obtain ⟨hdeps, hroots⟩ := of_decide_eq_true hrun
  obtain ⟨_, hlists, _⟩ := lower_deps mutualReference_closed hlower
  have hleft := (hlists 2 #[3] (by rw [hdeps]; rfl)).2.2
  have hright := (hlists 3 #[2] (by rw [hdeps]; rfl)).2.2
  refine ⟨lowering, hlower, hdeps, ?_, ?_, ?_⟩
  · exact (hleft 3 ⟨7⟩ ⟨11⟩ (by rw [hroots]; rfl) (by rw [hroots]; rfl)).1 (by simp)
  · exact (hright 2 ⟨11⟩ ⟨7⟩ (by rw [hroots]; rfl) (by rw [hroots]; rfl)).1 (by simp)
  · exact mt (hleft 2 ⟨7⟩ ⟨7⟩ (by rw [hroots]; rfl) (by rw [hroots]; rfl)).2 (by simp)

end Semblance
