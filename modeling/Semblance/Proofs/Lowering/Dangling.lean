import Semblance.Proofs.Hoist.Passage
import Semblance.Proofs.Lowering.Forest

/-!
# Ids without a node

An id that is reached and has no node is refused when a walk comes to it, if it has no node then.
But hoisting allocates nodes, and these may take up the id before the walk comes to it. Then the
walk goes on with a reference or a part of a declaration that it has put in itself, and the lowering
may succeed. That takes a node which occurs twice, and an id that is not too far beyond the arena.

## Key results

- `Grown.visit_eq_dangling`: what a step refuses as dangling
- `Passes.unshared`: where no node occurs twice, a walk leaves the arena as it is
- `lower_dangling`: when an id without a node is refused, and when it is not
-/

namespace Semblance

namespace Hoist

variable {arena : Arena} {roots : List NodeId} {names : NameSupply} {hoist hoist' : Hoist}
  {ahead rest next : Agenda} {here id : NodeId} {place : Occurrence} {fault : Fault}

/-- What is refused for its kind is never refused as dangling. -/
theorem kindName_ne_dangling (node : Node) : node.kindName ≠ "dangling" := by
  cases node <;> simp [Node.kindName]

/-- A step refuses as dangling the id that it visits, if that has no node. -/
theorem Grown.visit_eq_dangling (h : Grown arena ((here, place) :: rest) hoist) :
    hoist.visit here place = .error (.unsupportedNode id "dangling") ↔
      here = id ∧ hoist.arena.node? id = none := by
  constructor
  · intro hstep
    rcases h.visit_error hstep with ⟨hnone, heq⟩ | ⟨_, ⟨other, node, heq⟩ | ⟨_, heq⟩⟩
    · obtain ⟨rfl, _⟩ := Fault.unsupportedNode.inj heq
      exact ⟨rfl, hnone⟩
    · exact absurd (Fault.unsupportedNode.inj heq).2.symm (kindName_ne_dangling node)
    · exact nomatch heq
  · rintro ⟨rfl, hnone⟩
    refine bind_eq_error.2 (.inl ?_)
    rw [placed, hnone]

/-! ### Walks that hoist nothing -/

/-- A walk that has hoisted nothing so far has visited occurrences of different nodes, and the arena
    is as it was. -/
structure Unshared (arena : Arena) (roots : List NodeId) (ahead : Agenda) (hoist : Hoist) :
    Prop where
  arena_eq : hoist.arena = arena
  ahead_occurs : ∀ {id place}, (id, place) ∈ ahead → arena.Occurs roots id place
  first_occurs : ∀ {id first promotion?}, hoist.sighting? id = some ⟨first, promotion?⟩ →
    arena.Occurs roots id first
  first_visited : ∀ {id first promotion?}, hoist.sighting? id = some ⟨first, promotion?⟩ →
    first ∉ ahead.map (·.2)
  places_nodup : (ahead.map (·.2)).Nodup

/-- Nothing is visited and nothing hoisted at the start. -/
theorem Unshared.start (arena : Arena) (roots : List NodeId) (names : NameSupply) :
    Unshared arena roots (agenda roots) { arena, roots := roots.toArray, names } := by
  have hw := Walked.start arena roots names
  have hunmet := sighting?_start arena roots names
  exact ⟨rfl, fun hmem => (hw.occurs_iff.1 (.inr hmem)).1, by simp [hunmet], by simp [hunmet],
    hw.places_nodup⟩

/-- Meeting a node hoists nothing. -/
theorem Unshared.meet (h : Unshared arena roots ((id, place) :: rest) hoist)
    (hgrown : Grown arena ((id, place) :: rest) hoist) (hunmet : hoist.sighting? id = none)
    {node : Node} (hnode : hoist.arena.node? id = some node) :
    Unshared arena roots (below id node ++ rest) (hoist.meet id place) := by
  have hhead := h.ahead_occurs (List.mem_cons_self ..)
  have hsightings := sighting?_meet hoist id place
  obtain ⟨hplace, hrest⟩ := List.nodup_cons.1 h.places_nodup
  -- A place whose holder was met is none of those below the node.
  have hnot_below {place' : Occurrence} (hopened : hoist.Opened place') :
      place' ∉ (below id node).map (·.2) := by
    intro hmem
    obtain ⟨⟨child, _⟩, hbelow, rfl⟩ := List.mem_map.1 hmem
    obtain ⟨slot, rfl, _⟩ := mem_below.1 hbelow
    exact not_opened_slot hunmet slot hopened
  constructor
  case arena_eq => exact h.arena_eq
  case ahead_occurs =>
    intro other place' hmem
    rcases List.mem_append.1 hmem with hbelow | hmem
    · obtain ⟨slot, rfl, hchild⟩ := mem_below.1 hbelow
      rw [h.arena_eq] at hnode
      exact ⟨hhead.reaches, Arena.child?_eq_some.2 ⟨node, hnode, hchild⟩⟩
    · exact h.ahead_occurs (List.mem_cons_of_mem _ hmem)
  case first_occurs =>
    intro other first promotion? hsighting
    rw [hsightings] at hsighting
    split at hsighting
    · next heq =>
      obtain ⟨rfl, _⟩ := Sighting.mk.inj (Option.some.inj hsighting)
      exact heq ▸ hhead
    · exact h.first_occurs hsighting
  case first_visited =>
    intro other first promotion? hsighting
    rw [hsightings] at hsighting
    rw [List.map_append, List.mem_append, not_or]
    split at hsighting
    · obtain ⟨rfl, _⟩ := Sighting.mk.inj (Option.some.inj hsighting)
      exact ⟨hnot_below (hgrown.opened (List.mem_cons_self ..)), hplace⟩
    · exact ⟨hnot_below (hgrown.first_opened hsighting),
        fun hmem => h.first_visited hsighting (List.mem_cons_of_mem _ hmem)⟩
  case places_nodup =>
    rw [List.map_append, List.nodup_append]
    refine ⟨places_below_nodup id node, hrest, ?_⟩
    rintro place' hbelow _ hmem rfl
    obtain ⟨⟨other, _⟩, hahead, rfl⟩ := List.mem_map.1 hmem
    exact hnot_below (hgrown.opened (List.mem_cons_of_mem _ hahead)) hbelow

/-- A walk leaves the arena as it is, unless a node that is there occurs twice. -/
theorem Passes.unshared (h : Passes arena roots names ahead hoist) :
    (∃ id, arena.Shared roots id ∧ (arena.node? id).isSome) ∨
      Unshared arena roots ahead hoist := by
  induction h with
  | start => exact .inr (.start arena roots names)
  | @step id place rest next hoist hoist' hpasses hstep ih =>
    rcases ih with hshared | hfree
    · exact .inl hshared
    rcases (hpasses.grown.visit hstep).2.2 with ⟨hmet, _⟩ | ⟨hunmet, rfl, node, hnode, rfl⟩
    · -- A node that was met before occurs here and where it was met first.
      obtain ⟨⟨first, promotion?⟩, hsighting⟩ := Option.isSome_iff_exists.1 hmet
      obtain ⟨node, hnode, _⟩ := visit_eq_ok.1 hstep
      refine .inl ⟨id, ⟨first, place, ?_, hfree.first_occurs hsighting,
        hfree.ahead_occurs (List.mem_cons_self ..)⟩, by rw [← hfree.arena_eq, hnode]; rfl⟩
      rintro rfl
      exact hfree.first_visited hsighting (List.mem_cons_self ..)
    · exact .inr (hfree.meet hpasses.grown hunmet hnode)

/-- A walk puts in four nodes at most with each step. -/
theorem Passes.size_le (h : Passes arena roots names ahead hoist) :
    hoist.arena.size + 4 * effort arena ahead hoist ≤ arena.size + 4 * allowance arena roots := by
  induction h with
  | start =>
    have heffort := effort_start arena roots names
    show arena.size + _ ≤ _
    omega
  | step hpasses hstep ih =>
    have heffort := visit_effort hpasses.grown hstep
    have hsize := (hpasses.grown.visit hstep).2.1
    omega

end Hoist

variable {arena : Arena} {roots : List NodeId}

/-- An id that is reached and has no node is refused exactly if a walk comes to it while it lies
    beyond all nodes that hoisting has put in so far. Where a lowering succeeds, a reference or a
    part of a declaration was put in there before the walk came to it, for which a node has to occur
    twice. So ids that lie far enough beyond the arena always make a lowering fail. A lowering ends
    in any case. -/
theorem lower_dangling {id : NodeId} (names : NameSupply) (hid : arena.Reaches roots id)
    (hnone : arena.node? id = none) :
    arena.lower roots names ≠ .error .unfinished ∧
    (arena.lower roots names = .error (.unsupportedNode id "dangling") ↔
      ∃ place rest hoist, Hoist.Passes arena roots names ((id, place) :: rest) hoist ∧
        arena.size + 2 * hoist.promotions.size + hoist.references.size ≤ id.index) ∧
    (∀ lowering, arena.lower roots names = .ok lowering →
      id.index < lowering.hoisted.arena.size ∧
      (∃ place rest hoist node, Hoist.Passes arena roots names ((id, place) :: rest) hoist ∧
        hoist.arena.node? id = some node ∧ hoist.Made node) ∧
      ∃ shared, arena.Shared roots shared ∧ (arena.node? shared).isSome) ∧
    (arena.size + 4 * Hoist.allowance arena roots ≤ id.index →
      ∃ fault, arena.lower roots names = .error fault) := by
  have hge : arena.size ≤ id.index := Array.getElem?_eq_none_iff.1 hnone
  -- A lowering that succeeds comes from a state in which the id was met.
  have hmet {lowering : Lowering} (h : arena.lower roots names = .ok lowering) :
      ∃ hoist, Hoist.Passes arena roots names [] hoist ∧ lowering.hoisted = hoist.result ∧
        (hoist.sighting? id).isSome := by
    obtain ⟨hoisted, hhoist, hresult⟩ := bind_eq_ok.1 h
    obtain ⟨hoist, hpasses, rfl⟩ := Hoist.passes_of_hoist_eq_ok hhoist
    obtain rfl := Except.ok.inj hresult
    exact ⟨hoist, hpasses, rfl, hpasses.met_of_reaches hid⟩
  refine ⟨?_, ?_, ?_, ?_⟩
  · rw [Ne, lower_eq_error_iff]
    exact Hoist.hoist_ne_unfinished arena roots names
  · rw [lower_eq_error_iff, Hoist.hoist_eq_error_iff]
    constructor
    · rintro ⟨here, place, rest, hoist, hpasses, hstep⟩
      obtain ⟨rfl, hmissing⟩ := hpasses.grown.visit_eq_dangling.1 hstep
      exact ⟨place, rest, hoist, hpasses,
        hpasses.grown.size_eq ▸ Array.getElem?_eq_none_iff.1 hmissing⟩
    · rintro ⟨place, rest, hoist, hpasses, hbeyond⟩
      rw [← hpasses.grown.size_eq] at hbeyond
      exact ⟨id, place, rest, hoist, hpasses,
        hpasses.grown.visit_eq_dangling.2 ⟨rfl, Array.getElem?_eq_none_iff.2 hbeyond⟩⟩
  · intro lowering h
    obtain ⟨hoist, hpasses, hhoisted, hmet⟩ := hmet h
    have hlt := hpasses.grown.met_lt hmet
    refine ⟨by rwa [hhoisted], ?_, ?_⟩
    · obtain ⟨place, rest, former, node, hformer, hunmet, hnode⟩ := hpasses.exists_of_met hmet
      exact ⟨place, rest, former, node, hformer, hnode, hformer.grown.made hunmet hge hnode⟩
    · refine hpasses.unshared.resolve_right fun hfree => ?_
      rw [hfree.arena_eq] at hlt
      exact Nat.not_lt.2 hge hlt
  · intro hfar
    cases h : arena.lower roots names with
    | error fault => exact ⟨fault, rfl⟩
    | ok lowering =>
      obtain ⟨hoist, hpasses, _, hmet⟩ := hmet h
      have hlt := hpasses.grown.met_lt hmet
      have hsize := hpasses.size_le
      omega

/-- A list that ends in an id without a node, after two occurrences of an object. -/
def danglingAfter : Arena where
  nodes := #[.object #[], .array #[some ⟨0⟩, some ⟨0⟩, some ⟨5⟩], .exprStmt ⟨1⟩]
  hints := #[some "obj", none, none]

/-- The same list with the id without a node in front. -/
def danglingBefore : Arena where
  nodes := #[.object #[], .array #[some ⟨5⟩, some ⟨0⟩, some ⟨0⟩], .exprStmt ⟨1⟩]
  hints := #[some "obj", none, none]

/-- An id without a node that comes after a shared node is let through: it becomes that of the first
    reference. -/
theorem lower_danglingAfter : danglingAfter.Reaches [⟨2⟩] ⟨5⟩ ∧ danglingAfter.node? ⟨5⟩ = none ∧
    ∃ lowering, danglingAfter.lower [⟨2⟩] ∅ = .ok lowering := by
  have hok : (danglingAfter.lower [⟨2⟩] ∅).isOk = true := by decide +kernel
  have hlist : danglingAfter.child? ⟨2⟩ 0 = some ⟨1⟩ := rfl
  have hlast : danglingAfter.child? ⟨1⟩ 2 = some ⟨5⟩ := rfl
  exact ⟨.child (.child (.root (List.mem_singleton_self _)) hlist) hlast, rfl, isOk_iff.1 hok⟩

/-- In front of the shared node the id is refused, since nothing was put in by then. -/
theorem lower_dangling_danglingBefore :
    danglingBefore.lower [⟨2⟩] ∅ = .error (.unsupportedNode ⟨5⟩ "dangling") ∧
      ∃ place rest hoist, Hoist.Passes danglingBefore [⟨2⟩] ∅ ((⟨5⟩, place) :: rest) hoist ∧
        3 + 2 * hoist.promotions.size + hoist.references.size ≤ 5 := by
  have hfault : (danglingBefore.lower [⟨2⟩] ∅).map (fun _ => ()) =
      .error (.unsupportedNode ⟨5⟩ "dangling") := by decide +kernel
  have hlist : danglingBefore.child? ⟨2⟩ 0 = some ⟨1⟩ := rfl
  have hfirst : danglingBefore.child? ⟨1⟩ 0 = some ⟨5⟩ := rfl
  have hlower : danglingBefore.lower [⟨2⟩] ∅ = .error (.unsupportedNode ⟨5⟩ "dangling") := by
    cases hlower : danglingBefore.lower [⟨2⟩] ∅ with
    | error fault => rw [hlower] at hfault; exact congrArg _ (Except.error.inj hfault)
    | ok lowering => rw [hlower] at hfault; exact nomatch hfault
  obtain ⟨_, hrefused, _⟩ :=
    lower_dangling ∅ (.child (.child (.root (List.mem_singleton_self _)) hlist) hfirst) rfl
  exact ⟨hlower, hrefused.1 hlower⟩

end Semblance
