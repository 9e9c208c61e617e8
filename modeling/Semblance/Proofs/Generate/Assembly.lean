import Semblance.Proofs.Generate.Completion

/-!
# What the rules of generation put together

Each rule completes what it remembers if its visits do. The containers that a rule fills are its own,
and its visits leave them alone, so what was put into them stays there.

## Key results

- `completes_object`, `completes_denseArray`, `completes_union`: aggregates
- `Filling`, `completes_function`: the body of a function is filled part by part
- `completing_nodeWithin`: all requests for shapes complete what they remember
-/

namespace Semblance

namespace Gen

/-- Requests for shapes complete what they remember. -/
structure Completing (settings : Settings) (graph : ShapeGraph) (visit : Visit) : Prop
    extends Visits graph visit where
  completes : ∀ {id builder node builder'}, visit id builder = (.ok node, builder') →
    builder.Completes settings graph (graph.Needs settings id) [] builder'

variable {settings : Settings} {graph : ShapeGraph} {builder builder' : Builder} {visit : Visit}
  {id : ShapeId} {own : List NodeId} {node : NodeId} {region : ShapeId → Prop}

/-- What is needed for a shape that a rule asks for is needed for the shape of the rule. -/
theorem Completing.asked (h : Completing settings graph visit) {value : ShapeId}
    (hmem : value ∈ graph.requests settings id) (heq : visit value builder = (.ok node, builder')) :
    builder.Completes settings graph (graph.Needs settings id) [] builder' :=
  (h.completes heq).mono (fun _ hneeds => .head hmem hneeds) (List.nil_subset _)

/-- A visit to a shape that the rule asks for stays within what is needed for the shape of the
    rule. -/
theorem Completing.within (h : Completing settings graph visit) {value : ShapeId}
    (hmem : value ∈ graph.requests settings id) (heq : visit value builder = (.ok node, builder')) :
    builder.Completes settings graph (graph.Needs settings id) own builder' :=
  (h.asked hmem heq).mono (fun _ hneeds => hneeds) (List.nil_subset _)

/-! ### Runs -/

/-- A generation that looks something up first. -/
theorem checked_bind_eq_ok {access : Except OutOfRange α} {next : α → Gen β} {result : β}
    (h : (checked access >>= next) builder = (.ok result, builder')) :
    ∃ value, access = .ok value ∧ next value builder = (.ok result, builder') := by
  cases access with
  | error failed => exact nomatch congrArg Prod.fst h
  | ok value => exact ⟨value, rfl, h⟩

/-- A rule that makes a node, remembers it for the shape and goes on to fill containers that were
    not there before. -/
theorem completes_made {arena : Arena} {made : Node} {hint : String} {next : NodeId → Gen NodeId}
    (hregion : region id) (harena : builder.arena.Spares [] arena)
    (hown : ∀ container ∈ own, builder.arena.size ≤ container.index)
    (h : (do
      let node ← onArena (Arena.pushHinted made hint)
      remember id node
      next node) { builder with arena } = (.ok node, builder'))
    (hnext : ∀ {builder₂ : Builder},
      (∀ {other former}, arena.node? other = some former →
        builder₂.arena.node? other = some former) →
      builder₂.arena.node? ⟨arena.size⟩ = some made →
      next ⟨arena.size⟩ builder₂ = (.ok node, builder') →
      builder₂.Completes settings graph region own builder' ∧
        builder'.Renders settings graph builder.arena.size id ⟨arena.size⟩) :
    builder.Completes settings graph region own' builder' := by
  have hpushed : arena.Spares [] (Arena.pushHinted made hint arena).2 :=
    Arena.spares_pushHinted made hint arena
  obtain ⟨builder₂, hbuilder₂⟩ : ∃ builder₂ : Builder, builder₂ = { builder with
      arena := (Arena.pushHinted made hint arena).2
      nodes := builder.nodes.insert id.index ⟨arena.size⟩ } := ⟨_, rfl⟩
  have hrun : next ⟨arena.size⟩ builder₂ = (.ok node, builder') := hbuilder₂ ▸ h
  have hmade : builder₂.arena = (Arena.pushHinted made hint arena).2 := by rw [hbuilder₂]
  obtain ⟨hcompletes, hrenders⟩ := hnext
    (fun hformer => by rw [hmade]; exact Arena.node?_push_of_node? hformer made)
    (by rw [hmade]; exact Arena.node?_push_self made arena) hrun
  rw [hbuilder₂] at hcompletes
  exact hcompletes.remembered (harena.trans hpushed) hown (.inr ⟨hregion, hrenders⟩)

/-! ### Aggregates -/

/-- An entry of an object is made once its value is there. -/
theorem completes_addEntry (hvisit : Completing settings graph visit) {object : NodeId}
    {kind : EntryKind} {binding : String × ShapeId}
    (hmem : binding.2 ∈ graph.requests settings id) (hobject : object.index < builder.arena.size)
    (h : addEntry visit object kind binding builder = (.ok ⟨⟩, builder')) :
    builder.Completes settings graph (graph.Needs settings id) [object] builder' := by
  obtain ⟨value, builder₁, hvalue, h⟩ := run_bind_eq_ok h
  refine (hvisit.within hmem hvalue).trans ?_ (by simpa using hobject)
  exact (forgets_onArena _).completes (advancing_onArena ((Arena.spares_push _ _).trans
    (Arena.spares_appendEntry List.mem_cons_self _))) h

/-- The entries of an object are put together one by one. -/
theorem completes_object (hvisit : Completing settings graph visit) {shape : Shape}
    {entries : Aggregate} (hid : graph.shape? id = some shape)
    (hentries : shape.entries? = some entries)
    (h : object graph visit id entries builder = (.ok node, builder')) :
    builder.Completes settings graph (graph.Needs settings id) own builder' := by
  rw [object_eq] at h
  obtain ⟨label, _, h⟩ := checked_bind_eq_ok h
  have hown : ∀ container ∈ [builder.next], builder.arena.size ≤ container.index :=
    fun container hmem => List.mem_singleton.1 hmem ▸ Nat.le_refl _
  refine completes_made .refl .rfl hown h fun {builder₂} _ hmade hadd => ?_
  obtain ⟨_, builder₃, hadded, hanswer⟩ := run_bind_eq_ok hadd
  obtain ⟨rfl, rfl⟩ := pure_eq_ok hanswer
  have hsize := Arena.lt_size_of_node? hmade
  -- The object is filled entry by entry; other objects on the way are filled by their own rules.
  have hitem : ∀ entry ∈ entries.entryList, ∀ {done later later'},
      (builder₂.Completes settings graph (graph.Needs settings id) [builder.next] later ∧
        later.Filled builder.next done) →
      addEntry visit builder.next entry.1 entry.2 later = (.ok ⟨⟩, later') →
      builder₂.Completes settings graph (graph.Needs settings id) [builder.next] later' ∧
        later'.Filled builder.next (done ++ [entry]) := by
    intro entry hmem done later later' ⟨hcompletes, hfilled⟩ hadd
    have hasked : entry.2.2 ∈ graph.requests settings id := by
      rw [ShapeGraph.requests_of_entries hid hentries]
      exact List.mem_map_of_mem hmem
    have hlater := Nat.lt_of_lt_of_le hsize hcompletes.arena.size
    exact ⟨hcompletes.trans (completes_addEntry hvisit hasked hlater hadd)
      fun container hcontainer => List.mem_singleton.1 hcontainer ▸ hsize,
      filled_addEntry hvisit.toVisits hfilled hadd⟩
  obtain ⟨hcompletes, hfilled⟩ := forM_ok _ hitem hadded ⟨.rfl, #[], hmade, .nil⟩
  exact ⟨hcompletes, .object hid hentries (Nat.le_refl _) hfilled⟩

/-- An array literal is as long as its last element needs. -/
theorem lt_foldl_max (elements : List (Nat × ShapeId)) (start : Nat) :
    start ≤ elements.foldl (fun length element => max length (element.1 + 1)) start ∧
      ∀ element ∈ elements,
        element.1 < elements.foldl (fun length element => max length (element.1 + 1)) start := by
  induction elements generalizing start with
  | nil => exact ⟨Nat.le_refl _, nofun⟩
  | cons first rest ih =>
    obtain ⟨hstart, hrest⟩ := ih (max start (first.1 + 1))
    refine ⟨Nat.le_trans (Nat.le_max_left _ _) hstart, fun element hmem => ?_⟩
    rcases List.mem_cons.1 hmem with rfl | hmem
    · exact Nat.lt_of_lt_of_le (Nat.lt_succ_self _) (Nat.le_trans (Nat.le_max_right _ _) hstart)
    · exact hrest element hmem

/-- Below the length there is an element at every index or beyond it. -/
theorem exists_of_lt_foldl_max {elements : List (Nat × ShapeId)} {start index : Nat}
    (h : index < elements.foldl (fun length element => max length (element.1 + 1)) start) :
    index < start ∨ ∃ element ∈ elements, index ≤ element.1 := by
  induction elements generalizing start with
  | nil => exact .inl h
  | cons first rest ih =>
    rcases ih h with hstart | ⟨element, hmem, hle⟩
    · have hmax : index < max start (first.1 + 1) := hstart
      rcases lt_max_iff.1 hmax with hlt | hlt
      · exact .inl hlt
      · exact .inr ⟨first, List.mem_cons_self, Nat.le_of_lt_succ hlt⟩
    · exact .inr ⟨element, List.mem_cons_of_mem _ hmem, hle⟩

/-- The slots of an array hold the elements at these indices, and nothing else. A later element may
    have taken the place of an earlier one. -/
structure Holds (builder : Builder) (slots : Array (Option NodeId))
    (elements : List (Nat × ShapeId)) : Prop where
  element : ∀ element ∈ elements, ∃ other ∈ elements, other.1 = element.1 ∧
    ∃ value, (other.2, .ok value) ∈ builder.visits ∧ slots[element.1]? = some (some value)
  hole : ∀ index value, slots[index]? = some (some value) →
    ∃ element ∈ elements, element.1 = index

/-- Slots that are all holes hold no elements. -/
theorem holds_replicate (builder : Builder) (length : Nat) :
    Holds builder (Array.replicate length none) [] where
  element _ hmem := nomatch hmem
  hole index value hslot := by
    rw [Array.getElem?_replicate] at hslot
    split at hslot <;> cases hslot

/-- A further element is put in its slot, and it takes the place of an earlier one. -/
theorem holds_setIfInBounds {slots : Array (Option NodeId)} {elements : List (Nat × ShapeId)}
    (h : Holds builder slots elements) (hvisits : ∀ visit ∈ builder.visits, visit ∈ builder'.visits)
    {element : Nat × ShapeId} {value : NodeId} (hvalue : (element.2, .ok value) ∈ builder'.visits)
    (hlt : element.1 < slots.size) :
    Holds builder' (slots.setIfInBounds element.1 (some value)) (elements ++ [element]) where
  element former hmem := by
    rw [Array.getElem?_setIfInBounds]
    by_cases heq : element.1 = former.1
    · exact ⟨element, List.mem_append_right _ List.mem_cons_self, heq, value, hvalue,
        by rw [if_pos heq, if_pos (heq ▸ hlt)]⟩
    · -- An element with another index is one of the earlier ones.
      have hmem : former ∈ elements := by
        rcases List.mem_append.1 hmem with hmem | hmem
        · exact hmem
        · exact absurd (congrArg Prod.fst (List.mem_singleton.1 hmem)).symm heq
      obtain ⟨other, hother, hindex, value', hvisit, hslot⟩ := h.element former hmem
      exact ⟨other, List.mem_append_left _ hother, hindex, value', hvisits _ hvisit,
        by rw [if_neg heq, hslot]⟩
  hole index value' hslot := by
    by_cases heq : element.1 = index
    · exact ⟨element, List.mem_append_right _ List.mem_cons_self, heq⟩
    · rw [Array.getElem?_setIfInBounds, if_neg heq] at hslot
      obtain ⟨former, hmem, hindex⟩ := h.hole index value' hslot
      exact ⟨former, List.mem_append_left _ hmem, hindex⟩

/-- The elements of an array literal are put together before they become its elements. -/
theorem completes_denseArray (hvisit : Completing settings graph visit) {entries : Aggregate}
    {elements : List (Nat × ShapeId)} (hid : graph.shape? id = some (.array entries false))
    (helements : entries.elements? = some elements)
    (h : denseArray graph visit id elements builder = (.ok node, builder')) :
    builder.Completes settings graph (graph.Needs settings id) own builder' := by
  obtain ⟨label, _, h⟩ := checked_bind_eq_ok h
  have hown : ∀ container ∈ [builder.next], builder.arena.size ≤ container.index :=
    fun container hmem => List.mem_singleton.1 hmem ▸ Nat.le_refl _
  refine completes_made .refl .rfl hown h fun {builder₂} _ hmade hrest => ?_
  obtain ⟨slots, builder₃, hslots, hrest⟩ := run_bind_eq_ok hrest
  obtain ⟨_, builder₄, hfill, hanswer⟩ := run_bind_eq_ok hrest
  obtain ⟨rfl, rfl⟩ := pure_eq_ok hanswer
  have hlength := lt_foldl_max elements 0
  obtain ⟨length, hfold⟩ : ∃ length,
      length = elements.foldl (fun length element => max length (element.1 + 1)) 0 := ⟨_, rfl⟩
  rw [← hfold] at hlength hslots
  have helements' : (Shape.array entries false).elements? = some elements := helements
  have hitem : ∀ element ∈ elements, ∀ {done slots slots' later later'},
      (builder₂.Completes settings graph (graph.Needs settings id) [] later ∧
        slots.size = length ∧ Holds later slots done) →
      (do
        let value ← visit element.2
        return slots.setIfInBounds element.1 (some value) : Gen _) later = (.ok slots', later') →
      builder₂.Completes settings graph (graph.Needs settings id) [] later' ∧
        slots'.size = length ∧ Holds later' slots' (done ++ [element]) := by
    intro element hmem done slots slots' later later' ⟨hcompletes, hsize, hholds⟩ hset
    obtain ⟨value, _, hvalue, hset⟩ := run_bind_eq_ok hset
    obtain ⟨rfl, rfl⟩ := pure_eq_ok hset
    have hasked : element.2 ∈ graph.requests settings id := by
      rw [ShapeGraph.requests_of_elements hid helements']
      exact List.mem_map_of_mem hmem
    have hvisited := hvisit.asked hasked hvalue
    exact ⟨hcompletes.andThen hvisited, Array.size_setIfInBounds.trans hsize,
      holds_setIfInBounds hholds hvisited.visits (hvisit.noted hvalue)
        (hsize ▸ hlength.2 element hmem)⟩
  obtain ⟨hcompletes, hsize, hholds⟩ := foldlM_ok _ hitem hslots
    ⟨.rfl, Array.size_replicate, holds_replicate builder₂ length⟩
  -- The visits have left the array alone, so it is filled now.
  have harray := hcompletes.arena.node?_eq hmade rfl (.inl List.not_mem_nil)
  obtain ⟨_, rfl⟩ := onArena_eq_ok hfill
  refine ⟨(hcompletes.mono (fun _ h => h) (List.nil_subset _)).trans
    (Builder.Same.completes ⟨rfl, rfl, rfl, rfl, rfl⟩ ?_ fun _ h => h) ?_, .array hid
      helements' (Nat.le_refl _) ⟨slots, ?_, fun element hmem => ?_, hholds.hole, fun index hlt => ?_⟩⟩
  · exact Arena.spares_modifyNode fun former hformer => .inr (.inr ⟨List.mem_singleton.2 rfl,
      by rw [← Option.some.inj (harray.symm.trans hformer)]; rfl⟩)
  · exact fun container hcontainer =>
      List.mem_singleton.1 hcontainer ▸ Arena.lt_size_of_node? hmade
  · exact (Arena.node?_modifyNode ..).trans (by rw [if_pos rfl, harray]; rfl)
  · obtain ⟨other, hother, heq, value, hvalue, hslot⟩ := hholds.element element hmem
    obtain rfl := eq_of_elements? helements hmem hother heq
    exact ⟨value, hvalue, hslot⟩
  · rw [hsize, hfold] at hlt
    exact (exists_of_lt_foldl_max hlt).resolve_left (Nat.not_lt_zero index)

/-- An array that cannot be rebuilt as a literal is rebuilt as an object. -/
theorem completes_array (hvisit : Completing settings graph visit) {entries : Aggregate}
    {degraded : Bool} (hid : graph.shape? id = some (.array entries degraded))
    (h : array graph visit id entries degraded builder = (.ok node, builder')) :
    builder.Completes settings graph (graph.Needs settings id) own builder' := by
  unfold array at h
  split at h
  · next hdegraded =>
    exact completes_object hvisit hid (by simp [Shape.entries?, Shape.elements?, hdegraded]) h
  · next hdegraded =>
    obtain rfl := Bool.eq_false_iff.2 hdegraded
    cases helements : entries.elements? with
    | some elements =>
      rw [helements] at h
      exact completes_denseArray hvisit hid helements h
    | none =>
      rw [helements] at h
      exact completes_object hvisit hid (by simp [Shape.entries?, Shape.elements?, helements]) h

/-- The members of a union are asked for one after the other. -/
theorem completes_members (hvisit : Completing settings graph visit) {members : List ShapeId}
    (hasked : ∀ member ∈ members, member ∈ graph.requests settings id) {operands : List NodeId}
    (h : members.mapM visit builder = (.ok operands, builder')) :
    builder.Completes settings graph (graph.Needs settings id) [] builder' ∧
      List.Forall₂ (fun member operand => (member, .ok operand) ∈ builder'.visits) members
        operands := by
  have hitem : ∀ member ∈ members, ∀ {done operands operand later later'},
      (builder.Completes settings graph (graph.Needs settings id) [] later ∧
        List.Forall₂ (fun member operand => (member, .ok operand) ∈ later.visits) done operands) →
      visit member later = (.ok operand, later') →
      builder.Completes settings graph (graph.Needs settings id) [] later' ∧
        List.Forall₂ (fun member operand => (member, .ok operand) ∈ later'.visits)
          (done ++ [member]) (operands ++ [operand]) := by
    intro member hmem done operands operand later later' ⟨hcompletes, hnoted⟩ hoperand
    have hvisited := hvisit.asked (hasked member hmem) hoperand
    refine ⟨hcompletes.andThen hvisited, ?_⟩
    exact List.rel_append (hnoted.imp fun _ _ hmem => hvisited.visits _ hmem)
      (.cons (hvisit.noted hoperand) .nil)
  exact mapM_ok _ hitem h ⟨.rfl, .nil⟩

/-- The members of a union are joined when they are all there, unless one of them has done so. -/
theorem completes_union (hvisit : Completing settings graph visit) {members : List ShapeId}
    (hid : graph.shape? id = some (.union members))
    (h : union visit id members builder = (.ok node, builder')) :
    builder.Completes settings graph (graph.Needs settings id) own builder' := by
  have hasked {member : ShapeId} (hmem : member ∈ members) :
      member ∈ graph.requests settings id := by
    rwa [ShapeGraph.requests_union hid]
  match members with
  | [] => exact (forgets_onArena _).completes (advancing_allocation Arena.allocates_undefined) h
  | [only] => exact hvisit.within (hasked List.mem_cons_self) h
  | first :: second :: rest =>
    obtain ⟨head, builder₁, hhead, h⟩ := run_bind_eq_ok h
    obtain ⟨operands, builder₂, hoperands, h⟩ := run_bind_eq_ok h
    obtain ⟨known, builder₃, hknown, h⟩ := run_bind_eq_ok h
    obtain ⟨rfl, rfl⟩ := known?_eq_ok hknown
    have hfirst := hvisit.asked (hasked List.mem_cons_self) hhead
    obtain ⟨hrest, hnoted⟩ := completes_members hvisit
      (fun member hmem => hasked (List.mem_cons_of_mem _ hmem)) hoperands
    refine ((hfirst.andThen hrest).andThen ?_).mono (fun _ h => h) (List.nil_subset own)
    cases hnode : builder₃.nodes[id.index]? with
    | some former =>
      rw [hnode] at h
      obtain ⟨_, rfl⟩ := pure_eq_ok h
      exact .rfl
    | none =>
      rw [hnode] at h
      obtain ⟨made, builder₄, hjoined, h⟩ := run_bind_eq_ok h
      obtain ⟨rfl, rfl⟩ := onArena_eq_ok hjoined
      obtain ⟨_, builder₅, hhint, h⟩ := run_bind_eq_ok h
      obtain ⟨_, rfl⟩ := onArena_eq_ok hhint
      obtain ⟨_, builder₆, hremember, h⟩ := run_bind_eq_ok h
      obtain ⟨_, rfl⟩ := Prod.mk.inj hremember
      obtain ⟨rfl, rfl⟩ := pure_eq_ok h
      -- The hint of the chain changes no node.
      have hchain : builder₃.arena.Spares [] (operands.foldlM Arena.or head builder₃.arena).2 :=
        (Arena.allocates_foldlM (fun _ _ => Arena.allocates_push rfl) operands head _).spares
      have hhinted {hint : String} {joined : NodeId} {arena : Arena} :
          arena.Spares [] (arena.setHint joined hint) :=
        Arena.spares_of_nodes_eq rfl
      exact Builder.Completes.rfl.remembered (hchain.trans hhinted)
        (fun _ hmem => List.not_mem_nil.elim hmem) (.inr ⟨.refl, .union hid (hrest.visits _ (hvisit.noted hhead))
          hnoted ((Arena.joins_foldlM_or _ _ _).mono hhinted)⟩)

end Gen

end Semblance
