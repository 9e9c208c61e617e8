import Semblance.Proofs.Generate.Outcome
import Semblance.Proofs.Shape.Arrays

/-!
# Objects, arrays and unions as they are rebuilt

An aggregate is filled while its own node is there for cyclic references already, an array at the very
end only, and a union may be joined by a generation that one of its members has started. Whatever the
cycles are, once the calls have returned each object has all its entries in order, each array literal
has its elements at their indices and holes elsewhere, and each union joins all its members. The nodes
in these places stand for the values.

## Key results

- `isSparse_of_elements?_eq_none`, `not_isSparse`: when an array is rebuilt as a literal
- `Outcome.hasEntries`, `Outcome.hasSlots`, `Outcome.hasMembers`: what stands in the places stands
  for the values
- `aggregates_rebuilt`: all objects, arrays and unions of a builder
-/

namespace Semblance

/-! ### Elements -/

namespace Aggregate

/-- The indices of the properties that are elements. -/
def indices (entries : Aggregate) : List Nat :=
  entries.properties.names.filterMap arrayIndex?

/-- One more than the highest index, and 0 if there is no element. -/
def length (entries : Aggregate) : Nat :=
  (entries.indices.max?.map (· + 1)).getD 0

/-- Some element lies too far out for an array literal. -/
def IsSparse (entries : Aggregate) : Prop :=
  ∃ index ∈ entries.indices, maxDenseIndex < index

variable {entries : Aggregate} {elements : List (Nat × ShapeId)} {index : Nat}

/-- The indices are those of the properties whose names are one. -/
theorem mem_indices : index ∈ entries.indices ↔
    ∃ binding ∈ entries.properties.toList, arrayIndex? binding.1 = some index := by
  simp [indices, Properties.names]

/-- The length exceeds all indices. -/
theorem lt_length (h : index ∈ entries.indices) : index < entries.length := by
  obtain ⟨last, hlast⟩ := Option.isSome_iff_exists.1 (List.isSome_max?_of_mem h)
  rw [length, hlast]
  exact Nat.lt_succ_of_le ((List.max?_eq_some_iff.1 hlast).2 index h)

/-- Nothing is beyond the last element. -/
theorem exists_of_lt_length (h : index < entries.length) : ∃ last ∈ entries.indices, index ≤ last := by
  cases hlast : entries.indices.max? with
  | none =>
    rw [length, hlast] at h
    cases h
  | some last =>
    rw [length, hlast] at h
    exact ⟨last, (List.max?_eq_some_iff.1 hlast).1, Nat.le_of_lt_succ h⟩

/-- If all properties are elements, only one that lies too far out prevents an array literal. -/
theorem isSparse_of_elements?_eq_none (h : entries.elements? = none)
    (hindex : ∀ name ∈ entries.properties.names, (arrayIndex? name).isSome) : entries.IsSparse := by
  obtain ⟨⟨name, shape⟩, hmem, hnone⟩ := exists_of_mapM_eq_none h
  obtain ⟨index, hname⟩ := Option.isSome_iff_exists.1 (hindex name (List.mem_map_of_mem hmem))
  refine ⟨index, mem_indices.2 ⟨_, hmem, hname⟩, Nat.lt_of_not_le fun hle => ?_⟩
  simp only [hname, Option.bind_some, if_pos hle, reduceCtorEq] at hnone

/-- What is written as elements has no index beyond the limit. -/
theorem not_isSparse (h : entries.elements? = some elements) : ¬ entries.IsSparse := by
  rintro ⟨index, hindex, hfar⟩
  obtain ⟨binding, hmem, hname⟩ := mem_indices.1 hindex
  obtain ⟨element, _, helement, hle, _⟩ := exists_of_forall₂ (Gen.forall₂_elements? h).flip hmem
  cases hname.symm.trans helement
  exact Nat.not_lt.2 hle hfar

end Aggregate

/-! ### What stands in the places -/

namespace Builder

/-- A node is an object with an entry for each property, then each getter, then each setter, and the
    entries hold nodes that stand for the values. -/
def HasEntries (settings : Settings) (graph : ShapeGraph) (builder : Builder) (node : NodeId)
    (entries : Aggregate) : Prop :=
  ∃ ids, builder.arena.node? node = some (.object ids) ∧
    List.Forall₂ (fun id (entry : EntryKind × String × ShapeId) => ∃ value,
      builder.arena.node? id = some (.entry
        (if isIdentifier entry.2.1 then .bare entry.2.1 else .quoted entry.2.1) value entry.1) ∧
      builder.StandsFor settings graph entry.2.2 value) ids.toList entries.entryList

/-- A node is an array literal that ends with the last element. At each index that is the name of a
    property it has a node that stands for the value, and it has holes elsewhere. -/
def HasSlots (settings : Settings) (graph : ShapeGraph) (builder : Builder) (node : NodeId)
    (entries : Aggregate) : Prop :=
  ∃ slots, builder.arena.node? node = some (.array slots) ∧ slots.size = entries.length ∧
    (∀ binding ∈ entries.properties.toList, ∀ index, arrayIndex? binding.1 = some index →
      ∃ value, slots[index]? = some (some value) ∧
        builder.StandsFor settings graph binding.2 value) ∧
    ∀ index < slots.size, index ∉ entries.indices → slots[index]? = some none

/-- A node is the chain of the members of a union. -/
def HasMembers (settings : Settings) (graph : ShapeGraph) (builder : Builder) (node : NodeId)
    (first : ShapeId) (rest : List ShapeId) : Prop :=
  ∃ head operands, builder.arena.Joins node head operands ∧
    builder.StandsFor settings graph first head ∧
    List.Forall₂ (builder.StandsFor settings graph) rest operands

/-- A node is what becomes of an object, an array or a union of at least two members. -/
structure Rebuilds (settings : Settings) (graph : ShapeGraph) (builder : Builder) (id : ShapeId)
    (node : NodeId) : Prop where
  object : ∀ entries, graph.shape? id = some (.object entries) →
    builder.HasEntries settings graph node entries
  sparse : ∀ entries degraded, graph.shape? id = some (.array entries degraded) →
    degraded = true ∨ entries.IsSparse → builder.HasEntries settings graph node entries
  dense : ∀ entries, graph.shape? id = some (.array entries false) → ¬ entries.IsSparse →
    builder.HasSlots settings graph node entries
  union : ∀ first second rest, graph.shape? id = some (.union (first :: second :: rest)) →
    builder.HasMembers settings graph node first (second :: rest)

end Builder

namespace Arena

variable {arena : Arena} {node head operand : NodeId} {operands : List NodeId}

/-- Each alternative of a chain is an operand of some node. -/
theorem Joins.exists_parent (h : arena.Joins node head operands) (hne : operands ≠ [])
    (hmem : operand ∈ head :: operands) :
    ∃ parent made, arena.node? parent = some made ∧ some operand ∈ made.operands := by
  induction operands generalizing head with
  | nil => exact absurd rfl hne
  | cons second operands ih =>
    obtain ⟨next, hnext, hrest⟩ := h
    rcases List.mem_cons.1 hmem with rfl | hmem
    · exact ⟨next, _, hnext, by simp [Node.operands]⟩
    · rcases List.mem_cons.1 hmem with rfl | hmem
      · exact ⟨next, _, hnext, by simp [Node.operands]⟩
      · exact ih hrest (List.ne_nil_of_mem hmem) (List.mem_cons_of_mem _ hmem)

end Arena

namespace Gen.Outcome

variable {settings : Settings} {graph : ShapeGraph} {names : NameSupply} {builder : Builder}
  {node : NodeId} {entries : Aggregate}

/-- An object that is filled has an entry for each binding, whose value stands for the shape
    bound. -/
theorem hasEntries (h : Outcome settings graph names builder) (hgraph : graph.Recorded)
    (hfilled : builder.Filled node entries.entryList) :
    builder.HasEntries settings graph node entries := by
  obtain ⟨ids, hnode, hentries⟩ := hfilled
  refine ⟨ids, hnode, hentries.imp ?_⟩
  rintro id entry ⟨value, hvisit, hentry⟩
  exact ⟨value, hentry, h.standsFor hgraph hvisit hentry List.mem_cons_self⟩

/-- The slots of an array have the values of the elements, and those without an element are
    holes. -/
theorem hasSlots (h : Outcome settings graph names builder) (hgraph : graph.Recorded)
    {elements : List (Nat × ShapeId)} (helements : entries.elements? = some elements)
    (hslots : builder.HasElements node elements) : builder.HasSlots settings graph node entries := by
  obtain ⟨slots, hnode, hfilled, hholes, hlast⟩ := hslots
  have hforall := forall₂_elements? helements
  have hindices {element : Nat × ShapeId} (hmem : element ∈ elements) :
      element.1 ∈ entries.indices := by
    obtain ⟨binding, hbinding, hname, _⟩ := exists_of_forall₂ hforall hmem
    exact Aggregate.mem_indices.2 ⟨binding, hbinding, hname⟩
  have hvalue {binding : String × ShapeId} {index : Nat}
      (hbinding : binding ∈ entries.properties.toList) (hname : arrayIndex? binding.1 = some index) :
      ∃ value, (binding.2, .ok value) ∈ builder.visits ∧ slots[index]? = some (some value) := by
    obtain ⟨element, hmem, helement, _, hshape⟩ := exists_of_forall₂ hforall.flip hbinding
    cases hname.symm.trans helement
    exact hshape ▸ hfilled element hmem
  refine ⟨slots, hnode, Nat.le_antisymm ?_ ?_, fun binding hbinding index hname => ?_,
    fun index hindex hnot => ?_⟩
  · -- The last slot is no further out than some element.
    refine Nat.le_of_not_lt fun hlt => ?_
    obtain ⟨element, hmem, hle⟩ := hlast _ hlt
    exact Nat.not_lt.2 hle (Aggregate.lt_length (hindices hmem))
  · refine Nat.le_of_not_lt fun hlt => ?_
    obtain ⟨last, hmem, hle⟩ := Aggregate.exists_of_lt_length hlt
    obtain ⟨binding, hbinding, hname⟩ := Aggregate.mem_indices.1 hmem
    obtain ⟨value, _, hslot⟩ := hvalue hbinding hname
    obtain ⟨hsize, _⟩ := Array.getElem?_eq_some_iff.1 hslot
    exact Nat.not_lt.2 hle hsize
  · obtain ⟨value, hvisit, hslot⟩ := hvalue hbinding hname
    exact ⟨value, hslot, h.standsFor hgraph hvisit hnode
      (Array.mem_toList_iff.2 (Array.mem_of_getElem? hslot))⟩
  · cases hslot : slots[index] with
    | none => rw [Array.getElem?_eq_getElem hindex, hslot]
    | some value =>
      obtain ⟨element, hmem, rfl⟩ :=
        hholes index value (by rw [Array.getElem?_eq_getElem hindex, hslot])
      exact absurd (hindices hmem) hnot

/-- The nodes that a chain joins stand for the members of the union in order. -/
theorem hasMembers (h : Outcome settings graph names builder) (hgraph : graph.Recorded)
    {first second : ShapeId} {rest : List ShapeId} {head : NodeId} {operands : List NodeId}
    (hfirst : (first, .ok head) ∈ builder.visits)
    (hrest : List.Forall₂ (fun member operand => (member, .ok operand) ∈ builder.visits)
      (second :: rest) operands)
    (hjoins : builder.arena.Joins node head operands) :
    builder.HasMembers settings graph node first (second :: rest) := by
  have hne : operands ≠ [] := by
    rintro rfl
    cases hrest
  have hstands {member : ShapeId} {operand : NodeId} (hvisit : (member, .ok operand) ∈ builder.visits)
      (hmem : operand ∈ head :: operands) : builder.StandsFor settings graph member operand := by
    obtain ⟨parent, made, hparent, hoperand⟩ := hjoins.exists_parent hne hmem
    exact h.standsFor hgraph hvisit hparent hoperand
  refine ⟨head, operands, hjoins, hstands hfirst List.mem_cons_self, ?_⟩
  exact List.forall₂_iff_get.2 ⟨hrest.length_eq, fun index hmember hoperand =>
    hstands (hrest.get hmember hoperand) (List.mem_cons_of_mem _ (List.get_mem ..))⟩

/-- An answer for an aggregate is what becomes of it. -/
theorem rebuilds (h : Outcome settings graph names builder) (hgraph : graph.Recorded)
    {id : ShapeId} (hvisit : (id, .ok node) ∈ builder.visits) :
    builder.Rebuilds settings graph id node := by
  have hrenders {shape : Shape} (hid : graph.shape? id = some shape)
      (hkind : shape.isAssembled = true) : builder.Renders settings graph 0 id node :=
    h.renders hid hkind (h.settled hvisit)
  refine ⟨fun entries hid => ?_, fun entries degraded hid hsparse => ?_, fun entries hid hdense => ?_,
    fun first second rest hid => ?_⟩
  · exact h.hasEntries hgraph ((hrenders hid rfl).filled hid rfl)
  · refine h.hasEntries hgraph ((hrenders hid rfl).filled hid ?_)
    cases degraded with
    | true => rfl
    | false =>
      have hnone : entries.elements? = none := by
        by_contra hsome
        obtain ⟨elements, helements⟩ := Option.ne_none_iff_exists'.1 hsome
        exact Aggregate.not_isSparse helements (hsparse.resolve_left Bool.false_ne_true)
      simp [Shape.entries?, Shape.elements?, hnone]
  · cases helements : entries.elements? with
    | none =>
      refine absurd (Aggregate.isSparse_of_elements?_eq_none helements fun name hmem => ?_) hdense
      -- An array that is not degraded has no other names.
      by_contra hname
      have hdegraded := (hgraph.folded hid).degraded_iff.2
        (.inl ⟨name, hmem, Option.not_isSome_iff_eq_none.1 hname⟩)
      cases hdegraded
    | some elements =>
      exact h.hasSlots hgraph helements ((hrenders hid rfl).hasElements hid helements)
  · obtain ⟨head, operands, hfirst, hrest, hjoins⟩ := (hrenders hid rfl).union_cases hid
    exact h.hasMembers hgraph hfirst hrest hjoins

end Gen.Outcome

namespace Gen

variable {settings : Settings} {graph : ShapeGraph} {calls : List Call}

/-- **Aggregates are rebuilt faithfully.** Whatever calls have returned, each of them has an answer,
    and so has every shape that was asked for on the way. The answer for an object, an array or a
    union is what is to become of it. -/
theorem aggregates_rebuilt (hgraph : graph.Recorded) (hname : settings.globalName ≠ "")
    (names : NameSupply) (hcalls : ∀ call ∈ calls, (graph.shape? call.shape).isSome) :
    let builder := afterCalls settings graph calls (.start names)
    (∀ call ∈ calls, ∃ node, (call.shape, .ok node) ∈ builder.visits) ∧
      ∀ id answer, (id, answer) ∈ builder.visits →
        ∃ node, answer = .ok node ∧ builder.Rebuilds settings graph id node := by
  have h := outcome_afterCalls hgraph hname names hcalls
  refine ⟨(answered_afterCalls hgraph hname hcalls (Builder.sound_start names) nofun).2.2,
    fun id answer hvisit => ?_⟩
  obtain ⟨node, rfl⟩ := h.answered _ hvisit
  exact ⟨node, rfl, h.rebuilds hgraph hvisit⟩

/-- An object, an array with a hole, an array that reaches far out, and a union. The object holds
    the first array and the union, and all three of them hold the object. -/
def ring : ShapeGraph :=
  let shapes := (((ShapeGraph.empty.object none).2.array none).2.array none).2.alloc
    (.union [⟨7⟩, ShapeGraph.primitive .number])
  let bind (graph : ShapeGraph) (owner : ShapeId) (name : String) (value : ShapeId) : ShapeGraph :=
    graph.modify owner (Shape.modifyProperties (·.insert name value))
  bind (bind (bind (bind (bind shapes.2 ⟨7⟩ "a b" ⟨8⟩) ⟨7⟩ "u" ⟨10⟩) ⟨8⟩ "0" ⟨7⟩) ⟨8⟩ "2" ⟨10⟩)
    ⟨9⟩ "70000" ⟨7⟩

/-- The ring is what its operations record. -/
theorem ring_recorded : ring.Recorded := by
  have harrays : ShapeGraph.Recorded _ := .array none (.array none (.object none .empty))
  have hunion := @ShapeGraph.Recorded.union _ _ [⟨7⟩, ShapeGraph.primitive .number] _ harrays rfl
  have hdense := @ShapeGraph.Recorded.addProperty _ _ ⟨7⟩ "a b" ⟨8⟩ _ hunion rfl rfl
  have hshared := @ShapeGraph.Recorded.addProperty _ _ ⟨7⟩ "u" ⟨10⟩ _ hdense rfl rfl
  have hfirst := @ShapeGraph.Recorded.addProperty _ _ ⟨8⟩ "0" ⟨7⟩ _ hshared rfl rfl
  have hlast := @ShapeGraph.Recorded.addProperty _ _ ⟨8⟩ "2" ⟨10⟩ _ hfirst rfl rfl
  exact @ShapeGraph.Recorded.addProperty _ ring ⟨9⟩ "70000" ⟨7⟩ _ hlast rfl rfl

/-- All four are asked for. -/
theorem aggregates_rebuilt_ring :
    ∃ object dense sparse : Aggregate, ring.Recorded ∧ ({} : Settings).globalName ≠ "" ∧
      ring.shape? ⟨7⟩ = some (.object object) ∧ object.properties.names = ["a b", "u"] ∧
      ring.shape? ⟨8⟩ = some (.array dense false) ∧ dense.indices = [0, 2] ∧ dense.length = 3 ∧
      ring.shape? ⟨9⟩ = some (.array sparse false) ∧ sparse.indices = [70000] ∧
      ring.shape? ⟨10⟩ = some (.union [⟨7⟩, ShapeGraph.primitive .number]) ∧
      let builder := afterCalls {} ring [.node ⟨7⟩, .node ⟨8⟩, .node ⟨9⟩, .node ⟨10⟩] (.start ∅)
      (∃ node, builder.HasEntries {} ring node object) ∧
        (∃ node, builder.HasSlots {} ring node dense) ∧
        (∃ node, builder.HasEntries {} ring node sparse) ∧
        ∃ node, builder.HasMembers {} ring node ⟨7⟩ [ShapeGraph.primitive .number] := by
  have hcalls : ∀ call ∈ [Call.node ⟨7⟩, .node ⟨8⟩, .node ⟨9⟩, .node ⟨10⟩],
      (ring.shape? call.shape).isSome := by decide
  obtain ⟨hanswered, hrebuilt⟩ :=
    @aggregates_rebuilt {} ring _ ring_recorded (by decide) ∅ hcalls
  have hall {id : ShapeId} (hmem : Call.node id ∈ [Call.node ⟨7⟩, .node ⟨8⟩, .node ⟨9⟩, .node ⟨10⟩]) :
      ∃ node, Builder.Rebuilds {} ring (afterCalls {} ring
        [.node ⟨7⟩, .node ⟨8⟩, .node ⟨9⟩, .node ⟨10⟩] (.start ∅)) id node := by
    obtain ⟨node, hvisit⟩ := hanswered _ hmem
    obtain ⟨_, _, hnode⟩ := hrebuilt _ _ hvisit
    exact ⟨_, hnode⟩
  obtain ⟨object, hobject⟩ := @hall ⟨7⟩ (by decide)
  obtain ⟨dense, hdense⟩ := @hall ⟨8⟩ (by decide)
  obtain ⟨sparse, hsparse⟩ := @hall ⟨9⟩ (by decide)
  obtain ⟨union, hunion⟩ := @hall ⟨10⟩ (by decide)
  refine ⟨_, _, _, ring_recorded, by decide, rfl, rfl, rfl, by decide, by decide, rfl, by decide, rfl,
    ⟨object, hobject.object _ rfl⟩, ⟨dense, hdense.dense _ rfl ?_⟩,
    ⟨sparse, hsparse.sparse _ _ rfl (.inr ?_)⟩, ⟨union, hunion.union _ _ _ rfl⟩⟩
  · rintro ⟨index, hindex, hfar⟩
    revert index
    decide
  · exact ⟨70000, by decide, by decide⟩

end Gen

end Semblance
