import Semblance.Proofs.Shape.Steps

/-!
# What arrays hold

An array keeps its properties under folded names: identifiers, indices, and the wildcard for all
others. It is degraded as soon as it holds anything but elements, and it stays so. Two operations set
the flag, each before it binds a name, so flag and names are looked at together in every change.

## Key results

- `Recorded.forall_shape`: what every observation keeps of a shape holds in recorded graphs
- `Recorded.array_degraded_iff`: the names of an array, and when it is degraded
-/

namespace Semblance

/-- Names are folded to identifiers, indices and the wildcard. -/
theorem arraySlot_cases (name : String) :
    isIdentifier (arraySlot name) = true ∨ (arrayIndex? (arraySlot name)).isSome ∨
      arraySlot name = arrayWildcard := by
  grind [arraySlot]

/-! ### Whatever is observed -/

/-- Whatever is observed of a shape, the property is kept, and shapes of which nothing was observed
    have it. -/
structure Shape.Kept (P : Shape → Prop) : Prop where
  start : ∀ id shape, ShapeGraph.empty.shape? id = some shape → P shape
  fresh : ∀ shape, shape.isNew = true → shape.isDegraded = false → P shape
  construct : ∀ shape, P shape → P (ShapeGraph.markConstructible shape)
  property : ∀ shape name held, P shape →
    P ((if shape.degradesUnder name then shape.degrade else shape).modifyProperties
      (·.insert (shape.slotName name) held))
  accessor : ∀ kind name function shape, P shape → P (shape.setAccessor kind name function)
  mark : ∀ kind shape, P shape → P (shape.markAccessor kind)
  members : ∀ members shape, P shape → P (shape.setMembers members)
  useParam : ∀ index parameter shape, P shape → P (shape.useParam index parameter)

namespace ShapeGraph

variable {graph graph' : ShapeGraph} {P : Shape → Prop}

/-- All shapes of a graph have a property. -/
structure Everywhere (graph : ShapeGraph) (P : Shape → Prop) : Prop where
  shape : ∀ {id shape}, graph.shape? id = some shape → P shape

namespace Everywhere

/-- The indices of a graph are no shapes. -/
theorem of_shapes_eq (h : graph.Everywhere P) (hshapes : graph'.shapes = graph.shapes) :
    graph'.Everywhere P where
  shape hshape := by
    rw [shape?, hshapes] at hshape
    exact h.shape hshape

/-- A new shape with the property leaves the others as they are. -/
theorem alloc (h : graph.Everywhere P) {shape : Shape} (hshape : P shape) :
    (graph.alloc shape).2.Everywhere P where
  shape hid := by
    rw [shape_alloc] at hid
    split at hid
    · exact Option.some.inj hid ▸ hshape
    · exact h.shape hid

/-- A change that keeps the property is made to one shape. -/
theorem modify (h : graph.Everywhere P) {id : ShapeId} {change : Shape → Shape}
    (hchange : ∀ shape, graph.shape? id = some shape → P shape → P (change shape)) :
    (graph.modify id change).Everywhere P where
  shape {other shape} hshape := by
    rw [shape?_modify] at hshape
    split at hshape
    · next heq =>
      subst heq
      obtain ⟨former, hformer, rfl⟩ := Option.map_eq_some_iff.1 hshape
      exact hchange former hformer (h.shape hformer)
    · exact h.shape hshape

variable (hkept : Shape.Kept P)

include hkept

/-- An object is found, or nothing was observed of it. -/
theorem object (h : graph.Everywhere P) (site : Option CodeSite) :
    (graph.object site).2.Everywhere P := by
  have hnew (site : Option CodeSite) : P (.object { site }) := hkept.fresh _ rfl rfl
  unfold ShapeGraph.object
  split
  · exact h.alloc (hnew none)
  · next place =>
    split
    · exact h
    · exact (h.alloc (hnew (some place))).of_shapes_eq rfl

/-- An array is found, or nothing was observed of it and it is not degraded. -/
theorem array (h : graph.Everywhere P) (site : Option CodeSite) :
    (graph.array site).2.Everywhere P := by
  have hnew (site : Option CodeSite) : P (.array { site } false) := hkept.fresh _ rfl rfl
  unfold ShapeGraph.array
  split
  · exact h.alloc (hnew none)
  · next place =>
    split
    · exact h
    · exact (h.alloc (hnew (some place))).of_shapes_eq rfl

/-- Nothing was observed of a new function, nor of its instances and returns. -/
theorem allocFunction (h : graph.Everywhere P) (site : Option CodeSite) :
    (graph.allocFunction site).2.Everywhere P :=
  ((h.alloc (hkept.fresh _ rfl rfl)).alloc (hkept.fresh _ rfl rfl)).alloc (hkept.fresh _ rfl rfl)

/-- A function is found, or it is new. -/
theorem function (h : graph.Everywhere P) (site : Option CodeSite) :
    (graph.function site).2.Everywhere P := by
  unfold ShapeGraph.function
  split
  · exact h.allocFunction hkept none
  · next place =>
    split
    · exact h
    · exact (h.allocFunction hkept (some place)).of_shapes_eq rfl

/-- A builtin is found, and maybe marked as constructible, or it is new. -/
theorem builtin (h : graph.Everywhere P) (fullName : String) (constructible : Bool) :
    (graph.builtin fullName constructible).2.Everywhere P := by
  unfold ShapeGraph.builtin
  split
  · split
    · exact h.modify fun shape _ => hkept.construct shape
    · exact h
  · exact (h.alloc (hkept.fresh _ rfl rfl)).of_shapes_eq rfl

/-- An instance is found, or it is new. -/
theorem instanceOf (h : graph.Everywhere P) {constructor : ShapeId} {answer : Option ShapeId}
    (hinstance : graph.instanceOf constructor = .ok (answer, graph')) : graph'.Everywhere P := by
  obtain ⟨_, _, hinstance⟩ := bind_eq_ok.1 hinstance
  split at hinstance
  · cases hinstance
    exact h
  · split at hinstance
    · cases hinstance
      exact h
    · cases hinstance
      exact (h.alloc (hkept.fresh (.instanceOf constructor ∅) rfl rfl)).of_shapes_eq rfl
  · cases hinstance
    exact h

/-- A parameter is found, or it is new. -/
theorem parameter (h : graph.Everywhere P) (use : Parameter) :
    (graph.parameter use).2.Everywhere P := by
  unfold ShapeGraph.parameter
  split
  · exact h
  · exact (h.alloc (hkept.fresh (.parameter use) rfl rfl)).of_shapes_eq rfl

/-- A union is new, whatever its members. -/
theorem union (h : graph.Everywhere P) {ids : List ShapeId} {id : ShapeId}
    (hunion : graph.union ids = .ok (id, graph')) : graph'.Everywhere P := by
  obtain ⟨_, _, hunion⟩ := bind_eq_ok.1 hunion
  cases hunion
  exact h.alloc (hkept.fresh _ rfl rfl)

/-- A slot is filled with the value, with what is there, or with a new union of both. -/
theorem fill (h : graph.Everywhere P) {slot : Option ShapeId} {value held : ShapeId}
    (hfill : graph.fill slot value = .ok (held, graph')) : graph'.Everywhere P := by
  obtain ⟨_, _, rfl⟩ | ⟨_, _, rfl⟩ | ⟨_, _, _, _, _, rfl⟩ := fill_eq_ok hfill
  · exact h
  · exact h
  · exact h.alloc (hkept.fresh _ rfl rfl)

/-- Filling the slot leaves the owner alone, so what was read off it before is true of it still. -/
theorem addProperty (h : graph.Everywhere P) {owner value : ShapeId} {name : String}
    {added : Bool} (hadd : graph.addProperty owner name value = .ok (added, graph')) :
    graph'.Everywhere P := by
  obtain ⟨shape, hshape, ⟨_, _, rfl⟩ | ⟨_, held, graph₁, _, hfill, _, rfl⟩⟩ :=
    addProperty_eq_ok hadd
  · exact h
  · refine (h.fill hkept hfill).modify fun former hformer hP => ?_
    obtain rfl := Option.some.inj ((shape?_fill_of_some hfill hshape).symm.trans hformer)
    exact hkept.property shape name held hP

/-- The function is marked before the owner is asked whether it takes accessors, so both changes are
    to keep the property. -/
theorem addAccessor (h : graph.Everywhere P) {kind : AccessorKind} {owner function : ShapeId}
    {name : String} {added : Bool}
    (hadd : graph.addAccessor kind owner name function = .ok (added, graph')) :
    graph'.Everywhere P := by
  obtain ⟨_, _, hadd⟩ := bind_eq_ok.1 hadd
  obtain ⟨shape, _, hadd⟩ := bind_eq_ok.1 hadd
  have hmarked : (graph.modify function (Shape.markAccessor kind)).Everywhere P :=
    h.modify fun shape _ => hkept.mark kind shape
  split at hadd
  · cases hadd
    exact hmarked.modify fun shape _ => hkept.accessor kind name function shape
  · cases hadd
    exact hmarked

/-- What is returned adds to the union of the function. -/
theorem observeReturn (h : graph.Everywhere P) {function value : ShapeId} {added : Bool}
    (hreturn : graph.observeReturn function value = .ok (added, graph')) :
    graph'.Everywhere P := by
  unfold ShapeGraph.observeReturn at hreturn
  split at hreturn
  · cases hreturn
    exact h
  · obtain ⟨_, _, hreturn⟩ := bind_eq_ok.1 hreturn
    split at hreturn
    · obtain ⟨_, _, hreturn⟩ := bind_eq_ok.1 hreturn
      obtain ⟨members, _, hreturn⟩ := bind_eq_ok.1 hreturn
      cases hreturn
      exact h.modify fun shape _ => hkept.members members shape
    · cases hreturn
      exact h

/-- The parameter is found or new, and its use is noted in the function. -/
theorem useParam (h : graph.Everywhere P) {function : ShapeId} {index : Nat}
    {answer : Option ShapeId} (huse : graph.useParam function index = .ok (answer, graph')) :
    graph'.Everywhere P := by
  obtain ⟨_, _, huse⟩ := bind_eq_ok.1 huse
  split at huse
  · cases huse
    exact (h.parameter hkept _).modify fun shape _ => hkept.useParam index _ shape
  · cases huse
    exact h

/-- One observation. -/
theorem observes (h : graph.Everywhere P) (hobserves : graph.Observes graph') :
    graph'.Everywhere P := by
  cases hobserves with
  | object site => exact h.object hkept site
  | array site => exact h.array hkept site
  | function site => exact h.function hkept site
  | builtin fullName constructible => exact h.builtin hkept fullName constructible
  | instanceOf hinstance => exact h.instanceOf hkept hinstance
  | parameter _ => exact h.parameter hkept _
  | union hunion => exact h.union hkept hunion
  | addProperty _ hadd => exact h.addProperty hkept hadd
  | addAccessor hadd => exact h.addAccessor hkept hadd
  | addInstanceProperty _ hadd =>
    obtain ⟨_, _, hadd⟩ := bind_eq_ok.1 hadd
    split at hadd
    · exact h.addProperty hkept hadd
    · cases hadd
      exact h
  | observeReturn hreturn => exact h.observeReturn hkept hreturn
  | useParam huse => exact h.useParam hkept huse

end Everywhere

/-- What every observation keeps of a shape holds of all shapes of a recorded graph. -/
theorem Recorded.forall_shape (h : graph.Recorded) (hkept : Shape.Kept P) {id : ShapeId}
    {shape : Shape} (hshape : graph.shape? id = some shape) : P shape := by
  suffices graph.Everywhere P from this.shape hshape
  clear hshape
  have hobserved := recorded_iff.1 h
  clear h
  induction hobserved with
  | refl => exact ⟨hkept.start _ _⟩
  | tail _ hobserves ih => exact ih.observes hkept hobserves

end ShapeGraph

/-! ### Arrays -/

/-- The names of an array are folded, and it is degraded if and only if it holds something that is
    no element. -/
structure Aggregate.Folded (entries : Aggregate) (degraded : Bool) : Prop where
  name : ∀ name ∈ entries.properties.names, isIdentifier name = true ∨
    (arrayIndex? name).isSome ∨ name = arrayWildcard
  degraded_iff : degraded = true ↔ (∃ name ∈ entries.properties.names, arrayIndex? name = none) ∨
    entries.getters.names ≠ [] ∨ entries.setters.names ≠ []

/-- Arrays are as they should be. -/
def Shape.Folded : Shape → Prop
  | .array entries degraded => entries.Folded degraded
  | _ => True

/-- Without entries there is nothing to fold, and nothing to degrade an array. -/
theorem Aggregate.folded_of_isEmpty {entries : Aggregate} (h : entries.isEmpty = true) :
    entries.Folded false := by
  simp only [isEmpty, Properties.isEmpty, Bool.and_eq_true, Array.isEmpty_iff] at h
  obtain ⟨⟨hproperties, hgetters⟩, hsetters⟩ := h
  constructor <;> simp [Properties.names, Properties.toList, hproperties, hgetters, hsetters]

/-- A property is kept under its folded name. It degrades the array unless it is an element. -/
theorem Aggregate.Folded.property {entries : Aggregate} {degraded : Bool}
    (h : entries.Folded degraded) (name : String) (held : ShapeId) :
    Aggregate.Folded { entries with properties := entries.properties.insert (arraySlot name) held }
      (degraded || (arrayIndex? (arraySlot name)).isNone) where
  name other hmem := by
    rcases Properties.mem_names_insert.1 hmem with rfl | hmem
    · exact arraySlot_cases name
    · exact h.name other hmem
  degraded_iff := by
    -- The names after the insertion are the former ones and the new one, and the flag is raised by
    -- either.
    rw [Bool.or_eq_true, h.degraded_iff, Option.isNone_iff_eq_none]
    constructor
    · rintro ((⟨other, hmem, hnone⟩ | haccessors) | hnone)
      · exact .inl ⟨other, Properties.mem_names_insert.2 (.inr hmem), hnone⟩
      · exact .inr haccessors
      · exact .inl ⟨_, Properties.mem_names_insert.2 (.inl rfl), hnone⟩
    · rintro (⟨other, hmem, hnone⟩ | haccessors)
      · rcases Properties.mem_names_insert.1 hmem with rfl | hmem
        · exact .inr hnone
        · exact .inl (.inl ⟨other, hmem, hnone⟩)
      · exact .inl (.inr haccessors)

/-- An accessor degrades the array, whatever its name. -/
theorem Aggregate.Folded.accessor {entries : Aggregate} {degraded : Bool}
    (h : entries.Folded degraded) (kind : AccessorKind) (name : String) (function : ShapeId) :
    (Shape.setAccessor.bind kind name function entries).Folded true := by
  have hnonempty (accessors : Properties) := accessors.names_insert_ne_nil name function
  cases kind with
  | getter => exact ⟨h.name, by simp [Shape.setAccessor.bind, hnonempty]⟩
  | setter => exact ⟨h.name, by simp [Shape.setAccessor.bind, hnonempty]⟩

/-- Folding is kept by whatever is observed of an array: a name that is no index, or an accessor,
    degrades it as it is added. -/
theorem Shape.kept_folded : Shape.Kept Shape.Folded where
  start id shape hshape := by
    obtain ⟨kind, rfl⟩ | rfl := ShapeGraph.empty_cases hshape <;> trivial
  fresh shape hnew hdegraded := by
    cases shape with
    | array entries degraded =>
      obtain rfl : degraded = false := hdegraded
      exact Aggregate.folded_of_isEmpty hnew
    | _ => trivial
  property shape name held h := by
    cases shape with
    | array entries degraded =>
      have hproperty := Aggregate.Folded.property h name held
      -- An array that is degraded already is not degraded again.
      cases degraded <;> cases hindex : arrayIndex? (arraySlot name) <;>
        simpa [degradesUnder, slotName, degrade, modifyProperties, Folded, hindex] using hproperty
    | _ => trivial
  accessor kind name function shape h := by
    cases shape with
    | array entries degraded => exact Aggregate.Folded.accessor h kind name function
    | _ => trivial
  construct shape h := by cases shape <;> exact h
  mark kind shape h := by cases shape <;> exact h
  members members shape h := by cases shape <;> exact h
  useParam index parameter shape h := by cases shape <;> exact h

namespace ShapeGraph

variable {graph : ShapeGraph} {id : ShapeId} {entries : Aggregate} {degraded : Bool}

/-- The names of any array of a recorded graph are folded. -/
theorem Recorded.folded (h : graph.Recorded)
    (hshape : graph.shape? id = some (.array entries degraded)) : entries.Folded degraded :=
  h.forall_shape Shape.kept_folded hshape

/-- **Arrays know what they hold.** The property names of an array are identifiers, indices or the
    wildcard, and it is degraded if and only if one of them is no index or it has an accessor. -/
theorem Recorded.array_degraded_iff (h : graph.Recorded)
    (hshape : graph.shape? id = some (.array entries degraded)) :
    (∀ name ∈ entries.properties.names, isIdentifier name = true ∨ (arrayIndex? name).isSome ∨
        name = arrayWildcard) ∧
      (degraded = true ↔ (∃ name ∈ entries.properties.names, arrayIndex? name = none) ∨
        0 < entries.getters.size ∨ 0 < entries.setters.size) := by
  have hsize (accessors : Properties) : 0 < accessors.size ↔ accessors.names ≠ [] := by
    simp [Properties.size, Properties.names, Properties.toList, Array.size_pos_iff]
  have hfolded := h.folded hshape
  rw [hsize, hsize]
  exact ⟨hfolded.name, hfolded.degraded_iff⟩

/-- An array with an element, a name and a name that is folded, and an array with an element only. -/
theorem array_degraded_iff_tagged :
    ∃ (graph : ShapeGraph) (tagged plain : Aggregate), graph.Recorded ∧
      graph.shape? ⟨7⟩ = some (.array tagged true) ∧ graph.shape? ⟨8⟩ = some (.array plain false) ∧
      tagged.properties.names = ["0", "tag", arrayWildcard] ∧ plain.properties.names = ["3"] ∧
      ((∃ name ∈ tagged.properties.names, arrayIndex? name = none) ∨
        0 < tagged.getters.size ∨ 0 < tagged.setters.size) ∧
      ¬ ((∃ name ∈ plain.properties.names, arrayIndex? name = none) ∨
        0 < plain.getters.size ∨ 0 < plain.setters.size) := by
  have hknown {graph : ShapeGraph} (h : graph.Recorded) :
      (graph.shape? (primitive .number)).isSome := by
    rw [h.primitive, Option.isSome_some]
  have harrays : Recorded _ := .array none (.array none .empty)
  have helement : Recorded _ := @Recorded.addProperty _ _ ⟨7⟩ "0" _ _ harrays (hknown harrays) rfl
  have hname : Recorded _ := @Recorded.addProperty _ _ ⟨7⟩ "tag" _ _ helement (hknown helement) rfl
  have hfolded : Recorded _ := @Recorded.addProperty _ _ ⟨7⟩ "a b" _ _ hname (hknown hname) rfl
  have hgraph : Recorded _ := @Recorded.addProperty _ _ ⟨8⟩ "3" _ _ hfolded (hknown hfolded) rfl
  exact ⟨_, _, _, hgraph, rfl, rfl, rfl, rfl, (@Recorded.array_degraded_iff _ ⟨7⟩ _ _ hgraph rfl).2.1 rfl,
    fun hother => nomatch (@Recorded.array_degraded_iff _ ⟨8⟩ _ _ hgraph rfl).2.2 hother⟩

end ShapeGraph

end Semblance
