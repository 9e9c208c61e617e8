import Semblance.Proofs.Shape.Refused
import Semblance.Proofs.Shape.Steps

/-!
# What slots and functions hold

What a graph holds changes in two ways. An observed property fills one slot, and an observed return
adds to what one function returns. Nothing else that is observed touches either of them, and a new
shape comes with empty slots and nothing returned.

## Key results

- `SameContents`: what an operation that observes neither a property nor a return keeps
- `slotAt_addProperty`: a property fills the slot that it is kept in, and no other
- `returned_observeReturn`: a return adds what it contributes to what its function returns
-/

namespace Semblance

namespace Shape

/-- The slot in which a property is kept, if the shape has properties. -/
def slotFor? (shape : Shape) (name : String) : Option String :=
  shape.properties?.map fun _ => shape.slotName name

/-- A written property changes the properties, whether the shape degrades with it or not. -/
theorem properties?_property (degrades : Bool) (slot : String) (held : ShapeId) (shape : Shape) :
    ((if degrades then shape.degrade else shape).modifyProperties
      (·.insert slot held)).properties? = shape.properties?.map (·.insert slot held) := by
  cases degrades <;> cases shape <;> rfl

/-- A property leaves the kind of its owner as it is, which decides where a name is kept. -/
theorem slotName_property (degrades : Bool) (slot : String) (held : ShapeId) (shape : Shape) :
    ((if degrades then shape.degrade else shape).modifyProperties (·.insert slot held)).slotName =
      shape.slotName := by
  cases degrades <;> cases shape <;> rfl

/-- What is written to a slot is found there, and the other slots stay as they are. -/
theorem slot?_property (degrades : Bool) (slot : String) (held : ShapeId) (shape : Shape)
    (other : String) :
    ((if degrades then shape.degrade else shape).modifyProperties
        (·.insert slot held)).slot? other =
      if shape.properties?.isSome ∧ slot = other then some held else shape.slot? other := by
  rw [slot?, properties?_property, slot?]
  cases shape.properties? with
  | none => simp
  | some properties => simp [Properties.get?_insert]

end Shape

namespace ShapeGraph

variable {graph graph' graph'' : ShapeGraph} {id function value : ShapeId}

/-! ### Contributions -/

/-- What a shape contributes depends on its members, if it is a union. -/
theorem contribution_congr (h : ∀ members, graph'.shape? id = some (.union members) ↔
    graph.shape? id = some (.union members)) : graph'.contribution id = graph.contribution id := by
  rw [contribution, contribution]
  split
  · next members hunion => rw [(h members).1 hunion]
  · next hnone =>
    split
    · next members hunion => exact absurd ((h members).2 hunion) (hnone members)
    · rfl

/-- Whether a shape needs no widening depends on the unions of the graph. -/
theorem Covers.congr {existing incoming : ShapeId} (h : graph.Covers existing incoming)
    (hunion : ∀ id members, graph'.shape? id = some (.union members) ↔
      graph.shape? id = some (.union members)) : graph'.Covers existing incoming := by
  rw [Covers, joined, contribution_congr (hunion existing), contribution_congr (hunion incoming),
    hunion]
  exact h

/-- What fills a slot contributes what was there and what is added. -/
theorem contribution_fill (h : graph.Distinct) {slot : Option ShapeId} {held : ShapeId}
    (hfill : graph.fill slot value = .ok (held, graph')) :
    graph'.contribution held =
      ((slot.map graph.contribution).getD [] ++ graph.contribution value).eraseDups := by
  obtain ⟨rfl, rfl, rfl⟩ | ⟨rfl, heq | hunion, rfl⟩ | ⟨existing, rfl, _, _, rfl, rfl⟩ :=
    fill_eq_ok hfill
  · exact (List.eraseDups_of_nodup (nodup_contribution h held)).symm
  · rw [← heq, Option.map_some, Option.getD_some,
      List.eraseDups_append_of_subset (List.Subset.refl _),
      List.eraseDups_of_nodup (nodup_contribution h held)]
  · rw [contribution, hunion]
    rfl
  · rw [contribution, shape_alloc, if_pos rfl]
    rfl

/-- What fills a slot covers the value. -/
theorem covers_fill {slot : Option ShapeId} {held : ShapeId}
    (h : graph.fill slot value = .ok (held, graph')) : graph'.Covers held value := by
  obtain ⟨_, rfl, _⟩ | ⟨_, hcovers, rfl⟩ | ⟨existing, _, _, hvalue, rfl, rfl⟩ := fill_eq_ok h
  · exact .inl rfl
  · exact hcovers
  · obtain ⟨shape, hshape⟩ := Option.isSome_iff_exists.1 hvalue
    generalize hmembers : graph.joined existing value = members
    have hheld : (graph.alloc (.union members)).2.shape? (graph.alloc (.union members)).1 =
        some (.union members) := by
      rw [shape_alloc, if_pos rfl]
    -- The members have the contribution among them, so it adds nothing.
    have hsubset : graph.contribution value ⊆ members := fun member hmem =>
      hmembers ▸ List.mem_eraseDups.2 (List.mem_append_right _ hmem)
    have hjoined : (graph.alloc (.union members)).2.joined (graph.alloc (.union members)).1
        value = members := by
      rw [joined, contribution, hheld, contribution_of_some hshape (shape?_alloc_of_some hshape),
        List.eraseDups_append_of_subset hsubset, ← hmembers, joined, List.eraseDups_eraseDups]
    exact .inr (by rw [hheld, hjoined])

/-- Unions have no properties, so they stay as they are when one is written. -/
theorem shape?_property_eq_union {owner held : ShapeId} {degrades : Bool} {slot : String}
    {members : List ShapeId} :
    (graph.modify owner fun former => (if degrades then former.degrade else former).modifyProperties
        (·.insert slot held)).shape? id = some (.union members) ↔
      graph.shape? id = some (.union members) := by
  rw [shape?_modify]
  split
  · cases graph.shape? id with
    | none => rfl
    | some former =>
      cases degrades <;> cases former <;> simp [Shape.modifyProperties, Shape.degrade]
  · rfl

/-! ### Contents -/

/-- What a slot of a shape holds. -/
def slotAt (graph : ShapeGraph) (owner : ShapeId) (slot : String) : Option ShapeId :=
  (graph.shape? owner).bind (·.slot? slot)

/-- The members of the union that a function returns. -/
def returned (graph : ShapeGraph) (function : ShapeId) : List ShapeId :=
  ((((graph.shape? function).bind Shape.returns?).bind graph.shape?).map Shape.members).getD []

/-- What a function returns are the members of the union for it. -/
theorem returned_eq {fn : FunctionShape} (hfn : graph.shape? function = some (.function fn))
    {shape : Shape} (hunion : graph.shape? fn.returns = some shape) :
    graph.returned function = shape.members := by
  rw [returned, hfn, Option.bind_some, Shape.returns?, Option.bind_some, hunion]
  rfl

/-- All slots hold what they held, and all functions return what they returned. -/
structure SameContents (graph graph' : ShapeGraph) : Prop where
  slotAt : ∀ owner slot, graph'.slotAt owner slot = graph.slotAt owner slot
  returned : ∀ function, graph'.returned function = graph.returned function

theorem SameContents.refl (graph : ShapeGraph) : graph.SameContents graph :=
  ⟨fun _ _ => rfl, fun _ => rfl⟩

theorem SameContents.trans (h : graph.SameContents graph') (h' : graph'.SameContents graph'') :
    graph.SameContents graph'' where
  slotAt owner slot := (h'.slotAt owner slot).trans (h.slotAt owner slot)
  returned function := (h'.returned function).trans (h.returned function)

/-- The indices of a graph are no contents. -/
theorem sameContents_of_shapes_eq (h : graph'.shapes = graph.shapes) :
    graph.SameContents graph' := by
  have hshape : graph'.shape? = graph.shape? := funext fun id => by rw [shape?, h, shape?]
  exact ⟨fun owner slot => by rw [slotAt, hshape, slotAt],
    fun function => by rw [returned, hshape, returned]⟩

/-! ### New shapes -/

/-- A new shape from which nothing is read makes no difference to what is read. -/
theorem bind_shape?_alloc {α : Type} {shape : Shape} {read : Shape → Option α}
    (h : read shape = none) (id : ShapeId) :
    ((graph.alloc shape).2.shape? id).bind read = (graph.shape? id).bind read := by
  rw [shape_alloc]
  split
  · next heq =>
    subst heq
    rw [shape?_alloc_fst, Option.bind_some, h, Option.bind_none]
  · rfl

/-- What a known function returns is known, and stays if shapes are only added. -/
theorem returned_of_keep (h : graph.Registered)
    (hkeep : ∀ {id shape}, graph.shape? id = some shape → graph'.shape? id = some shape)
    {shape : Shape} (hshape : graph.shape? function = some shape) :
    graph'.returned function = graph.returned function := by
  rw [returned, returned, hkeep hshape, hshape, Option.bind_some]
  cases hreturns : shape.returns? with
  | none => rfl
  | some union =>
    have hknown := h.returns (show (graph.shape? function).bind Shape.returns? = some union by
      rw [hshape, Option.bind_some, hreturns])
    obtain ⟨members, hmembers, _⟩ := Option.map_eq_some_iff.1 hknown
    rw [Option.bind_some, hkeep hmembers, Option.bind_some, hmembers]

/-- A new shape that is no function and has no properties yet, under a key or not. -/
theorem sameContents_alloc (h : graph.Registered) {shape : Shape}
    (hbare : ∀ slot, shape.slot? slot = none) (hreturns : shape.returns? = none)
    (hshapes : graph'.shapes = (graph.alloc shape).2.shapes) : graph.SameContents graph' := by
  refine SameContents.trans ⟨fun owner slot => bind_shape?_alloc (hbare slot) owner,
    fun function => ?_⟩ (sameContents_of_shapes_eq hshapes)
  cases hfn : graph.shape? function with
  | some former => exact returned_of_keep h shape?_alloc_of_some hfn
  | none => rw [returned, bind_shape?_alloc hreturns, returned, hfn]; rfl

/-- A new function returns nothing yet. -/
theorem sameContents_allocFunction (h : graph.Registered) (site : Option CodeSite) :
    graph.SameContents (graph.allocFunction site).2 where
  slotAt owner slot := by
    -- The three shapes of a function begin without properties.
    have hbare {graph : ShapeGraph} {shape : Shape} (hslot : shape.slot? slot = none) :
        (graph.alloc shape).2.slotAt owner slot = graph.slotAt owner slot :=
      bind_shape?_alloc hslot owner
    exact (hbare rfl).trans ((hbare rfl).trans (hbare rfl))
  returned function := by
    cases hfn : graph.shape? function with
    | some former => exact returned_of_keep h shape?_allocFunction_of_some hfn
    | none =>
      rw [returned, returned, hfn]
      cases hshape : (graph.allocFunction site).2.shape? function with
      | none => rfl
      | some shape =>
        -- Only the first of the three returns anything, and its return union is empty.
        obtain ⟨_, rfl⟩ | ⟨_, rfl⟩ | ⟨_, rfl⟩ := shape?_allocFunction_of_none hfn hshape
        · rw [Option.bind_some, Shape.returns?, Option.bind_some, shape?_allocFunction_returns]
          rfl
        · rfl
        · rfl

/-! ### Changes -/

/-- A change that leaves a slot alone in every shape leaves it alone in the graph. -/
theorem slotAt_modify {change : Shape → Shape} {slot : String}
    (hslot : ∀ shape, (change shape).slot? slot = shape.slot? slot) (owner : ShapeId) :
    (graph.modify id change).slotAt owner slot = graph.slotAt owner slot :=
  bind_shape?_modify hslot owner

/-- A change that leaves the returns and the members of unions alone leaves alone what functions
    return. -/
theorem returned_modify {change : Shape → Shape}
    (hreturns : ∀ shape, (change shape).returns? = shape.returns?)
    (hmembers : ∀ shape, (change shape).members = shape.members) (function : ShapeId) :
    (graph.modify id change).returned function = graph.returned function := by
  have hunion (union : ShapeId) : ((graph.modify id change).shape? union).map Shape.members =
      (graph.shape? union).map Shape.members := by
    rw [Option.map_eq_bind, Option.map_eq_bind]
    exact @bind_shape?_modify _ _ _ _ (some ∘ Shape.members)
      (fun shape => congrArg some (hmembers shape)) union
  rw [returned, returned, bind_shape?_modify hreturns, Option.map_bind, Option.map_bind]
  exact congrArg (fun read => (((graph.shape? function).bind Shape.returns?).bind read).getD [])
    (funext hunion)

/-- A change that leaves slots, unions and what functions return alone. -/
theorem sameContents_modify {change : Shape → Shape}
    (hslot : ∀ shape slot, (change shape).slot? slot = shape.slot? slot)
    (hreturns : ∀ shape, (change shape).returns? = shape.returns?)
    (hmembers : ∀ shape, (change shape).members = shape.members) :
    graph.SameContents (graph.modify id change) :=
  ⟨fun owner slot => slotAt_modify (hslot · slot) owner, returned_modify hreturns hmembers⟩

/-! ### Observations of neither properties nor returns -/

/-- An object is found, or it is new and empty. -/
theorem sameContents_object (h : graph.Registered) (site : Option CodeSite) :
    graph.SameContents (graph.object site).2 := by
  unfold object
  split
  · exact sameContents_alloc h (fun _ => rfl) rfl rfl
  · split
    · exact .refl graph
    · exact sameContents_alloc h (fun _ => rfl) rfl rfl

/-- An array is found, or it is new and empty. -/
theorem sameContents_array (h : graph.Registered) (site : Option CodeSite) :
    graph.SameContents (graph.array site).2 := by
  unfold array
  split
  · exact sameContents_alloc h (fun _ => rfl) rfl rfl
  · split
    · exact .refl graph
    · exact sameContents_alloc h (fun _ => rfl) rfl rfl

/-- A function is found, or it is new and was not seen to return anything. -/
theorem sameContents_function (h : graph.Registered) (site : Option CodeSite) :
    graph.SameContents (graph.function site).2 := by
  unfold ShapeGraph.function
  split
  · exact sameContents_allocFunction h none
  · split
    · exact .refl graph
    · exact (sameContents_allocFunction h _).trans (sameContents_of_shapes_eq rfl)

/-- A builtin is found, or it is new and empty. -/
theorem sameContents_builtin (h : graph.Registered) (fullName : String) (constructible : Bool) :
    graph.SameContents (graph.builtin fullName constructible).2 := by
  unfold builtin
  split
  · split
    · exact sameContents_modify (fun shape _ => by cases shape <;> rfl)
        (fun shape => by cases shape <;> rfl) fun shape => by cases shape <;> rfl
    · exact .refl graph
  · exact sameContents_alloc h (fun _ => rfl) rfl rfl

/-- An instance is found, or it is new and empty. -/
theorem sameContents_instanceOf (h : graph.Registered) {constructor : ShapeId}
    {answer : Option ShapeId} (hinstance : graph.instanceOf constructor = .ok (answer, graph')) :
    graph.SameContents graph' := by
  obtain ⟨shape, _, hinstance⟩ := bind_eq_ok.1 hinstance
  split at hinstance
  · cases hinstance
    exact .refl graph
  · split at hinstance
    · cases hinstance
      exact .refl graph
    · cases hinstance
      exact sameContents_alloc h (fun _ => rfl) rfl rfl
  · cases hinstance
    exact .refl graph

/-- A parameter has no contents. -/
theorem sameContents_parameter (h : graph.Registered) (use : Parameter) :
    graph.SameContents (graph.parameter use).2 := by
  unfold ShapeGraph.parameter
  split
  · exact .refl graph
  · exact sameContents_alloc h (fun _ => rfl) rfl rfl

/-- A new union has no slots, and no function returns it. -/
theorem sameContents_union (h : graph.Registered) {ids : List ShapeId}
    (hunion : graph.union ids = .ok (id, graph')) : graph.SameContents graph' := by
  obtain ⟨members, _, hunion⟩ := bind_eq_ok.1 hunion
  cases hunion
  exact sameContents_alloc h (fun _ => rfl) rfl rfl

/-- Accessors are kept beside the slots. -/
theorem sameContents_addAccessor {kind : AccessorKind} {owner accessor : ShapeId} {name : String}
    {added : Bool} (h : graph.addAccessor kind owner name accessor = .ok (added, graph')) :
    graph.SameContents graph' := by
  have hmarked : graph.SameContents (graph.modify accessor (Shape.markAccessor kind)) :=
    sameContents_modify (fun shape _ => by cases shape <;> rfl)
      (fun shape => by cases shape <;> rfl) fun shape => by cases shape <;> rfl
  obtain ⟨_, _, h⟩ := bind_eq_ok.1 h
  obtain ⟨shape, _, h⟩ := bind_eq_ok.1 h
  split at h
  · cases h
    exact hmarked.trans (sameContents_modify (fun shape _ => by cases kind <;> cases shape <;> rfl)
      (fun shape => by cases kind <;> cases shape <;> rfl)
      fun shape => by cases kind <;> cases shape <;> rfl)
  · cases h
    exact hmarked

/-- The use of a parameter is noted beside the slots. -/
theorem sameContents_useParam (h : graph.Registered) {index : Nat} {answer : Option ShapeId}
    (huse : graph.useParam function index = .ok (answer, graph')) : graph.SameContents graph' := by
  obtain ⟨shape, _, huse⟩ := bind_eq_ok.1 huse
  split at huse
  · cases huse
    exact (sameContents_parameter h _).trans (sameContents_modify
      (fun shape _ => by cases shape <;> rfl) (fun shape => by cases shape <;> rfl)
      fun shape => by cases shape <;> rfl)
  · cases huse
    exact .refl graph

/-! ### Properties -/

/-- Filling a slot makes a union at most; it is put in the slot afterwards. -/
theorem sameContents_fill (h : graph.Registered) {slot : Option ShapeId} {held : ShapeId}
    (hfill : graph.fill slot value = .ok (held, graph')) : graph.SameContents graph' := by
  obtain ⟨_, _, rfl⟩ | ⟨_, _, rfl⟩ | ⟨_, _, _, _, _, rfl⟩ := fill_eq_ok hfill
  · exact .refl _
  · exact .refl _
  · exact sameContents_alloc h (fun _ => rfl) rfl rfl

/-- A property changes what is in a slot, and a slot is no return. -/
theorem returned_addProperty (h : graph.Registered) {owner : ShapeId} {name : String} {added : Bool}
    (hadd : graph.addProperty owner name value = .ok (added, graph')) (function : ShapeId) :
    graph'.returned function = graph.returned function := by
  obtain ⟨_, _, ⟨_, _, rfl⟩ | ⟨_, _, _, _, hfill, _, rfl⟩⟩ := addProperty_eq_ok hadd
  · rfl
  · rw [← (sameContents_fill h hfill).returned]
    exact returned_modify
      (fun shape => Shape.returns?_of_identity (@Grows.property graph _ _ _ shape).identity)
      (Shape.adds_property _ _ _).members function

/-- A property fills the slot that it is kept in, and the other slots stay as they are. -/
theorem slotAt_addProperty (h : graph.Registered) {owner : ShapeId} {name : String} {added : Bool}
    (hadd : graph.addProperty owner name value = .ok (added, graph')) :
    ((graph.shape? owner).bind (·.slotFor? name) = none ∧ graph' = graph) ∨
      ∃ slot held graph₁, (graph.shape? owner).bind (·.slotFor? name) = some slot ∧
        graph.fill (graph.slotAt owner slot) value = .ok (held, graph₁) ∧
        graph'.contribution held = graph₁.contribution held ∧
        ∀ target other, graph'.slotAt target other =
          if target = owner ∧ other = slot then some held else graph.slotAt target other := by
  obtain ⟨shape, hshape,
    ⟨hnone, _, rfl⟩ | ⟨properties, held, graph₁, hproperties, hfill, _, rfl⟩⟩ :=
    addProperty_eq_ok hadd
  · refine .inl ⟨?_, rfl⟩
    rw [hshape, Option.bind_some, Shape.slotFor?, hnone, Option.map_none]
  · have hslot : graph.slotAt owner (shape.slotName name) =
        properties.get? (shape.slotName name) := by
      rw [slotAt, hshape, Option.bind_some, Shape.slot?, hproperties, Option.bind_some]
    refine .inr ⟨shape.slotName name, held, graph₁, ?_, by rw [hslot, hfill],
      contribution_congr fun _ => shape?_property_eq_union, fun target other => ?_⟩
    · rw [hshape, Option.bind_some, Shape.slotFor?, hproperties, Option.map_some]
    · -- Filling may allocate a union but leaves the slots alone; the insertion then changes the one
      -- slot.
      rw [← (sameContents_fill h hfill).slotAt, slotAt, slotAt, shape?_modify]
      by_cases htarget : owner = target
      · subst htarget
        rw [if_pos rfl, shape?_fill_of_some hfill hshape, Option.map_some, Option.bind_some,
          Option.bind_some, Shape.slot?_property, hproperties]
        simp only [Option.isSome_some, true_and, eq_comm]
      · rw [if_neg htarget, if_neg fun heq => htarget heq.1.symm]

/-- No function returns anything else than before. -/
theorem returns?_addProperty {owner : ShapeId} {name : String} {added : Bool}
    (hadd : graph.addProperty owner name value = .ok (added, graph')) (function : ShapeId) :
    (graph'.shape? function).bind Shape.returns? = (graph.shape? function).bind Shape.returns? := by
  obtain ⟨_, _, ⟨_, _, rfl⟩ | ⟨_, _, graph₁, _, hfill, _, rfl⟩⟩ := addProperty_eq_ok hadd
  · rfl
  · rw [bind_shape?_modify fun shape =>
      Shape.returns?_of_identity (@Grows.property graph₁ _ _ _ shape).identity]
    obtain ⟨_, _, rfl⟩ | ⟨_, _, rfl⟩ | ⟨_, _, _, _, _, rfl⟩ := fill_eq_ok hfill
    · rfl
    · rfl
    · exact bind_shape?_alloc rfl function

/-! ### Returns -/

/-- A return that is not the undefined value adds what it contributes to the union of the
    function. -/
theorem observeReturn_of_function {fn : FunctionShape}
    {members : List ShapeId} (hvalue : value ≠ primitive .undefined)
    (hfn : graph.shape? function = some (.function fn))
    (hunion : graph.shape? fn.returns = some (.union members))
    (hknown : (graph.shape? value).isSome) :
    graph.observeReturn function value = .ok (true, graph.modify fn.returns
      (Shape.setMembers ((graph.contribution value).foldl addMember members))) := by
  have hformer : graph.flatten fn.returns = .ok members :=
    flatten_eq_ok.2 ⟨.union members, hunion, rfl⟩
  rw [ShapeGraph.observeReturn, if_neg hvalue, shape_eq_ok.2 hfn]
  simp only [bind, Except.bind, hformer, absorb_eq_ok.2 ⟨hknown, rfl⟩]
  rfl

/-- What it takes for a return to be recorded, and what is recorded then. -/
theorem observeReturn_eq_ok (h : graph.Registered)
    (hreturn : graph.observeReturn function value = .ok (true, graph')) :
    value ≠ primitive .undefined ∧ ∃ fn members ids,
      graph.shape? function = some (.function fn) ∧
      graph.shape? fn.returns = some (.union members) ∧ graph.flatten value = .ok ids ∧
      graph' = graph.modify fn.returns (Shape.setMembers (ids.foldl addMember members)) := by
  unfold ShapeGraph.observeReturn at hreturn
  split at hreturn
  · cases hreturn
  · next hvalue =>
    obtain ⟨shape, hfn, hreturn⟩ := bind_eq_ok.1 hreturn
    rw [shape_eq_ok] at hfn
    split at hreturn
    · next fn =>
      obtain ⟨former, hformer, hreturn⟩ := bind_eq_ok.1 hreturn
      obtain ⟨members, hmembers, hreturn⟩ := bind_eq_ok.1 hreturn
      obtain ⟨ids, hids, hmembers⟩ := bind_eq_ok.1 hmembers
      cases hmembers
      cases hreturn
      have hreturns : (graph.shape? function).bind Shape.returns? = some fn.returns := by
        rw [hfn]
        rfl
      -- The return shape is a union, so its flattening is its list of members.
      obtain ⟨union, hunion, hisUnion⟩ := Option.map_eq_some_iff.1 (h.returns hreturns)
      obtain ⟨members, rfl⟩ := Shape.isUnion_eq_true.1 hisUnion
      obtain ⟨_, hunion', rfl⟩ := flatten_eq_ok.1 hformer
      obtain rfl := Option.some.inj (hunion.symm.trans hunion')
      exact ⟨hvalue, fn, members, ids, hfn, hunion, hids, rfl⟩
    · cases hreturn

/-- An observed return adds what the value contributes to the returns of its function. -/
theorem returned_observeReturn (h : graph.Registered) {ids : List ShapeId}
    (hreturn : graph.observeReturn function value = .ok (true, graph'))
    (hids : graph.flatten value = .ok ids) (other : ShapeId) :
    graph'.returned other = if other = function then ids.foldl addMember (graph.returned function)
      else graph.returned other := by
  obtain ⟨_, fn, members, ids', hfn, hunion, hids', rfl⟩ := observeReturn_eq_ok h hreturn
  obtain rfl : ids = ids' := Except.ok.inj (hids.symm.trans hids')
  have hreturns : (graph.shape? function).bind Shape.returns? = some fn.returns := by
    rw [hfn]
    rfl
  have hsame : ((graph.modify fn.returns (Shape.setMembers
      (ids.foldl addMember members))).shape? other).bind Shape.returns? =
      (graph.shape? other).bind Shape.returns? :=
    bind_shape?_modify (fun shape => by cases shape <;> rfl) other
  split
  · next heq =>
    subst heq
    rw [returned, hsame, hreturns, Option.bind_some, shape?_modify, if_pos rfl, hunion,
      returned_eq hfn hunion]
    rfl
  · next hne =>
    rw [returned, hsame, returned]
    cases hother : (graph.shape? other).bind Shape.returns? with
    | none => rfl
    | some union =>
      -- Two functions do not return the same union.
      have hapart : fn.returns ≠ union := by
        rintro rfl
        exact hne (h.returns_inj hother hreturns)
      rw [Option.bind_some, shape?_modify, if_neg hapart, Option.bind_some]

/-- An observed return fills no slot. -/
theorem slotAt_observeReturn (h : graph.Registered) {added : Bool}
    (hreturn : graph.observeReturn function value = .ok (added, graph')) (owner : ShapeId)
    (slot : String) : graph'.slotAt owner slot = graph.slotAt owner slot := by
  cases added with
  | false => rw [observeReturn_refused hreturn]
  | true =>
    obtain ⟨_, _, _, _, _, _, _, rfl⟩ := observeReturn_eq_ok h hreturn
    exact slotAt_modify (fun shape => by cases shape <;> rfl) owner

end ShapeGraph

end Semblance
