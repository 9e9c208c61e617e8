import Semblance.Proofs.Shape.Registered

/-!
# What observations do

`Step` lists what observations do to a graph, with what is known of the shapes at that point.
Slots are widened by new unions, and a union grows in place only if a function returns it. Each step
keeps the members of unions distinct, which is what makes the members of a slot come first when it is
widened.

## Key results

- `recorded_iff`: the recorded graphs are those that observations lead to
- `Observes.steps`: an observation is a sequence of steps
- `Recorded.distinct`: no union of a recorded graph has a member twice
-/

namespace Semblance

namespace Shape

/-- The names that a shape binds to values, getters or setters, in order. -/
def names (kind : EntryKind) (shape : Shape) : List String :=
  match kind with
  | .value => (shape.properties?.map Properties.names).getD []
  | _ => (shape.aggregate?.map fun entries => (entries.bindings kind).names).getD []

/-- What a name is bound to as a property. -/
def slot? (shape : Shape) (name : String) : Option ShapeId :=
  shape.properties?.bind (·.get? name)

/-- Whether the shape is a degraded array. -/
def isDegraded : Shape → Bool
  | array _ degraded => degraded
  | _ => false

/-- Which way an accessor function works. -/
def accessor? : Shape → Option AccessorKind
  | function fn => fn.accessor
  | _ => none

end Shape

namespace ShapeGraph

variable {graph graph' : ShapeGraph} {id : ShapeId}

/-- A function returns the shape with this id. -/
def Returned (graph : ShapeGraph) (id : ShapeId) : Prop :=
  ∃ function, (graph.shape? function).bind Shape.returns? = some id

/-- A union contributes its members, and any other shape contributes itself. -/
theorem contribution_eq {shape : Shape} (h : graph.shape? id = some shape) :
    graph.contribution id = if shape.isUnion then shape.members else [id] := by
  rw [contribution, h]
  cases shape <;> rfl

/-- A known shape is flattened to its members if it is a union, and otherwise to itself. -/
theorem flatten_eq_ok {ids : List ShapeId} : graph.flatten id = .ok ids ↔ ∃ shape,
    graph.shape? id = some shape ∧ ids = if shape.isUnion then shape.members else [id] := by
  rw [flatten_eq_ok_iff, Option.isSome_iff_exists]
  constructor
  · rintro ⟨⟨shape, hshape⟩, rfl⟩
    exact ⟨shape, hshape, contribution_eq hshape⟩
  · rintro ⟨shape, hshape, rfl⟩
    exact ⟨⟨shape, hshape⟩, (contribution_eq hshape).symm⟩

/-! ### Members -/

/-- Members are added at the end. -/
theorem prefix_foldl_addMember (members ids : List ShapeId) :
    members <+: ids.foldl addMember members := by
  induction ids generalizing members with
  | nil => exact List.prefix_refl members
  | cons id ids ih =>
    refine List.IsPrefix.trans ?_ (ih (addMember members id))
    unfold addMember
    split
    · exact List.prefix_refl members
    · exact List.prefix_append members [id]

/-- A member is added only if it is not there. -/
theorem nodup_foldl_addMember {members : List ShapeId} (h : members.Nodup) (ids : List ShapeId) :
    (ids.foldl addMember members).Nodup := by
  induction ids generalizing members with
  | nil => exact h
  | cons id ids ih => exact ih (nodup_addMember h id)

/-- No union has a member twice. -/
structure Distinct (graph : ShapeGraph) : Prop where
  nodup : ∀ {id shape}, graph.shape? id = some shape → shape.members.Nodup

/-- A shape is flattened without duplicates. -/
theorem Distinct.flatten (h : graph.Distinct) {ids : List ShapeId}
    (hids : graph.flatten id = .ok ids) : ids.Nodup := by
  obtain ⟨shape, hshape, rfl⟩ := flatten_eq_ok.1 hids
  split
  · exact h.nodup hshape
  · exact List.pairwise_singleton _ id

/-- All shapes that go into a union are added without duplicates. -/
theorem nodup_foldlM_absorb {ids members members' : List ShapeId} (h : members.Nodup)
    (habsorb : ids.foldlM graph.absorb members = .ok members') : members'.Nodup := by
  induction ids generalizing members with
  | nil =>
    cases habsorb
    exact h
  | cons id ids ih =>
    rw [List.foldlM_cons] at habsorb
    obtain ⟨members₁, hfirst, hrest⟩ := bind_eq_ok.1 habsorb
    obtain ⟨flat, _, hfirst⟩ := bind_eq_ok.1 hfirst
    cases hfirst
    exact ih (nodup_foldl_addMember h flat) hrest

/-! ### Steps -/

/-- What observations do to a graph. -/
inductive Step (graph : ShapeGraph) : ShapeGraph → Prop where
  /-- The indices may change with the shapes as they are. -/
  | index {graph' : ShapeGraph} : graph'.shapes = graph.shapes → Step graph graph'
  | alloc {shape : Shape} : shape.members.Nodup →
      (∀ union, shape.returns? = some union → graph.shape? union = none) →
      Step graph (graph.alloc shape).2
  | construct (id : ShapeId) : Step graph (graph.modify id markConstructible)
  /-- What is in the slot already comes first in what is put there. -/
  | property (degrades : Bool) {owner held : ShapeId} {slot : String} :
      (∀ shape existing ids, graph.shape? owner = some shape → shape.slot? slot = some existing →
        graph.flatten existing = .ok ids →
        ∃ ids', graph.flatten held = .ok ids' ∧ ids <+: ids') →
      Step graph (graph.modify owner fun shape =>
        (if degrades then shape.degrade else shape).modifyProperties (·.insert slot held))
  /-- A union that a function returns gains members. -/
  | members {union : ShapeId} {former members : List ShapeId} : graph.Returned union →
      graph.shape? union = some (.union former) → former <+: members → members.Nodup →
      Step graph (graph.modify union (Shape.setMembers members))
  | mark (kind : AccessorKind) (function : ShapeId) :
      Step graph (graph.modify function (Shape.markAccessor kind))
  | bind (kind : AccessorKind) (owner : ShapeId) (name : String) (function : ShapeId) :
      Step graph (graph.modify owner (Shape.setAccessor kind name function))
  /-- A parameter that is used already has the same shape as before. -/
  | useParam {function parameter : ShapeId} {index : Nat} :
      (∀ shape, graph.shape? function = some shape → ∀ used ∈ shape.usedParams,
        used.1 = index → used.2 = parameter) →
      Step graph (graph.modify function (Shape.useParam index parameter))

/-- A sequence of steps. -/
abbrev Steps : ShapeGraph → ShapeGraph → Prop :=
  Relation.ReflTransGen Step

/-! ### Members are distinct -/

/-- A change that keeps members distinct. -/
theorem Distinct.modify (h : graph.Distinct) {change : Shape → Shape}
    (hchange : ∀ shape, shape.members.Nodup → (change shape).members.Nodup) :
    (graph.modify id change).Distinct where
  nodup {other shape} hshape := by
    rw [shape?_modify] at hshape
    split at hshape
    · obtain ⟨former, hformer, rfl⟩ := Option.map_eq_some_iff.1 hshape
      exact hchange former (h.nodup hformer)
    · exact h.nodup hshape

/-- No step adds a member twice. -/
theorem Step.distinct (hstep : graph.Step graph') (h : graph.Distinct) : graph'.Distinct := by
  -- Only two steps put members into a shape: the allocation of a union and the growth of one.
  have hsame {id : ShapeId} {change : Shape → Shape}
      (hchange : ∀ shape, (change shape).members = shape.members) :
      (graph.modify id change).Distinct :=
    h.modify fun shape hnodup => (hchange shape).symm ▸ hnodup
  cases hstep with
  | index hshapes =>
    refine ⟨fun hshape => ?_⟩
    rw [shape?, hshapes] at hshape
    exact h.nodup hshape
  | alloc hnodup _ =>
    refine ⟨fun hshape => ?_⟩
    rw [shape_alloc] at hshape
    split at hshape
    · exact Option.some.inj hshape ▸ hnodup
    · exact h.nodup hshape
  | members _ _ _ hnodup =>
    refine h.modify fun shape hformer => ?_
    cases shape with
    | union => exact hnodup
    | _ => exact hformer
  | property degrades => exact hsame fun shape => by cases degrades <;> cases shape <;> rfl
  | _ => exact hsame fun shape => by cases shape <;> rfl

/-- No sequence of steps adds a member twice. -/
theorem Steps.distinct (hsteps : graph.Steps graph') (h : graph.Distinct) : graph'.Distinct := by
  induction hsteps with
  | refl => exact h
  | tail _ hstep ih => exact hstep.distinct ih

/-! ### Observations are steps -/

/-- A new shape, under a key or not. -/
theorem steps_alloc {shape : Shape} (hmembers : shape.members = []) (hreturns : shape.returns? = none)
    (hshapes : graph'.shapes = (graph.alloc shape).2.shapes) : graph.Steps graph' :=
  .tail (.single (.alloc (by simp [hmembers]) (by simp [hreturns]))) (.index hshapes)

/-- An object is found, or it is new. -/
theorem steps_object (graph : ShapeGraph) (site : Option CodeSite) :
    graph.Steps (graph.object site).2 := by
  unfold object
  split
  · exact steps_alloc rfl rfl rfl
  · split
    · exact .refl
    · exact steps_alloc rfl rfl rfl

/-- An array is found, or it is new. -/
theorem steps_array (graph : ShapeGraph) (site : Option CodeSite) :
    graph.Steps (graph.array site).2 := by
  unfold array
  split
  · exact steps_alloc rfl rfl rfl
  · split
    · exact .refl
    · exact steps_alloc rfl rfl rfl

/-- The function comes first, while there is no union yet for it to return. -/
theorem steps_allocFunction (graph : ShapeGraph) (site : Option CodeSite) :
    graph.Steps (graph.allocFunction site).2 := by
  have hplain {graph : ShapeGraph} {shape : Shape} (hmembers : shape.members = [])
      (hreturns : shape.returns? = none) : graph.Step (graph.alloc shape).2 :=
    .alloc (by simp [hmembers]) (by simp [hreturns])
  have hfunction : graph.Step (graph.alloc (.function
      { site, constructs := ⟨graph.size + 1⟩, returns := ⟨graph.size + 2⟩ })).2 := by
    refine .alloc List.nodup_nil fun union heq => ?_
    obtain rfl := Option.some.inj heq
    exact shape?_of_size_le (Nat.le_add_right _ _)
  exact .tail (.tail (.single hfunction) (hplain rfl rfl)) (hplain rfl rfl)

/-- A function is found, or it is new. Its returns are a union that no other function returns. -/
theorem steps_function (graph : ShapeGraph) (site : Option CodeSite) :
    graph.Steps (graph.function site).2 := by
  unfold function
  split
  · exact steps_allocFunction graph none
  · split
    · exact .refl
    · exact .tail (steps_allocFunction graph _) (.index rfl)

/-- A builtin is found, and maybe marked as constructible, or it is new. -/
theorem steps_builtin (graph : ShapeGraph) (fullName : String) (constructible : Bool) :
    graph.Steps (graph.builtin fullName constructible).2 := by
  unfold builtin
  split
  · split
    · exact .single (.construct _)
    · exact .refl
  · exact steps_alloc rfl rfl rfl

/-- An instance is found, or it is new. -/
theorem steps_instanceOf {constructor : ShapeId} {answer : Option ShapeId}
    (h : graph.instanceOf constructor = .ok (answer, graph')) : graph.Steps graph' := by
  obtain ⟨shape, _, h⟩ := bind_eq_ok.1 h
  split at h
  · cases h
    exact .refl
  · split at h
    · cases h
      exact .refl
    · cases h
      exact steps_alloc rfl rfl rfl
  · cases h
    exact .refl

/-- A parameter is found, or it is new. -/
theorem steps_parameter (graph : ShapeGraph) (use : Parameter) :
    graph.Steps (graph.parameter use).2 := by
  unfold parameter
  split
  · exact .refl
  · exact steps_alloc rfl rfl rfl

/-- A union is new, without duplicates. -/
theorem steps_union {ids : List ShapeId} (h : graph.union ids = .ok (id, graph')) :
    graph.Steps graph' := by
  obtain ⟨members, hmembers, h⟩ := bind_eq_ok.1 h
  cases h
  exact .single (.alloc (nodup_foldlM_absorb List.nodup_nil hmembers) nofun)

/-- No shape contributes a member twice. -/
theorem nodup_contribution (h : graph.Distinct) (id : ShapeId) : (graph.contribution id).Nodup := by
  rw [contribution]
  split
  · next members hunion => exact h.nodup hunion
  · exact List.nodup_singleton id

/-- Members that are distinct are taken over in their order, so what was in a slot comes first. -/
theorem prefix_joined (h : graph.Distinct) (existing incoming : ShapeId) :
    graph.contribution existing <+: graph.joined existing incoming := by
  rw [joined, List.eraseDups_append, List.eraseDups_of_nodup (nodup_contribution h existing)]
  exact List.prefix_append _ _

/-- What a shape contributes is read off the shape. -/
theorem contribution_of_some {shape : Shape} (h : graph.shape? id = some shape)
    (h' : graph'.shape? id = some shape) : graph'.contribution id = graph.contribution id := by
  rw [contribution_eq h, contribution_eq h']

/-- Filling a slot leaves the shapes that are there alone. -/
theorem shape?_fill_of_some {slot : Option ShapeId} {value held : ShapeId} {shape : Shape}
    (h : graph.fill slot value = .ok (held, graph')) (hid : graph.shape? id = some shape) :
    graph'.shape? id = some shape := by
  obtain ⟨_, _, rfl⟩ | ⟨_, _, rfl⟩ | ⟨_, _, _, _, _, rfl⟩ := fill_eq_ok h
  · exact hid
  · exact hid
  · exact shape?_alloc_of_some hid

/-- What is filled keeps its content in front. -/
theorem Distinct.fill (h : graph.Distinct) {slot : Option ShapeId} {value held : ShapeId}
    (hfill : graph.fill slot value = .ok (held, graph')) :
    graph.Steps graph' ∧ ∀ existing ids, slot = some existing →
      graph'.flatten existing = .ok ids →
        ∃ ids', graph'.flatten held = .ok ids' ∧ ids <+: ids' := by
  obtain ⟨rfl, _, rfl⟩ | ⟨rfl, _, rfl⟩ | ⟨existing, rfl, hexisting, _, rfl, rfl⟩ := fill_eq_ok hfill
  · exact ⟨.refl, nofun⟩
  · refine ⟨.refl, fun existing ids heq hids => ⟨ids, ?_, List.prefix_refl ids⟩⟩
    rw [Option.some.inj heq, hids]
  · refine ⟨.single (.alloc (List.nodup_eraseDups _) nofun), fun other ids heq hids => ?_⟩
    obtain rfl := Option.some.inj heq
    obtain ⟨shape, hshape⟩ := Option.isSome_iff_exists.1 hexisting
    obtain ⟨_, rfl⟩ := flatten_eq_ok_iff.1 hids
    refine ⟨graph.joined existing value,
      flatten_eq_ok.2 ⟨.union (graph.joined existing value), ?_, rfl⟩, ?_⟩
    · rw [shape_alloc, if_pos rfl]
    · rw [contribution_of_some hshape (shape?_alloc_of_some hshape)]
      exact prefix_joined h existing value

/-- What is in a slot comes first in what is put there, and nothing is put there twice. -/
theorem Distinct.addProperty (h : graph.Distinct) {owner value : ShapeId} {name : String}
    {added : Bool} (hadd : graph.addProperty owner name value = .ok (added, graph')) :
    graph.Steps graph' := by
  obtain ⟨shape, hshape, ⟨_, _, rfl⟩ | ⟨properties, held, graph₁, hproperties, hfill, _, rfl⟩⟩ :=
    addProperty_eq_ok hadd
  · exact .refl
  · obtain ⟨hsteps, hcovers⟩ := h.fill hfill
    refine hsteps.tail (.property _ fun shape' existing ids hshape' hslot hids => ?_)
    -- What is in the slot is still what was there before.
    obtain rfl := Option.some.inj ((shape?_fill_of_some hfill hshape).symm.trans hshape')
    rw [Shape.slot?, hproperties, Option.bind_some] at hslot
    exact hcovers existing ids hslot hids

/-- The function is marked, and the owner binds it if it takes accessors. -/
theorem steps_addAccessor {kind : AccessorKind} {owner function : ShapeId} {name : String}
    {added : Bool} (h : graph.addAccessor kind owner name function = .ok (added, graph')) :
    graph.Steps graph' := by
  obtain ⟨_, _, h⟩ := bind_eq_ok.1 h
  obtain ⟨shape, _, h⟩ := bind_eq_ok.1 h
  split at h
  · cases h
    exact .tail (.single (.mark kind function)) (.bind kind owner name function)
  · cases h
    exact .single (.mark kind function)

/-- The union that a function returns grows in place. -/
theorem Distinct.observeReturn (h : graph.Distinct) (hregistered : graph.Registered)
    {function value : ShapeId} {added : Bool}
    (hreturn : graph.observeReturn function value = .ok (added, graph')) : graph.Steps graph' := by
  unfold ShapeGraph.observeReturn at hreturn
  split at hreturn
  · cases hreturn
    exact .refl
  · obtain ⟨shape, hshape, hreturn⟩ := bind_eq_ok.1 hreturn
    rw [shape_eq_ok] at hshape
    split at hreturn
    · next fn =>
      obtain ⟨former, hformer, hreturn⟩ := bind_eq_ok.1 hreturn
      obtain ⟨members, hmembers, hreturn⟩ := bind_eq_ok.1 hreturn
      obtain ⟨more, _, hmembers⟩ := bind_eq_ok.1 hmembers
      cases hmembers
      cases hreturn
      have hreturned : (graph.shape? function).bind Shape.returns? = some fn.returns := by
        rw [hshape]
        rfl
      -- What a function returns is a union of its own, so flattening it gives back its members.
      obtain ⟨union, hunion, hisUnion⟩ := Option.map_eq_some_iff.1 (hregistered.returns hreturned)
      obtain ⟨ids, rfl⟩ := Shape.isUnion_eq_true.1 hisUnion
      have hnodup : former.Nodup := h.flatten hformer
      obtain ⟨union, hunion', rfl⟩ := flatten_eq_ok.1 hformer
      obtain rfl := Option.some.inj (hunion.symm.trans hunion')
      exact .single (.members ⟨function, hreturned⟩ hunion (prefix_foldl_addMember _ more)
        (nodup_foldl_addMember hnodup more))
    · cases hreturn
      exact .refl

/-- A parameter that is used again has the shape that it had, since it is found by its use. -/
theorem Registered.steps_useParam (h : graph.Registered) {function : ShapeId} {index : Nat}
    {answer : Option ShapeId} (huse : graph.useParam function index = .ok (answer, graph')) :
    graph.Steps graph' := by
  obtain ⟨shape, _, huse⟩ := bind_eq_ok.1 huse
  split at huse
  · cases huse
    obtain ⟨hregistered, hparameter⟩ := h.parameter ⟨function, index⟩
    refine (steps_parameter graph _).tail (.useParam fun shape hshape used hmem heq => ?_)
    -- A parameter in use under this index has the same key as the one just asked for, hence the
    -- same id.
    have hkey {id : ShapeId}
        (hid : (graph.parameter ⟨function, index⟩).2.shape? id =
          some (.parameter ⟨function, index⟩)) :
        (graph.parameter ⟨function, index⟩).2.find? (.parameter ⟨function, index⟩) = some id :=
      hregistered.found.2 (by rw [keyOf?, hid]; rfl)
    have hused := hregistered.used hshape used hmem
    rw [heq] at hused
    exact Option.some.inj ((hkey hused).symm.trans (hkey hparameter))
  · cases huse
    exact .refl

/-- One more observation of known shapes. -/
inductive Observes (graph : ShapeGraph) : ShapeGraph → Prop where
  | object (site : Option CodeSite) : Observes graph (graph.object site).2
  | array (site : Option CodeSite) : Observes graph (graph.array site).2
  | function (site : Option CodeSite) : Observes graph (graph.function site).2
  | builtin (fullName : String) (constructible : Bool) :
    Observes graph (graph.builtin fullName constructible).2
  | instanceOf {graph' constructor answer} :
    graph.instanceOf constructor = .ok (answer, graph') → Observes graph graph'
  | parameter {use : Parameter} : (graph.shape? use.function).isSome →
    Observes graph (graph.parameter use).2
  | union {graph' ids id} : graph.union ids = .ok (id, graph') → Observes graph graph'
  | addProperty {graph' owner name value added} : (graph.shape? value).isSome →
    graph.addProperty owner name value = .ok (added, graph') → Observes graph graph'
  | addAccessor {graph' kind owner name function added} :
    graph.addAccessor kind owner name function = .ok (added, graph') → Observes graph graph'
  | addInstanceProperty {graph' function name value added} : (graph.shape? value).isSome →
    graph.addInstanceProperty function name value = .ok (added, graph') → Observes graph graph'
  | observeReturn {graph' function value added} :
    graph.observeReturn function value = .ok (added, graph') → Observes graph graph'
  | useParam {graph' function index answer} :
    graph.useParam function index = .ok (answer, graph') → Observes graph graph'

/-- One more observation of a recorded graph records a graph. -/
theorem Recorded.observes (h : graph.Recorded) (hobserves : graph.Observes graph') :
    graph'.Recorded := by
  cases hobserves with
  | object site => exact h.object site
  | array site => exact h.array site
  | function site => exact h.function site
  | builtin fullName constructible => exact h.builtin fullName constructible
  | instanceOf hinstance => exact h.instanceOf hinstance
  | parameter hfunction => exact h.parameter hfunction
  | union hunion => exact h.union hunion
  | addProperty hvalue hadd => exact h.addProperty hvalue hadd
  | @addAccessor _ kind _ _ _ _ hadd =>
    cases kind with
    | getter => exact h.addGetter hadd
    | setter => exact h.addSetter hadd
  | addInstanceProperty hvalue hadd => exact h.addInstanceProperty hvalue hadd
  | observeReturn hreturn => exact h.observeReturn hreturn
  | useParam huse => exact h.useParam huse

/-- The recorded graphs are those that observations lead to from the empty graph. -/
theorem recorded_iff : graph.Recorded ↔ Relation.ReflTransGen Observes ShapeGraph.empty graph := by
  constructor
  · intro h
    induction h with
    | empty => exact .refl
    | object site _ ih => exact ih.tail (.object site)
    | array site _ ih => exact ih.tail (.array site)
    | function site _ ih => exact ih.tail (.function site)
    | builtin fullName constructible _ ih => exact ih.tail (.builtin fullName constructible)
    | instanceOf _ hinstance ih => exact ih.tail (.instanceOf hinstance)
    | parameter _ hfunction ih => exact ih.tail (.parameter hfunction)
    | union _ hunion ih => exact ih.tail (.union hunion)
    | addProperty _ hvalue hadd ih => exact ih.tail (.addProperty hvalue hadd)
    | addGetter _ hadd ih => exact ih.tail (.addAccessor hadd)
    | addSetter _ hadd ih => exact ih.tail (.addAccessor hadd)
    | addInstanceProperty _ hvalue hadd ih => exact ih.tail (.addInstanceProperty hvalue hadd)
    | observeReturn _ hreturn ih => exact ih.tail (.observeReturn hreturn)
    | useParam _ huse ih => exact ih.tail (.useParam huse)
  · intro h
    induction h with
    | refl => exact .empty
    | tail _ hobserves ih => exact ih.observes hobserves

/-- An observation is a sequence of steps. -/
theorem Observes.steps (h : graph.Observes graph') (hdistinct : graph.Distinct)
    (hregistered : graph.Registered) : graph.Steps graph' := by
  cases h with
  | object site => exact steps_object graph site
  | array site => exact steps_array graph site
  | function site => exact steps_function graph site
  | builtin fullName constructible => exact steps_builtin graph fullName constructible
  | instanceOf hinstance => exact steps_instanceOf hinstance
  | parameter _ => exact steps_parameter graph _
  | union hunion => exact steps_union hunion
  | addProperty _ hadd => exact hdistinct.addProperty hadd
  | addAccessor hadd => exact steps_addAccessor hadd
  | addInstanceProperty _ hadd =>
    obtain ⟨shape, _, hadd⟩ := bind_eq_ok.1 hadd
    split at hadd
    · exact hdistinct.addProperty hadd
    · cases hadd
      exact .refl
  | observeReturn hreturn => exact hdistinct.observeReturn hregistered hreturn
  | useParam huse => exact hregistered.steps_useParam huse

/-- At the start there are no unions. -/
theorem distinct_empty : empty.Distinct where
  nodup hshape := by obtain ⟨_, rfl⟩ | rfl := empty_cases hshape <;> exact List.nodup_nil

/-- No union of a recorded graph has a member twice. -/
theorem Recorded.distinct (h : graph.Recorded) : graph.Distinct := by
  have hobserved := recorded_iff.1 h
  clear h
  induction hobserved with
  | refl => exact distinct_empty
  | tail hformer hobserves ih =>
    exact (hobserves.steps ih (recorded_iff.2 hformer).registered).distinct ih

end ShapeGraph

end Semblance
