import Semblance.Proofs.Shape.Outcomes

/-!
# Recorded graphs

A graph is recorded if it comes from the empty graph by observations that are told of known shapes
only. In such a graph every id that a shape refers to is known, no union is a member of a union, and
what is constructed is constructed by a function or a builtin. `Valid` is this invariant; it is kept
by the two ways in which a graph changes, which are a new shape and a change of a shape that keeps
its kind.

## Key results

- `Valid.alloc`, `Valid.modify`: the two kinds of changes
- `Recorded.valid`: recorded graphs are valid
-/

namespace Semblance

/-! ### What shapes refer to -/

/-- The shapes that names are bound to. -/
def Properties.refs (properties : Properties) : List ShapeId :=
  properties.toList.map (·.2)

/-- A property refers to one more shape at most. -/
theorem Properties.mem_refs_insert {properties : Properties} {name : String} {shape ref : ShapeId}
    (h : ref ∈ (properties.insert name shape).refs) : ref = shape ∨ ref ∈ properties.refs := by
  obtain ⟨binding, hmem, rfl⟩ := List.mem_map.1 h
  exact (mem_toList_insert hmem).imp_right List.mem_map_of_mem

/-- Without names nothing is referred to. -/
@[simp] theorem Properties.refs_empty : (∅ : Properties).refs = [] := rfl

/-- The shapes that an aggregate refers to. -/
def Aggregate.refs (entries : Aggregate) : List ShapeId :=
  entries.properties.refs ++ entries.getters.refs ++ entries.setters.refs

namespace Shape

/-- The shapes that a shape refers to. -/
def refs : Shape → List ShapeId
  | primitive _ => []
  | object entries => entries.refs
  | array entries _ => entries.refs
  | function fn =>
    fn.usedParams.map (·.2) ++ fn.properties.refs ++ [fn.constructs, fn.returns]
  | instanceOf constructor properties => constructor :: properties.refs
  | union members => members
  | builtin _ properties _ => properties.refs
  | global properties => properties.refs
  | .parameter use => [use.function]

/-- Whether the shape is a union. -/
def isUnion : Shape → Bool
  | union _ => true
  | _ => false

/-- The members of a union. -/
def members : Shape → List ShapeId
  | union members => members
  | _ => []

/-- Whether the shape may be a constructor. -/
def isConstructor : Shape → Bool
  | function _ | builtin _ _ _ => true
  | _ => false

/-- The constructor of an instance. -/
def constructor? : Shape → Option ShapeId
  | instanceOf constructor _ => some constructor
  | _ => none

/-- A change that leaves unions unions and constructors constructors. -/
structure KeepsKind (change : Shape → Shape) : Prop where
  isUnion : ∀ shape, (change shape).isUnion = shape.isUnion
  isConstructor : ∀ shape, (change shape).isConstructor = shape.isConstructor

/-- A change after which a shape refers to what it referred to before, and to one more shape. -/
structure Adds (new : ShapeId) (change : Shape → Shape) : Prop extends KeepsKind change where
  refs : ∀ shape, ∀ ref ∈ (change shape).refs, ref = new ∨ ref ∈ shape.refs
  members : ∀ shape, (change shape).members = shape.members
  constructor? : ∀ shape, (change shape).constructor? = shape.constructor?

/-- A shape refers to what its properties do. -/
theorem mem_refs_of_property {shape : Shape} {properties : Properties} {ref : ShapeId}
    (hproperties : shape.properties? = some properties) (hmem : ref ∈ properties.refs) :
    ref ∈ shape.refs := by
  cases shape <;> cases hproperties <;> simp [refs, Aggregate.refs, hmem]

/-- Two changes that add the same shape add this shape. -/
theorem Adds.comp {new : ShapeId} {first second : Shape → Shape} (h : Adds new first)
    (h' : Adds new second) : Adds new fun shape => second (first shape) where
  isUnion shape := (h'.isUnion _).trans (h.isUnion shape)
  isConstructor shape := (h'.isConstructor _).trans (h.isConstructor shape)
  refs shape ref hmem := (h'.refs _ ref hmem).elim .inl (h.refs shape ref)
  members shape := (h'.members _).trans (h.members shape)
  constructor? shape := (h'.constructor? _).trans (h.constructor? shape)

/-- Degrading an array adds nothing. -/
theorem adds_degrade (new : ShapeId) : Adds new degrade where
  isUnion shape := by cases shape <;> rfl
  isConstructor shape := by cases shape <;> rfl
  refs shape ref hmem := by cases shape <;> exact .inr hmem
  members shape := by cases shape <;> rfl
  constructor? shape := by cases shape <;> rfl

/-- A property adds what is in its slot. -/
theorem adds_modifyProperties (slot : String) (held : ShapeId) :
    Adds held (modifyProperties (·.insert slot held)) where
  isUnion shape := by cases shape <;> rfl
  isConstructor shape := by cases shape <;> rfl
  members shape := by cases shape <;> rfl
  constructor? shape := by cases shape <;> rfl
  refs shape ref hmem := by
    cases shape <;>
      simp only [modifyProperties, refs, Aggregate.refs, List.mem_append, List.mem_cons] at hmem ⊢
    -- Only the properties change, so whatever else the shape refers to was there before.
    case object | array =>
      rcases hmem with (hmem | hmem) | hmem
      · exact (Properties.mem_refs_insert hmem).imp_right (.inl ∘ .inl)
      · exact .inr (.inl (.inr hmem))
      · exact .inr (.inr hmem)
    case function =>
      rcases hmem with (hmem | hmem) | hmem
      · exact .inr (.inl (.inl hmem))
      · exact (Properties.mem_refs_insert hmem).imp_right (.inl ∘ .inr)
      · exact .inr (.inr hmem)
    case instanceOf =>
      rcases hmem with rfl | hmem
      · exact .inr (.inl rfl)
      · exact (Properties.mem_refs_insert hmem).imp_right .inr
    case builtin | global => exact Properties.mem_refs_insert hmem
    case union => exact .inr hmem
    case «parameter» => exact .inr hmem
    case primitive => cases hmem

/-- A property adds what is in its slot, also if it degrades an array. -/
theorem adds_property (degrades : Bool) (slot : String) (held : ShapeId) :
    Adds held fun shape =>
      (if degrades then shape.degrade else shape).modifyProperties (·.insert slot held) := by
  cases degrades with
  | false => exact adds_modifyProperties slot held
  | true => exact (adds_degrade held).comp (adds_modifyProperties slot held)

/-- Marking a function as an accessor adds nothing. -/
theorem adds_markAccessor (kind : AccessorKind) (new : ShapeId) :
    Adds new (markAccessor kind) where
  isUnion shape := by cases shape <;> rfl
  isConstructor shape := by cases shape <;> rfl
  refs shape ref hmem := by cases shape <;> exact .inr hmem
  members shape := by cases shape <;> rfl
  constructor? shape := by cases shape <;> rfl

/-- An accessor adds its function. -/
theorem adds_setAccessor (kind : AccessorKind) (name : String) (new : ShapeId) :
    Adds new (setAccessor kind name new) where
  isUnion shape := by cases shape <;> rfl
  isConstructor shape := by cases shape <;> rfl
  members shape := by cases shape <;> rfl
  constructor? shape := by cases shape <;> rfl
  refs shape ref hmem := by
    cases shape <;> cases kind <;>
      simp only [setAccessor, setAccessor.bind, refs, Aggregate.refs, List.mem_append,
        List.mem_cons] at hmem ⊢
    case object.getter | array.getter =>
      rcases hmem with (hmem | hmem) | hmem
      · exact .inr (.inl (.inl hmem))
      · exact (Properties.mem_refs_insert hmem).imp_right (.inl ∘ .inr)
      · exact .inr (.inr hmem)
    case object.setter | array.setter =>
      rcases hmem with hmem | hmem
      · exact .inr (.inl hmem)
      · exact (Properties.mem_refs_insert hmem).imp_right .inr
    -- Shapes without accessors stay as they are.
    all_goals exact .inr hmem

/-- The used parameters are those from before and the new one. -/
theorem mem_recordParam {index : Nat} {new ref : ShapeId} {params : List (Nat × ShapeId)}
    (h : ref ∈ (recordParam index new params).map (·.2)) : ref = new ∨ ref ∈ params.map (·.2) := by
  induction params with
  | nil => simpa [recordParam] using h
  | cons param params ih =>
    rw [recordParam] at h
    split at h
    · -- The parameter is put in front.
      simpa using h
    · split at h
      · -- The parameter takes the place of the first entry.
        rw [List.map_cons, List.mem_cons] at h ⊢
        exact h.imp_right .inr
      · rw [List.map_cons, List.mem_cons] at h ⊢
        rcases h with rfl | h
        · exact .inr (.inl rfl)
        · exact (ih h).imp_right .inr

/-- The use of a parameter adds the parameter. -/
theorem adds_useParam (index : Nat) (new : ShapeId) : Adds new (useParam index new) where
  isUnion shape := by cases shape <;> rfl
  isConstructor shape := by cases shape <;> rfl
  members shape := by cases shape <;> rfl
  constructor? shape := by cases shape <;> rfl
  refs shape ref hmem := by
    cases shape with
    | function fn =>
      simp only [useParam, refs, List.append_assoc, List.mem_append] at hmem ⊢
      exact hmem.elim (fun hmem => (mem_recordParam hmem).imp_right .inl) (.inr ∘ .inr)
    | _ => exact .inr hmem

end Shape

namespace ShapeGraph

/-- The graphs that come from the empty one by observations of known shapes. -/
inductive Recorded : ShapeGraph → Prop where
  | empty : Recorded empty
  | object {graph} (site) : Recorded graph → Recorded (graph.object site).2
  | array {graph} (site) : Recorded graph → Recorded (graph.array site).2
  | function {graph} (site) : Recorded graph → Recorded (graph.function site).2
  | builtin {graph} (fullName constructible) : Recorded graph →
    Recorded (graph.builtin fullName constructible).2
  | instanceOf {graph graph' constructor answer} : Recorded graph →
    graph.instanceOf constructor = .ok (answer, graph') → Recorded graph'
  | parameter {graph use} : Recorded graph → (graph.shape? use.function).isSome →
    Recorded (graph.parameter use).2
  | union {graph graph' ids id} : Recorded graph →
    graph.union ids = .ok (id, graph') → Recorded graph'
  | addProperty {graph graph' owner name value added} : Recorded graph →
    (graph.shape? value).isSome →
    graph.addProperty owner name value = .ok (added, graph') → Recorded graph'
  | addGetter {graph graph' owner name function added} : Recorded graph →
    graph.addGetter owner name function = .ok (added, graph') → Recorded graph'
  | addSetter {graph graph' owner name function added} : Recorded graph →
    graph.addSetter owner name function = .ok (added, graph') → Recorded graph'
  | addInstanceProperty {graph graph' function name value added} : Recorded graph →
    (graph.shape? value).isSome →
    graph.addInstanceProperty function name value = .ok (added, graph') → Recorded graph'
  | observeReturn {graph graph' function value added} : Recorded graph →
    graph.observeReturn function value = .ok (added, graph') → Recorded graph'
  | useParam {graph graph' function index answer} : Recorded graph →
    graph.useParam function index = .ok (answer, graph') → Recorded graph'

/-- A shape of a graph is no union. -/
def IsMember (graph : ShapeGraph) (id : ShapeId) : Prop :=
  ∃ shape, graph.shape? id = some shape ∧ shape.isUnion = false

/-- A shape of a graph may be a constructor. -/
def IsConstructor (graph : ShapeGraph) (id : ShapeId) : Prop :=
  ∃ shape, graph.shape? id = some shape ∧ shape.isConstructor = true

/-- A shape fits into a graph. -/
structure Fits (graph : ShapeGraph) (shape : Shape) : Prop where
  known : ∀ ref ∈ shape.refs, (graph.shape? ref).isSome
  member : ∀ id ∈ shape.members, graph.IsMember id
  constructed : ∀ id, shape.constructor? = some id → graph.IsConstructor id

/-- All shapes of a graph fit into it, and so do the shapes that parameters are found by. -/
structure Valid (graph : ShapeGraph) : Prop where
  fits : ∀ {id shape}, graph.shape? id = some shape → graph.Fits shape
  parameter : ∀ {use : Parameter} {id}, graph.parameters[use]? = some id →
    (graph.shape? id).isSome

/-- All shapes of a graph are in another, under the same ids and with the same kinds. -/
structure Keeps (graph graph' : ShapeGraph) : Prop where
  shape : ∀ {id shape}, graph.shape? id = some shape → ∃ shape', graph'.shape? id = some shape' ∧
    shape'.isUnion = shape.isUnion ∧ shape'.isConstructor = shape.isConstructor

variable {graph graph' graph'' : ShapeGraph} {id ref : ShapeId}

namespace Keeps

/-- What is known stays known. -/
theorem known (h : graph.Keeps graph') (hid : (graph.shape? id).isSome) :
    (graph'.shape? id).isSome := by
  obtain ⟨shape, hshape⟩ := Option.isSome_iff_exists.1 hid
  obtain ⟨shape', hshape', _⟩ := h.shape hshape
  rw [hshape', Option.isSome_some]

/-- What is no union stays none. -/
theorem isMember (h : graph.Keeps graph') (hid : graph.IsMember id) : graph'.IsMember id := by
  obtain ⟨shape, hshape, hunion⟩ := hid
  obtain ⟨shape', hshape', hunion', _⟩ := h.shape hshape
  exact ⟨shape', hshape', hunion'.trans hunion⟩

/-- What may be a constructor stays so. -/
theorem isConstructor (h : graph.Keeps graph') (hid : graph.IsConstructor id) :
    graph'.IsConstructor id := by
  obtain ⟨shape, hshape, hconstructor⟩ := hid
  obtain ⟨shape', hshape', _, hconstructor'⟩ := h.shape hshape
  exact ⟨shape', hshape', hconstructor'.trans hconstructor⟩

/-- What fits into a graph fits into one that keeps its shapes. -/
theorem fits (h : graph.Keeps graph') {shape : Shape} (hshape : graph.Fits shape) :
    graph'.Fits shape where
  known ref hmem := h.known (hshape.known ref hmem)
  member id hmem := h.isMember (hshape.member id hmem)
  constructed id heq := h.isConstructor (hshape.constructed id heq)

end Keeps

/-- The indices of a graph are no shapes. -/
theorem keeps_of_shapes_eq (h : graph'.shapes = graph.shapes) : graph.Keeps graph' where
  shape hshape := ⟨_, by rw [shape?, h, ← shape?, hshape], Eq.refl _, Eq.refl _⟩

/-- The keys under which shapes other than parameters are found do not matter. -/
theorem Valid.of_shapes_eq (h : graph.Valid) (hshapes : graph'.shapes = graph.shapes)
    (hparameters : graph'.parameters = graph.parameters) : graph'.Valid where
  fits hshape := by
    rw [shape?, hshapes, ← shape?] at hshape
    exact (keeps_of_shapes_eq hshapes).fits (h.fits hshape)
  parameter hid := by
    rw [hparameters] at hid
    exact (keeps_of_shapes_eq hshapes).known (h.parameter hid)

/-! ### The two kinds of changes -/

/-- A new shape leaves the others as they are. -/
theorem keeps_alloc (graph : ShapeGraph) (shape : Shape) : graph.Keeps (graph.alloc shape).2 where
  shape hformer := ⟨_, shape?_alloc_of_some hformer, Eq.refl _, Eq.refl _⟩

/-- A new shape is known. -/
theorem known_alloc (graph : ShapeGraph) (shape : Shape) :
    ((graph.alloc shape).2.shape? (graph.alloc shape).1).isSome := by
  rw [shape_alloc, if_pos (Eq.refl _), Option.isSome_some]

/-- A new shape that fits keeps a graph valid. -/
theorem Valid.alloc (h : graph.Valid) {shape : Shape} (hshape : (graph.alloc shape).2.Fits shape) :
    (graph.alloc shape).2.Valid where
  fits {id former} hformer := by
    rw [shape_alloc] at hformer
    split at hformer
    · -- The new shape.
      rw [← Option.some.inj hformer]
      exact hshape
    · exact (keeps_alloc graph shape).fits (h.fits hformer)
  parameter hid := (keeps_alloc graph shape).known (h.parameter hid)

/-- A change of a shape keeps its kind. -/
theorem keeps_modify (graph : ShapeGraph) (id : ShapeId) {change : Shape → Shape}
    (hchange : Shape.KeepsKind change) : graph.Keeps (graph.modify id change) where
  shape {other shape} hshape := by
    rw [shape?_modify, hshape]
    split
    · exact ⟨change shape, Eq.refl _, hchange.isUnion shape, hchange.isConstructor shape⟩
    · exact ⟨shape, Eq.refl _, Eq.refl _, Eq.refl _⟩

/-- A change of a shape that fits keeps a graph valid. -/
theorem Valid.modify (h : graph.Valid) {change : Shape → Shape}
    (hchange : Shape.KeepsKind change)
    (hfits : ∀ shape, graph.shape? id = some shape → graph.Fits shape → graph.Fits (change shape)) :
    (graph.modify id change).Valid where
  fits {other shape} hshape := by
    -- A shape that fits into the graph fits into the changed graph too.
    refine (keeps_modify graph id hchange).fits ?_
    rw [shape?_modify] at hshape
    split at hshape
    · next heq =>
      subst heq
      obtain ⟨former, hformer, rfl⟩ := Option.map_eq_some_iff.1 hshape
      exact hfits former hformer (h.fits hformer)
    · exact h.fits hshape
  parameter hid := (keeps_modify graph id hchange).known (h.parameter hid)

/-! ### Shapes that fit -/

/-- A shape that is neither a union nor an instance fits where what it refers to is known. -/
theorem fits_of_known {shape : Shape} (hknown : ∀ ref ∈ shape.refs, (graph.shape? ref).isSome)
    (hmembers : shape.members = []) (hconstructor : shape.constructor? = none) :
    graph.Fits shape where
  known := hknown
  member := by simp [hmembers]
  constructed := by simp [hconstructor]

/-- What is no union is a known shape. -/
theorem IsMember.known (h : graph.IsMember id) : (graph.shape? id).isSome := by
  obtain ⟨shape, hshape, _⟩ := h
  rw [hshape, Option.isSome_some]

/-- What may be a constructor is a known shape. -/
theorem IsConstructor.known (h : graph.IsConstructor id) : (graph.shape? id).isSome := by
  obtain ⟨shape, hshape, _⟩ := h
  rw [hshape, Option.isSome_some]

/-- A union of shapes that are no unions fits. -/
theorem fits_union {members : List ShapeId}
    (hmembers : ∀ member ∈ members, graph.IsMember member) : graph.Fits (.union members) where
  known ref hmem := (hmembers ref hmem).known
  member := hmembers
  constructed _ heq := by cases heq

/-- An instance of a constructor fits. -/
theorem fits_instanceOf {properties : Properties} (hid : graph.IsConstructor id)
    (hknown : ∀ ref ∈ properties.refs, (graph.shape? ref).isSome) :
    graph.Fits (.instanceOf id properties) where
  known ref hmem := by
    rcases List.mem_cons.1 hmem with rfl | hmem
    · exact hid.known
    · exact hknown ref hmem
  member _ hmem := by cases hmem
  constructed _ heq := Option.some.inj heq ▸ hid

/-! ### Unions -/

/-- The members of a union are those from before and the ones that are added. -/
theorem mem_foldl_addMember {members ids : List ShapeId} {member : ShapeId} :
    member ∈ ids.foldl addMember members ↔ member ∈ members ∨ member ∈ ids := by
  induction ids generalizing members with
  | nil => simp
  | cons id ids ih =>
    rw [List.foldl_cons, ih, mem_addMember, List.mem_cons, or_assoc]

/-- What a shape contributes to a union are no unions. -/
theorem Valid.isMember_flatten (h : graph.Valid) {ids : List ShapeId}
    (hflatten : graph.flatten id = .ok ids) {member : ShapeId} (hmem : member ∈ ids) :
    graph.IsMember member := by
  obtain ⟨shape, hshape, hflatten⟩ := bind_eq_ok.1 hflatten
  rw [shape_eq_ok] at hshape
  split at hflatten
  · next members =>
    cases hflatten
    exact (h.fits hshape).member member hmem
  · next hunion =>
    -- A shape that is no union stands for itself.
    cases hflatten
    obtain rfl := List.mem_singleton.1 hmem
    refine ⟨shape, hshape, ?_⟩
    cases shape with
    | union members => exact absurd rfl (hunion members)
    | _ => rfl

/-- No member of a union is a union, since a union adds its members in place of itself. -/
theorem Valid.isMember_absorb (h : graph.Valid) {members members' : List ShapeId}
    (hmembers : ∀ member ∈ members, graph.IsMember member)
    (habsorb : graph.absorb members id = .ok members') {member : ShapeId}
    (hmem : member ∈ members') : graph.IsMember member := by
  obtain ⟨ids, hflatten, habsorb⟩ := bind_eq_ok.1 habsorb
  cases habsorb
  rcases mem_foldl_addMember.1 hmem with hformer | hnew
  · exact hmembers member hformer
  · exact h.isMember_flatten hflatten hnew

/-- No member of a union is a union, whatever shapes go into it. -/
theorem Valid.isMember_foldlM_absorb (h : graph.Valid) {ids members members' : List ShapeId}
    (hmembers : ∀ member ∈ members, graph.IsMember member)
    (habsorb : ids.foldlM graph.absorb members = .ok members') :
    ∀ member ∈ members', graph.IsMember member := by
  induction ids generalizing members with
  | nil =>
    cases habsorb
    exact hmembers
  | cons id ids ih =>
    rw [List.foldlM_cons] at habsorb
    obtain ⟨members₁, hfirst, hrest⟩ := bind_eq_ok.1 habsorb
    exact ih (fun member hmem => h.isMember_absorb hmembers hfirst hmem) hrest

/-- A union fits if none of its members is a union. -/
theorem Valid.allocUnion (h : graph.Valid) {members : List ShapeId}
    (hmembers : ∀ member ∈ members, graph.IsMember member) :
    (graph.alloc (.union members)).2.Valid :=
  h.alloc ((keeps_alloc graph _).fits (fits_union hmembers))

/-- A union is new, and its members are known. -/
theorem Valid.union (h : graph.Valid) {ids : List ShapeId}
    (hunion : graph.union ids = .ok (id, graph')) : graph'.Valid := by
  obtain ⟨members, hmembers, hunion⟩ := bind_eq_ok.1 hunion
  cases hunion
  exact h.allocUnion (h.isMember_foldlM_absorb (by simp) hmembers)

/-- What a slot is filled with is known. -/
theorem Valid.fill (h : graph.Valid) {slot : Option ShapeId} {value held : ShapeId}
    (hslot : ∀ existing, slot = some existing → (graph.shape? existing).isSome)
    (hvalue : (graph.shape? value).isSome) (hfill : graph.fill slot value = .ok (held, graph')) :
    graph'.Valid ∧ (graph'.shape? held).isSome := by
  obtain ⟨_, rfl, rfl⟩ | ⟨hheld, _, rfl⟩ | ⟨existing, _, hexisting, _, rfl, rfl⟩ :=
    fill_eq_ok hfill
  · exact ⟨h, hvalue⟩
  · exact ⟨h, hslot held hheld⟩
  · refine ⟨h.allocUnion fun member hmem => ?_, known_alloc graph _⟩
    rcases List.mem_append.1 (List.mem_eraseDups.1 hmem) with hmem | hmem
    · exact h.isMember_flatten (flatten_eq_ok_iff.2 ⟨hexisting, rfl⟩) hmem
    · exact h.isMember_flatten (flatten_eq_ok_iff.2 ⟨hvalue, rfl⟩) hmem

/-! ### Shapes with a key -/

/-- An object is found, or it is new and refers to nothing. -/
theorem Valid.object (h : graph.Valid) (site : Option CodeSite) : (graph.object site).2.Valid := by
  have hnew (site : Option CodeSite) : (graph.alloc (.object { site })).2.Valid :=
    h.alloc (fits_of_known (by simp [Shape.refs, Aggregate.refs]) rfl rfl)
  unfold ShapeGraph.object
  split
  · exact hnew none
  · next place =>
    split
    · exact h
    · exact (hnew (some place)).of_shapes_eq rfl rfl

/-- An array is found, or it is new and refers to nothing. -/
theorem Valid.array (h : graph.Valid) (site : Option CodeSite) : (graph.array site).2.Valid := by
  have hnew (site : Option CodeSite) : (graph.alloc (.array { site } false)).2.Valid :=
    h.alloc (fits_of_known (by simp [Shape.refs, Aggregate.refs]) rfl rfl)
  unfold ShapeGraph.array
  split
  · exact hnew none
  · next place =>
    split
    · exact h
    · exact (hnew (some place)).of_shapes_eq rfl rfl

/-- A function, its instances and the union of its returns have the next three ids. -/
theorem shape?_allocFunction (graph : ShapeGraph) (site : Option CodeSite) (id : ShapeId) :
    (graph.allocFunction site).2.shape? id =
      if id.index = graph.shapes.size then
        some (.function { site, constructs := ⟨graph.shapes.size + 1⟩,
                          returns := ⟨graph.shapes.size + 2⟩ })
      else if id.index = graph.shapes.size + 1 then some (.instanceOf ⟨graph.shapes.size⟩ ∅)
      else if id.index = graph.shapes.size + 2 then some (.union [])
      else graph.shape? id := by
  simp only [allocFunction, alloc, shape?, Array.getElem?_push, Array.size_push]
  split
  · rw [if_neg (by omega), if_neg (by omega)]
  · split
    · rw [if_neg (by omega)]
    · rfl

/-- A new function leaves the others as they are. -/
theorem keeps_allocFunction (graph : ShapeGraph) (site : Option CodeSite) :
    graph.Keeps (graph.allocFunction site).2 where
  shape {id shape} hshape := by
    have hid : id.index < graph.shapes.size := (Array.getElem?_eq_some_iff.1 hshape).1
    refine ⟨shape, ?_, Eq.refl _, Eq.refl _⟩
    rw [shape?_allocFunction, if_neg (by omega), if_neg (by omega), if_neg (by omega), hshape]

/-- The three shapes of a function refer to each other and fit once all of them are there. -/
theorem Valid.allocFunction (h : graph.Valid) (site : Option CodeSite) :
    (graph.allocFunction site).2.Valid where
  fits {id shape} hshape := by
    have hshape' := hshape
    rw [shape?_allocFunction] at hshape'
    split at hshape'
    · -- The function refers to the two shapes after it.
      cases hshape'
      refine fits_of_known (fun ref hmem => ?_) rfl rfl
      have hmem : ref = ⟨graph.shapes.size + 1⟩ ∨ ref = ⟨graph.shapes.size + 2⟩ := by
        simpa [Shape.refs] using hmem
      rcases hmem with rfl | rfl <;> simp [shape?_allocFunction]
    · split at hshape'
      · -- The instance is constructed by the function.
        cases hshape'
        refine fits_instanceOf ?_ (by simp)
        exact ⟨_, (shape?_allocFunction graph site _).trans (if_pos rfl), rfl⟩
      · split at hshape'
        · -- The union of what it returns has no members yet.
          cases hshape'
          exact fits_union (by simp)
        · exact (keeps_allocFunction graph site).fits (h.fits hshape')
  parameter hid := (keeps_allocFunction graph site).known (h.parameter hid)

/-- A function is found, or it is new and fits with its instances and its returns. -/
theorem Valid.function (h : graph.Valid) (site : Option CodeSite) :
    (graph.function site).2.Valid := by
  unfold ShapeGraph.function
  split
  · exact h.allocFunction none
  · next place =>
    split
    · exact h
    · exact (h.allocFunction (some place)).of_shapes_eq rfl rfl

/-- A builtin is found, or it is new and refers to nothing. -/
theorem Valid.builtin (h : graph.Valid) (fullName : String) (constructible : Bool) :
    (graph.builtin fullName constructible).2.Valid := by
  unfold ShapeGraph.builtin
  split
  · next id _ =>
    split
    · -- A known builtin turns out to be constructible.
      refine h.modify ?_ ?_
      · constructor <;> intro shape <;> cases shape <;> rfl
      · intro shape _ hfits
        cases shape with
        | builtin => exact fits_of_known hfits.known rfl rfl
        | _ => exact hfits
    · exact h
  · exact (h.alloc (fits_of_known (by simp [Shape.refs]) rfl rfl)).of_shapes_eq rfl rfl

/-- An instance is found, or it is new and refers to its constructor. -/
theorem Valid.instanceOf (h : graph.Valid) {constructor : ShapeId} {answer : Option ShapeId}
    (hinstance : graph.instanceOf constructor = .ok (answer, graph')) : graph'.Valid := by
  obtain ⟨shape, hshape, hinstance⟩ := bind_eq_ok.1 hinstance
  rw [shape_eq_ok] at hshape
  split at hinstance
  · cases hinstance
    exact h
  · split at hinstance
    · cases hinstance
      exact h
    · cases hinstance
      have hkeeps := keeps_alloc graph (.instanceOf constructor ∅)
      have hfits : (graph.alloc (.instanceOf constructor ∅)).2.Fits (.instanceOf constructor ∅) :=
        fits_instanceOf (hkeeps.isConstructor ⟨_, hshape, rfl⟩) (by simp)
      exact (h.alloc hfits).of_shapes_eq rfl rfl
  · cases hinstance
    exact h

/-- A parameter can be found once it is known. -/
theorem Valid.insertParameter (h : graph.Valid) (hid : (graph.shape? id).isSome)
    (use : Parameter) :
    Valid { graph with parameters := graph.parameters.insert use id } := by
  have hkeeps : graph.Keeps { graph with parameters := graph.parameters.insert use id } :=
    keeps_of_shapes_eq rfl
  refine ⟨fun hshape => hkeeps.fits (h.fits hshape), fun {other id'} hid' => ?_⟩
  rw [Std.TreeMap.getElem?_insert] at hid'
  split at hid'
  · exact Option.some.inj hid' ▸ hid
  · exact h.parameter hid'

/-- A parameter is found, or it is new and refers to its function. -/
theorem Valid.parameter_of (h : graph.Valid) (use : Parameter)
    (hfunction : (graph.shape? use.function).isSome) :
    (graph.parameter use).2.Valid ∧
      ((graph.parameter use).2.shape? (graph.parameter use).1).isSome := by
  unfold ShapeGraph.parameter
  split
  · next id hid => exact ⟨h, h.parameter hid⟩
  · have hkeeps := keeps_alloc graph (.parameter use)
    have hfits : (graph.alloc (.parameter use)).2.Fits (.parameter use) := by
      refine fits_of_known (fun ref hmem => ?_) rfl rfl
      obtain rfl := List.mem_singleton.1 hmem
      exact hkeeps.known hfunction
    exact ⟨(h.alloc hfits).insertParameter (known_alloc graph _) use, known_alloc graph _⟩

/-! ### Observations -/

/-- A change that adds a known shape keeps a graph valid. -/
theorem Valid.modify_adds (h : graph.Valid) {new : ShapeId} (hnew : (graph.shape? new).isSome)
    {change : Shape → Shape} (hchange : Shape.Adds new change) :
    (graph.modify id change).Valid := by
  refine h.modify hchange.toKeepsKind fun shape _ hfits => ⟨fun ref hmem => ?_, ?_, ?_⟩
  · rcases hchange.refs shape ref hmem with rfl | hmem
    · exact hnew
    · exact hfits.known ref hmem
  · rw [hchange.members]
    exact hfits.member
  · rw [hchange.constructor?]
    exact hfits.constructed

/-- A change of a union to shapes that are no unions keeps a graph valid. -/
theorem Valid.modify_setMembers (h : graph.Valid) {members : List ShapeId}
    (hmembers : ∀ member ∈ members, graph.IsMember member) :
    (graph.modify id (Shape.setMembers members)).Valid := by
  refine h.modify ?_ fun shape _ hfits => ?_
  · constructor <;> intro shape <;> cases shape <;> rfl
  · cases shape with
    | union => exact fits_union hmembers
    | _ => exact hfits

/-- What a name is bound to is known. -/
theorem Valid.known_of_get? (h : graph.Valid) {shape : Shape} {properties : Properties}
    {name : String} (hshape : graph.shape? id = some shape)
    (hproperties : shape.properties? = some properties) (href : properties.get? name = some ref) :
    (graph.shape? ref).isSome :=
  (h.fits hshape).known ref (Shape.mem_refs_of_property hproperties
    (List.mem_map.2 ⟨_, Properties.get?_eq_some.1 href, rfl⟩))

/-- A property refers to the value, or to a union of known shapes. -/
theorem Valid.addProperty (h : graph.Valid) {owner value : ShapeId} {name : String} {added : Bool}
    (hvalue : (graph.shape? value).isSome)
    (hadd : graph.addProperty owner name value = .ok (added, graph')) : graph'.Valid := by
  obtain ⟨shape, hshape, ⟨_, _, rfl⟩ | ⟨properties, held, graph₁, hproperties, hfill, _, rfl⟩⟩ :=
    addProperty_eq_ok hadd
  · exact h
  · obtain ⟨hvalid, hheld⟩ := h.fill (fun _ => h.known_of_get? hshape hproperties) hvalue hfill
    exact hvalid.modify_adds hheld (Shape.adds_property _ _ held)

/-- An accessor refers to its function. -/
theorem Valid.addAccessor (h : graph.Valid) {kind : AccessorKind} {owner function : ShapeId}
    {name : String} {added : Bool}
    (hadd : graph.addAccessor kind owner name function = .ok (added, graph')) : graph'.Valid := by
  obtain ⟨_, hfunction, hadd⟩ := bind_eq_ok.1 hadd
  obtain ⟨fn, hfn, _⟩ := bind_eq_ok.1 hfunction
  obtain ⟨shape, hshape, hadd⟩ := bind_eq_ok.1 hadd
  rw [shape_eq_ok] at hfn
  have hknown : (graph.shape? function).isSome := by rw [hfn, Option.isSome_some]
  have hmarked : (graph.modify function (Shape.markAccessor kind)).Valid :=
    h.modify_adds hknown (Shape.adds_markAccessor kind function)
  split at hadd
  · -- The function is marked first, and then bound where it is known still.
    cases hadd
    have hkeeps := keeps_modify graph function (Shape.adds_markAccessor kind function).toKeepsKind
    exact hmarked.modify_adds (hkeeps.known hknown) (Shape.adds_setAccessor kind name function)
  · cases hadd
    exact hmarked

/-- What a function constructs takes a property as any shape does. -/
theorem Valid.addInstanceProperty (h : graph.Valid) {function value : ShapeId} {name : String}
    {added : Bool} (hvalue : (graph.shape? value).isSome)
    (hadd : graph.addInstanceProperty function name value = .ok (added, graph')) :
    graph'.Valid := by
  obtain ⟨shape, _, hadd⟩ := bind_eq_ok.1 hadd
  split at hadd
  · exact h.addProperty hvalue hadd
  · cases hadd
    exact h

/-- What is returned adds known shapes that are no unions. -/
theorem Valid.observeReturn (h : graph.Valid) {function value : ShapeId} {added : Bool}
    (hreturn : graph.observeReturn function value = .ok (added, graph')) : graph'.Valid := by
  unfold ShapeGraph.observeReturn at hreturn
  split at hreturn
  · cases hreturn
    exact h
  · obtain ⟨shape, _, hreturn⟩ := bind_eq_ok.1 hreturn
    split at hreturn
    · obtain ⟨former, hformer, hreturn⟩ := bind_eq_ok.1 hreturn
      obtain ⟨members, hmembers, hreturn⟩ := bind_eq_ok.1 hreturn
      cases hreturn
      refine h.modify_setMembers fun member hmem => ?_
      exact h.isMember_absorb (fun _ hmem => h.isMember_flatten hformer hmem) hmembers hmem
    · cases hreturn
      exact h

/-- The function refers to the parameter, which is known. -/
theorem Valid.useParam (h : graph.Valid) {function : ShapeId} {index : Nat}
    {answer : Option ShapeId} (huse : graph.useParam function index = .ok (answer, graph')) :
    graph'.Valid := by
  obtain ⟨shape, hshape, huse⟩ := bind_eq_ok.1 huse
  rw [shape_eq_ok] at hshape
  split at huse
  · cases huse
    obtain ⟨hvalid, hknown⟩ :=
      h.parameter_of ⟨function, index⟩ (by rw [hshape, Option.isSome_some])
    exact hvalid.modify_adds hknown (Shape.adds_useParam index _)
  · cases huse
    exact h

/-! ### Sequences of observations -/

/-- The empty graph has the primitives and the global shape only. -/
theorem empty_cases {shape : Shape} (hshape : empty.shape? id = some shape) :
    (∃ kind, shape = .primitive kind) ∨ shape = .global ∅ := by
  have hmem : shape ∈ empty.shapes.toList :=
    Array.mem_toList_iff.2 (Array.mem_of_getElem? hshape)
  rw [empty, List.toList_toArray, List.mem_append] at hmem
  rcases hmem with hmem | hmem
  · obtain ⟨kind, _, rfl⟩ := List.mem_map.1 hmem
    exact .inl ⟨kind, rfl⟩
  · exact .inr (List.mem_singleton.1 hmem)

/-- The primitives refer to nothing, and neither does the global scope at the start. -/
theorem valid_empty : empty.Valid where
  fits {id shape} hshape := by
    -- None of the shapes refers to anything.
    obtain ⟨kind, rfl⟩ | rfl := empty_cases hshape
    · exact fits_of_known (by simp [Shape.refs]) rfl rfl
    · exact fits_of_known (by simp [Shape.refs]) rfl rfl
  parameter hid := by simp [empty] at hid

/-- Every recorded graph is valid. -/
theorem Recorded.valid (h : graph.Recorded) : graph.Valid := by
  -- Induction on the observations, each of which keeps a graph valid.
  induction h with
  | empty => exact valid_empty
  | object site _ ih => exact ih.object site
  | array site _ ih => exact ih.array site
  | function site _ ih => exact ih.function site
  | builtin fullName constructible _ ih => exact ih.builtin fullName constructible
  | instanceOf _ hinstance ih => exact ih.instanceOf hinstance
  | parameter _ hfunction ih => exact (ih.parameter_of _ hfunction).1
  | union _ hunion ih => exact ih.union hunion
  | addProperty _ hvalue hadd ih => exact ih.addProperty hvalue hadd
  | addGetter _ hadd ih => exact ih.addAccessor hadd
  | addSetter _ hadd ih => exact ih.addAccessor hadd
  | addInstanceProperty _ hvalue hadd ih => exact ih.addInstanceProperty hvalue hadd
  | observeReturn _ hreturn ih => exact ih.observeReturn hreturn
  | useParam _ huse ih => exact ih.useParam huse

end ShapeGraph

end Semblance
