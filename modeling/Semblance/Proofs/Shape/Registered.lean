import Mathlib.Tactic.IntervalCases
import Semblance.Proofs.Shape.Keys

/-!
# Shapes are found by their keys

Finding a shape and reading the key of a shape undo each other, so no two shapes have the same key.
`Registered` is this invariant, together with what a function says of the two shapes that come with
it.

## Key results

- `Registered.alloc`, `Registered.register`, `Registered.growFunction`, `Registered.modify`: the
  ways in which a graph changes
- `Recorded.registered`: recorded graphs have the invariant
- `shape_by_key`: what it says of the shapes and the indices of a graph
-/

namespace Semblance

namespace ShapeGraph

variable {graph graph' : ShapeGraph} {id id' : ShapeId} {key : ShapeKey}

/-! ### The invariant -/

/-- Keys and shapes belong together, and so do a function, what it constructs and what it returns.
-/
structure Registered (graph : ShapeGraph) : Prop where
  found : ∀ {key id}, graph.find? key = some id ↔ graph.keyOf? id = some key
  /-- Only builtins lead to their instances by an index. -/
  constructed : ∀ {constructor id : ShapeId}, graph.constructed[constructor.index]? = some id →
    ∃ fullName properties, graph.shape? constructor = some (.builtin fullName properties true)
  constructor : ∀ {id constructor properties},
    graph.shape? id = some (.instanceOf constructor properties) →
    ((graph.shape? constructor).map Shape.mayConstruct) = some true
  returns : ∀ {id union}, (graph.shape? id).bind Shape.returns? = some union →
    (graph.shape? union).map Shape.isUnion = some true
  returns_inj : ∀ {id id' union}, (graph.shape? id).bind Shape.returns? = some union →
    (graph.shape? id').bind Shape.returns? = some union → id = id'
  used : ∀ {id shape}, graph.shape? id = some shape → ∀ used ∈ shape.usedParams,
    graph.shape? used.2 = some (.parameter ⟨id, used.1⟩)

/-- A function and its instances lead to each other. -/
theorem Registered.constructs (h : graph.Registered) {fn : FunctionShape}
    (hid : graph.shape? id = some (.function fn)) :
    ∃ properties, graph.shape? fn.constructs = some (.instanceOf id properties) := by
  have hfind : graph.find? (.instanceOf id) = some fn.constructs := by
    rw [find?, hid]
    rfl
  obtain ⟨shape, hshape, hkey⟩ := Option.bind_eq_some_iff.1 (h.found.1 hfind)
  obtain ⟨properties, rfl⟩ := Shape.key?_eq_instanceOf hkey
  exact ⟨properties, hshape⟩

/-- What a function returns is a union. -/
theorem Registered.returned_union (h : graph.Registered) {fn : FunctionShape}
    (hid : graph.shape? id = some (.function fn)) :
    ∃ members, graph.shape? fn.returns = some (.union members) := by
  obtain ⟨shape, hshape, hunion⟩ := Option.map_eq_some_iff.1 (h.returns (by rw [hid]; rfl))
  obtain ⟨members, rfl⟩ := Shape.isUnion_eq_true.1 hunion
  exact ⟨members, hshape⟩

/-- What constructs an instance is a function, or a builtin that is constructible. -/
theorem Registered.constructor_cases (h : graph.Registered) {constructor : ShapeId}
    {properties : Properties} (hid : graph.shape? id = some (.instanceOf constructor properties)) :
    (∃ fn, graph.shape? constructor = some (.function fn)) ∨
      ∃ fullName properties, graph.shape? constructor = some (.builtin fullName properties true) := by
  obtain ⟨shape, hshape, hmay⟩ := Option.map_eq_some_iff.1 (h.constructor hid)
  cases shape with
  | function fn => exact .inl ⟨fn, hshape⟩
  | builtin fullName properties constructible =>
    obtain rfl : constructible = true := hmay
    exact .inr ⟨fullName, properties, hshape⟩
  | _ => cases hmay

/-! ### New shapes -/

/-- New shapes keep the invariant if they are found by their keys, and if they fit those that they
    refer to. -/
theorem Registered.grow (h : graph.Registered)
    (hkeep : ∀ {id shape}, graph.shape? id = some shape → graph'.shape? id = some shape)
    (hfind : ∀ {key id}, graph'.find? key = some id ↔
      graph.find? key = some id ∨ (graph.shape? id = none ∧ graph'.keyOf? id = some key))
    (hconstructed : ∀ {constructor id : ShapeId}, graph'.constructed[constructor.index]? = some id →
      graph.constructed[constructor.index]? = some id ∨ ∃ fullName properties,
        graph.shape? constructor = some (.builtin fullName properties true))
    (hconstructor : ∀ {id constructor properties}, graph.shape? id = none →
      graph'.shape? id = some (.instanceOf constructor properties) →
      (graph'.shape? constructor).map Shape.mayConstruct = some true)
    (hfunction : ∀ {id fn}, graph.shape? id = none → graph'.shape? id = some (.function fn) →
      fn.usedParams = [] ∧ graph.shape? fn.returns = none ∧
        (graph'.shape? fn.returns).map Shape.isUnion = some true)
    (hone : ∀ {id id' fn fn'}, graph.shape? id = none → graph'.shape? id = some (.function fn) →
      graph.shape? id' = none → graph'.shape? id' = some (.function fn') → id = id') :
    graph'.Registered := by
  have hcases {id : ShapeId} {shape : Shape} (hid : graph'.shape? id = some shape) :
      graph.shape? id = none ∨ graph.shape? id = some shape := by
    cases hformer : graph.shape? id with
    | none => exact .inl rfl
    | some former => exact .inr ((hkeep hformer).symm.trans hid)
  have hmap {id : ShapeId} {test : Shape → Bool} (hid : (graph.shape? id).map test = some true) :
      (graph'.shape? id).map test = some true := by
    obtain ⟨shape, hshape, htest⟩ := Option.map_eq_some_iff.1 hid
    rw [hkeep hshape, Option.map_some, htest]
  have hreturns {id union : ShapeId} (hid : (graph'.shape? id).bind Shape.returns? = some union) :
      (∃ fn, fn.returns = union ∧ graph.shape? id = none ∧
        graph'.shape? id = some (.function fn)) ∨
      (graph.shape? id).bind Shape.returns? = some union := by
    obtain ⟨shape, hshape, hunion⟩ := Option.bind_eq_some_iff.1 hid
    rcases hcases hshape with hnew | hformer
    · cases shape with
      | function fn => exact .inl ⟨fn, Option.some.inj hunion, hnew, hshape⟩
      | _ => cases hunion
    · exact .inr (by rw [hformer, Option.bind_some, hunion])
  -- A known function does not return a new union.
  have hapart {id union : ShapeId} (hnew : graph.shape? union = none)
      (hid : (graph.shape? id).bind Shape.returns? = some union) : False := by
    have hunion := h.returns hid
    rw [hnew] at hunion
    cases hunion
  refine ⟨fun {key id} => ?_, fun hindex => ?_, fun hid => ?_, fun hid => ?_,
    fun {id id' union} hid hid' => ?_, fun {id shape} hid used hmem => ?_⟩
  · rw [hfind, h.found, keyOf?, keyOf?]
    cases hformer : graph.shape? id with
    | none => simp
    | some former => simp [hkeep hformer]
  · obtain ⟨fullName, properties, hbuiltin⟩ := (hconstructed hindex).elim h.constructed id
    exact ⟨fullName, properties, hkeep hbuiltin⟩
  · rcases hcases hid with hnew | hformer
    · exact hconstructor hnew hid
    · exact hmap (h.constructor hformer)
  · obtain ⟨fn, rfl, hnew, hfn⟩ | hformer := hreturns hid
    · exact (hfunction hnew hfn).2.2
    · exact hmap (h.returns hformer)
  · obtain ⟨fn, rfl, hnew, hfn⟩ | hformer := hreturns hid
    · obtain ⟨fn', _, hnew', hfn'⟩ | hformer' := hreturns hid'
      · exact hone hnew hfn hnew' hfn'
      · exact (hapart (hfunction hnew hfn).2.1 hformer').elim
    · obtain ⟨fn', rfl, hnew', hfn'⟩ | hformer' := hreturns hid'
      · exact (hapart (hfunction hnew' hfn').2.1 hformer).elim
      · exact h.returns_inj hformer hformer'
  · rcases hcases hid with hnew | hformer
    · cases shape with
      | function fn =>
        rw [Shape.usedParams, (hfunction hnew hid).1] at hmem
        exact absurd hmem List.not_mem_nil
      | _ => exact absurd hmem List.not_mem_nil
    · exact hkeep (h.used hformer used hmem)

/-- A new shape that is no function leads nowhere by itself. -/
theorem find?_alloc {shape : Shape} (h : shape.constructs? = none) (key : ShapeKey) :
    (graph.alloc shape).2.find? key = graph.find? key := by
  cases key with
  | instanceOf constructor =>
    have hconstructs : ((graph.alloc shape).2.shape? constructor).bind Shape.constructs? =
        (graph.shape? constructor).bind Shape.constructs? := by
      rw [shape_alloc]
      split
      · next heq => rw [heq, shape?_alloc_fst, Option.bind_some, h, Option.bind_none]
      · rfl
    simp only [find?, hconstructs]
    rfl
  | _ => rfl

/-- A new shape without a key. It is neither a function nor an instance. -/
theorem Registered.alloc (h : graph.Registered) {shape : Shape} (hnone : shape.constructs? = none)
    (hkey : shape.key? = none) : (graph.alloc shape).2.Registered := by
  have hkind {id : ShapeId} {fn : FunctionShape} (hnew : graph.shape? id = none)
      (hid : (graph.alloc shape).2.shape? id = some (.function fn)) : False := by
    obtain ⟨_, rfl⟩ := shape?_alloc_of_none hnew hid
    cases hnone
  refine h.grow shape?_alloc_of_some (fun {key id} => ?_) .inl (fun hnew hid => ?_)
    (fun hnew hid => (hkind hnew hid).elim) (fun hnew hid => (hkind hnew hid).elim)
  · rw [find?_alloc hnone]
    refine ⟨.inl, fun hid => hid.resolve_right ?_⟩
    rintro ⟨hnew, hid⟩
    obtain ⟨former, hformer, hformer'⟩ := Option.bind_eq_some_iff.1 hid
    obtain ⟨_, rfl⟩ := shape?_alloc_of_none hnew hformer
    cases hkey.symm.trans hformer'
  · obtain ⟨_, rfl⟩ := shape?_alloc_of_none hnew hid
    cases hkey

/-- A new shape with a key that led nowhere, found by this key from now on. It is no function. -/
theorem Registered.register (h : graph.Registered) (key : ShapeKey) {shape : Shape}
    (hnone : shape.constructs? = none) (hkey : shape.key? = some key)
    (hfresh : graph.find? key = none)
    (hconstructor : ∀ {constructor}, key = .instanceOf constructor →
      ∃ fullName properties, graph.shape? constructor = some (.builtin fullName properties true)) :
    ((graph.alloc shape).2.register (graph.alloc shape).1 key).Registered := by
  -- A registered shape is no function, which leaves the two facts about returns to the former
  -- shapes.
  have hkind {id : ShapeId} {fn : FunctionShape} (hnew : graph.shape? id = none)
      (hid : ((graph.alloc shape).2.register (graph.alloc shape).1 key).shape? id =
        some (.function fn)) : False := by
    rw [shape?_register] at hid
    obtain ⟨_, rfl⟩ := shape?_alloc_of_none hnew hid
    cases hnone
  -- The index and the shapes agree on the new id: the shape allocated there has the key it is
  -- registered under.
  have hself : (graph.alloc shape).2.keyOf? (graph.alloc shape).1 = some key := by
    rw [keyOf?, shape_alloc, if_pos rfl, Option.bind_some, hkey]
  refine h.grow (fun hid => ?_) (fun {other id} => ?_) (fun hindex => ?_) (fun hnew hid => ?_)
    (fun hnew hid => (hkind hnew hid).elim) (fun hnew hid => (hkind hnew hid).elim)
  · rw [shape?_register, shape?_alloc_of_some hid]
  · rw [find?_register (by rw [find?_alloc hnone, hfresh]), find?_alloc hnone, keyOf?_register]
    constructor
    · intro hid
      split at hid
      · next heq =>
        subst heq
        obtain rfl := Option.some.inj hid
        exact .inr ⟨shape?_alloc_fst graph shape, hself⟩
      · exact .inl hid
    · rintro (hid | ⟨hnew, hid⟩)
      · rw [if_neg, hid]
        rintro rfl
        cases hfresh.symm.trans hid
      · obtain ⟨former, hformer, _⟩ := Option.bind_eq_some_iff.1 hid
        obtain ⟨rfl, _⟩ := shape?_alloc_of_none hnew hformer
        rw [if_pos (Option.some.inj (hself.symm.trans hid))]
  · exact (constructed_register hindex).imp_right hconstructor
  · rw [shape?_register] at hid ⊢
    obtain ⟨_, rfl⟩ := shape?_alloc_of_none hnew hid
    obtain ⟨fullName, properties, hbuiltin⟩ := hconstructor (Option.some.inj hkey).symm
    rw [shape?_alloc_of_some hbuiltin]
    rfl

/-! ### Functions -/

/-- A new function leaves the shapes that are there alone. -/
theorem shape?_allocFunction_of_some {site : Option CodeSite} {shape : Shape}
    (h : graph.shape? id = some shape) : (graph.allocFunction site).2.shape? id = some shape := by
  have hid : id.index < graph.shapes.size := (Array.getElem?_eq_some_iff.1 h).1
  rw [shape?_allocFunction, if_neg (by omega), if_neg (by omega), if_neg (by omega), h]

/-- The next id is that of the function. -/
theorem shape?_allocFunction_function (graph : ShapeGraph) (site : Option CodeSite) :
    (graph.allocFunction site).2.shape? ⟨graph.size⟩ = some (.function
      { site, constructs := ⟨graph.size + 1⟩, returns := ⟨graph.size + 2⟩ }) := by
  simp [shape?_allocFunction, size]

/-- The id after it is that of its instances. -/
theorem shape?_allocFunction_instance (graph : ShapeGraph) (site : Option CodeSite) :
    (graph.allocFunction site).2.shape? ⟨graph.size + 1⟩ =
      some (.instanceOf ⟨graph.size⟩ ∅) := by
  simp [shape?_allocFunction, size]

/-- The id after that is that of the union of its returns, which is empty. -/
theorem shape?_allocFunction_returns (graph : ShapeGraph) (site : Option CodeSite) :
    (graph.allocFunction site).2.shape? ⟨graph.size + 2⟩ = some (.union []) := by
  simp [shape?_allocFunction, size]

/-- A shape that was not there before is one of the three new ones. -/
theorem shape?_allocFunction_of_none {site : Option CodeSite} {shape : Shape}
    (hnone : graph.shape? id = none)
    (h : (graph.allocFunction site).2.shape? id = some shape) :
    (id = ⟨graph.size⟩ ∧ shape = .function
        { site, constructs := ⟨graph.size + 1⟩, returns := ⟨graph.size + 2⟩ }) ∨
      (id = ⟨graph.size + 1⟩ ∧ shape = .instanceOf ⟨graph.size⟩ ∅) ∨
      (id = ⟨graph.size + 2⟩ ∧ shape = .union []) := by
  obtain ⟨index⟩ := id
  rw [shape?_allocFunction, hnone] at h
  split at h
  · next heq => exact .inl ⟨congrArg _ heq, (Option.some.inj h).symm⟩
  · split at h
    · next heq => exact .inr (.inl ⟨congrArg _ heq, (Option.some.inj h).symm⟩)
    · split at h
      · next heq => exact .inr (.inr ⟨congrArg _ heq, (Option.some.inj h).symm⟩)
      · cases h

/-- The ids beyond the size are not known. -/
theorem shape?_of_size_le (h : graph.size ≤ id.index) : graph.shape? id = none :=
  Array.getElem?_eq_none h

/-- A new function leads to its instances, and no other key leads elsewhere before it is
    registered. -/
theorem find?_allocFunction (graph : ShapeGraph) (site : Option CodeSite) (key : ShapeKey) :
    (graph.allocFunction site).2.find? key =
      if key = .instanceOf ⟨graph.size⟩ then some ⟨graph.size + 1⟩ else graph.find? key := by
  cases key with
  | instanceOf constructor =>
    by_cases hself : constructor = ⟨graph.size⟩
    · rw [if_pos (congrArg _ hself), find?, hself, shape?_allocFunction_function]
      rfl
    · -- What comes with the function is no function.
      have hconstructs : ((graph.allocFunction site).2.shape? constructor).bind Shape.constructs? =
          (graph.shape? constructor).bind Shape.constructs? := by
        cases hformer : graph.shape? constructor with
        | some former => rw [shape?_allocFunction_of_some hformer]
        | none =>
          cases hshape : (graph.allocFunction site).2.shape? constructor with
          | none => rfl
          | some shape =>
            obtain ⟨heq, _⟩ | ⟨_, rfl⟩ | ⟨_, rfl⟩ := shape?_allocFunction_of_none hformer hshape
            · exact absurd heq hself
            · rfl
            · rfl
      rw [if_neg (by simpa using hself), find?, hconstructs]
      rfl
  | _ => rfl

/-- A new function with the shapes that come with it. -/
theorem Registered.growFunction (h : graph.Registered) (site : Option CodeSite)
    (hfresh : ∀ place, site = some place → graph.find? (.function place) = none)
    (hshape : ∀ other, graph'.shape? other = (graph.allocFunction site).2.shape? other)
    (hfind : ∀ key, graph'.find? key =
      if site.map .function = some key then some ⟨graph.size⟩
      else (graph.allocFunction site).2.find? key)
    (hconstructed : graph'.constructed = graph.constructed) : graph'.Registered := by
  have hcases {id : ShapeId} {shape : Shape} (hnew : graph.shape? id = none)
      (hid : graph'.shape? id = some shape) :=
    shape?_allocFunction_of_none hnew ((hshape id).symm.trans hid)
  have hfn {id : ShapeId} {fn : FunctionShape} (hnew : graph.shape? id = none)
      (hid : graph'.shape? id = some (.function fn)) : id = ⟨graph.size⟩ ∧
        fn = { site, constructs := ⟨graph.size + 1⟩, returns := ⟨graph.size + 2⟩ } := by
    obtain ⟨rfl, heq⟩ | ⟨_, heq⟩ | ⟨_, heq⟩ := hcases hnew hid
    · exact ⟨rfl, Shape.function.inj heq⟩
    · cases heq
    · cases heq
  -- There were no instances of the function before.
  have hinstance : graph.find? (.instanceOf ⟨graph.size⟩) = none := by
    refine Option.eq_none_iff_forall_ne_some.2 fun id hid => ?_
    obtain ⟨shape, hid, hkey⟩ := Option.bind_eq_some_iff.1 (h.found.1 hid)
    obtain ⟨properties, rfl⟩ := Shape.key?_eq_instanceOf hkey
    have hnone : graph.shape? ⟨graph.size⟩ = none := shape?_of_size_le (Nat.le_refl _)
    have hknown := h.constructor hid
    rw [hnone] at hknown
    cases hknown
  refine h.grow (fun hid => ?_) (fun {key id} => ⟨fun hid => ?_, fun hid => ?_⟩) (fun hindex => ?_)
    (fun hnew hid => ?_) (fun hnew hid => ?_) (fun hnew hid hnew' hid' => ?_)
  · rw [hshape, shape?_allocFunction_of_some hid]
  · rw [hfind, find?_allocFunction] at hid
    split at hid
    · next heq =>
      obtain rfl := Option.some.inj hid
      refine .inr ⟨shape?_of_size_le (Nat.le_refl _), ?_⟩
      rw [keyOf?, hshape, shape?_allocFunction_function]
      exact heq
    · split at hid
      · next heq =>
        obtain rfl := Option.some.inj hid
        refine .inr ⟨shape?_of_size_le (Nat.le_succ _), ?_⟩
        rw [keyOf?, hshape, shape?_allocFunction_instance, heq]
        rfl
      · exact .inl hid
  · rw [hfind, find?_allocFunction]
    rcases hid with hid | ⟨hnew, hid⟩
    · rw [if_neg, if_neg, hid]
      · rintro rfl
        cases hinstance.symm.trans hid
      · intro heq
        obtain ⟨place, hplace, rfl⟩ := Option.map_eq_some_iff.1 heq
        cases (hfresh place hplace).symm.trans hid
    · obtain ⟨shape, hid, hkey⟩ := Option.bind_eq_some_iff.1 hid
      obtain ⟨rfl, rfl⟩ | ⟨rfl, rfl⟩ | ⟨_, rfl⟩ := hcases hnew hid
      · exact if_pos hkey
      · obtain rfl := Option.some.inj hkey
        rw [if_neg (by cases site <;> simp), if_pos rfl]
      · cases hkey
  · rw [hconstructed] at hindex
    exact .inl hindex
  · obtain ⟨_, heq⟩ | ⟨_, heq⟩ | ⟨_, heq⟩ := hcases hnew hid
    · cases heq
    · cases heq
      rw [hshape, shape?_allocFunction_function]
      rfl
    · cases heq
  · obtain ⟨_, rfl⟩ := hfn hnew hid
    refine ⟨rfl, shape?_of_size_le (Nat.le_add_right _ _), ?_⟩
    rw [hshape, shape?_allocFunction_returns]
    rfl
  · rw [(hfn hnew hid).1, (hfn hnew' hid').1]

/-! ### Changes -/

/-- What a change leaves alone is read as before. -/
theorem bind_shape?_modify {α : Type} {change : Shape → Shape} {read : Shape → Option α}
    (hread : ∀ shape, read (change shape) = read shape) (other : ShapeId) :
    ((graph.modify id change).shape? other).bind read = (graph.shape? other).bind read := by
  rw [shape?_modify]
  split
  · cases graph.shape? other with
    | none => rfl
    | some shape => exact hread shape
  · rfl

/-- What is there after a change of a shape was there before, and it may have grown. -/
theorem shape?_of_modify {change : Shape → Shape}
    (hchange : ∀ shape, graph.Grows shape (change shape)) {other : ShapeId} {shape : Shape}
    (h : (graph.modify id change).shape? other = some shape) :
    ∃ former, graph.shape? other = some former ∧ graph.Grows former shape := by
  rw [shape?_modify] at h
  split at h
  · obtain ⟨former, hformer, rfl⟩ := Option.map_eq_some_iff.1 h
    exact ⟨former, hformer, hchange former⟩
  · exact ⟨shape, h, .same shape⟩

/-- A change that keeps the identity of a shape and records parameters of the function only. -/
theorem Registered.modify (h : graph.Registered) {change : Shape → Shape}
    (hchange : ∀ shape, graph.Grows shape (change shape))
    (hused : ∀ shape, graph.shape? id = some shape → ∀ used ∈ (change shape).usedParams,
      graph.shape? used.2 = some (.parameter ⟨id, used.1⟩)) :
    (graph.modify id change).Registered := by
  have hforward {other : ShapeId} {shape : Shape} (hshape : graph.shape? other = some shape) :
      ∃ shape', (graph.modify id change).shape? other = some shape' ∧ graph.Grows shape shape' :=
    (Change.modify id hchange).forward hshape
  have hparameter {other : ShapeId} {use : Parameter}
      (hshape : graph.shape? other = some (.parameter use)) :
      (graph.modify id change).shape? other = some (.parameter use) := by
    obtain ⟨shape', hshape', hgrows⟩ := hforward hshape
    rw [hshape', Shape.key?_eq_parameter.1 (Shape.key?_of_identity hgrows.identity)]
  -- A growing change keeps the identity of a shape, and with it its key and what it returns.
  have hreturns (other : ShapeId) : ((graph.modify id change).shape? other).bind Shape.returns? =
      (graph.shape? other).bind Shape.returns? :=
    bind_shape?_modify (fun shape => Shape.returns?_of_identity (hchange shape).identity) other
  have hkey (other : ShapeId) : (graph.modify id change).keyOf? other = graph.keyOf? other :=
    bind_shape?_modify (fun shape => Shape.key?_of_identity (hchange shape).identity) other
  have hfind (key : ShapeKey) : (graph.modify id change).find? key = graph.find? key := by
    cases key with
    | instanceOf constructor =>
      rw [find?, bind_shape?_modify fun shape =>
        Shape.constructs?_of_identity (hchange shape).identity]
      rfl
    | _ => rfl
  refine ⟨fun {key other} => ?_, fun hindex => ?_, fun {other constructor properties} hother => ?_,
    fun hunion => ?_, fun hunion hunion' => ?_, fun {other shape} hother used hmem => ?_⟩
  · rw [hfind, hkey, h.found]
  · obtain ⟨fullName, properties, hbuiltin⟩ := h.constructed hindex
    obtain ⟨shape', hshape', hgrows⟩ := hforward hbuiltin
    obtain ⟨properties', rfl⟩ := hgrows.of_builtin
    exact ⟨fullName, properties', hshape'⟩
  · obtain ⟨former, hformer, hgrows⟩ := shape?_of_modify hchange hother
    obtain ⟨properties', rfl⟩ :=
      Shape.key?_eq_instanceOf (Shape.key?_of_identity hgrows.identity).symm
    obtain ⟨shape, hshape, hmay⟩ := Option.map_eq_some_iff.1 (h.constructor hformer)
    obtain ⟨shape', hshape', hgrows'⟩ := hforward hshape
    rw [hshape', Option.map_some, hgrows'.mayConstruct hmay]
  · rw [hreturns] at hunion
    obtain ⟨shape, hshape, hmembers⟩ := Option.map_eq_some_iff.1 (h.returns hunion)
    obtain ⟨shape', hshape', hgrows⟩ := hforward hshape
    rw [hshape', Option.map_some, Shape.isUnion_of_identity hgrows.identity, hmembers]
  · rw [hreturns] at hunion hunion'
    exact h.returns_inj hunion hunion'
  · rw [shape?_modify] at hother
    split at hother
    · next heq =>
      subst heq
      obtain ⟨former, hformer, rfl⟩ := Option.map_eq_some_iff.1 hother
      exact hparameter (hused former hformer used hmem)
    · exact hparameter (h.used hother used hmem)

/-- A change that records no parameter. -/
theorem Registered.modify_of_usedParams (h : graph.Registered) {change : Shape → Shape}
    (hchange : ∀ shape, graph.Grows shape (change shape))
    (hused : ∀ shape, (change shape).usedParams = shape.usedParams) :
    (graph.modify id change).Registered :=
  h.modify hchange fun shape hshape used hmem => h.used hshape used (hused shape ▸ hmem)

/-! ### Observations -/

/-- A new object is registered under its code site. -/
theorem Registered.object (h : graph.Registered) (site : Option CodeSite) :
    (graph.object site).2.Registered := by
  unfold ShapeGraph.object
  split
  · exact h.alloc rfl rfl
  · next place =>
    split
    · exact h
    · next hfresh => exact h.register (.object place) rfl rfl hfresh nofun

/-- A new array is registered under its code site. -/
theorem Registered.array (h : graph.Registered) (site : Option CodeSite) :
    (graph.array site).2.Registered := by
  unfold ShapeGraph.array
  split
  · exact h.alloc rfl rfl
  · next place =>
    split
    · exact h
    · next hfresh => exact h.register (.array place) rfl rfl hfresh nofun

/-- A new function is registered under its code site, and its instances are found by it. -/
theorem Registered.function (h : graph.Registered) (site : Option CodeSite) :
    (graph.function site).2.Registered := by
  unfold ShapeGraph.function
  split
  · exact h.growFunction none (fun _ heq => nomatch heq) (fun _ => rfl) (fun _ => rfl) rfl
  · next place =>
    split
    · exact h
    · next hfresh =>
      -- The allocation of a function without its registration leaves its place out of the index.
      have hnone : (graph.allocFunction (some place)).2.find? (.function place) = none := by
        rw [find?_allocFunction, if_neg (by simp)]
        exact hfresh
      refine h.growFunction (some place) (fun place' heq => ?_)
        (shape?_register _ (graph.allocFunction (some place)).1 (.function place)) (fun key => ?_) rfl
      · obtain rfl := Option.some.inj heq
        exact hfresh
      · refine (find?_register hnone _ key).trans ?_
        simp only [Option.map_some, Option.some.injEq]
        rfl

/-- A new builtin is registered under its full name. One that is found may be marked as
    constructible. -/
theorem Registered.builtin (h : graph.Registered) (fullName : String) (constructible : Bool) :
    (graph.builtin fullName constructible).2.Registered := by
  unfold ShapeGraph.builtin
  split
  · split
    · exact h.modify_of_usedParams .construct fun shape => by cases shape <;> rfl
    · exact h
  · next hfresh => exact h.register (.builtin fullName) rfl rfl hfresh nofun

/-- A new instance of a builtin is registered under the builtin. -/
theorem Registered.instanceOf (h : graph.Registered) {constructor : ShapeId}
    {answer : Option ShapeId} (hinstance : graph.instanceOf constructor = .ok (answer, graph')) :
    graph'.Registered := by
  obtain ⟨shape, hshape, hinstance⟩ := bind_eq_ok.1 hinstance
  rw [shape_eq_ok] at hshape
  split at hinstance
  · cases hinstance
    exact h
  · split at hinstance
    · cases hinstance
      exact h
    · next hfresh =>
      -- The constructor is a builtin that has no instances yet.
      cases hinstance
      refine h.register (.instanceOf constructor) rfl rfl ?_ fun heq => ?_
      · rw [find?, hshape]
        exact hfresh
      · cases heq
        exact ⟨_, _, hshape⟩
  · cases hinstance
    exact h

/-- The shape that is found for a parameter is this parameter. -/
theorem Registered.parameter (h : graph.Registered) (use : Parameter) :
    (graph.parameter use).2.Registered ∧
      (graph.parameter use).2.shape? (graph.parameter use).1 = some (.parameter use) := by
  unfold ShapeGraph.parameter
  split
  · next id hid =>
    have hfind : graph.find? (.parameter use) = some id := hid
    obtain ⟨shape, hshape, hkey⟩ := Option.bind_eq_some_iff.1 (h.found.1 hfind)
    exact ⟨h, by rw [hshape, Shape.key?_eq_parameter.1 hkey]⟩
  · next hfresh =>
    refine ⟨h.register (.parameter use) rfl rfl hfresh nofun, ?_⟩
    exact (shape?_register _ _ (.parameter use) _).trans (by rw [shape_alloc, if_pos rfl])

/-- A union is registered under nothing. -/
theorem Registered.union (h : graph.Registered) {ids : List ShapeId}
    (hunion : graph.union ids = .ok (id, graph')) : graph'.Registered := by
  obtain ⟨members, _, hunion⟩ := bind_eq_ok.1 hunion
  cases hunion
  exact h.alloc rfl rfl

/-- A property is no part of what a shape is found by. -/
theorem Registered.addProperty (h : graph.Registered) {owner value : ShapeId} {name : String}
    {added : Bool} (hadd : graph.addProperty owner name value = .ok (added, graph')) :
    graph'.Registered := by
  have hused (degrades : Bool) (slot : String) (held : ShapeId) (shape : Shape) :
      ((if degrades then shape.degrade else shape).modifyProperties (·.insert slot held)).usedParams =
        shape.usedParams := by
    cases degrades <;> cases shape <;> rfl
  obtain ⟨_, _, ⟨_, _, rfl⟩ | ⟨_, held, graph₁, _, hfill, _, rfl⟩⟩ := addProperty_eq_ok hadd
  · exact h
  · have hfilled : graph₁.Registered := by
      obtain ⟨_, _, rfl⟩ | ⟨_, _, rfl⟩ | ⟨_, _, _, _, _, rfl⟩ := fill_eq_ok hfill
      · exact h
      · exact h
      · exact h.alloc rfl rfl
    exact hfilled.modify_of_usedParams (.property _ _ _) (hused _ _ _)

/-- An accessor is no part of what a shape is found by. -/
theorem Registered.addAccessor (h : graph.Registered) {kind : AccessorKind}
    {owner function : ShapeId} {name : String} {added : Bool}
    (hadd : graph.addAccessor kind owner name function = .ok (added, graph')) :
    graph'.Registered := by
  obtain ⟨_, hfunction, hadd⟩ := bind_eq_ok.1 hadd
  obtain ⟨fn, hfn, _⟩ := bind_eq_ok.1 hfunction
  obtain ⟨shape, _, hadd⟩ := bind_eq_ok.1 hadd
  have hmarked : (graph.modify function (Shape.markAccessor kind)).Registered :=
    h.modify_of_usedParams (.mark kind) fun shape => by cases shape <;> rfl
  split at hadd
  · cases hadd
    have hflagged : (graph.modify function (Shape.markAccessor kind)).Flagged function :=
      flagged_markAccessor (by rw [shape_eq_ok.1 hfn, Option.isSome_some])
    exact hmarked.modify_of_usedParams (fun shape => .bind name shape hflagged)
      fun shape => by cases shape <;> rfl
  · cases hadd
    exact hmarked

/-- A property of what a function constructs is no part of what this is found by. -/
theorem Registered.addInstanceProperty (h : graph.Registered) {function value : ShapeId}
    {name : String} {added : Bool}
    (hadd : graph.addInstanceProperty function name value = .ok (added, graph')) :
    graph'.Registered := by
  obtain ⟨shape, _, hadd⟩ := bind_eq_ok.1 hadd
  split at hadd
  · exact h.addProperty hadd
  · cases hadd
    exact h

/-- A return is no part of what a shape is found by. -/
theorem Registered.observeReturn (h : graph.Registered) {function value : ShapeId} {added : Bool}
    (hreturn : graph.observeReturn function value = .ok (added, graph')) : graph'.Registered := by
  unfold ShapeGraph.observeReturn at hreturn
  split at hreturn
  · cases hreturn
    exact h
  · obtain ⟨shape, _, hreturn⟩ := bind_eq_ok.1 hreturn
    split at hreturn
    · obtain ⟨former, _, hreturn⟩ := bind_eq_ok.1 hreturn
      obtain ⟨members, _, hreturn⟩ := bind_eq_ok.1 hreturn
      cases hreturn
      exact h.modify_of_usedParams (.members members) fun shape => by cases shape <;> rfl
    · cases hreturn
      exact h

/-- A parameter that a function records is a parameter of this function. -/
theorem Registered.useParam (h : graph.Registered) {function : ShapeId} {index : Nat}
    {answer : Option ShapeId} (huse : graph.useParam function index = .ok (answer, graph')) :
    graph'.Registered := by
  obtain ⟨shape, _, huse⟩ := bind_eq_ok.1 huse
  split at huse
  · cases huse
    obtain ⟨hregistered, hparameter⟩ := h.parameter ⟨function, index⟩
    refine hregistered.modify (.useParam index _) fun shape hshape used hmem => ?_
    have hformer := hregistered.used hshape used
    cases shape with
    | function fn =>
      rcases mem_recordParam_cases hmem with rfl | hmem
      · exact hparameter
      · exact hformer hmem
    | _ => exact nomatch hmem
  · cases huse
    exact h

/-! ### Sequences of observations -/

/-- At the start each primitive has one id. -/
theorem eq_primitive_of_empty {kind : PrimitiveKind}
    (h : empty.shape? id = some (.primitive kind)) : id = primitive kind := by
  obtain ⟨index⟩ := id
  have hindex : index < 7 := (Array.getElem?_eq_some_iff.1 h).1
  interval_cases index <;> cases h <;> rfl

/-- At the start the global scope has one id. -/
theorem eq_global_of_empty {properties : Properties}
    (h : empty.shape? id = some (.global properties)) : id = global := by
  obtain ⟨index⟩ := id
  have hindex : index < 7 := (Array.getElem?_eq_some_iff.1 h).1
  interval_cases index <;> cases h
  rfl

/-- At the start the primitives and the global scope are registered, and nothing else is there. -/
theorem registered_empty : empty.Registered where
  found {key id} := by
    constructor
    · intro hid
      -- Only the primitives and the global object are found; each is the shape at its fixed id.
      cases key with
      | primitive kind =>
        obtain rfl := Option.some.inj hid
        rw [keyOf?, empty_primitive]
        rfl
      | global =>
        obtain rfl := Option.some.inj hid
        rfl
      | instanceOf constructor =>
        rcases Option.or_eq_some_iff.1 hid with hconstructs | ⟨_, hindex⟩
        · obtain ⟨shape, hshape, hfn⟩ := Option.bind_eq_some_iff.1 hconstructs
          obtain ⟨_, rfl⟩ | rfl := empty_cases hshape <;> cases hfn
        · simp [empty] at hindex
      | _ => simp [find?, empty] at hid
    · intro hid
      obtain ⟨shape, hshape, hkey⟩ := Option.bind_eq_some_iff.1 hid
      obtain ⟨kind, rfl⟩ | rfl := empty_cases hshape
      · cases hkey
        rw [find?, eq_primitive_of_empty hshape]
      · cases hkey
        rw [find?, eq_global_of_empty hshape]
  constructed hindex := by simp [empty] at hindex
  constructor hid := by obtain ⟨_, heq⟩ | heq := empty_cases hid <;> cases heq
  returns hid := by
    obtain ⟨shape, hshape, hunion⟩ := Option.bind_eq_some_iff.1 hid
    obtain ⟨_, rfl⟩ | rfl := empty_cases hshape <;> cases hunion
  returns_inj hid := by
    obtain ⟨shape, hshape, hunion⟩ := Option.bind_eq_some_iff.1 hid
    obtain ⟨_, rfl⟩ | rfl := empty_cases hshape <;> cases hunion
  used hid used hmem := by
    obtain ⟨_, rfl⟩ | rfl := empty_cases hid <;> exact absurd hmem List.not_mem_nil

/-- Every recorded graph registers its shapes. -/
theorem Recorded.registered (h : graph.Recorded) : graph.Registered := by
  -- Induction on the observations, each of which keeps the invariant.
  induction h with
  | empty => exact registered_empty
  | object site _ ih => exact ih.object site
  | array site _ ih => exact ih.array site
  | function site _ ih => exact ih.function site
  | builtin fullName constructible _ ih => exact ih.builtin fullName constructible
  | instanceOf _ hinstance ih => exact ih.instanceOf hinstance
  | parameter _ _ ih => exact (ih.parameter _).1
  | union _ hunion ih => exact ih.union hunion
  | addProperty _ _ hadd ih => exact ih.addProperty hadd
  | addGetter _ hadd ih => exact ih.addAccessor hadd
  | addSetter _ hadd ih => exact ih.addAccessor hadd
  | addInstanceProperty _ _ hadd ih => exact ih.addInstanceProperty hadd
  | observeReturn _ hreturn ih => exact ih.observeReturn hreturn
  | useParam _ huse ih => exact ih.useParam huse

/-- A key leads to the one shape that has it. A function constructs and returns shapes of its own,
    and the parameters that it records are its parameters. An instance is the only one of its
    constructor, which is a function or a constructible builtin. -/
theorem shape_by_key (h : graph.Recorded) :
    (∀ key id, graph.find? key = some id ↔ graph.keyOf? id = some key) ∧
    (∀ key id id', graph.keyOf? id = some key → graph.keyOf? id' = some key → id = id') ∧
    (∀ builtin id : ShapeId, graph.constructed[builtin.index]? = some id →
      (∃ fullName properties, graph.shape? builtin = some (.builtin fullName properties true)) ∧
      ∃ properties, graph.shape? id = some (.instanceOf builtin properties)) ∧
    (∀ id fn, graph.shape? id = some (.function fn) →
      (∃ properties, graph.shape? fn.constructs = some (.instanceOf id properties)) ∧
      (∃ members, graph.shape? fn.returns = some (.union members)) ∧
      (∀ id' fn', graph.shape? id' = some (.function fn') →
        fn'.constructs = fn.constructs ∨ fn'.returns = fn.returns → id' = id) ∧
      ∀ used ∈ fn.usedParams, graph.shape? used.2 = some (.parameter ⟨id, used.1⟩)) ∧
    ∀ id constructor properties, graph.shape? id = some (.instanceOf constructor properties) →
      ((∃ fn, graph.shape? constructor = some (.function fn)) ∨
        ∃ fullName properties,
          graph.shape? constructor = some (.builtin fullName properties true)) ∧
      ∀ id' properties', graph.shape? id' = some (.instanceOf constructor properties') →
        id' = id := by
  have hregistered := h.registered
  have hunique {key : ShapeKey} {id id' : ShapeId} (hid : graph.keyOf? id = some key)
      (hid' : graph.keyOf? id' = some key) : id = id' :=
    Option.some.inj ((hregistered.found.2 hid).symm.trans (hregistered.found.2 hid'))
  refine ⟨fun _ _ => hregistered.found, fun _ _ _ => hunique, fun builtin id hindex => ?_,
    fun id fn hfn => ⟨hregistered.constructs hfn, ?_, fun id' fn' hfn' hshared => ?_,
      hregistered.used hfn⟩,
    fun id constructor properties hid => ⟨hregistered.constructor_cases hid, ?_⟩⟩
  · -- What is indexed is an instance, since its constructor is no function.
    obtain ⟨fullName, properties, hbuiltin⟩ := hregistered.constructed hindex
    have hfind : graph.find? (.instanceOf builtin) = some id := by
      rw [find?, hbuiltin]
      exact hindex
    obtain ⟨shape, hshape, hkey⟩ := Option.bind_eq_some_iff.1 (hregistered.found.1 hfind)
    obtain ⟨properties', rfl⟩ := Shape.key?_eq_instanceOf hkey
    exact ⟨⟨fullName, properties, hbuiltin⟩, properties', hshape⟩
  · obtain ⟨shape, hshape, hunion⟩ :=
      Option.map_eq_some_iff.1 (hregistered.returns (by rw [hfn]; rfl))
    obtain ⟨members, rfl⟩ := Shape.isUnion_eq_true.1 hunion
    exact ⟨members, hshape⟩
  · rcases hshared with hconstructs | hreturns
    · -- The instance has one constructor.
      obtain ⟨properties, hinstance⟩ := hregistered.constructs hfn
      obtain ⟨properties', hinstance'⟩ := hregistered.constructs hfn'
      rw [hconstructs, hinstance] at hinstance'
      cases hinstance'
      rfl
    · have hunion {id : ShapeId} {fn : FunctionShape}
          (hfn : graph.shape? id = some (.function fn)) :
          (graph.shape? id).bind Shape.returns? = some fn.returns := by
        rw [hfn]
        rfl
      exact hregistered.returns_inj (hunion hfn') (hreturns ▸ hunion hfn)
  · intro id' properties' hid'
    have hkey {id : ShapeId} {properties : Properties}
        (hid : graph.shape? id = some (.instanceOf constructor properties)) :
        graph.keyOf? id = some (.instanceOf constructor) := by
      rw [keyOf?, hid]
      rfl
    exact hunique (hkey hid') (hkey hid)

/-- A function with a parameter and a builtin, both with their instances. -/
theorem shape_by_key_instances :
    ∃ (graph : ShapeGraph) (fn : FunctionShape), graph.Recorded ∧
      graph.shape? ⟨7⟩ = some (.function fn) ∧ fn.site = some ⟨3⟩ ∧ fn.usedParams = [(1, ⟨12⟩)] ∧
      graph.shape? ⟨12⟩ = some (.parameter ⟨⟨7⟩, 1⟩) ∧
      (∃ properties, graph.shape? fn.constructs = some (.instanceOf ⟨7⟩ properties)) ∧
      graph.find? (.instanceOf ⟨10⟩) = some ⟨11⟩ ∧
      graph.keyOf? ⟨11⟩ = some (.instanceOf ⟨10⟩) ∧
      ∀ id, graph.keyOf? id = some (.instanceOf ⟨10⟩) → id = ⟨11⟩ := by
  have hconstruct : ((empty.function (some ⟨3⟩)).2.builtin "Map" true).2.instanceOf ⟨10⟩ =
    .ok (some ⟨11⟩, _) := rfl
  have hinstance : Recorded _ :=
    .instanceOf (.builtin "Map" true (.function (some ⟨3⟩) .empty)) hconstruct
  have hrecorded : Recorded _ := @Recorded.useParam _ _ ⟨7⟩ 1 (some ⟨12⟩) hinstance rfl
  obtain ⟨hfound, hunique, _, hfunction, _⟩ := shape_by_key hrecorded
  obtain ⟨hconstructs, _, _, hused⟩ := hfunction ⟨7⟩ _ rfl
  have hkey := (hfound (.instanceOf ⟨10⟩) ⟨11⟩).1 rfl
  exact ⟨_, _, hrecorded, rfl, rfl, rfl, hused (1, ⟨12⟩) (List.mem_singleton.2 rfl), hconstructs, rfl,
    hkey, fun id hid => hunique _ id ⟨11⟩ hid hkey⟩

end ShapeGraph

end Semblance
