import Semblance.Proofs.Shape.Steps

/-!
# What a graph remembers

No observation takes back what was observed before. A shape keeps its identity; names are added to
its properties and accessors, and members to the unions that these hold; what is marked remains so.
It is what a slot flattens to that grows, and not the slot, which may come to hold a new union.

## Key results

- `Step.remembers`: what a step keeps
- `observed_retained`: what all further observations keep
-/

namespace Semblance

namespace ShapeGraph

variable {graph graph' graph'' : ShapeGraph} {id : ShapeId}

/-- What of a shape of one graph is found in a shape of a later graph. -/
structure Retains (graph graph' : ShapeGraph) (shape shape' : Shape) : Prop where
  identity : shape'.identity = shape.identity
  /-- Names are added at the end. -/
  names : ∀ kind, shape.names kind <+: shape'.names kind
  /-- What is in a slot comes first in whatever is there later. -/
  slots : ∀ {name value ids}, shape.slot? name = some value → graph.flatten value = .ok ids →
    ∃ value' ids', shape'.slot? name = some value' ∧ graph'.flatten value' = .ok ids' ∧
      ids <+: ids'
  members : shape.members <+: shape'.members
  used : ∀ used ∈ shape.usedParams, used ∈ shape'.usedParams
  degraded : shape.isDegraded = true → shape'.isDegraded = true
  constructible : shape.mayConstruct = true → shape'.mayConstruct = true
  accessor : shape.accessor?.isSome = true → shape'.accessor?.isSome = true

/-- What of a graph is found in a later one. -/
structure Remembers (graph graph' : ShapeGraph) : Prop where
  shape : ∀ {id shape}, graph.shape? id = some shape → ∃ shape', graph'.shape? id = some shape' ∧
    graph.Retains graph' shape shape' ∧ (¬ graph.Returned id → shape'.members = shape.members)
  /-- A new function returns a new union. -/
  returned : ∀ {id}, (graph.shape? id).isSome → graph'.Returned id → graph.Returned id

/-- What a shape contributes to a union grows with its members. -/
theorem flatten_grows {ids : List ShapeId} (hkeep : ∀ {id shape}, graph.shape? id = some shape →
      ∃ shape', graph'.shape? id = some shape' ∧ shape'.identity = shape.identity ∧
        shape.members <+: shape'.members)
    (hids : graph.flatten id = .ok ids) :
    ∃ ids', graph'.flatten id = .ok ids' ∧ ids <+: ids' := by
  obtain ⟨shape, hshape, rfl⟩ := flatten_eq_ok.1 hids
  obtain ⟨shape', hshape', hidentity, hmembers⟩ := hkeep hshape
  refine ⟨_, flatten_eq_ok.2 ⟨shape', hshape', rfl⟩, ?_⟩
  rw [Shape.isUnion_of_identity hidentity]
  split
  · exact hmembers
  · exact List.prefix_refl [id]

theorem Retains.refl (graph : ShapeGraph) (shape : Shape) : graph.Retains graph shape shape where
  identity := rfl
  names _ := List.prefix_refl _
  slots hslot hids := ⟨_, _, hslot, hids, List.prefix_refl _⟩
  members := List.prefix_refl _
  used _ hmem := hmem
  degraded := id
  constructible := id
  accessor := id

/-- What is retained twice is retained. -/
theorem Retains.trans {shape shape' shape'' : Shape} (h : graph.Retains graph' shape shape')
    (h' : graph'.Retains graph'' shape' shape'') : graph.Retains graph'' shape shape'' where
  identity := h'.identity.trans h.identity
  names kind := (h.names kind).trans (h'.names kind)
  slots hslot hids := by
    obtain ⟨value', ids', hslot', hids', hprefix⟩ := h.slots hslot hids
    obtain ⟨value'', ids'', hslot'', hids'', hprefix'⟩ := h'.slots hslot' hids'
    exact ⟨value'', ids'', hslot'', hids'', hprefix.trans hprefix'⟩
  members := h.members.trans h'.members
  used used hmem := h'.used used (h.used used hmem)
  degraded hflag := h'.degraded (h.degraded hflag)
  constructible hflag := h'.constructible (h.constructible hflag)
  accessor hflag := h'.accessor (h.accessor hflag)

/-- What is remembered twice is remembered. -/
theorem Remembers.trans (h : graph.Remembers graph') (h' : graph'.Remembers graph'') :
    graph.Remembers graph'' where
  shape {id shape} hshape := by
    obtain ⟨shape', hshape', hretains, hfixed⟩ := h.shape hshape
    obtain ⟨shape'', hshape'', hretains', hfixed'⟩ := h'.shape hshape'
    refine ⟨shape'', hshape'', hretains.trans hretains', fun hnone => ?_⟩
    -- A union that is returned later is returned now.
    have hknown : (graph.shape? id).isSome := by rw [hshape, Option.isSome_some]
    rw [hfixed' fun hreturned => hnone (h.returned hknown hreturned), hfixed hnone]
  returned hknown hreturned := by
    obtain ⟨shape, hshape⟩ := Option.isSome_iff_exists.1 hknown
    obtain ⟨shape', hshape', _⟩ := h.shape hshape
    exact h.returned hknown (h'.returned (by rw [hshape', Option.isSome_some]) hreturned)

/-! ### What steps keep -/

/-- Shapes that stay as they are. -/
theorem remembers_of_keep
    (hkeep : ∀ {id shape}, graph.shape? id = some shape → graph'.shape? id = some shape)
    (hreturned : ∀ {id}, (graph.shape? id).isSome → graph'.Returned id → graph.Returned id) :
    graph.Remembers graph' where
  shape {id shape} hshape := by
    refine ⟨shape, hkeep hshape, { Retains.refl graph shape with slots := ?_ }, fun _ => rfl⟩
    intro name value ids hslot hids
    obtain ⟨ids', hids', hprefix⟩ := flatten_grows
      (fun hshape => ⟨_, hkeep hshape, rfl, List.prefix_refl _⟩) hids
    exact ⟨value, ids', hslot, hids', hprefix⟩
  returned := hreturned

/-- A change of one shape. -/
theorem remembers_modify {change : Shape → Shape}
    (hretains : ∀ shape, graph.shape? id = some shape → graph.Retains graph shape (change shape))
    (hfixed : ¬ graph.Returned id → ∀ shape, (change shape).members = shape.members) :
    graph.Remembers (graph.modify id change) := by
  -- Away from `id` nothing changes; at `id` the change retains, and leaves the members alone unless
  -- it is a return union.
  have hkeep {other : ShapeId} {shape : Shape} (hshape : graph.shape? other = some shape) :
      ∃ shape', (graph.modify id change).shape? other = some shape' ∧
        graph.Retains graph shape shape' ∧
        (¬ graph.Returned other → shape'.members = shape.members) := by
    rw [shape?_modify, hshape]
    split
    · next heq =>
      subst heq
      exact ⟨change shape, rfl, hretains shape hshape, fun hnone => hfixed hnone shape⟩
    · exact ⟨shape, rfl, .refl graph shape, fun _ => rfl⟩
  refine ⟨fun hshape => ?_, fun {union} _ hreturned => ?_⟩
  · obtain ⟨shape', hshape', hretained, hmembers⟩ := hkeep hshape
    refine ⟨shape', hshape', { hretained with slots := ?_ }, hmembers⟩
    intro name value ids hslot hids
    obtain ⟨value', ids', hslot', hids', hprefix⟩ := hretained.slots hslot hids
    -- A slot may now flatten to more: what it held is a prefix of what the change puts there, and
    -- that grows in turn.
    obtain ⟨ids'', hids'', hprefix'⟩ := flatten_grows (fun hformer =>
      let ⟨later, hlater, hlater', _⟩ := hkeep hformer
      ⟨later, hlater, hlater'.identity, hlater'.members⟩) hids'
    exact ⟨value', ids'', hslot', hids'', hprefix.trans hprefix'⟩
  · obtain ⟨function, hunion⟩ := hreturned
    obtain ⟨fn', hfn', hreturns⟩ := Option.bind_eq_some_iff.1 hunion
    refine ⟨function, ?_⟩
    rw [shape?_modify] at hfn'
    split at hfn'
    · next heq =>
      subst heq
      obtain ⟨fn, hfn, rfl⟩ := Option.map_eq_some_iff.1 hfn'
      rw [hfn, Option.bind_some, ← Shape.returns?_of_identity (hretains fn hfn).identity, hreturns]
    · rw [hfn', Option.bind_some, hreturns]

/-- Marking a builtin takes nothing from it. -/
theorem retains_markConstructible (graph : ShapeGraph) (shape : Shape) :
    graph.Retains graph shape (markConstructible shape) := by
  cases shape with
  | builtin fullName properties constructible =>
    exact { Retains.refl graph (.builtin fullName properties constructible) with
      constructible := fun _ => rfl }
  | _ => exact .refl graph _

/-- Marking a function as an accessor takes nothing from it. -/
theorem retains_markAccessor (graph : ShapeGraph) (kind : AccessorKind) (shape : Shape) :
    graph.Retains graph shape (shape.markAccessor kind) := by
  cases shape with
  | function fn => exact { Retains.refl graph (.function fn) with accessor := fun _ => rfl }
  | _ => exact .refl graph _

/-- Degrading an array takes nothing from it. -/
theorem retains_degrade (graph : ShapeGraph) (shape : Shape) :
    graph.Retains graph shape shape.degrade := by
  cases shape with
  | array entries degraded =>
    exact { Retains.refl graph (.array entries degraded) with degraded := fun _ => rfl }
  | _ => exact .refl graph _

/-- Further members come after those of a union. -/
theorem retains_setMembers {former members : List ShapeId} (h : former <+: members) :
    graph.Retains graph (.union former) (.union members) :=
  { Retains.refl graph (.union former) with members := h }

/-- A used parameter stays noted, unless another one is noted for its index. -/
theorem mem_recordParam_of_mem {index : Nat} {parameter : ShapeId} {params : List (Nat × ShapeId)}
    {used : Nat × ShapeId} (hmem : used ∈ params) (hsame : used.1 = index → used.2 = parameter) :
    used ∈ recordParam index parameter params := by
  fun_induction recordParam index parameter params with grind

/-- The use of a parameter takes nothing from a function, since there is one parameter for an
    index. -/
theorem retains_useParam {index : Nat} {parameter : ShapeId} {shape : Shape}
    (h : ∀ used ∈ shape.usedParams, used.1 = index → used.2 = parameter) :
    graph.Retains graph shape (shape.useParam index parameter) := by
  cases shape with
  | function fn =>
    exact { Retains.refl graph (.function fn) with
      used := fun used hmem => mem_recordParam_of_mem hmem (h used hmem) }
  | _ => exact .refl graph _

/-- The names that an accessor is added to grow, and the properties stay. -/
theorem retains_setAccessor (graph : ShapeGraph) (kind : AccessorKind) (name : String)
    (function : ShapeId) (shape : Shape) :
    graph.Retains graph shape (shape.setAccessor kind name function) := by
  -- An accessor is inserted among the bindings of its own kind; the other kind and the slots stay.
  have hbind (entries : Aggregate) (kind' : EntryKind) : (entries.bindings kind').names <+:
      ((Shape.setAccessor.bind kind name function entries).bindings kind').names := by
    cases kind <;> cases kind' <;> first | exact List.prefix_refl _ | exact Properties.prefix_names_insert ..
  cases shape with
  | object entries =>
    refine { Retains.refl graph (.object entries) with
      identity := ?_, names := fun kind' => ?_, slots := fun {_ value ids} hslot hids => ?_ }
    · cases kind <;> rfl
    · have hnames := hbind entries kind'
      cases kind' <;> exact hnames
    · cases kind <;> exact ⟨value, ids, hslot, hids, List.prefix_refl ids⟩
  | array entries degraded =>
    refine { Retains.refl graph (.array entries degraded) with
      identity := ?_, names := fun kind' => ?_, slots := fun {_ value ids} hslot hids => ?_,
      degraded := fun _ => rfl }
    · cases kind <;> rfl
    · have hnames := hbind entries kind'
      cases kind' <;> exact hnames
    · cases kind <;> exact ⟨value, ids, hslot, hids, List.prefix_refl ids⟩
  | _ => exact .refl graph _

/-- A slot may be filled with what covers its content. -/
theorem retains_modifyProperties {slot : String} {held : ShapeId} {shape : Shape}
    (h : ∀ existing ids, shape.slot? slot = some existing → graph.flatten existing = .ok ids →
      ∃ ids', graph.flatten held = .ok ids' ∧ ids <+: ids') :
    graph.Retains graph shape (shape.modifyProperties (·.insert slot held)) where
  identity := by cases shape <;> rfl
  names kind := by
    cases kind with
    | value =>
      simp only [Shape.names, Shape.properties?_modifyProperties, Option.map_map]
      cases shape.properties? with
      | none => exact List.prefix_refl []
      | some properties => exact properties.prefix_names_insert slot held
    | getter | setter => cases shape <;> exact List.prefix_refl _
  slots {name value ids} hslot hids := by
    obtain ⟨properties, hproperties, hvalue⟩ := Option.bind_eq_some_iff.1 hslot
    have hlater : (shape.modifyProperties (·.insert slot held)).slot? name =
        if slot = name then some held else some value := by
      rw [Shape.slot?, Shape.properties?_modifyProperties, hproperties, Option.map_some,
        Option.bind_some, Properties.get?_insert, hvalue]
    split at hlater
    · next heq =>
      subst heq
      obtain ⟨ids', hids', hprefix⟩ := h value ids hslot hids
      exact ⟨held, ids', hlater, hids', hprefix⟩
    · exact ⟨value, ids, hlater, hids, List.prefix_refl ids⟩
  members := by cases shape <;> exact List.prefix_refl _
  used _ hmem := by cases shape <;> exact hmem
  degraded hflag := by cases shape <;> exact hflag
  constructible hflag := by cases shape <;> exact hflag
  accessor hflag := by cases shape <;> exact hflag

/-- A property takes nothing from its owner if what was in the slot comes first in what is put
    there. -/
theorem retains_property {degrades : Bool} {slot : String} {held : ShapeId} {shape : Shape}
    (h : ∀ existing ids, shape.slot? slot = some existing → graph.flatten existing = .ok ids →
      ∃ ids', graph.flatten held = .ok ids' ∧ ids <+: ids') :
    graph.Retains graph shape
      ((if degrades then shape.degrade else shape).modifyProperties (·.insert slot held)) := by
  cases degrades with
  | false => exact retains_modifyProperties h
  | true =>
    refine (retains_degrade graph shape).trans (retains_modifyProperties fun existing ids hslot => ?_)
    refine h existing ids ?_
    rw [← hslot]
    cases shape <;> rfl

/-- No step takes anything back. -/
theorem Step.remembers (h : graph.Step graph') : graph.Remembers graph' := by
  cases h with
  | index hshapes =>
    have hshape (id : ShapeId) : graph'.shape? id = graph.shape? id := by
      rw [shape?, hshapes, shape?]
    refine remembers_of_keep (fun hid => (hshape _).trans hid) fun _ hreturned => ?_
    obtain ⟨function, hunion⟩ := hreturned
    exact ⟨function, by rw [← hshape, hunion]⟩
  | alloc _ hunion =>
    refine remembers_of_keep shape?_alloc_of_some fun {id} hknown hreturned => ?_
    obtain ⟨function, hreturns⟩ := hreturned
    refine ⟨function, ?_⟩
    rw [shape_alloc] at hreturns
    split at hreturns
    · -- The new shape returns no known union.
      rw [hunion id hreturns] at hknown
      cases hknown
    · exact hreturns
  | construct id =>
    exact remembers_modify (fun shape _ => retains_markConstructible graph shape)
      fun _ shape => by cases shape <;> rfl
  | property degrades hheld =>
    refine remembers_modify (fun shape hshape => ?_) fun _ shape => ?_
    · exact retains_property fun existing ids => hheld shape existing ids hshape
    · cases degrades <;> cases shape <;> rfl
  | members hreturned hformer hprefix _ =>
    refine remembers_modify (fun shape hshape => ?_) fun hnone => absurd hreturned hnone
    obtain rfl := Option.some.inj (hformer.symm.trans hshape)
    exact retains_setMembers hprefix
  | mark kind function =>
    exact remembers_modify (fun shape _ => retains_markAccessor graph kind shape)
      fun _ shape => by cases shape <;> rfl
  | bind kind owner name function =>
    exact remembers_modify (fun shape _ => retains_setAccessor graph kind name function shape)
      fun _ shape => by cases shape <;> rfl
  | useParam hused =>
    exact remembers_modify (fun shape hshape => retains_useParam (hused shape hshape))
      fun _ shape => by cases shape <;> rfl

theorem Remembers.refl (graph : ShapeGraph) : graph.Remembers graph :=
  remembers_of_keep id fun _ hreturned => hreturned

/-- Any number of steps remember all that was there. -/
theorem Steps.remembers (h : graph.Steps graph') : graph.Remembers graph' := by
  induction h with
  | refl => exact .refl graph
  | tail _ hstep ih => exact ih.trans hstep.remembers

/-! ### Sequences of observations -/

/-- Any number of observations of a recorded graph remember all that was there. -/
theorem Recorded.remembers (h : graph.Recorded)
    (hmore : Relation.ReflTransGen Observes graph graph') : graph.Remembers graph' := by
  have hlater {graph' : ShapeGraph} (hmore : Relation.ReflTransGen Observes graph graph') :
      graph'.Recorded := recorded_iff.2 ((recorded_iff.1 h).trans hmore)
  induction hmore with
  | refl => exact .refl graph
  | tail hformer hobserves ih =>
    have hrecorded := hlater hformer
    exact ih.trans (hobserves.steps hrecorded.distinct hrecorded.registered).remembers

/-- Whatever else is observed, a shape remains what it is, and what was seen of it remains. Its
    names and the contents of its slots are added to at the end, the members of a union only if a
    function returns it, and no mark is taken away. -/
theorem observed_retained (h : graph.Recorded)
    (hmore : Relation.ReflTransGen Observes graph graph') {shape : Shape}
    (hid : graph.shape? id = some shape) :
    ∃ shape', graph'.shape? id = some shape' ∧ shape'.identity = shape.identity ∧
      (∀ kind, shape.names kind <+: shape'.names kind) ∧
      (∀ name value, shape.slot? name = some value → ∃ ids value' ids',
        graph.flatten value = .ok ids ∧ shape'.slot? name = some value' ∧
          graph'.flatten value' = .ok ids' ∧ ids <+: ids') ∧
      shape.members <+: shape'.members ∧
      (¬ graph.Returned id → shape'.members = shape.members) ∧
      (∀ used ∈ shape.usedParams, used ∈ shape'.usedParams) ∧
      (shape.isDegraded = true → shape'.isDegraded = true) ∧
      (shape.mayConstruct = true → shape'.mayConstruct = true) ∧
      (shape.accessor?.isSome = true → shape'.accessor?.isSome = true) := by
  obtain ⟨shape', hshape', hretains, hfixed⟩ := (h.remembers hmore).shape hid
  refine ⟨shape', hshape', hretains.identity, hretains.names, fun name value hslot => ?_,
    hretains.members, hfixed, hretains.used, hretains.degraded, hretains.constructible,
    hretains.accessor⟩
  -- What is in a slot is known, so it can be flattened.
  obtain ⟨properties, hproperties, hvalue⟩ := Option.bind_eq_some_iff.1 hslot
  have hmem : value ∈ shape.refs := Shape.mem_refs_of_property hproperties
    (List.mem_map.2 ⟨_, Properties.get?_eq_some.1 hvalue, rfl⟩)
  obtain ⟨held, hheld⟩ := Option.isSome_iff_exists.1 ((h.valid.fits hid).known value hmem)
  have hids := flatten_eq_ok.2 ⟨held, hheld, rfl⟩
  obtain ⟨value', ids', hslot', hids', hprefix⟩ := hretains.slots hslot hids
  exact ⟨_, value', ids', hids, hslot', hids', hprefix⟩

/-- The property `v` of an object held a number, and a string is put there. -/
theorem observed_retained_slot :
    ∃ (graph graph' : ShapeGraph) (shape shape' : Shape) (value' : ShapeId),
      graph.Recorded ∧ Relation.ReflTransGen Observes graph graph' ∧
      graph.shape? ⟨7⟩ = some shape ∧ shape.slot? "v" = some (primitive .number) ∧
      graph'.shape? ⟨7⟩ = some shape' ∧ shape'.slot? "v" = some value' ∧
      graph'.flatten value' = .ok [primitive .number, primitive .string] ∧
      ∀ kind, shape.names kind <+: shape'.names kind := by
  have hnumber : (empty.object none).2.addProperty ⟨7⟩ "v" (primitive .number) =
    .ok (true, _) := rfl
  have hgraph : Recorded _ := .addProperty (.object none .empty) rfl hnumber
  obtain ⟨shape', hshape', _, hnames, _⟩ := @observed_retained _ _ ⟨7⟩ hgraph
    (.single (@Observes.addProperty _ _ ⟨7⟩ "v" (primitive .string) true rfl rfl)) _ rfl
  obtain rfl := Option.some.inj (hshape'.symm.trans rfl)
  exact ⟨_, _, _, _, _, hgraph,
    .single (@Observes.addProperty _ _ ⟨7⟩ "v" (primitive .string) true rfl rfl), rfl, rfl, hshape',
    rfl, rfl, hnames⟩

end ShapeGraph

end Semblance
