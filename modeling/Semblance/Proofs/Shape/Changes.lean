import Mathlib.Logic.Relation
import Semblance.Proofs.Shape.Recorded
import Semblance.Syntax.Node

/-!
# How the shapes of a graph change

Whatever is observed, the shapes of a graph change in a few ways only: a shape is added of which
nothing was seen yet, or a shape takes up one more thing. `Change` lists these ways, and every
observation is a sequence of them. So what each of them keeps holds of every recorded graph.

## Key results

- `Change.forward`, `Change.backward`: what becomes of a shape, and where a shape comes from
- `Recorded.changes`: a recorded graph comes about by such changes
- `Recorded.primitive`, `Recorded.ascending`, `Recorded.flagged`: what holds of recorded graphs
-/

namespace Semblance

/-! ### Entries -/

/-- What an object or an array holds. -/
def Shape.aggregate? : Shape → Option Aggregate
  | .object entries | .array entries _ => some entries
  | _ => none

/-- The names that are bound to values, to getters or to setters. -/
def Aggregate.bindings (entries : Aggregate) : EntryKind → Properties
  | .value => entries.properties
  | .getter => entries.getters
  | .setter => entries.setters

/-- The entries that an accessor makes. -/
def AccessorKind.entryKind : AccessorKind → EntryKind
  | .getter => .getter
  | .setter => .setter

/-- The used parameters are in ascending order. -/
def FunctionShape.Ascending (fn : FunctionShape) : Prop :=
  fn.usedParams.Pairwise (·.1 < ·.1)

/-- Noting a used parameter adds this one and no other. -/
theorem mem_recordParam_cases {index : Nat} {shape : ShapeId} {params : List (Nat × ShapeId)}
    {used : Nat × ShapeId} (h : used ∈ recordParam index shape params) :
    used = (index, shape) ∨ used ∈ params := by
  fun_induction recordParam index shape params with grind

/-- A parameter is recorded where it belongs. -/
theorem pairwise_recordParam {index : Nat} {shape : ShapeId} {params : List (Nat × ShapeId)}
    (h : params.Pairwise (·.1 < ·.1)) : (recordParam index shape params).Pairwise (·.1 < ·.1) := by
  fun_induction recordParam index shape params with
  | case1 => simp
  | case2 other known rest hlt =>
    refine List.pairwise_cons.2 ⟨fun used hmem => ?_, h⟩
    rcases List.mem_cons.1 hmem with rfl | hmem
    · exact hlt
    · exact Nat.lt_trans hlt ((List.pairwise_cons.1 h).1 used hmem)
  | case3 known rest => exact List.pairwise_cons.2 (List.pairwise_cons.1 h)
  | case4 other known rest hnotlt hne ih =>
    obtain ⟨hfirst, hrest⟩ := List.pairwise_cons.1 h
    refine List.pairwise_cons.2 ⟨fun used hmem => ?_, ih hrest⟩
    -- An entry behind the insertion is a former one or the new one; both come after `other`.
    rcases mem_recordParam_cases hmem with rfl | hmem
    · show other < index
      omega
    · exact hfirst used hmem

namespace Shape

/-- A shape of which nothing was seen yet. -/
def isNew : Shape → Bool
  | object entries | array entries _ => entries.isEmpty
  | function fn => fn.usedParams.isEmpty && fn.accessor.isNone
  | primitive _ | global _ => false
  | instanceOf _ _ | union _ | builtin _ _ _ | parameter _ => true

/-- A new object has no entries. -/
theorem bindings_of_isNew {shape : Shape} (h : shape.isNew = true) {entries : Aggregate}
    (hentries : shape.aggregate? = some entries) (kind : EntryKind) :
    (entries.bindings kind).toList = [] := by
  have hempty : entries.isEmpty = true := by
    cases shape <;> cases hentries <;> exact h
  simp only [Aggregate.isEmpty, Properties.isEmpty, Bool.and_eq_true, Array.isEmpty_iff] at hempty
  cases kind <;> simp [Aggregate.bindings, Properties.toList, hempty]

/-- Whether a shape may serve as an accessor: a function does so if it is marked. -/
def isFlagged : Shape → Bool
  | function fn => fn.accessor.isSome
  | _ => true

end Shape

namespace ShapeGraph

/-- An object or an array has an entry with this shape. -/
def Binds (graph : ShapeGraph) (kind : EntryKind) (name : String) (shape : ShapeId) : Prop :=
  ∃ owner entries, (graph.shape? owner).bind Shape.aggregate? = some entries ∧
    (name, shape) ∈ (entries.bindings kind).toList

/-- The shapes of the primitive kinds are where they are in the empty graph. -/
def HasPrimitives (graph : ShapeGraph) : Prop :=
  ∀ kind, graph.shape? (primitive kind) = some (.primitive kind)

/-- A known shape that is a marked function, or no function at all. -/
def Flagged (graph : ShapeGraph) (id : ShapeId) : Prop :=
  ∃ shape, graph.shape? id = some shape ∧ shape.isFlagged = true

variable {graph graph' : ShapeGraph} {id : ShapeId}

/-! ### One change -/

/-- How one shape changes. -/
inductive Grows (graph : ShapeGraph) : Shape → Shape → Prop where
  | same (shape : Shape) : Grows graph shape shape
  | construct (shape : Shape) : Grows graph shape (markConstructible shape)
  | property (degrades : Bool) (slot : String) (held : ShapeId) (shape : Shape) :
      Grows graph shape
        ((if degrades then shape.degrade else shape).modifyProperties (·.insert slot held))
  | members (members : List ShapeId) (shape : Shape) : Grows graph shape (shape.setMembers members)
  | mark (kind : AccessorKind) (shape : Shape) : Grows graph shape (shape.markAccessor kind)
  | bind {kind : AccessorKind} {function : ShapeId} (name : String) (shape : Shape) :
      graph.Flagged function → Grows graph shape (shape.setAccessor kind name function)
  | useParam (index : Nat) (parameter : ShapeId) (shape : Shape) :
      Grows graph shape (shape.useParam index parameter)

/-- How the shapes of a graph change. -/
inductive Change (graph : ShapeGraph) : ShapeGraph → Prop where
  /-- The indices may change with the shapes as they are. -/
  | index {graph' : ShapeGraph} : graph'.shapes = graph.shapes → Change graph graph'
  | alloc {shape : Shape} : shape.isNew = true → Change graph (graph.alloc shape).2
  | modify (id : ShapeId) {change : Shape → Shape} : (∀ shape, graph.Grows shape (change shape)) →
      Change graph (graph.modify id change)

/-- A sequence of changes. -/
abbrev Changes : ShapeGraph → ShapeGraph → Prop :=
  Relation.ReflTransGen Change

/-- A shape is there after a change, and it may have grown. -/
theorem Change.forward (h : graph.Change graph') {shape : Shape}
    (hshape : graph.shape? id = some shape) :
    ∃ shape', graph'.shape? id = some shape' ∧ graph.Grows shape shape' := by
  cases h with
  | index hshapes => exact ⟨shape, by rw [shape?, hshapes]; exact hshape, .same shape⟩
  | alloc _ => exact ⟨shape, shape?_alloc_of_some hshape, .same shape⟩
  | @modify other change hgrows =>
    rw [shape?_modify, hshape]
    split
    · exact ⟨change shape, rfl, hgrows shape⟩
    · exact ⟨shape, rfl, .same shape⟩

/-- A shape was there before a change, or it is new. -/
theorem Change.backward (h : graph.Change graph') {shape' : Shape}
    (hshape : graph'.shape? id = some shape') : shape'.isNew = true ∨
      ∃ shape, graph.shape? id = some shape ∧ graph.Grows shape shape' := by
  cases h with
  | index hshapes =>
    rw [shape?, hshapes] at hshape
    exact .inr ⟨shape', hshape, .same shape'⟩
  | alloc hnew =>
    rw [shape_alloc] at hshape
    split at hshape
    · obtain rfl := Option.some.inj hshape
      exact .inl hnew
    · exact .inr ⟨shape', hshape, .same shape'⟩
  | @modify other change hgrows =>
    rw [shape?_modify] at hshape
    split at hshape
    · obtain ⟨shape, hformer, rfl⟩ := Option.map_eq_some_iff.1 hshape
      exact .inr ⟨shape, hformer, hgrows shape⟩
    · exact .inr ⟨shape', hshape, .same shape'⟩

/-! ### Observations -/

/-- A new shape, under a key or not. -/
theorem changes_alloc {shape : Shape} (hnew : shape.isNew = true)
    (hshapes : graph'.shapes = (graph.alloc shape).2.shapes) : graph.Changes graph' :=
  .tail (.single (.alloc hnew)) (.index hshapes)

/-- An object is found, or it is new. -/
theorem changes_object (graph : ShapeGraph) (site : Option CodeSite) :
    graph.Changes (graph.object site).2 := by
  unfold object
  split
  · exact changes_alloc rfl rfl
  · split
    · exact .refl
    · exact changes_alloc rfl rfl

/-- An array is found, or it is new. -/
theorem changes_array (graph : ShapeGraph) (site : Option CodeSite) :
    graph.Changes (graph.array site).2 := by
  unfold array
  split
  · exact changes_alloc rfl rfl
  · split
    · exact .refl
    · exact changes_alloc rfl rfl

/-- A new function comes with its instances and its returns. -/
theorem changes_allocFunction (graph : ShapeGraph) (site : Option CodeSite) :
    graph.Changes (graph.allocFunction site).2 :=
  .tail (.tail (.single (.alloc rfl)) (.alloc rfl)) (.alloc rfl)

/-- A function is found, or it is new. -/
theorem changes_function (graph : ShapeGraph) (site : Option CodeSite) :
    graph.Changes (graph.function site).2 := by
  unfold function
  split
  · exact changes_allocFunction graph none
  · split
    · exact .refl
    · exact .tail (changes_allocFunction graph _) (.index rfl)

/-- A builtin is found, and maybe marked as constructible, or it is new. -/
theorem changes_builtin (graph : ShapeGraph) (fullName : String) (constructible : Bool) :
    graph.Changes (graph.builtin fullName constructible).2 := by
  unfold builtin
  split
  · split
    · exact .single (.modify _ .construct)
    · exact .refl
  · exact changes_alloc rfl rfl

/-- An instance is found, or it is new. -/
theorem changes_instanceOf {constructor : ShapeId} {answer : Option ShapeId}
    (h : graph.instanceOf constructor = .ok (answer, graph')) : graph.Changes graph' := by
  obtain ⟨shape, _, h⟩ := bind_eq_ok.1 h
  split at h
  · cases h
    exact .refl
  · split at h
    · cases h
      exact .refl
    · cases h
      exact changes_alloc rfl rfl
  · cases h
    exact .refl

/-- A parameter is found, or it is new. -/
theorem changes_parameter (graph : ShapeGraph) (use : Parameter) :
    graph.Changes (graph.parameter use).2 := by
  unfold parameter
  split
  · exact .refl
  · exact changes_alloc rfl rfl

/-- A union is new. -/
theorem changes_union {ids : List ShapeId} (h : graph.union ids = .ok (id, graph')) :
    graph.Changes graph' := by
  obtain ⟨members, _, h⟩ := bind_eq_ok.1 h
  cases h
  exact .single (.alloc rfl)

/-- A slot is filled with what is known, or with a new union. -/
theorem changes_fill {slot : Option ShapeId} {value held : ShapeId}
    (h : graph.fill slot value = .ok (held, graph')) : graph.Changes graph' := by
  obtain ⟨_, _, rfl⟩ | ⟨_, _, rfl⟩ | ⟨_, _, _, _, _, rfl⟩ := fill_eq_ok h
  · exact .refl
  · exact .refl
  · exact .single (.alloc rfl)

/-- A slot is filled, and then the owner changes. -/
theorem changes_addProperty {owner value : ShapeId} {name : String} {added : Bool}
    (h : graph.addProperty owner name value = .ok (added, graph')) : graph.Changes graph' := by
  obtain ⟨_, _, ⟨_, _, rfl⟩ | ⟨_, _, _, _, hfill, _, rfl⟩⟩ := addProperty_eq_ok h
  · exact .refl
  · exact .tail (changes_fill hfill) (.modify _ fun shape => .property _ _ _ shape)

/-- A function is marked before it is bound. -/
theorem flagged_markAccessor {kind : AccessorKind} (h : (graph.shape? id).isSome) :
    (graph.modify id (Shape.markAccessor kind)).Flagged id := by
  obtain ⟨shape, hshape⟩ := Option.isSome_iff_exists.1 h
  exact ⟨_, by rw [shape?_modify, if_pos rfl, hshape]; rfl, by cases shape <;> rfl⟩

/-- The function is marked, and the owner changes if it takes accessors. -/
theorem changes_addAccessor {kind : AccessorKind} {owner function : ShapeId} {name : String}
    {added : Bool} (h : graph.addAccessor kind owner name function = .ok (added, graph')) :
    graph.Changes graph' := by
  obtain ⟨_, hfunction, h⟩ := bind_eq_ok.1 h
  obtain ⟨fn, hfn, _⟩ := bind_eq_ok.1 hfunction
  obtain ⟨shape, _, h⟩ := bind_eq_ok.1 h
  have hmark : graph.Change (graph.modify function (Shape.markAccessor kind)) := .modify _ (.mark kind)
  split at h
  · cases h
    have hflagged : (graph.modify function (Shape.markAccessor kind)).Flagged function :=
      flagged_markAccessor (by rw [shape_eq_ok.1 hfn, Option.isSome_some])
    exact .tail (.single hmark) (.modify _ fun shape => .bind name shape hflagged)
  · cases h
    exact .single hmark

/-- The property is one of what the function constructs. -/
theorem changes_addInstanceProperty {function value : ShapeId} {name : String} {added : Bool}
    (h : graph.addInstanceProperty function name value = .ok (added, graph')) :
    graph.Changes graph' := by
  obtain ⟨shape, _, h⟩ := bind_eq_ok.1 h
  split at h
  · exact changes_addProperty h
  · cases h
    exact .refl

/-- The members of the returned union change. -/
theorem changes_observeReturn {function value : ShapeId} {added : Bool}
    (h : graph.observeReturn function value = .ok (added, graph')) : graph.Changes graph' := by
  unfold observeReturn at h
  split at h
  · cases h
    exact .refl
  · obtain ⟨shape, _, h⟩ := bind_eq_ok.1 h
    split at h
    · obtain ⟨former, _, h⟩ := bind_eq_ok.1 h
      obtain ⟨members, _, h⟩ := bind_eq_ok.1 h
      cases h
      exact .single (.modify _ (.members members))
    · cases h
      exact .refl

/-- A parameter is found or new, and the function changes. -/
theorem changes_useParam {function : ShapeId} {index : Nat} {answer : Option ShapeId}
    (h : graph.useParam function index = .ok (answer, graph')) : graph.Changes graph' := by
  obtain ⟨shape, _, h⟩ := bind_eq_ok.1 h
  split at h
  · cases h
    exact .tail (changes_parameter graph _) (.modify _ fun shape => .useParam _ _ shape)
  · cases h
    exact .refl

/-- A recorded graph comes from the empty one by changes of its shapes. -/
theorem Recorded.changes (h : graph.Recorded) : Changes ShapeGraph.empty graph := by
  induction h with
  | empty => exact .refl
  | object site _ ih => exact ih.trans (changes_object ..)
  | array site _ ih => exact ih.trans (changes_array ..)
  | function site _ ih => exact ih.trans (changes_function ..)
  | builtin fullName constructible _ ih => exact ih.trans (changes_builtin ..)
  | instanceOf _ hinstance ih => exact ih.trans (changes_instanceOf hinstance)
  | parameter _ _ ih => exact ih.trans (changes_parameter ..)
  | union _ hunion ih => exact ih.trans (changes_union hunion)
  | addProperty _ _ hadd ih => exact ih.trans (changes_addProperty hadd)
  | addGetter _ hadd ih => exact ih.trans (changes_addAccessor hadd)
  | addSetter _ hadd ih => exact ih.trans (changes_addAccessor hadd)
  | addInstanceProperty _ _ hadd ih => exact ih.trans (changes_addInstanceProperty hadd)
  | observeReturn _ hreturn ih => exact ih.trans (changes_observeReturn hreturn)
  | useParam _ huse ih => exact ih.trans (changes_useParam huse)

/-! ### What changes keep -/

/-- A primitive does not change. -/
theorem Grows.of_primitive {kind : PrimitiveKind} {shape : Shape}
    (h : graph.Grows (.primitive kind) shape) : shape = .primitive kind := by
  cases h with
  | property degrades => cases degrades <;> rfl
  | _ => rfl

/-- What may serve as an accessor may do so ever after. -/
theorem Grows.isFlagged {shape shape' : Shape} (h : graph.Grows shape shape')
    (hshape : shape.isFlagged = true) : shape'.isFlagged = true := by
  cases h with
  | property degrades => cases degrades <;> cases shape <;> exact hshape
  | _ => cases shape <;> first | rfl | exact hshape

/-- Functions come from functions, and they take up parameters at most. -/
theorem Grows.usedParams {fn' : FunctionShape} {shape : Shape}
    (h : graph.Grows shape (.function fn')) : ∃ fn, shape = .function fn ∧
      (fn'.usedParams = fn.usedParams ∨
        ∃ index parameter, fn'.usedParams = recordParam index parameter fn.usedParams) := by
  generalize hshape' : Shape.function fn' = shape' at h
  cases h with
  | property degrades => cases degrades <;> cases shape <;> cases hshape' <;> exact ⟨_, rfl, .inl rfl⟩
  | useParam =>
    cases shape <;> cases hshape'
    exact ⟨_, rfl, .inr ⟨_, _, rfl⟩⟩
  | _ =>
    cases shape <;> cases hshape'
    exact ⟨_, rfl, .inl rfl⟩

/-- An accessor was there before, or it is a flagged shape. -/
theorem Grows.bindings {shape shape' : Shape} (h : graph.Grows shape shape') {entries' : Aggregate}
    (hentries' : shape'.aggregate? = some entries') :
    ∃ entries, shape.aggregate? = some entries ∧ ∀ (kind : AccessorKind),
      ∀ binding ∈ (entries'.bindings kind.entryKind).toList,
        binding ∈ (entries.bindings kind.entryKind).toList ∨ graph.Flagged binding.2 := by
  have hbind {kind : AccessorKind} {function : ShapeId} {name : String} {entries : Aggregate}
      (hflagged : graph.Flagged function) (kind' : AccessorKind) (binding : String × ShapeId)
      (hmem : binding ∈ ((Shape.setAccessor.bind kind name function entries).bindings
        kind'.entryKind).toList) :
      binding ∈ (entries.bindings kind'.entryKind).toList ∨ graph.Flagged binding.2 := by
    cases kind <;> cases kind' <;> first
      | exact .inl hmem
      | exact (Properties.mem_toList_insert hmem).elim (fun heq => .inr (heq ▸ hflagged)) .inl
  cases h with
  | property degrades =>
    -- Only the plain properties change.
    cases degrades <;> cases shape <;> cases hentries' <;>
      exact ⟨_, rfl, fun kind binding hmem => .inl (by cases kind <;> exact hmem)⟩
  | bind name _ hflagged =>
    cases shape <;> cases hentries' <;> exact ⟨_, rfl, hbind hflagged⟩
  | _ => cases shape <;> cases hentries' <;> exact ⟨_, rfl, fun _ _ hmem => .inl hmem⟩

/-- What each change keeps holds of recorded graphs. -/
theorem Recorded.induction {motive : ShapeGraph → Prop} (h : graph.Recorded)
    (empty : motive ShapeGraph.empty)
    (change : ∀ {graph graph'}, motive graph → graph.Change graph' → motive graph') :
    motive graph := by
  have hchanges := h.changes
  clear h
  induction hchanges with
  | refl => exact empty
  | tail _ hchange ih => exact change ih hchange

/-- The primitives are where they are at the start. -/
theorem Recorded.primitive (h : graph.Recorded) : graph.HasPrimitives := by
  refine h.induction empty_primitive fun hformer hchange kind => ?_
  obtain ⟨shape, hshape, hgrows⟩ := hchange.forward (hformer kind)
  rw [hshape, hgrows.of_primitive]

/-- The used parameters of any function are in ascending order. -/
theorem Recorded.ascending (h : graph.Recorded) {fn : FunctionShape}
    (hid : graph.shape? id = some (.function fn)) : fn.Ascending := by
  refine h.induction (motive := fun graph => ∀ id fn, graph.shape? id = some (.function fn) →
    fn.Ascending) (fun id fn hid => ?_) (fun hformer hchange id fn' hid => ?_) id fn hid
  · obtain ⟨_, heq⟩ | heq := empty_cases hid <;> cases heq
  · rcases hchange.backward hid with hnew | ⟨shape, hshape, hgrows⟩
    · simp only [Shape.isNew, Bool.and_eq_true, List.isEmpty_iff] at hnew
      simp [FunctionShape.Ascending, hnew.1]
    · obtain ⟨fn, rfl, hsame | ⟨index, parameter, hmore⟩⟩ := hgrows.usedParams
      · rw [FunctionShape.Ascending, hsame]
        exact hformer id fn hshape
      · rw [FunctionShape.Ascending, hmore]
        exact pairwise_recordParam (hformer id fn hshape)

/-- What is flagged stays so. -/
theorem Flagged.forward (h : graph.Flagged id) (hchange : graph.Change graph') :
    graph'.Flagged id := by
  obtain ⟨shape, hshape, hflag⟩ := h
  obtain ⟨shape', hshape', hgrows⟩ := hchange.forward hshape
  exact ⟨shape', hshape', hgrows.isFlagged hflag⟩

/-- An accessor is marked as one. -/
theorem Recorded.flagged (h : graph.Recorded) {kind : AccessorKind} {name : String}
    (hbinds : graph.Binds kind.entryKind name id) : graph.Flagged id := by
  refine h.induction (motive := fun graph => ∀ (kind : AccessorKind) name id,
    graph.Binds kind.entryKind name id → graph.Flagged id) ?_ ?_ kind name id hbinds
  · rintro kind name id ⟨owner, entries, hentries, _⟩
    obtain ⟨shape, hshape, hentries⟩ := Option.bind_eq_some_iff.1 hentries
    obtain ⟨_, rfl⟩ | rfl := empty_cases hshape <;> cases hentries
  · rintro graph graph' hformer hchange kind name id ⟨owner, entries, hentries, hmem⟩
    obtain ⟨shape, hshape, hentries⟩ := Option.bind_eq_some_iff.1 hentries
    rcases hchange.backward hshape with hnew | ⟨shape', hshape', hgrows⟩
    · rw [Shape.bindings_of_isNew hnew hentries] at hmem
      exact nomatch hmem
    · obtain ⟨entries', hentries', hbindings⟩ := hgrows.bindings hentries
      rcases hbindings kind (name, id) hmem with hold | hflagged
      · have hbinds : graph.Binds kind.entryKind name id :=
          ⟨owner, entries', by rw [hshape']; exact hentries', hold⟩
        exact (hformer kind name id hbinds).forward hchange
      · exact hflagged.forward hchange

end ShapeGraph

end Semblance
