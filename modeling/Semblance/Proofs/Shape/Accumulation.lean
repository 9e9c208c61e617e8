import Semblance.Proofs.Shape.Contents
import Semblance.Proofs.Shape.Operations
import Semblance.Proofs.Shape.Remembered

/-!
# What slots and functions accumulate

A slot ends up with what all values contribute that were put there, in the order in which they came,
each shape at its first mention. It makes no difference whether these are plain shapes or unions, or
what else was observed in between. The same goes for the returns of a function.

The union of what a function returns is the exception. It goes on to grow after it was put in a
slot, so the values are supposed not to be such unions.

## Key results

- `filled_perform`, `grown_perform`: what one operation does to a slot and to a function
- `Performed.slotAt`, `Performed.returned`: what a run of operations does to them
- `contents_accumulate`: what slots and functions hold after a run
-/

namespace Semblance

/-- Whether an operation observes neither a property nor a return. -/
def Operation.isQuiet : Operation → Bool
  | .addProperty _ _ _ | .addInstanceProperty _ _ _ | .observeReturn _ _ => false
  | _ => true

namespace ShapeGraph

/-! ### Runs -/

/-- The operations that lead to a graph, each with the graph that it was performed on. They are told
    of known shapes only. -/
inductive Performed : List (ShapeGraph × Operation) → ShapeGraph → Prop where
  | nil : Performed [] empty
  | concat {done graph graph' operation answer} : Performed done graph → operation.Known graph →
      graph.perform operation = .ok (answer, graph') →
      Performed (done ++ [(graph, operation)]) graph'

variable {graph graph' : ShapeGraph} {id function owner value : ShapeId} {slot : String}
  {operation : Operation} {answer : Answer} {done : List (ShapeGraph × Operation)}

/-- Operations on known shapes record a graph. -/
theorem Performed.recorded (h : Performed done graph) : graph.Recorded := by
  induction h with
  | nil => exact .empty
  | concat _ hknown hperform ih => exact ih.observes (perform_observes hknown hperform)

/-- Whether a shape is returned shows in the shapes of the graph. -/
theorem returned_iff_exists_mem :
    graph.Returned id ↔ ∃ shape ∈ graph.shapes.toList, shape.returns? = some id := by
  constructor
  · rintro ⟨function, hreturns⟩
    obtain ⟨shape, hshape, hreturns⟩ := Option.bind_eq_some_iff.1 hreturns
    exact ⟨shape, Array.mem_toList_iff.2 (Array.mem_of_getElem? hshape), hreturns⟩
  · rintro ⟨shape, hmem, hreturns⟩
    obtain ⟨index, hindex⟩ := List.mem_iff_getElem?.1 hmem
    exact ⟨⟨index⟩, by rw [shape?, ← Array.getElem?_toList, hindex, Option.bind_some, hreturns]⟩

instance (graph : ShapeGraph) (id : ShapeId) : Decidable (graph.Returned id) :=
  decidable_of_iff' _ returned_iff_exists_mem

/-! ### Values -/

/-- The value that an operation puts in a slot. An owner without properties takes none. -/
def put? (graph : ShapeGraph) (owner : ShapeId) (slot : String) : Operation → Option ShapeId
  | .addProperty target name value =>
    if target = owner ∧ (graph.shape? owner).bind (·.slotFor? name) = some slot then some value
    else none
  | .addInstanceProperty function name value =>
    if (graph.shape? function).bind Shape.constructs? = some owner ∧
        (graph.shape? owner).bind (·.slotFor? name) = some slot then some value
    else none
  | _ => none

/-- The value that an operation sees a function return. The undefined value is dropped. -/
def return? (graph : ShapeGraph) (function : ShapeId) : Operation → Option ShapeId
  | .observeReturn target value =>
    if target = function ∧ ((graph.shape? function).bind Shape.returns?).isSome ∧
        value ≠ primitive .undefined then some value
    else none
  | _ => none

/-- The values that were put in a slot. -/
def valuesPut (done : List (ShapeGraph × Operation)) (owner : ShapeId) (slot : String) :
    List ShapeId :=
  done.filterMap fun step => step.1.put? owner slot step.2

/-- The values that a function was seen to return. -/
def valuesReturned (done : List (ShapeGraph × Operation)) (function : ShapeId) : List ShapeId :=
  done.filterMap fun step => step.1.return? function step.2

/-- The value that is put in a slot is one that the operation is told of. -/
theorem mem_ids_of_put? (h : graph.put? owner slot operation = some value) :
    value ∈ operation.ids := by
  cases operation with
  | addProperty | addInstanceProperty =>
    obtain ⟨_, hvalue⟩ := Option.ite_none_right_eq_some.1 h
    simp [Option.some.inj hvalue]
  | _ => cases h

/-- The value that is returned is one that the operation is told of. -/
theorem mem_ids_of_return? (h : graph.return? function operation = some value) :
    value ∈ operation.ids := by
  cases operation with
  | observeReturn =>
    obtain ⟨_, hvalue⟩ := Option.ite_none_right_eq_some.1 h
    simp [Option.some.inj hvalue]
  | _ => cases h

/-! ### One operation -/

/-- An operation that observes neither a property nor a return leaves all contents alone. -/
theorem sameContents_perform (h : graph.Registered) (hquiet : operation.isQuiet = true)
    (hperform : graph.perform operation = .ok (answer, graph')) : graph.SameContents graph' := by
  cases operation with
  | object site =>
    cases hperform
    exact sameContents_object h site
  | array site =>
    cases hperform
    exact sameContents_array h site
  | «function» site =>
    cases hperform
    exact sameContents_function h site
  | builtin fullName constructible =>
    cases hperform
    exact sameContents_builtin h fullName constructible
  | «parameter» use =>
    cases hperform
    exact sameContents_parameter h use
  | instanceOf constructor =>
    obtain ⟨_, hinstance, _⟩ := reply_eq_ok.1 hperform
    exact sameContents_instanceOf h hinstance
  | union ids =>
    obtain ⟨_, hunion, _⟩ := reply_eq_ok.1 hperform
    exact sameContents_union h hunion
  | addGetter owner name accessor | addSetter owner name accessor =>
    obtain ⟨_, hadd, _⟩ := reply_eq_ok.1 hperform
    exact sameContents_addAccessor hadd
  | useParam function index =>
    obtain ⟨_, huse, _⟩ := reply_eq_ok.1 hperform
    exact sameContents_useParam h huse
  | _ => exact nomatch hquiet

/-- A slot is left alone, or it is filled with a value. -/
inductive Filled (graph graph' : ShapeGraph) (owner : ShapeId) (slot : String) :
    Option ShapeId → Prop where
  | same : graph'.slotAt owner slot = graph.slotAt owner slot → Filled graph graph' owner slot none
  | fill {value held : ShapeId} {graph₁ : ShapeGraph} :
      graph.fill (graph.slotAt owner slot) value = .ok (held, graph₁) →
      graph'.slotAt owner slot = some held → graph'.contribution held = graph₁.contribution held →
      (∀ id, graph'.Returned id → graph.Returned id) → Filled graph graph' owner slot (some value)

/-- A property fills the one slot in which its name is kept. -/
theorem filled_addProperty (h : graph.Registered) {target : ShapeId} {name : String} {added : Bool}
    (hadd : graph.addProperty target name value = .ok (added, graph')) (owner : ShapeId)
    (slot : String) :
    graph.Filled graph' owner slot (if target = owner ∧
      (graph.shape? owner).bind (·.slotFor? name) = some slot then some value else none) := by
  obtain ⟨hnone, rfl⟩ | ⟨own, held, graph₁, hown, hfill, hheld, hslots⟩ := slotAt_addProperty h hadd
  · rw [if_neg]
    · exact .same rfl
    · rintro ⟨rfl, hslot⟩
      cases hnone.symm.trans hslot
  · by_cases hhit : target = owner ∧ own = slot
    · obtain ⟨rfl, rfl⟩ := hhit
      rw [if_pos ⟨rfl, hown⟩]
      refine .fill hfill (by rw [hslots, if_pos ⟨rfl, rfl⟩]) hheld ?_
      rintro id ⟨function, hreturns⟩
      exact ⟨function, returns?_addProperty hadd function ▸ hreturns⟩
    · rw [if_neg]
      · exact .same (by rw [hslots, if_neg fun heq => hhit ⟨heq.1.symm, heq.2.symm⟩])
      · rintro ⟨rfl, hslot⟩
        exact hhit ⟨rfl, Option.some.inj (hown.symm.trans hslot)⟩

/-- An operation fills a slot with the value that it puts there. -/
theorem filled_perform (h : graph.Registered)
    (hperform : graph.perform operation = .ok (answer, graph')) (owner : ShapeId) (slot : String) :
    graph.Filled graph' owner slot (graph.put? owner slot operation) := by
  cases operation with
  | addProperty target name value =>
    obtain ⟨_, hadd, _⟩ := reply_eq_ok.1 hperform
    exact filled_addProperty h hadd owner slot
  | addInstanceProperty function name value =>
    obtain ⟨_, hadd, _⟩ := reply_eq_ok.1 hperform
    obtain ⟨shape, hshape, hadd⟩ := bind_eq_ok.1 hadd
    rw [put?, shape_eq_ok.1 hshape, Option.bind_some]
    split at hadd
    · rw [Shape.constructs?]
      simp only [Option.some.injEq]
      exact filled_addProperty h hadd owner slot
    · next hnone =>
      cases hadd
      rw [if_neg]
      · exact .same rfl
      · -- `put?` asks for a shape that constructs, and only functions do.
        rintro ⟨hconstructs, _⟩
        cases shape with
        | function fn => exact hnone fn rfl
        | _ => cases hconstructs
  | observeReturn function value =>
    obtain ⟨_, hreturn, _⟩ := reply_eq_ok.1 hperform
    exact .same (slotAt_observeReturn h hreturn owner slot)
  | _ => exact .same ((sameContents_perform h rfl hperform).slotAt owner slot)

/-- What a function returns is left alone, or a value adds to it. -/
inductive Grown (graph graph' : ShapeGraph) (function : ShapeId) : Option ShapeId → Prop where
  | same : graph'.returned function = graph.returned function → Grown graph graph' function none
  | grow {value : ShapeId} : graph'.returned function =
      (graph.contribution value).foldl addMember (graph.returned function) →
      Grown graph graph' function (some value)

/-- A function grows by what it is seen to return. -/
theorem grown_observeReturn (h : graph.Registered) {target : ShapeId} {added : Bool}
    (hvalue : (graph.shape? value).isSome)
    (hreturn : graph.observeReturn target value = .ok (added, graph')) (function : ShapeId) :
    graph.Grown graph' function (graph.return? function (.observeReturn target value)) := by
  rw [return?]
  cases added with
  | false =>
    obtain rfl := observeReturn_refused hreturn
    rw [if_neg]
    · exact .same rfl
    · rintro ⟨rfl, hreturns, hne⟩
      -- A function accepts every value but the undefined one.
      obtain ⟨union, hreturns⟩ := Option.isSome_iff_exists.1 hreturns
      obtain ⟨shape, hshape, hfn⟩ := Option.bind_eq_some_iff.1 hreturns
      obtain ⟨_, hunion, hisUnion⟩ := Option.map_eq_some_iff.1 (h.returns hreturns)
      obtain ⟨members, rfl⟩ := Shape.isUnion_eq_true.1 hisUnion
      cases shape with
      | function fn =>
        cases hfn
        rw [observeReturn_of_function hne hshape hunion hvalue] at hreturn
        cases hreturn
      | _ => cases hfn
  | true =>
    obtain ⟨hne, fn, _, _, hfn, _, hids, _⟩ := observeReturn_eq_ok h hreturn
    have hreturned := returned_observeReturn h hreturn hids function
    obtain ⟨_, rfl⟩ := flatten_eq_ok_iff.1 hids
    by_cases heq : target = function
    · subst heq
      rw [if_pos ⟨rfl, by rw [hfn]; rfl, hne⟩]
      exact .grow (hreturned.trans (if_pos rfl))
    · rw [if_neg fun hhit => heq hhit.1]
      exact .same (hreturned.trans (if_neg (Ne.symm heq)))

/-- An operation adds to what a function returns if it sees it return something, and otherwise it
    leaves that alone. -/
theorem grown_perform (h : graph.Registered) (hknown : operation.Known graph)
    (hperform : graph.perform operation = .ok (answer, graph')) (function : ShapeId) :
    graph.Grown graph' function (graph.return? function operation) := by
  cases operation with
  | addProperty target name value =>
    obtain ⟨_, hadd, _⟩ := reply_eq_ok.1 hperform
    exact .same (returned_addProperty h hadd function)
  | addInstanceProperty target name value =>
    obtain ⟨_, hadd, _⟩ := reply_eq_ok.1 hperform
    obtain ⟨shape, _, hadd⟩ := bind_eq_ok.1 hadd
    split at hadd
    · exact .same (returned_addProperty h hadd function)
    · cases hadd
      exact .same rfl
  | observeReturn target value =>
    obtain ⟨_, hreturn, _⟩ := reply_eq_ok.1 hperform
    exact grown_observeReturn h (hknown value (by simp)) hreturn function
  | _ => exact .same ((sameContents_perform h rfl hperform).returned function)

/-! ### Values that last -/

/-- What a shape contributes stays the same, unless it is a union that a function returns. -/
theorem Remembers.contribution (h : graph.Remembers graph') (hid : (graph.shape? id).isSome)
    (hreturned : ¬ graph.Returned id) : graph'.contribution id = graph.contribution id := by
  obtain ⟨shape, hshape⟩ := Option.isSome_iff_exists.1 hid
  obtain ⟨shape', hshape', hretains, hmembers⟩ := h.shape hshape
  rw [contribution_eq hshape, contribution_eq hshape',
    Shape.isUnion_of_identity hretains.identity, hmembers hreturned]

/-- What a function returns it goes on to return. -/
theorem Remembers.returned_later (h : graph.Remembers graph') (hid : graph.Returned id) :
    graph'.Returned id := by
  obtain ⟨function, hreturns⟩ := hid
  obtain ⟨shape, hshape, hreturns⟩ := Option.bind_eq_some_iff.1 hreturns
  obtain ⟨shape', hshape', hretains, _⟩ := h.shape hshape
  refine ⟨function, ?_⟩
  rw [hshape', Option.bind_some, Shape.returns?_of_identity hretains.identity, hreturns]

/-- What is known stays known. -/
theorem Remembers.known (h : graph.Remembers graph') (hid : (graph.shape? id).isSome) :
    (graph'.shape? id).isSome := by
  obtain ⟨shape, hshape⟩ := Option.isSome_iff_exists.1 hid
  obtain ⟨_, hshape', _⟩ := h.shape hshape
  rw [hshape', Option.isSome_some]

/-- What is in a slot is known. -/
theorem Valid.known_slotAt (h : graph.Valid) (hslot : graph.slotAt owner slot = some id) :
    (graph.shape? id).isSome := by
  obtain ⟨shape, hshape, hslot⟩ := Option.bind_eq_some_iff.1 hslot
  obtain ⟨properties, hproperties, hid⟩ := Option.bind_eq_some_iff.1 hslot
  exact h.known_of_get? hshape hproperties hid

/-- All operations were told of known shapes. -/
theorem Performed.known (h : Performed done graph) : ∀ step ∈ done, step.2.Known graph := by
  induction h with
  | nil => exact nofun
  | concat hdone hknown hperform ih =>
    have hremembers := hdone.recorded.remembers (.single (perform_observes hknown hperform))
    intro step hmem id hid
    rcases List.mem_append.1 hmem with hmem | hmem
    · exact hremembers.known (ih step hmem id hid)
    · obtain rfl := List.mem_singleton.1 hmem
      exact hremembers.known (hknown id hid)

/-- The values that were put in a slot are known. -/
theorem Performed.known_put (h : Performed done graph) (hmem : value ∈ valuesPut done owner slot) :
    (graph.shape? value).isSome := by
  obtain ⟨step, hstep, hput⟩ := List.mem_filterMap.1 hmem
  exact h.known step hstep value (mem_ids_of_put? hput)

/-- The values that a function was seen to return are known. -/
theorem Performed.known_returned (h : Performed done graph)
    (hmem : value ∈ valuesReturned done function) : (graph.shape? value).isSome := by
  obtain ⟨step, hstep, hreturn⟩ := List.mem_filterMap.1 hmem
  exact h.known step hstep value (mem_ids_of_return? hreturn)

/-- Known shapes that no function returns go on to contribute the same. -/
theorem Remembers.flatMap_contribution (h : graph.Remembers graph') {values : List ShapeId}
    (hknown : ∀ value ∈ values, (graph.shape? value).isSome)
    (hvalues : ∀ value ∈ values, ¬ graph'.Returned value) :
    values.flatMap graph'.contribution = values.flatMap graph.contribution := by
  refine List.flatMap_congr fun value hmem => h.contribution (hknown value hmem) fun hreturned => ?_
  exact hvalues value hmem (h.returned_later hreturned)

/-! ### Slots -/

/-- What is in a slot contributes what the values do, and it is no union that a function returns. -/
inductive ComesTo (graph : ShapeGraph) (values : List ShapeId) : Option ShapeId → Prop where
  | vacant : values = [] → ComesTo graph values none
  | taken {held : ShapeId} : ¬ graph.Returned held →
      graph.contribution held = (values.flatMap graph.contribution).eraseDups →
      ComesTo graph values (some held)

/-- What a slot contributes is what the values do, each member at its first mention. -/
theorem ComesTo.contribution {values : List ShapeId} {content : Option ShapeId}
    (h : graph.ComesTo values content) :
    (content.map graph.contribution).getD [] = (values.flatMap graph.contribution).eraseDups := by
  cases h with
  | vacant hvalues => rw [hvalues]; rfl
  | taken _ hheld => exact hheld

/-- What is in a slot lasts. -/
theorem ComesTo.later {values : List ShapeId} {content : Option ShapeId}
    (h : graph.ComesTo values content) (hremembers : graph.Remembers graph')
    (hcontent : ∀ held, content = some held → (graph.shape? held).isSome)
    (hvalues : values.flatMap graph'.contribution = values.flatMap graph.contribution) :
    graph'.ComesTo values content := by
  cases h with
  | vacant hnone => exact .vacant hnone
  | @taken held hreturned hheld =>
    have hknown := hcontent held rfl
    refine .taken (fun hlater => hreturned (hremembers.returned hknown hlater)) ?_
    rw [hremembers.contribution hknown hreturned, hheld, hvalues]

/-- A slot that is filled comes to one more value. -/
theorem ComesTo.fill {values : List ShapeId} {content : Option ShapeId} {held : ShapeId}
    {graph₁ : ShapeGraph} (h : graph.ComesTo values content) (hrecorded : graph.Recorded)
    (hfill : graph.fill content value = .ok (held, graph₁))
    (hheld : graph'.contribution held = graph₁.contribution held)
    (hreturned : ∀ id, graph'.Returned id → graph.Returned id) (hvalue : ¬ graph'.Returned value)
    (hvalues : (values ++ [value]).flatMap graph'.contribution =
      (values ++ [value]).flatMap graph.contribution) :
    graph'.ComesTo (values ++ [value]) (some held) := by
  refine .taken ?_ ?_
  · obtain ⟨_, rfl, _⟩ | ⟨rfl, _, _⟩ | ⟨existing, _, _, _, rfl, _⟩ := fill_eq_ok hfill
    · exact hvalue
    · cases h with
      | taken hformer _ => exact fun hlater => hformer (hreturned held hlater)
    · -- The new union was not there when the functions came to return theirs.
      intro hlater
      obtain ⟨function, hreturns⟩ := hreturned _ hlater
      have hunion := hrecorded.registered.returns hreturns
      rw [shape?_alloc_fst] at hunion
      cases hunion
  · rw [hheld, contribution_fill hrecorded.distinct hfill, h.contribution,
      List.eraseDups_eraseDups_append, hvalues, List.flatMap_append, List.flatMap_singleton]

/-- One more operation puts at most one value in a slot, after the others. -/
theorem valuesPut_concat (done : List (ShapeGraph × Operation)) (graph : ShapeGraph)
    (operation : Operation) (owner : ShapeId) (slot : String) :
    valuesPut (done ++ [(graph, operation)]) owner slot =
      valuesPut done owner slot ++ (graph.put? owner slot operation).toList :=
  List.filterMap_concat _ done _

/-- A slot comes to the values that were put there. -/
theorem Performed.slotAt (h : Performed done graph) (owner : ShapeId) (slot : String)
    (hvalues : ∀ value ∈ valuesPut done owner slot, ¬ graph.Returned value) :
    graph.ComesTo (valuesPut done owner slot) (graph.slotAt owner slot) := by
  -- On the operations done, the last one at the end: what came before holds the former values, and
  -- the step adds at most one.
  induction h with
  | nil =>
    have hvacant : empty.slotAt owner slot = none := by
      rw [ShapeGraph.slotAt]
      cases hshape : empty.shape? owner with
      | none => rfl
      | some shape => obtain ⟨_, rfl⟩ | rfl := empty_cases hshape <;> rfl
    rw [hvacant]
    exact .vacant rfl
  | @concat done graph graph' operation answer hdone hknown hperform ih =>
    have hrecorded := hdone.recorded
    have hremembers := hrecorded.remembers (.single (perform_observes hknown hperform))
    rw [valuesPut_concat] at hvalues ⊢
    have hformer := ih fun value hmem hreturned =>
      hvalues value (List.mem_append_left _ hmem) (hremembers.returned_later hreturned)
    have hput : ∀ value ∈ (graph.put? owner slot operation).toList, (graph.shape? value).isSome :=
      fun value hmem => hknown value (mem_ids_of_put? (Option.mem_toList.1 hmem))
    -- What a value contributes does not change later unless it is a return union, which `hvalues`
    -- excludes.
    have hlast := hremembers.flatMap_contribution
      (fun value hmem => (List.mem_append.1 hmem).elim hdone.known_put (hput value)) hvalues
    have hfilled := filled_perform hrecorded.registered hperform owner slot
    generalize graph.put? owner slot operation = put at hfilled hvalues hlast ⊢
    cases hfilled with
    | same hsame =>
      rw [Option.toList_none, List.append_nil] at hlast ⊢
      rw [hsame]
      exact hformer.later hremembers (fun _ => hrecorded.valid.known_slotAt) hlast
    | @fill value held graph₁ hfill hslot hheld hreturned =>
      rw [Option.toList_some] at hvalues hlast ⊢
      rw [hslot]
      exact hformer.fill hrecorded hfill hheld hreturned (hvalues value (by simp)) hlast

/-! ### Returns -/

/-- One more operation is at most one return, after the others. -/
theorem valuesReturned_concat (done : List (ShapeGraph × Operation)) (graph : ShapeGraph)
    (operation : Operation) (function : ShapeId) :
    valuesReturned (done ++ [(graph, operation)]) function =
      valuesReturned done function ++ (graph.return? function operation).toList :=
  List.filterMap_concat _ done _

/-- A function returns what the values contribute that it was seen to return. -/
theorem Performed.returned (h : Performed done graph) (function : ShapeId)
    (hvalues : ∀ value ∈ valuesReturned done function, ¬ graph.Returned value) :
    graph.returned function =
      ((valuesReturned done function).flatMap graph.contribution).eraseDups := by
  induction h with
  | nil =>
    rw [ShapeGraph.returned]
    cases hshape : empty.shape? function with
    | none => rfl
    | some shape => obtain ⟨_, rfl⟩ | rfl := empty_cases hshape <;> rfl
  | @concat done graph graph' operation answer hdone hknown hperform ih =>
    have hrecorded := hdone.recorded
    have hremembers := hrecorded.remembers (.single (perform_observes hknown hperform))
    rw [valuesReturned_concat] at hvalues ⊢
    have hformer := ih fun value hmem hreturned =>
      hvalues value (List.mem_append_left _ hmem) (hremembers.returned_later hreturned)
    have hreturn : ∀ value ∈ (graph.return? function operation).toList,
        (graph.shape? value).isSome :=
      fun value hmem => hknown value (mem_ids_of_return? (Option.mem_toList.1 hmem))
    -- As for a slot: the earlier values contribute what they did, so only the last return is new.
    have hlast := hremembers.flatMap_contribution
      (fun value hmem => (List.mem_append.1 hmem).elim hdone.known_returned (hreturn value)) hvalues
    have hgrown := grown_perform hrecorded.registered hknown hperform function
    generalize graph.return? function operation = value? at hgrown hlast ⊢
    rw [hlast]
    cases hgrown with
    | same hsame => rw [hsame, hformer, Option.toList_none, List.append_nil]
    | grow hgrow =>
      rw [hgrow, hformer, foldl_addMember_eraseDups, Option.toList_some, List.flatMap_append,
        List.flatMap_singleton]

/-! ### Contents -/

/-- Slots accumulate what was observed. Whatever else was done in between, a slot flattens to what
    the values contribute that were put there, each shape at its first mention. The union that a
    function returns has what the values contribute that the function was seen to return. -/
theorem contents_accumulate (h : Performed done graph) :
    (∀ owner shape properties name, graph.shape? owner = some shape →
      shape.properties? = some properties → valuesPut done owner (shape.slotName name) ≠ [] →
      (∀ value ∈ valuesPut done owner (shape.slotName name), ¬ graph.Returned value) →
      ∃ held, properties.get? (shape.slotName name) = some held ∧ graph.flatten held =
        .ok ((valuesPut done owner (shape.slotName name)).flatMap graph.contribution).eraseDups) ∧
    ∀ function fn, graph.shape? function = some (.function fn) →
      (∀ value ∈ valuesReturned done function, ¬ graph.Returned value) →
      graph.shape? fn.returns =
        some (.union ((valuesReturned done function).flatMap graph.contribution).eraseDups) := by
  refine ⟨fun owner shape properties name hshape hproperties hput hvalues => ?_,
    fun function fn hfn hvalues => ?_⟩
  · have hcomes := h.slotAt owner (shape.slotName name) hvalues
    have hslot : graph.slotAt owner (shape.slotName name) =
        properties.get? (shape.slotName name) := by
      rw [slotAt, hshape, Option.bind_some, Shape.slot?, hproperties, Option.bind_some]
    rw [hslot] at hcomes
    -- The slot is filled: a vacant one would have been put no value.
    cases hheld : properties.get? (shape.slotName name) with
    | none =>
      rw [hheld] at hcomes
      cases hcomes with
      | vacant hnone => exact absurd hnone hput
    | some held =>
      rw [hheld] at hcomes
      cases hcomes with
      | taken _ hcontribution =>
        have hknown := h.recorded.valid.known_of_get? hshape hproperties hheld
        exact ⟨held, rfl, flatten_eq_ok_iff.2 ⟨hknown, hcontribution.symm⟩⟩
  · have hreturns : (graph.shape? function).bind Shape.returns? = some fn.returns := by
      rw [hfn]
      rfl
    obtain ⟨union, hunion, hisUnion⟩ :=
      Option.map_eq_some_iff.1 (h.recorded.registered.returns hreturns)
    obtain ⟨members, rfl⟩ := Shape.isUnion_eq_true.1 hisUnion
    rw [hunion, ← h.returned function hvalues, returned_eq hfn hunion, Shape.members]

/-- A number and a union of strings and numbers are put in a slot, and a function returns the
    union. -/
theorem contents_accumulate_union :
    ∃ (done : List (ShapeGraph × Operation)) (graph : ShapeGraph) (shape : Shape)
      (properties : Properties) (fn : FunctionShape), Performed done graph ∧
      graph.shape? ⟨7⟩ = some shape ∧ shape.properties? = some properties ∧
      graph.shape? ⟨8⟩ = some (.function fn) ∧
      valuesPut done ⟨7⟩ "v" = [primitive .number, ⟨11⟩] ∧ valuesReturned done ⟨8⟩ = [⟨11⟩] ∧
      (∃ held, properties.get? "v" = some held ∧
        graph.flatten held = .ok [primitive .number, primitive .string]) ∧
      graph.shape? fn.returns = some (.union [primitive .string, primitive .number]) := by
  have hobject : Performed _ _ := @Performed.concat _ _ _ (.object none) _ .nil (by decide) rfl
  have hfunction : Performed _ _ :=
    @Performed.concat _ _ _ (.function none) _ hobject (by decide) rfl
  have hnumber : Performed _ _ := @Performed.concat _ _ _
    (.addProperty ⟨7⟩ "v" (primitive .number)) _ hfunction (by decide) rfl
  have hunion : Performed _ _ := @Performed.concat _ _ _
    (.union [primitive .string, primitive .number]) _ hnumber (by decide) rfl
  have hreturn : Performed _ _ := @Performed.concat _ _ _
    (.observeReturn ⟨8⟩ ⟨11⟩) _ hunion (by decide) rfl
  have hdone : Performed _ _ := @Performed.concat _ _ _
    (.addProperty ⟨7⟩ "v" ⟨11⟩) _ hreturn (by decide) rfl
  obtain ⟨hslots, hreturns⟩ := contents_accumulate hdone
  exact ⟨_, _, _, _, _, hdone, rfl, rfl, rfl, rfl, rfl,
    hslots ⟨7⟩ _ _ "v" rfl rfl nofun (by decide),
    hreturns ⟨8⟩ _ rfl (by decide)⟩

end ShapeGraph

end Semblance
