import Semblance.Proofs.Shape.Contents
import Semblance.Proofs.Shape.Operations
import Semblance.Proofs.Shape.Remembered

/-!
# Repeated operations

An operation that is performed again right away finds what it did the first time and does nothing
more. A shape with a key is found by its key, a mark is there already, and a slot covers what was
put there: it holds the value itself, or a union that has all that the value contributes. Only
shapes without a key are made anew, and these are the ones without a code site and the unions.

## Key results

- `addProperty_again`, `observeReturn_again`: what was observed is covered
- `perform_again`: a repeated operation has the same answer and leaves the graph as it is
-/

namespace Semblance

/-! ### Changes that were made -/

/-- Noting a parameter again changes nothing. -/
theorem recordParam_recordParam (index : Nat) (shape : ShapeId) (params : List (Nat × ShapeId)) :
    recordParam index shape (recordParam index shape params) = recordParam index shape params := by
  fun_induction recordParam index shape params with grind [recordParam]

namespace Shape

/-- Binding an accessor again changes nothing. -/
theorem setAccessor_setAccessor (kind : AccessorKind) (name : String) (id : ShapeId)
    (shape : Shape) : (shape.setAccessor kind name id).setAccessor kind name id =
      shape.setAccessor kind name id := by
  cases shape <;> cases kind <;> simp only [setAccessor, setAccessor.bind, Properties.insert_insert]

/-- What holds accessors is no function that could be marked. -/
theorem markAccessor_setAccessor (kind : AccessorKind) (name : String) (id : ShapeId)
    (shape : Shape) : ((shape.markAccessor kind).setAccessor kind name id).markAccessor kind =
      (shape.markAccessor kind).setAccessor kind name id := by
  cases shape <;> rfl

/-- A change that leaves the properties alone leaves the shape alone. -/
theorem modifyProperties_eq_self {shape : Shape} {change : Properties → Properties}
    (h : ∀ properties, shape.properties? = some properties → change properties = properties) :
    shape.modifyProperties change = shape := by
  cases shape <;> first | rfl | simp only [modifyProperties, h _ rfl]

/-- An array degrades once. -/
theorem degradesUnder_property (name slot : String) (held : ShapeId) (shape : Shape) :
    ((if shape.degradesUnder name then shape.degrade else shape).modifyProperties
      (·.insert slot held)).degradesUnder name = false := by
  cases hdegrades : shape.degradesUnder name <;> cases shape <;> first | rfl | exact hdegrades

/-- Using a parameter again changes nothing. -/
theorem useParam_useParam (index : Nat) (parameter : ShapeId) (shape : Shape) :
    (shape.useParam index parameter).useParam index parameter = shape.useParam index parameter := by
  cases shape with
  | function fn => simp only [useParam, recordParam_recordParam]
  | _ => rfl

end Shape

namespace ShapeGraph

variable {graph graph' : ShapeGraph} {id : ShapeId} {operation : Operation} {answer : Answer}

/-- A change that has been made already. -/
theorem modify_eq_self {change : Shape → Shape}
    (h : ∀ shape, graph.shape? id = some shape → change shape = shape) :
    graph.modify id change = graph := by
  rw [modify, Array.modify_eq_self h]

/-- A change that makes no difference the second time. -/
theorem modify_modify {change : Shape → Shape}
    (h : ∀ shape, change (change shape) = change shape) :
    (graph.modify id change).modify id change = graph.modify id change := by
  refine modify_eq_self fun shape hshape => ?_
  rw [shape?_modify, if_pos rfl] at hshape
  obtain ⟨former, _, rfl⟩ := Option.map_eq_some_iff.1 hshape
  exact h former

/-! ### Shapes with a key -/

/-- An object is found by its code site. -/
theorem object_again (graph : ShapeGraph) (site : CodeSite) :
    (graph.object (some site)).2.object (some site) = graph.object (some site) := by
  cases hfound : graph.objects[site.offset]? with
  | some id => simp only [object, hfound]
  | none => simp [object, hfound, alloc]

/-- An array is found by its code site. -/
theorem array_again (graph : ShapeGraph) (site : CodeSite) :
    (graph.array (some site)).2.array (some site) = graph.array (some site) := by
  cases hfound : graph.arrays[site.offset]? with
  | some id => simp only [array, hfound]
  | none => simp [array, hfound, alloc]

/-- A function is found by its code site. -/
theorem function_again (graph : ShapeGraph) (site : CodeSite) :
    (graph.function (some site)).2.function (some site) = graph.function (some site) := by
  cases hfound : graph.functions[site.offset]? with
  | some id => simp only [ShapeGraph.function, hfound]
  | none => simp [ShapeGraph.function, hfound, allocFunction, alloc]

/-- A parameter is found by its function and index. -/
theorem parameter_again (graph : ShapeGraph) (use : Parameter) :
    (graph.parameter use).2.parameter use = graph.parameter use := by
  cases hfound : graph.parameters[use]? with
  | some id => simp only [ShapeGraph.parameter, hfound]
  | none => simp [ShapeGraph.parameter, hfound, alloc]

/-- A constructible builtin is marked already, whether it was or has been made so. -/
theorem builtin_again (graph : ShapeGraph) (fullName : String) (constructible : Bool) :
    (graph.builtin fullName constructible).2.builtin fullName constructible =
      graph.builtin fullName constructible := by
  cases hfound : graph.builtins[fullName]? with
  | some id =>
    cases constructible with
    | false => simp [builtin, hfound]
    | true =>
      -- The builtin was known: marking it constructible twice is marking it once.
      have hmarked : (graph.modify id markConstructible).modify id markConstructible =
          graph.modify id markConstructible :=
        modify_modify fun shape => by cases shape <;> rfl
      have hindex : (graph.modify id markConstructible).builtins[fullName]? = some id := hfound
      simp [builtin, hfound, hindex, hmarked]
  | none =>
    cases constructible with
    | false => simp [builtin, hfound, alloc]
    | true =>
      -- The builtin is new and made constructible at once, so marking it changes nothing.
      have hmarked : (graph.builtin fullName true).2.modify (graph.builtin fullName true).1
          markConstructible = (graph.builtin fullName true).2 := by
        refine modify_eq_self fun shape hshape => ?_
        have hnew : shape = .builtin fullName ∅ true := by
          simpa [builtin, hfound, alloc, shape?, eq_comm] using hshape
        rw [hnew, markConstructible]
      have hindex : (graph.builtin fullName true).2.builtins[fullName]? =
          some (graph.builtin fullName true).1 := by
        simp [builtin, hfound]
      rw [builtin.eq_def (graph.builtin fullName true).2, hindex]
      simp only [if_true, hmarked]

/-- The instance of a builtin is found by the builtin. -/
theorem instanceOf_of_constructed {constructor : ShapeId} {fullName : String}
    {properties : Properties}
    (hconstructor : graph.shape? constructor = some (.builtin fullName properties true))
    (hfound : graph.constructed[constructor.index]? = some id) :
    graph.instanceOf constructor = .ok (some id, graph) := by
  rw [instanceOf, shape_eq_ok.2 hconstructor]
  simp only [bind, Except.bind, hfound]
  rfl

/-- An instance is answered again as it was: it is there, or there can be none. -/
theorem instanceOf_again {constructor : ShapeId} {constructed : Option ShapeId}
    (h : graph.instanceOf constructor = .ok (constructed, graph')) :
    graph'.instanceOf constructor = .ok (constructed, graph') := by
  have hfirst := h
  obtain ⟨shape, hshape, h⟩ := bind_eq_ok.1 h
  split at h
  · cases h
    exact hfirst
  · split at h
    · cases h
      exact hfirst
    · -- The index leads to the new instance.
      cases h
      exact instanceOf_of_constructed (shape?_alloc_of_some (shape_eq_ok.1 hshape)) (by simp)
  · cases h
    exact hfirst

/-- A use is found where it was put. -/
theorem parameters_parameter (graph : ShapeGraph) (use : Parameter) :
    (graph.parameter use).2.parameters[use]? = some (graph.parameter use).1 := by
  unfold ShapeGraph.parameter
  split
  · assumption
  · simp

/-- A new parameter leaves the shapes that are there alone. -/
theorem shape?_parameter_of_some (use : Parameter) {shape : Shape}
    (h : graph.shape? id = some shape) : (graph.parameter use).2.shape? id = some shape := by
  unfold ShapeGraph.parameter
  split
  · exact h
  · exact shape?_alloc_of_some h

/-- The use of a parameter makes the parameter, if it is new, and notes it in the function. -/
theorem useParam_of_function {function : ShapeId} {fn : FunctionShape} (index : Nat)
    (hfn : graph.shape? function = some (.function fn)) :
    graph.useParam function index =
      .ok (some (graph.parameter ⟨function, index⟩).1,
        (graph.parameter ⟨function, index⟩).2.modify function
          (Shape.useParam index (graph.parameter ⟨function, index⟩).1)) := by
  rw [ShapeGraph.useParam, shape_eq_ok.2 hfn]
  rfl

/-- The use of a parameter is answered again as it was. -/
theorem useParam_again {function : ShapeId} {index : Nat} {used : Option ShapeId}
    (h : graph.useParam function index = .ok (used, graph')) :
    graph'.useParam function index = .ok (used, graph') := by
  have hfirst := h
  obtain ⟨shape, hshape, h⟩ := bind_eq_ok.1 h
  rw [shape_eq_ok] at hshape
  split at h
  · next fn =>
    rw [useParam_of_function index hshape] at hfirst
    obtain ⟨rfl, rfl⟩ := Prod.mk.inj (Except.ok.inj hfirst)
    have hfn := shape?_parameter_of_some ⟨function, index⟩ hshape
    have hindex := parameters_parameter graph ⟨function, index⟩
    -- From here on only what the first use leaves is needed: the index of the parameter and the
    -- function.
    generalize graph.parameter ⟨function, index⟩ = found at hfn hindex
    obtain ⟨id, graph₁⟩ := found
    have hfn' : (graph₁.modify function (Shape.useParam index id)).shape? function =
        some (.function { fn with usedParams := recordParam index id fn.usedParams }) := by
      rw [shape?_modify, if_pos rfl, hfn]
      rfl
    have hfound : (graph₁.modify function (Shape.useParam index id)).parameter ⟨function, index⟩ =
        (id, graph₁.modify function (Shape.useParam index id)) := by
      rw [ShapeGraph.parameter, modify, hindex]
    rw [useParam_of_function index hfn', hfound, modify_modify (Shape.useParam_useParam index id)]
  · cases h
    exact hfirst

/-! ### Accessors -/

/-- An accessor is bound where its owner can hold it, after its function has been marked. -/
theorem addAccessor_of_known {kind : AccessorKind} {owner function : ShapeId} {name : String}
    {shape fn : Shape} (howner : graph.shape? owner = some shape)
    (hfunction : graph.shape? function = some fn) :
    graph.addAccessor kind owner name function =
      .ok (shape.holdsAccessors, (graph.modify function (Shape.markAccessor kind)).modify owner
        (Shape.setAccessor kind name function)) := by
  rw [addAccessor, shape_eq_ok.2 howner, shape_eq_ok.2 hfunction]
  show (if shape.holdsAccessors then _ else _) = _
  cases hholds : shape.holdsAccessors with
  | true => rfl
  | false =>
    -- A shape without accessors stays as it is.
    have hrefused : (graph.modify function (Shape.markAccessor kind)).modify owner
        (Shape.setAccessor kind name function) =
          graph.modify function (Shape.markAccessor kind) := by
      refine modify_eq_self fun other hother => ?_
      rw [shape?_modify, howner] at hother
      split at hother <;> cases hother <;> cases shape <;> first | rfl | cases hholds
    rw [hrefused]
    rfl

/-- An accessor is bound again to what it is bound to, or refused again. -/
theorem addAccessor_again {kind : AccessorKind} {owner function : ShapeId} {name : String}
    {added : Bool} (h : graph.addAccessor kind owner name function = .ok (added, graph')) :
    graph'.addAccessor kind owner name function = .ok (added, graph') := by
  obtain ⟨_, hfunction, hrest⟩ := bind_eq_ok.1 h
  obtain ⟨fn, hfn, _⟩ := bind_eq_ok.1 hfunction
  obtain ⟨shape, howner, _⟩ := bind_eq_ok.1 hrest
  rw [shape_eq_ok] at hfn howner
  rw [addAccessor_of_known howner hfn] at h
  obtain ⟨rfl, rfl⟩ := Prod.mk.inj (Except.ok.inj h)
  generalize hgraph : (graph.modify function (Shape.markAccessor kind)).modify owner
    (Shape.setAccessor kind name function) = graph'
  -- Whether the owner is the function or not, it is bound and the function is marked.
  obtain ⟨former, howner', hholds⟩ : ∃ former : Shape,
      graph'.shape? owner = some (former.setAccessor kind name function) ∧
        (former.setAccessor kind name function).holdsAccessors = shape.holdsAccessors := by
    rw [← hgraph, shape?_modify, if_pos rfl, shape?_modify, howner]
    split
    · exact ⟨shape.markAccessor kind, rfl, by cases shape <;> rfl⟩
    · exact ⟨shape, rfl, by cases shape <;> rfl⟩
  obtain ⟨fn', hfn', hmarked⟩ : ∃ fn' : Shape,
      graph'.shape? function = some fn' ∧ fn'.markAccessor kind = fn' := by
    rw [← hgraph, shape?_modify, shape?_modify, if_pos rfl, hfn]
    split
    · exact ⟨_, rfl, Shape.markAccessor_setAccessor kind name function fn⟩
    · exact ⟨_, rfl, by cases fn <;> rfl⟩
  have hfunction : graph'.modify function (Shape.markAccessor kind) = graph' := by
    refine modify_eq_self fun other hother => ?_
    rw [Option.some.inj (hother.symm.trans hfn'), hmarked]
  have hbound : graph'.modify owner (Shape.setAccessor kind name function) = graph' := by
    refine modify_eq_self fun other hother => ?_
    rw [Option.some.inj (hother.symm.trans howner'), Shape.setAccessor_setAccessor]
  rw [addAccessor_of_known howner' hfn', hholds, hfunction, hbound]

/-! ### Slots -/

/-- What is put in a slot covers the value from then on. -/
theorem addProperty_again {owner value : ShapeId} {name : String} {added : Bool}
    (hvalue : (graph.shape? value).isSome)
    (h : graph.addProperty owner name value = .ok (added, graph')) :
    graph'.addProperty owner name value = .ok (added, graph') := by
  obtain ⟨shape, hshape,
    ⟨_, rfl, rfl⟩ | ⟨properties, held, graph₁, hproperties, hfill, rfl, hgraph⟩⟩ :=
    addProperty_eq_ok h
  · exact h
  · -- The owner has the slot filled, and it has degraded if it does so under the name.
    have hshape' := shape?_fill_of_some hfill hshape
    have hwritten : graph'.shape? owner =
        some ((if shape.degradesUnder name then shape.degrade else shape).modifyProperties
          (·.insert (shape.slotName name) held)) := by
      rw [hgraph, shape?_modify, if_pos rfl, hshape', Option.map_some]
    have hproperties' := Shape.properties?_property (shape.degradesUnder name)
      (shape.slotName name) held shape
    rw [hproperties, Option.map_some] at hproperties'
    have hcovers : graph'.Covers held value :=
      (covers_fill hfill).congr fun id members => hgraph ▸ shape?_property_eq_union
    have hvalue' : (graph'.shape? value).isSome := by
      obtain ⟨former, hformer⟩ := Option.isSome_iff_exists.1 hvalue
      rw [hgraph, shape?_modify, shape?_fill_of_some hfill hformer]
      split <;> rfl
    rw [addProperty_of_some hwritten hproperties', Shape.slotName_property, Properties.get?_insert,
      if_pos rfl, fill, widen_of_covers hcovers hvalue', Shape.degradesUnder_property]
    refine congrArg (fun rest => Except.ok (true, rest)) (modify_eq_self fun other hother => ?_)
    obtain rfl := Option.some.inj (hwritten.symm.trans hother)
    refine Shape.modifyProperties_eq_self fun bound hbound => ?_
    rw [← Option.some.inj (hproperties'.symm.trans hbound), Properties.insert_insert]

/-- A property of what a function constructs is observed again as one of any shape is. -/
theorem addInstanceProperty_again (h : graph.Recorded) {function value : ShapeId} {name : String}
    {added : Bool} (hvalue : (graph.shape? value).isSome)
    (hadd : graph.addInstanceProperty function name value = .ok (added, graph')) :
    graph'.addInstanceProperty function name value = .ok (added, graph') := by
  have hfirst := hadd
  obtain ⟨shape, hshape, hadd⟩ := bind_eq_ok.1 hadd
  rw [shape_eq_ok] at hshape
  split at hadd
  · next fn =>
    -- The function constructs the same shape as before.
    obtain ⟨shape', hshape', hretains, _⟩ :=
      (h.remembers (.single (.addProperty hvalue hadd))).shape hshape
    have hconstructs := Shape.constructs?_of_identity hretains.identity
    cases shape' with
    | function fn' =>
      have hsame : fn'.constructs = fn.constructs := Option.some.inj hconstructs
      rw [ShapeGraph.addInstanceProperty, shape_eq_ok.2 hshape']
      simp only [bind, Except.bind, hsame]
      exact addProperty_again hvalue hadd
    | _ => cases hconstructs
  · cases hadd
    exact hfirst

/-! ### Returns -/

/-- Members that are there are not added. -/
theorem foldl_addMember_of_subset {members ids : List ShapeId} (h : ids ⊆ members) :
    ids.foldl addMember members = members := by
  induction ids with
  | nil => rfl
  | cons id ids ih =>
    obtain ⟨hmem, hrest⟩ := List.cons_subset.1 h
    rw [List.foldl_cons, addMember, if_pos (List.contains_iff_mem.2 hmem), ih hrest]

/-- A union that a function returns has what was returned among its members from then on. -/
theorem observeReturn_again (h : graph.Registered) {function value : ShapeId} {added : Bool}
    (hreturn : graph.observeReturn function value = .ok (added, graph')) :
    graph'.observeReturn function value = .ok (added, graph') := by
  cases added with
  | false =>
    obtain rfl := observeReturn_refused hreturn
    exact hreturn
  | true =>
    obtain ⟨hvalue, fn, members, ids, hfn, hunion, hids, hgraph⟩ := observeReturn_eq_ok h hreturn
    obtain ⟨hknown, rfl⟩ := flatten_eq_ok_iff.1 hids
    generalize hmembers : (graph.contribution value).foldl addMember members = members' at hgraph
    have hshape (id : ShapeId) : graph'.shape? id = if fn.returns = id then
        (graph.shape? id).map (Shape.setMembers members') else graph.shape? id := by
      rw [hgraph, shape?_modify]
    have hfn' : graph'.shape? function = some (.function fn) := by
      rw [hshape, hfn]
      split <;> rfl
    have hunion' : graph'.shape? fn.returns = some (.union members') := by
      rw [hshape, if_pos rfl, hunion]
      rfl
    have hknown' : (graph'.shape? value).isSome := by
      rw [hshape]
      split
      · rw [Option.isSome_map, hknown]
      · exact hknown
    -- The value may be the union itself, which has grown.
    have hsubset : graph'.contribution value ⊆ members' := by
      by_cases heq : fn.returns = value
      · rw [← heq, contribution, hunion']
        exact List.Subset.refl _
      · have hsame : graph'.contribution value = graph.contribution value :=
          contribution_congr fun _ => by rw [hshape, if_neg heq]
        rw [hsame, ← hmembers]
        exact fun member hmem => mem_foldl_addMember.2 (.inr hmem)
    rw [observeReturn_of_function hvalue hfn' hunion' hknown', foldl_addMember_of_subset hsubset]
    refine congrArg (fun rest => Except.ok (true, rest)) (modify_eq_self fun other hother => ?_)
    rw [← Option.some.inj (hunion'.symm.trans hother), Shape.setMembers]

/-! ### All operations -/

/-- What is done without a fault and changes nothing the second time is answered again as it was. -/
theorem reply_again {wrap : α → Answer} (act : ShapeGraph → α × ShapeGraph)
    (hagain : act (act graph).2 = act graph)
    (h : reply wrap (.ok (act graph)) = .ok (answer, graph')) :
    reply wrap (.ok (act graph')) = .ok (answer, graph') := by
  obtain ⟨value, hact, rfl⟩ := reply_eq_ok.1 h
  rw [Except.ok.inj hact] at hagain
  exact reply_eq_ok.2 ⟨value, congrArg Except.ok hagain, rfl⟩

/-- Each repeatable operation finds what it has done. -/
theorem perform_repeats (h : graph.Recorded) (hrepeatable : operation.isRepeatable = true)
    (hknown : operation.Known graph) (hperform : graph.perform operation = .ok (answer, graph')) :
    graph'.perform operation = .ok (answer, graph') := by
  cases operation with
  | object site =>
    obtain ⟨site, rfl⟩ := Option.isSome_iff_exists.1 hrepeatable
    exact reply_again (·.object (some site)) (object_again graph site) hperform
  | array site =>
    obtain ⟨site, rfl⟩ := Option.isSome_iff_exists.1 hrepeatable
    exact reply_again (·.array (some site)) (array_again graph site) hperform
  | «function» site =>
    obtain ⟨site, rfl⟩ := Option.isSome_iff_exists.1 hrepeatable
    exact reply_again (·.function (some site)) (function_again graph site) hperform
  | builtin fullName constructible =>
    exact reply_again (·.builtin fullName constructible)
      (builtin_again graph fullName constructible) hperform
  | «parameter» use => exact reply_again (·.parameter use) (parameter_again graph use) hperform
  | union ids => exact nomatch hrepeatable
  | instanceOf constructor =>
    obtain ⟨constructed, hinstance, rfl⟩ := reply_eq_ok.1 hperform
    exact reply_eq_ok.2 ⟨constructed, instanceOf_again hinstance, rfl⟩
  | addProperty owner name value =>
    obtain ⟨added, hadd, rfl⟩ := reply_eq_ok.1 hperform
    exact reply_eq_ok.2 ⟨added, addProperty_again (hknown value (by simp)) hadd, rfl⟩
  | addGetter owner name function | addSetter owner name function =>
    obtain ⟨added, hadd, rfl⟩ := reply_eq_ok.1 hperform
    exact reply_eq_ok.2 ⟨added, addAccessor_again hadd, rfl⟩
  | addInstanceProperty function name value =>
    obtain ⟨added, hadd, rfl⟩ := reply_eq_ok.1 hperform
    exact reply_eq_ok.2 ⟨added, addInstanceProperty_again h (hknown value (by simp)) hadd, rfl⟩
  | observeReturn function value =>
    obtain ⟨added, hreturn, rfl⟩ := reply_eq_ok.1 hperform
    exact reply_eq_ok.2 ⟨added, observeReturn_again h.registered hreturn, rfl⟩
  | useParam function index =>
    obtain ⟨used, huse, rfl⟩ := reply_eq_ok.1 hperform
    exact reply_eq_ok.2 ⟨used, useParam_again huse, rfl⟩

/-- An operation that is performed again right away has the same answer, and it leaves the graph
    exactly as it was after the first time. -/
theorem perform_again (h : graph.Recorded) (hrepeatable : operation.isRepeatable = true)
    (hknown : operation.Known graph) :
    ∃ answer graph', graph.perform operation = .ok (answer, graph') ∧
      graph'.perform operation = .ok (answer, graph') := by
  obtain ⟨answer, graph', hperform⟩ := perform_ok h hknown
  exact ⟨answer, graph', hperform, perform_repeats h hrepeatable hknown hperform⟩

/-- The property `v` of an object holds what a function returns, which is nothing yet, and a number
    is put there. The union of both is made once. -/
theorem perform_again_returns :
    let add := Operation.addProperty ⟨7⟩ "v" (primitive .number)
    ∃ (graph graph' : ShapeGraph) (fn : FunctionShape) (shape : Shape), graph.Recorded ∧
      graph.shape? ⟨8⟩ = some (.function fn) ∧ graph.shape? fn.returns = some (.union []) ∧
      graph.shape? ⟨7⟩ = some shape ∧ shape.slot? "v" = some fn.returns ∧
      graph.perform add = .ok (.accepted true, graph') ∧ graph'.size = graph.size + 1 ∧
      graph'.perform add = .ok (.accepted true, graph') := by
  intro add
  have hreturns : ((empty.object none).2.function none).2.addProperty ⟨7⟩ "v" ⟨10⟩ =
    .ok (true, _) := rfl
  have hgraph : Recorded _ := .addProperty (.function none (.object none .empty)) rfl hreturns
  obtain ⟨answer, graph', hfirst, hagain⟩ := @perform_again _ add hgraph rfl
    (List.forall_mem_cons.2 ⟨rfl, List.forall_mem_singleton.2 rfl⟩)
  obtain ⟨rfl, rfl⟩ := Prod.mk.inj (Except.ok.inj (hfirst.symm.trans rfl))
  exact ⟨_, _, _, _, hgraph, rfl, rfl, rfl, rfl, hfirst, rfl, hagain⟩

end ShapeGraph

end Semblance
