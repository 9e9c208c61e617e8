import Semblance.Proofs.Generate.Stepwise
import Semblance.Proofs.Generate.Termination
import Semblance.Proofs.Shape.Agreement

/-!
# Generations that agree

Two generations agree if they give the same answers and leave the same builders, unless the first
one ends in a fault that is excused. The second one may look at another graph that agrees with the
first on what is reached, it may be granted more levels, and it may have another hint for the name
of the global scope. A generation that runs out of levels then ends in `unfinished`, and one that
asks for a name without a hint ends in `invalidName`; up to these faults, both do the same.

Each rule agrees with itself in graphs that agree, provided that its visits do. It asks for shapes
only that the shape of the rule refers to, so the visits need to agree for the shapes that are
reached and for no others.

## Key results

- `AgreesUnless.bind`, `AgreesUnless.forM`, `AgreesUnless.mapM`, `AgreesUnless.foldlM`: generations
  made from others
- `Alike.rule`: a rule agrees with itself if its visits do
- `Comparable.nodeWithin`, `Comparable.assignGlobal`: so do requests for shapes and assignments
-/

namespace Semblance.Gen

/-- Two generations do the same from every builder, unless the first ends in a fault that is
    excused. -/
def AgreesUnless (excused : Fault → Prop) (gen gen' : Gen α) : Prop :=
  ∀ builder, (∃ fault, excused fault ∧ (gen builder).1 = .error fault) ∨ gen' builder = gen builder

variable {excused : Fault → Prop}

namespace AgreesUnless

theorem rfl {gen : Gen α} : AgreesUnless excused gen gen :=
  fun _ => .inr (Eq.refl _)

/-- Generations in two parts agree if the first parts do, and the second ones for all results. -/
theorem bind {gen gen' : Gen α} {next next' : α → Gen β} (h : AgreesUnless excused gen gen')
    (hnext : ∀ result, AgreesUnless excused (next result) (next' result)) :
    AgreesUnless excused (gen >>= next) (gen' >>= next') := by
  intro builder
  obtain ⟨answer, builder', hgen⟩ : ∃ answer builder', gen builder = (answer, builder') :=
    ⟨_, _, Eq.refl _⟩
  rcases h builder with ⟨fault, hfault, herror⟩ | hsame
  · -- The fault ends the first generation.
    rw [hgen] at herror
    obtain rfl : answer = .error fault := herror
    exact .inl ⟨fault, hfault, congrArg Prod.fst (run_bind_error hgen)⟩
  · rw [hgen] at hsame
    cases answer with
    | error fault => exact .inr ((run_bind_error hsame).trans (run_bind_error hgen).symm)
    | ok result =>
      rw [run_bind hgen, run_bind hsame]
      exact hnext result builder'

/-- Both generations begin in the same way. -/
theorem andThen (gen : Gen α) {next next' : α → Gen β}
    (hnext : ∀ result, AgreesUnless excused (next result) (next' result)) :
    AgreesUnless excused (gen >>= next) (gen >>= next') :=
  .bind .rfl hnext

/-- Both generations go on in the same way. -/
theorem before {gen gen' : Gen α} (h : AgreesUnless excused gen gen') (next : α → Gen β) :
    AgreesUnless excused (gen >>= next) (gen' >>= next) :=
  h.bind fun _ => .rfl

/-- Generations that branch on one condition agree if both branches do. -/
theorem ite {condition : Prop} [Decidable condition] {gen gen' other other' : Gen α}
    (h : AgreesUnless excused gen gen') (hother : AgreesUnless excused other other') :
    AgreesUnless excused (if condition then gen else other)
      (if condition then gen' else other') := by
  split
  · exact h
  · exact hother

/-- A generation that is only there if a condition holds. -/
theorem when {condition : Prop} [Decidable condition] {gen gen' : Gen PUnit}
    {next next' : PUnit → Gen α} (h : AgreesUnless excused gen gen')
    (hnext : ∀ result, AgreesUnless excused (next result) (next' result)) :
    AgreesUnless excused (if condition then gen >>= next else next ⟨⟩)
      (if condition then gen' >>= next' else next' ⟨⟩) :=
  .ite (h.bind hnext) (hnext ⟨⟩)

/-- Noting the answer to a request is part of both. -/
theorem logged (shape : ShapeId) {gen gen' : Gen NodeId} (h : AgreesUnless excused gen gen') :
    AgreesUnless excused (logged shape gen) (logged shape gen') := by
  intro builder
  rcases h builder with hfault | hsame
  · exact .inl hfault
  · rw [Gen.logged, Gen.logged, hsame]
    exact .inr (Eq.refl _)

/-- Loops agree if their bodies do for all items. -/
theorem forM {items : List α} {action action' : α → Gen PUnit}
    (h : ∀ item ∈ items, AgreesUnless excused (action item) (action' item)) :
    AgreesUnless excused (items.forM action) (items.forM action') := by
  induction items with
  | nil => exact .rfl
  | cons item items ih =>
    exact (h item List.mem_cons_self).bind fun _ =>
      ih fun item hmem => h item (List.mem_cons_of_mem _ hmem)

/-- The same is done for all bindings of a property map. -/
theorem forM_bindings {action action' : String × ShapeId → Gen PUnit} {properties : Properties}
    {region : ShapeId → Prop} (hrefs : ∀ ref ∈ properties.refs, region ref)
    (h : ∀ {binding : String × ShapeId}, region binding.2 →
      AgreesUnless excused (action binding) (action' binding)) :
    AgreesUnless excused (properties.toList.forM action) (properties.toList.forM action') :=
  .forM fun _ hmem => h (hrefs _ (List.mem_map_of_mem hmem))

/-- Loops that collect results agree if their bodies do for all items. -/
theorem mapM {items : List α} {action action' : α → Gen β}
    (h : ∀ item ∈ items, AgreesUnless excused (action item) (action' item)) :
    AgreesUnless excused (items.mapM action) (items.mapM action') := by
  induction items with
  | nil => exact .rfl
  | cons item items ih =>
    rw [List.mapM_cons, List.mapM_cons]
    exact (h item List.mem_cons_self).bind fun _ =>
      (ih fun item hmem => h item (List.mem_cons_of_mem _ hmem)).before _

/-- Loops that hand on a state agree if their bodies do for all states and items. -/
theorem foldlM {items : List α} {step step' : β → α → Gen β}
    (h : ∀ item ∈ items, ∀ state, AgreesUnless excused (step state item) (step' state item))
    (state : β) : AgreesUnless excused (items.foldlM step state) (items.foldlM step' state) := by
  induction items generalizing state with
  | nil => exact .rfl
  | cons item items ih =>
    rw [List.foldlM_cons, List.foldlM_cons]
    exact (h item List.mem_cons_self state).bind fun state =>
      ih (fun item hmem => h item (List.mem_cons_of_mem _ hmem)) state

end AgreesUnless

/-! ### Rules -/

/-- What two uses of the rules have in common: they look at graphs that agree, they leave out the
    same assignments, and they refer to the global scope in the same way. -/
structure Comparable (excused : Fault → Prop) (settings settings' : Settings)
    (graph graph' : ShapeGraph) : Prop where
  graphs : graph.Agrees graph'
  suppressEmptyPrototype : settings.suppressEmptyPrototype = settings'.suppressEmptyPrototype
  global : AgreesUnless excused (global settings) (global settings')

/-- What they ask for is the same as well, if it is reached. -/
structure Alike (excused : Fault → Prop) (settings settings' : Settings)
    (graph graph' : ShapeGraph) (visit visit' : Visit) : Prop
    extends Comparable excused settings settings' graph graph' where
  visit : ∀ {id}, graph.Reached id → AgreesUnless excused (visit id) (visit' id)

variable {settings settings' : Settings} {graph graph' : ShapeGraph} {visit visit' : Visit}
  {id : ShapeId}

namespace Alike

variable (h : Alike excused settings settings' graph graph' visit visit')
include h

/-- The value of an entry is the only request. -/
theorem addEntry (object : NodeId) (kind : EntryKind) {binding : String × ShapeId}
    (hbinding : graph.Reached binding.2) :
    AgreesUnless excused (addEntry visit object kind binding)
      (addEntry visit' object kind binding) :=
  (h.visit hbinding).before _

/-- Entries that are the same are asked for in the same order. -/
theorem object {entries entries' : Aggregate} (hid : graph.Reached id)
    (hentries : entries.Same entries') (hrefs : ∀ ref ∈ entries.refs, graph.Reached ref) :
    AgreesUnless excused (object graph visit id entries) (object graph' visit' id entries') := by
  unfold Gen.object
  rw [← h.graphs.label_eq hid, ← hentries.properties, ← hentries.getters, ← hentries.setters]
  simp only [Aggregate.refs, List.mem_append] at hrefs
  refine .andThen _ fun label => .andThen _ fun node => .andThen _ fun _ => ?_
  refine .bind (.forM_bindings (fun ref hmem => ?_) (h.addEntry node .value)) fun _ => ?_
  · exact hrefs ref (.inl (.inl hmem))
  refine .bind (.forM_bindings (fun ref hmem => ?_) (h.addEntry node .getter)) fun _ => ?_
  · exact hrefs ref (.inl (.inr hmem))
  refine .before (.forM_bindings (fun ref hmem => ?_) (h.addEntry node .setter)) _
  exact hrefs ref (.inr hmem)

/-- The elements are asked for by themselves, so that they are given as one list. -/
theorem denseArray {elements : List (Nat × ShapeId)} (hid : graph.Reached id)
    (helements : ∀ element ∈ elements, graph.Reached element.2) :
    AgreesUnless excused (denseArray graph visit id elements)
      (denseArray graph' visit' id elements) := by
  unfold Gen.denseArray
  rw [← h.graphs.label_eq hid]
  refine .andThen _ fun label => .andThen _ fun node => .andThen _ fun _ => ?_
  exact .before (.foldlM (fun element hmem slots =>
    (h.visit (helements element hmem)).before _) _) _

/-- Whether an array is written as elements depends on its entries, which are the same. -/
theorem array {entries entries' : Aggregate} (hid : graph.Reached id)
    (hentries : entries.Same entries') (hrefs : ∀ ref ∈ entries.refs, graph.Reached ref)
    (degraded : Bool) :
    AgreesUnless excused (array graph visit id entries degraded)
      (array graph' visit' id entries' degraded) := by
  unfold Gen.array
  rw [← hentries.elements?_eq]
  refine .ite (h.object hid hentries hrefs) ?_
  split
  · next elements helements =>
    refine h.denseArray hid fun element hmem => hrefs _ ?_
    simp only [Aggregate.refs, List.mem_append]
    exact .inl (.inl (mem_refs_of_elements? helements hmem))
  · exact h.object hid hentries hrefs

/-- The members of a union are requests, and the rest is done on their nodes. -/
theorem union {members : List ShapeId} (hmembers : ∀ member ∈ members, graph.Reached member) :
    AgreesUnless excused (union visit id members) (union visit' id members) := by
  match members with
  | [] => exact .rfl
  | [only] => exact h.visit (hmembers only List.mem_cons_self)
  | first :: second :: rest =>
    refine .bind (h.visit (hmembers first List.mem_cons_self)) fun head => ?_
    refine .bind (.mapM fun member hmem => ?_) fun operands => .rfl
    exact h.visit (hmembers member (List.mem_cons_of_mem _ hmem))

/-- The placeholder of the parameter is the only request. -/
theorem copyParam (body : NodeId) {used : Nat × ShapeId} (hused : graph.Reached used.2) :
    AgreesUnless excused (copyParam visit id body used) (copyParam visit' id body used) :=
  (h.visit hused).before _

/-- Whether a property is left out depends on whether it is an empty object, which is asked of a
    shape that is reached. -/
theorem writeStatic (node : NodeId) {binding : String × ShapeId}
    (hbinding : graph.Reached binding.2) :
    AgreesUnless excused (writeStatic settings graph visit node binding)
      (writeStatic settings' graph' visit' node binding) := by
  unfold Gen.writeStatic
  rw [← h.suppressEmptyPrototype, ← h.graphs.isEmptyObject_eq hbinding]
  exact .ite .rfl ((h.visit hbinding).before _)

/-- The value of the property is the only request. -/
theorem writeToReceiver (body : NodeId) {binding : String × ShapeId}
    (hbinding : graph.Reached binding.2) :
    AgreesUnless excused (writeToReceiver visit id body binding)
      (writeToReceiver visit' id body binding) :=
  (h.visit hbinding).before _

/-- The parts of a body are the same, and all their shapes are reached. -/
theorem fillFunction {fn fn' : FunctionShape} (hfn : fn.Same fn')
    (hrefs : ∀ ref ∈ (Shape.function fn).refs, graph.Reached ref)
    (hinstance : ∀ ref ∈ (instanceProperties graph fn).refs, graph.Reached ref)
    (node body : NodeId) :
    AgreesUnless excused (fillFunction settings graph visit id fn node body)
      (fillFunction settings' graph' visit' id fn' node body) := by
  simp only [Shape.refs, List.mem_append] at hrefs
  have hconstructs := hrefs fn.constructs (.inr (by simp))
  have hreturns := hrefs fn.returns (.inr (by simp))
  unfold Gen.fillFunction
  rw [← hfn.accessor, ← hfn.usedParams, ← hfn.properties, ← hfn.returns,
    ← h.graphs.instanceProperties_eq hfn hconstructs, ← h.graphs.isAbsent_eq hreturns]
  refine .when (.forM fun used hmem => h.copyParam body ?_) fun _ => ?_
  · exact hrefs _ (.inl (.inl (List.mem_map_of_mem hmem)))
  refine .bind (.forM_bindings (fun ref hmem => ?_) (h.writeStatic node)) fun _ => ?_
  · exact hrefs ref (.inl (.inr hmem))
  refine .bind (.forM_bindings hinstance (h.writeToReceiver body)) fun _ => ?_
  exact .andThen _ fun absent => .ite .rfl ((h.visit hreturns).before _)

/-- A function has the same parameters, and its body is filled in the same way. -/
theorem function {fn fn' : FunctionShape} (hid : graph.Reached id) (hfn : fn.Same fn')
    (hrefs : ∀ ref ∈ (Shape.function fn).refs, graph.Reached ref)
    (hinstance : ∀ ref ∈ (instanceProperties graph fn).refs, graph.Reached ref) :
    AgreesUnless excused (function settings graph visit id fn)
      (function settings' graph' visit' id fn') := by
  unfold Gen.function
  rw [← h.graphs.label_eq hid, ← hfn.formals_eq]
  refine .andThen _ fun label => .andThen _ fun body => .andThen _ fun node => ?_
  refine .andThen _ fun _ => ?_
  exact (h.fillFunction hfn hrefs hinstance node body).before _

/-- The constructor is the only request, and it has one node in both. -/
theorem instanceOf {constructor : ShapeId} (hconstructor : graph.Reached constructor) :
    AgreesUnless excused (instanceOf graph visit constructor)
      (instanceOf graph' visit' constructor) := by
  unfold Gen.instanceOf
  rw [← h.graphs.instanceHint_eq hconstructor]
  refine .andThen _ fun builder => ?_
  split
  · exact .rfl
  · exact (h.visit hconstructor).before _

/-- The name of what is added and the request for its value are the same. -/
theorem patch (fullName : String) {binding : String × ShapeId}
    (hbinding : graph.Reached binding.2) :
    AgreesUnless excused (patch graph visit fullName binding)
      (patch graph' visit' fullName binding) := by
  unfold Gen.patch
  rw [← h.graphs.isOwnMember_eq hbinding]
  exact (h.visit hbinding).before _

/-- The properties that are written for a builtin are the same. -/
theorem builtin {properties properties' : Properties}
    (hproperties : properties.toList = properties'.toList)
    (hrefs : ∀ ref ∈ properties.refs, graph.Reached ref) (fullName : String) :
    AgreesUnless excused (builtin graph visit id fullName properties)
      (builtin graph' visit' id fullName properties') := by
  unfold Gen.builtin
  rw [← hproperties]
  refine .andThen _ fun builder => .ite .rfl (.andThen _ fun _ => .before ?_ _)
  exact .forM_bindings hrefs (h.patch fullName)

/-- The hint for a placeholder looks at the function of the parameter, which is reached. -/
theorem parameter {use : Parameter} (huse : graph.Reached use.function) :
    AgreesUnless excused (parameter graph id use) (parameter graph' id use) := by
  rw [h.graphs.parameter_eq huse]
  exact .rfl

/-- A rule agrees with itself if its visits do. -/
theorem rule (hid : graph.Reached id) :
    AgreesUnless excused (rule settings graph visit id) (rule settings' graph' visit' id) := by
  obtain ⟨shape, shape', hshape, hshape', hsame⟩ := h.graphs id hid
  have hrefs : ∀ ref ∈ shape.refs, graph.Reached ref := fun _ => .ref hid hshape
  rw [rule_eq hshape, rule_eq hshape']
  cases hsame with
  | primitive kind => exact .rfl
  | object hentries => exact h.object hid hentries hrefs
  | array degraded hentries => exact h.array hid hentries hrefs degraded
  | @function fn _ hfn =>
    -- The properties of the instances are reached through the shape of the instances.
    have hconstructs : graph.Reached fn.constructs := hrefs _ (by simp [Shape.refs])
    refine h.function hid hfn hrefs fun ref hmem => ?_
    obtain ⟨shape, hshape, hmem⟩ := mem_refs_of_instanceProperties hmem
    exact .ref hconstructs hshape hmem
  | instanceOf constructor _ => exact h.instanceOf (hrefs _ List.mem_cons_self)
  | union members => exact h.union hrefs
  | builtin fullName _ hproperties => exact h.builtin hproperties hrefs fullName
  | global _ => exact h.global
  | parameter use => exact h.parameter (hrefs _ List.mem_cons_self)

end Alike

/-! ### Requests and assignments -/

namespace Comparable

variable (h : Comparable excused settings settings' graph graph')
include h

/-- A request for a shape agrees with one that is granted more levels, unless it runs out of
    them. -/
theorem nodeWithin {levels levels' : Nat}
    (hlevels : levels = levels' ∨ levels ≤ levels' ∧ excused .unfinished) :
    Alike excused settings settings' graph graph' (nodeWithin settings graph levels)
      (nodeWithin settings' graph' levels') := by
  refine ⟨h, ?_⟩
  induction levels generalizing levels' with
  | zero =>
    intro id _
    rcases hlevels with rfl | ⟨_, hunfinished⟩
    · exact .rfl
    · -- The first generation has run out of levels.
      exact fun builder => .inl ⟨.unfinished, hunfinished, Eq.refl _⟩
  | succ levels ih =>
    intro id hid
    obtain ⟨levels', rfl⟩ : ∃ fewer, levels' = fewer + 1 := ⟨levels' - 1, by omega⟩
    -- One level less is granted to the visits of either rule.
    have hvisits : Alike excused settings settings' graph graph'
        (Gen.nodeWithin settings graph levels) (Gen.nodeWithin settings' graph' levels') :=
      ⟨h, ih (hlevels.imp Nat.succ.inj (.imp_left Nat.le_of_succ_le_succ))⟩
    refine .logged id (.andThen _ fun known => ?_)
    split
    · exact .rfl
    · exact hvisits.rule hid

/-- The assignment of a global binding agrees if the second graph grants as many levels, or more of
    them where running out is excused. -/
theorem assignGlobal (hlevels : levels graph = levels graph' ∨
      levels graph ≤ levels graph' ∧ excused .unfinished) (hid : graph.Reached id) (name : String) :
    AgreesUnless excused (assignGlobal settings graph name id)
      (assignGlobal settings' graph' name id) := by
  refine .bind ((h.nodeWithin hlevels).visit hid) fun value => ?_
  dsimp only
  split
  · exact .rfl
  · exact h.global.before _

end Comparable

/-- A name cannot be made without a hint. -/
theorem freshName_empty (builder : Builder) :
    freshName "" builder = (.error (.invalidName ""), builder) := by
  have hnone : builder.names.fresh? "" = none := NameSupply.fresh?_eq_none_iff.2 (.inr rfl)
  rw [freshName, run_get_bind, hnone]
  rfl

/-- Without a hint there is no name for the global scope, so a generation that gets a reference to
    it would have got the same with a hint. -/
theorem agrees_global_of_empty (hname : settings.globalName = "") (settings' : Settings) :
    AgreesUnless (fun fault => ∃ hint, fault = .invalidName hint) (global settings)
      (global settings') := by
  refine .andThen _ fun builder => ?_
  split
  · exact .rfl
  · rw [hname]
    exact fun builder =>
      .inl ⟨_, ⟨_, rfl⟩, congrArg Prod.fst (run_bind_error (freshName_empty builder))⟩

end Semblance.Gen
