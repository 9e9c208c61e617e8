import Semblance.Proofs.Generate.Steps

/-!
# Every generation is a sequence of steps

Each rule of generation is a sequence of steps if its visits are, whether it ends in a fault or not.
So an invariant that the steps keep holds after every generation.

## Key results

- `stepwise_rule`: a rule is a sequence of steps if its visits are
- `stepwise_assignGlobal`: so is the assignment to a global binding
-/

namespace Semblance

namespace Gen

/-- A generation is a sequence of steps, whether it ends in a fault or not. -/
def Stepwise (settings : Settings) (graph : ShapeGraph) (gen : Gen α) (builder : Builder) : Prop :=
  Builder.Steps settings graph builder (gen builder).2

variable {settings : Settings} {graph : ShapeGraph} {builder : Builder} {gen : Gen α}

/-- The next generation goes on where the former one has ended. -/
theorem run_bind {next : α → Gen β} {result : α} {builder' : Builder}
    (h : gen builder = (.ok result, builder')) : (gen >>= next) builder = next result builder' := by
  show ExceptT.bindCont next (gen builder).1 (gen builder).2 = _
  rw [h]
  rfl

/-- A fault ends both parts. -/
theorem run_bind_error {next : α → Gen β} {fault : Fault} {builder' : Builder}
    (h : gen builder = (.error fault, builder')) :
    (gen >>= next) builder = (.error fault, builder') := by
  show ExceptT.bindCont next (gen builder).1 (gen builder).2 = _
  rw [h]
  rfl

/-- A generation in two parts that ends without a fault has a result in between. -/
theorem run_bind_eq_ok {next : α → Gen β} {result : β} {builder' : Builder}
    (h : (gen >>= next) builder = (.ok result, builder')) :
    ∃ middle builder₁, gen builder = (.ok middle, builder₁) ∧
      next middle builder₁ = (.ok result, builder') := by
  cases hgen : gen builder with
  | mk answer builder₁ =>
    cases answer with
    | error fault => exact nomatch congrArg Prod.fst ((run_bind_error hgen).symm.trans h)
    | ok middle => exact ⟨middle, builder₁, rfl, (run_bind hgen).symm.trans h⟩

/-- What looks at the builder first is run on that builder. -/
theorem run_get_bind {next : Builder → Gen α} : (get >>= next) builder = next builder builder :=
  rfl

/-- A result alone is given as it is. -/
theorem pure_eq_ok {answer result : α} {builder' : Builder}
    (h : (pure answer : Gen α) builder = (.ok result, builder')) :
    result = answer ∧ builder' = builder := by
  obtain ⟨hresult, rfl⟩ := Prod.mk.inj h
  exact ⟨(Except.ok.inj hresult).symm, rfl⟩

/-- A generation in two parts is a sequence of steps if both parts are. -/
theorem Stepwise.bind {next : α → Gen β} (h : Stepwise settings graph gen builder)
    (hnext : ∀ result builder', gen builder = (.ok result, builder') →
      Builder.Steps settings graph builder builder' →
      Stepwise settings graph (next result) builder') :
    Stepwise settings graph (gen >>= next) builder := by
  rw [Stepwise] at h ⊢
  obtain ⟨result, builder', hgen⟩ : ∃ result builder', gen builder = (result, builder') :=
    ⟨_, _, rfl⟩
  rw [hgen] at h
  cases result with
  | error fault =>
    rw [run_bind_error hgen]
    exact h
  | ok result =>
    rw [run_bind hgen]
    exact h.trans (hnext result builder' hgen h)

/-- The next generation is a sequence of steps from any builder. -/
theorem Stepwise.andThen {next : α → Gen β} (h : Stepwise settings graph gen builder)
    (hnext : ∀ result builder', Stepwise settings graph (next result) builder') :
    Stepwise settings graph (gen >>= next) builder :=
  h.bind fun result builder' _ _ => hnext result builder'

/-- A result alone takes no step. -/
theorem stepwise_pure (result : α) : Stepwise settings graph (pure result) builder :=
  .refl

/-- Looking at the builder takes no step. -/
theorem stepwise_get : Stepwise settings graph get builder :=
  .refl

/-- A generation that looks at the builder first. -/
theorem Stepwise.ofState {next : Builder → Gen α} (h : Stepwise settings graph (next builder) builder) :
    Stepwise settings graph (get >>= next) builder :=
  h

/-- A fault alone takes no step. -/
theorem stepwise_throw (fault : Fault) : Stepwise settings graph (throw fault : Gen α) builder :=
  .refl

/-- A change of the builder that is a step takes one. -/
theorem stepwise_modify {change : Builder → Builder}
    (h : builder.Step settings graph (change builder)) :
    Stepwise settings graph (modify change) builder :=
  .single h

/-- Work on the arena that is a step takes one. -/
theorem stepwise_onArena {build : StateM Arena α}
    (h : builder.Step settings graph { builder with arena := (build builder.arena).2 }) :
    Stepwise settings graph (onArena build) builder :=
  .single h

/-- A checked access takes no step, whether the id is known or not. -/
theorem stepwise_checked (access : Except OutOfRange α) :
    Stepwise settings graph (checked access) builder := by
  unfold checked
  split
  · exact stepwise_pure _
  · exact stepwise_throw _

/-- A checked access that ends without a fault gives what is there. -/
theorem checked_eq_ok {access : Except OutOfRange α} {result : α} {builder' : Builder}
    (h : checked access builder = (.ok result, builder')) :
    access = .ok result ∧ builder' = builder := by
  cases access with
  | error failed => exact nomatch congrArg Prod.fst h
  | ok value =>
    obtain ⟨hresult, rfl⟩ := Prod.mk.inj h
    exact ⟨congrArg Except.ok (Except.ok.inj hresult), rfl⟩

/-- Looking up what is remembered takes no step. -/
theorem stepwise_known? (shape : ShapeId) : Stepwise settings graph (known? shape) builder :=
  stepwise_get.andThen fun _ _ => stepwise_pure _

/-- What is looked up is what is remembered. -/
theorem known?_eq_ok {shape : ShapeId} {result : Option NodeId} {builder' : Builder}
    (h : known? shape builder = (.ok result, builder')) :
    result = builder.nodes[shape.index]? ∧ builder' = builder := by
  obtain ⟨hresult, rfl⟩ := Prod.mk.inj h
  exact ⟨(Except.ok.inj hresult).symm, rfl⟩

/-- Work on the arena ends without a fault, and it changes only the arena. -/
theorem onArena_eq_ok {build : StateM Arena α} {result : α} {builder' : Builder}
    (h : onArena build builder = (.ok result, builder')) :
    result = (build builder.arena).1 ∧
      builder' = { builder with arena := (build builder.arena).2 } := by
  obtain ⟨hresult, rfl⟩ := Prod.mk.inj h
  exact ⟨(Except.ok.inj hresult).symm, rfl⟩

/-- Noting the answer is one more step. -/
theorem stepwise_logged (shape : ShapeId) {gen : Gen NodeId}
    (h : Stepwise settings graph gen builder) :
    Stepwise settings graph (logged shape gen) builder :=
  h.tail (.note ..)

/-- An answer is noted when it is there. -/
theorem logged_eq_ok {shape : ShapeId} {gen : Gen NodeId} {node : NodeId} {builder' : Builder}
    (h : logged shape gen builder = (.ok node, builder')) :
    ∃ builder'', gen builder = (.ok node, builder'') ∧
      builder' = { builder'' with visits := builder''.visits.push (shape, .ok node) } := by
  obtain ⟨hresult, rfl⟩ := Prod.mk.inj h
  exact ⟨(gen builder).2, Prod.ext hresult rfl, by rw [hresult]⟩

/-- A shape that is no function is remembered without further ado. -/
theorem stepwise_remember {shape : ShapeId}
    (hshape : ∀ fn, graph.shape? shape ≠ some (.function fn)) (node : NodeId) :
    Stepwise settings graph (remember shape node) builder :=
  stepwise_modify (.remember fun fn hfn => absurd hfn (hshape fn))

/-! ### Lists -/

/-- A loop that hands on a state is a sequence of steps if its body is for every item. -/
theorem stepwise_foldlM {step : β → α → Gen β} {items : List α}
    (hstep : ∀ state item builder', Stepwise settings graph (step state item) builder')
    (state : β) : Stepwise settings graph (items.foldlM step state) builder := by
  induction items generalizing builder state with
  | nil => exact stepwise_pure _
  | cons item items ih =>
    rw [List.foldlM_cons]
    exact (hstep state item builder).andThen fun state' _ => ih state'

/-- A loop without results is a sequence of steps if its body is for every item, which may count on
    the steps before it. -/
theorem stepwise_forM {action : α → Gen PUnit} {items : List α}
    (haction : ∀ item ∈ items, ∀ builder', Builder.Steps settings graph builder builder' →
      Stepwise settings graph (action item) builder') :
    Stepwise settings graph (items.forM action) builder := by
  induction items generalizing builder with
  | nil => exact stepwise_pure _
  | cons item items ih =>
    refine (haction item List.mem_cons_self builder .refl).bind fun _ builder' _ hsteps => ?_
    exact ih fun other hmem builder'' hsteps' =>
      haction other (List.mem_cons_of_mem _ hmem) builder'' (hsteps.trans hsteps')

/-- A loop that collects results is a sequence of steps if its body is for every item. -/
theorem stepwise_mapM {action : α → Gen β} {items : List α}
    (haction : ∀ item builder', Stepwise settings graph (action item) builder') :
    Stepwise settings graph (items.mapM action) builder := by
  induction items generalizing builder with
  | nil => exact stepwise_pure _
  | cons item items ih =>
    rw [List.mapM_cons]
    exact (haction item builder).andThen fun _ _ => ih.andThen fun _ _ => stepwise_pure _

/-! ### Allocations -/

/-- Building plain nodes is one step. -/
theorem stepwise_allocation {build : StateM Arena α} (h : Arena.AllocatesOnly build) :
    Stepwise settings graph (onArena build) builder :=
  stepwise_onArena (.allocate (h _))

/-- A node with a hint is one step, if the hint is that of a binding. A function is made with the
    formal parameters of a shape. -/
theorem stepwise_hinted {node : Node} {hint : String} (hnode : node.takesHint = true)
    (hhint : graph.BindingHint hint)
    (hformals : ∀ params body, node = .function params body →
      ∃ fn : FunctionShape, params = fn.formals) :
    Stepwise settings graph (onArena (Arena.pushHinted node hint)) builder :=
  stepwise_onArena (.allocateHinted hnode hhint hformals)

/-- The member chain of a path is a leaf and plain nodes above it. -/
theorem stepwise_platform {path : String} (hpath : graph.PlatformName path) :
    Stepwise settings graph (platform path) builder :=
  Stepwise.andThen (.single (.platform hpath)) fun root _ =>
    stepwise_allocation (Arena.allocates_foldlM Arena.allocates_member _ root)

/-! ### Primitives -/

section

variable (hprimitives : graph.HasPrimitives)
include hprimitives

/-- What is built for a primitive kind is remembered for it, unless it is there already. -/
theorem stepwise_shared {kind : PrimitiveKind} {build : Gen NodeId}
    (hbuild : ∀ builder, Stepwise settings graph build builder) :
    Stepwise settings graph (shared kind build) builder := by
  refine (stepwise_known? _).andThen fun known builder' => ?_
  split
  · exact stepwise_pure _
  · refine (hbuild builder').andThen fun node _ => ?_
    refine (stepwise_remember (fun fn hfn => ?_) node).andThen fun _ _ => stepwise_pure _
    exact nomatch (hprimitives kind).symm.trans hfn

/-- The node for numbers is a call of a name of the platform. -/
theorem stepwise_numberNode : Stepwise settings graph numberNode builder :=
  stepwise_shared hprimitives fun _ =>
    (stepwise_platform (.inl (by simp))).andThen fun _ _ =>
      stepwise_hinted rfl (.primitive (by simp)) nofun

/-- The node for booleans is built on that for numbers. -/
theorem stepwise_booleanNode : Stepwise settings graph booleanNode builder :=
  stepwise_shared hprimitives fun _ => (stepwise_numberNode hprimitives).andThen fun _ _ =>
    stepwise_hinted rfl (.primitive (by simp)) nofun

/-- The node for strings is built on that for numbers. -/
theorem stepwise_stringNode : Stepwise settings graph stringNode builder :=
  stepwise_shared hprimitives fun _ => (stepwise_numberNode hprimitives).andThen fun _ _ =>
    Stepwise.andThen (.single (.platform (.inl (by simp)))) fun _ _ =>
      stepwise_hinted rfl (.primitive (by simp)) nofun

/-- The node for regular expressions is built on that for strings. -/
theorem stepwise_regexpNode : Stepwise settings graph regexpNode builder :=
  stepwise_shared hprimitives fun _ => (stepwise_stringNode hprimitives).andThen fun _ _ =>
    Stepwise.andThen (.single (.platform (.inl (by simp)))) fun _ _ =>
      stepwise_hinted rfl (.primitive (by simp)) nofun

/-- Every kind of primitive is a sequence of steps. -/
theorem stepwise_primitive (kind : PrimitiveKind) :
    Stepwise settings graph (primitive kind) builder := by
  cases kind with
  | undefined => exact stepwise_allocation Arena.allocates_undefined
  | null => exact stepwise_allocation (Arena.allocates_push rfl)
  | boolean => exact stepwise_booleanNode hprimitives
  | number => exact stepwise_numberNode hprimitives
  | string => exact stepwise_stringNode hprimitives
  | regexp => exact stepwise_regexpNode hprimitives

end

/-! ### Names -/

/-- A reference takes one step, if it has the name of what it refers to. -/
theorem stepwise_refer {name : String} {referent : Referent}
    (h : builder.nameOf? referent = some name) :
    Stepwise settings graph (refer name referent) builder :=
  .single (.refer h)

/-- A generation that draws a name and puts it to use. -/
theorem stepwise_freshName {hint : Option String} {next : String → Gen α}
    (h : ∀ name names, builder.names.fresh? hint = some (name, names) →
      Builder.Steps settings graph builder (next name { builder with names }).2) :
    Stepwise settings graph (freshName hint >>= next) builder := by
  have hdraw : freshName hint builder = _ :=
    run_bind (show (get : Gen Builder) builder = (.ok builder, builder) from rfl)
  cases hfresh : builder.names.fresh? hint with
  | none =>
    rw [hfresh] at hdraw
    rw [Stepwise, run_bind_error hdraw]
  | some drawn =>
    rw [hfresh] at hdraw
    rw [Stepwise, run_bind hdraw]
    exact h drawn.1 drawn.2 hfresh

/-- The global scope is declared when it is asked for first, and referred to then. -/
theorem stepwise_global : Stepwise settings graph (global settings) builder := by
  refine Stepwise.ofState ?_
  split
  · next name hname => exact stepwise_refer hname
  · next hnone =>
    exact stepwise_freshName fun name names hfresh =>
      .tail (.single (.declareScope hnone hfresh)) (.refer rfl)

/-- All visits are sequences of steps, and those of functions end with the nodes of these. -/
structure Steady (settings : Settings) (graph : ShapeGraph) (visit : Visit) : Prop where
  stepwise : ∀ id builder, Stepwise settings graph (visit id) builder
  finds : ∀ {id builder node builder' fn}, graph.shape? id = some (.function fn) →
    visit id builder = (.ok node, builder') → builder'.nodes[id.index]? = some node

variable {visit : Visit}

/-- An assignment at the top level is built and emitted. -/
theorem stepwise_emitAssign (target value : NodeId) :
    Stepwise settings graph (emitAssign target value) builder := by
  refine .tail (.single (.allocate (Arena.allocates_assignStmt target value builder.arena))) ?_
  exact .emit (Arena.node?_push_self ..)

/-- A property that was added to a builtin is a visit and at most one assignment. -/
theorem stepwise_patch (hvisit : Steady settings graph visit) {fullName : String}
    (hname : graph.PlatformName fullName) (binding : String × ShapeId) :
    Stepwise settings graph (patch graph visit fullName binding) builder := by
  refine (hvisit.stepwise _ builder).andThen fun value builder' => ?_
  split
  · exact stepwise_pure _
  · exact (stepwise_platform hname).andThen fun owner _ =>
      (stepwise_allocation (Arena.allocates_member owner _)).andThen fun target _ =>
        stepwise_emitAssign target value

/-- A builtin is marked, then written out, and referred to by its name. -/
theorem stepwise_builtin (hvisit : Steady settings graph visit) (id : ShapeId) {fullName : String}
    (hname : graph.PlatformName fullName) (properties : Properties) :
    Stepwise settings graph (builtin graph visit id fullName properties) builder := by
  refine stepwise_get.andThen fun current builder' => ?_
  dsimp only
  split
  · exact stepwise_platform hname
  · refine Stepwise.andThen (stepwise_modify (.note ..)) fun _ _ => Stepwise.andThen ?_ fun _ _ =>
      stepwise_platform hname
    exact stepwise_forM fun binding _ _ _ => stepwise_patch hvisit hname binding

/-- A placeholder is declared when it is asked for first, and referred to then. -/
theorem stepwise_parameter (id : ShapeId) (use : Parameter) :
    Stepwise settings graph (parameter graph id use) builder := by
  refine Stepwise.ofState ?_
  split
  · next name hname => exact stepwise_refer hname
  · next hnone =>
    refine (stepwise_checked _).bind fun label builder' hchecked _ => ?_
    obtain ⟨hlabel, rfl⟩ := checked_eq_ok hchecked
    refine stepwise_freshName fun name names hfresh => ?_
    -- The declaration and the note of the name are one step, whether it is the first placeholder or
    -- not.
    have hdeclared : (Gen.declarePlaceholder name { builder' with names }) =
        (.ok ⟨⟩, { builder' with
          arena := (builder'.placeholderDeclWith name).2
          names
          placeholderDecl := some (builder'.placeholderDeclWith name).1 }) := by
      obtain ⟨arena, _, decl, _⟩ := builder'
      cases decl <;> rfl
    refine .tail (.single (.declarePlaceholder hnone hlabel hfresh)) ?_
    rw [run_bind hdeclared]
    exact .refer (by simp [Builder.nameOf?, Builder.declarePlaceholder])

/-! ### Aggregates -/

/-- An entry is made with the answer of a visit, so that it holds the node of a function that it is
    bound to. -/
theorem stepwise_addEntry (hvisit : Steady settings graph visit) (object : NodeId)
    {kind : EntryKind} {binding : String × ShapeId} (hbinds : graph.Binds kind binding.1 binding.2) :
    Stepwise settings graph (addEntry visit object kind binding) builder := by
  refine (hvisit.stepwise _ builder).bind fun value builder' hvalue _ => ?_
  exact .tail (.single (.entry hbinds fun fn hfn => hvisit.finds hfn hvalue)) (.appendEntry ..)

/-- An object is remembered and filled entry by entry. -/
theorem stepwise_object (hvisit : Steady settings graph visit) {id : ShapeId} {entries : Aggregate}
    (hentries : (graph.shape? id).bind Shape.aggregate? = some entries) :
    Stepwise settings graph (object graph visit id entries) builder := by
  refine (stepwise_checked _).andThen fun label _ => ?_
  refine (stepwise_hinted rfl (.shape _ (by simp)) (by simp)).andThen
    fun node _ => ?_
  refine (stepwise_remember (fun fn hfn => ?_) node).andThen fun _ _ => ?_
  · rw [hfn] at hentries
    exact nomatch hentries
  have hadd (kind : EntryKind) (builder : Builder) :
      Stepwise settings graph ((entries.bindings kind).toList.forM (addEntry visit node kind))
        builder :=
    stepwise_forM fun binding hmem _ _ =>
      stepwise_addEntry hvisit node ⟨id, entries, hentries, hmem⟩
  exact (hadd .value _).andThen fun _ _ => (hadd .getter _).andThen fun _ _ =>
    (hadd .setter _).andThen fun _ _ => stepwise_pure _

/-- An array literal is remembered, and its slots are set once the elements are there. -/
theorem stepwise_denseArray (hvisit : Steady settings graph visit) {id : ShapeId}
    (hid : ∀ fn, graph.shape? id ≠ some (.function fn)) (elements : List (Nat × ShapeId)) :
    Stepwise settings graph (denseArray graph visit id elements) builder := by
  refine (stepwise_checked _).andThen fun label builder₁ => ?_
  refine (stepwise_hinted rfl (.shape _ (by simp)) (by simp)).bind
    fun node builder₂ hpush _ => ?_
  have hnode : builder₂.arena.node? node = some (.array #[]) := by
    obtain ⟨rfl, rfl⟩ := onArena_eq_ok hpush
    exact Arena.node?_push_self ..
  -- Whatever the visits of the elements do, the node is still an array when they are there.
  refine (stepwise_remember hid node).bind fun _ builder₃ _ hremembered => ?_
  refine Stepwise.bind (stepwise_foldlM (fun _ (element : Nat × ShapeId) builder' =>
    (hvisit.stepwise element.2 builder').andThen fun value _ => stepwise_pure _) _) ?_
  intro slots builder₄ _ hvisited
  obtain ⟨_, harray⟩ := Builder.array_of_steps (hremembered.trans hvisited) hnode
  exact (stepwise_onArena (.setElements slots harray)).andThen fun _ _ => stepwise_pure _

/-- A chain of alternatives is one, whatever is added to it. -/
theorem or_of_foldlM (operands : List NodeId) {node : NodeId} {arena : Arena}
    (h : ∃ left right, arena.node? node = some (.or left right)) :
    ∃ left right, (operands.foldlM Arena.or node arena).2.node?
      (operands.foldlM Arena.or node arena).1 = some (.or left right) := by
  induction operands generalizing node arena with
  | nil => exact h
  | cons operand operands ih => exact ih ⟨node, operand, Arena.node?_push_self ..⟩

/-- An array is one or the other. -/
theorem stepwise_array (hvisit : Steady settings graph visit) {id : ShapeId} {entries : Aggregate}
    {degraded : Bool} (hshape : graph.shape? id = some (.array entries degraded)) :
    Stepwise settings graph (array graph visit id entries degraded) builder := by
  have hentries : (graph.shape? id).bind Shape.aggregate? = some entries := by rw [hshape]; rfl
  unfold array
  split
  · exact stepwise_object hvisit hentries
  · split
    · exact stepwise_denseArray hvisit (fun fn hfn => nomatch hshape.symm.trans hfn) _
    · exact stepwise_object hvisit hentries

/-- A chain of alternatives gets its hint when it is complete, and it is remembered then. -/
theorem stepwise_union (hvisit : Steady settings graph visit) {id : ShapeId}
    {members : List ShapeId} (hid : graph.shape? id = some (.union members)) :
    Stepwise settings graph (union visit id members) builder := by
  match members with
  | [] => exact stepwise_allocation Arena.allocates_undefined
  | [only] => exact hvisit.stepwise only builder
  | first :: second :: rest =>
    refine (hvisit.stepwise first builder).andThen fun head _ => ?_
    rw [List.mapM_cons]
    simp only [bind_assoc, pure_bind]
    refine (hvisit.stepwise second _).andThen fun operand _ => ?_
    refine (stepwise_mapM hvisit.stepwise).andThen fun operands _ => ?_
    refine (stepwise_known? id).andThen fun known _ => ?_
    split
    · exact stepwise_pure _
    · refine (stepwise_allocation (Arena.allocates_foldlM (fun _ _ => Arena.allocates_push rfl)
        (operand :: operands) head)).bind fun node builder' hjoined _ => ?_
      -- What gets the hint is the last alternative of the chain.
      obtain ⟨left, right, hnode⟩ : ∃ left right,
          builder'.arena.node? node = some (.or left right) := by
        obtain ⟨rfl, rfl⟩ := onArena_eq_ok hjoined
        exact or_of_foldlM operands ⟨head, operand, Arena.node?_push_self ..⟩
      refine (stepwise_onArena (.hint hnode (.shape _ (by simp)))).andThen
        fun _ _ => (stepwise_remember (fun fn hfn => ?_) node).andThen fun _ _ => stepwise_pure _
      exact nomatch hid.symm.trans hfn

/-! ### Functions -/

/-- A used parameter of a plain function is copied in the body of that function. -/
theorem stepwise_copyParam (hvisit : Steady settings graph visit) {id : ShapeId}
    {fn : FunctionShape} (hid : graph.shape? id = some (.function fn)) (hplain : fn.accessor = none)
    {body : NodeId} (hbody : builder.HasBody id fn body) {used : Nat × ShapeId}
    (hused : used ∈ fn.usedParams) :
    Stepwise settings graph (copyParam visit id body used) builder := by
  refine (hvisit.stepwise _ builder).bind fun target builder' _ hsteps => ?_
  exact .single (.copyParam target hid hplain hused (Builder.hasBody_of_steps hsteps hid hbody))

/-- A property of the function value is a visit and an assignment, unless it is left out. -/
theorem stepwise_writeStatic (hvisit : Steady settings graph visit) (node : NodeId)
    (binding : String × ShapeId) :
    Stepwise settings graph (writeStatic settings graph visit node binding) builder := by
  unfold writeStatic
  split
  · exact stepwise_pure _
  · exact (hvisit.stepwise _ builder).andThen fun value _ =>
      (stepwise_allocation (Arena.allocates_member node _)).andThen fun target _ =>
        stepwise_emitAssign target value

/-- A property of an instance is written in the body of the constructor. -/
theorem stepwise_writeToReceiver (hvisit : Steady settings graph visit) {id : ShapeId}
    {fn : FunctionShape} (hid : graph.shape? id = some (.function fn)) {body : NodeId}
    (hbody : builder.HasBody id fn body) (binding : String × ShapeId) :
    Stepwise settings graph (writeToReceiver visit id body binding) builder := by
  refine (hvisit.stepwise _ builder).bind fun value builder' _ hsteps => ?_
  exact .single (.writeToReceiver binding.1 value hid (Builder.hasBody_of_steps hsteps hid hbody))

/-- A body stays that of the function while it is filled part by part. -/
theorem stepwise_fillFunction (hvisit : Steady settings graph visit) {id : ShapeId}
    {fn : FunctionShape} (hid : graph.shape? id = some (.function fn)) {body : NodeId}
    (hbody : builder.HasBody id fn body) (node : NodeId) :
    Stepwise settings graph (fillFunction settings graph visit id fn node body) builder := by
  -- What comes after the copies is the same for accessors, which have none.
  have hrest (builder : Builder) (hbody : builder.HasBody id fn body) :
      Stepwise settings graph (do
        fn.properties.toList.forM (writeStatic settings graph visit node)
        (instanceProperties graph fn).toList.forM (writeToReceiver visit id body)
        unless ← checked (graph.isAbsent fn.returns) do
          let value ← visit fn.returns
          onArena do
            let stmt ← Arena.ret value
            modify fun arena => arena.appendStmt body stmt) builder := by
    refine (stepwise_forM fun binding _ _ _ => stepwise_writeStatic hvisit node binding).bind ?_
    intro _ builder₁ _ hsteps
    have hbody := Builder.hasBody_of_steps hsteps hid hbody
    refine (stepwise_forM fun binding _ _ hsteps => stepwise_writeToReceiver hvisit hid
      (Builder.hasBody_of_steps hsteps hid hbody) binding).andThen ?_
    intro _ _
    refine (stepwise_checked _).andThen fun absent _ => ?_
    split
    · exact stepwise_pure _
    · refine (hvisit.stepwise fn.returns _).andThen fun value builder' => ?_
      exact .tail (.single (.allocate (Arena.allocates_push rfl builder'.arena))) (.appendStmt ..)
  unfold fillFunction
  split
  · next hplain =>
    rw [Option.isNone_iff_eq_none] at hplain
    refine (stepwise_forM fun used hused _ hsteps => stepwise_copyParam hvisit hid hplain
      (Builder.hasBody_of_steps hsteps hid hbody) hused).bind fun _ builder₁ _ hsteps => ?_
    exact hrest _ (Builder.hasBody_of_steps hsteps hid hbody)
  · exact hrest _ hbody

/-- A function is remembered with an empty body. -/
theorem hasBody_of_remember {id : ShapeId} {fn : FunctionShape} {hint : String}
    {body node : NodeId} {builder₁ builder₂ builder₃ : Builder}
    (hbody : onArena (Arena.push (.block #[])) builder = (.ok body, builder₁))
    (hnode : onArena (Arena.pushHinted (.function fn.formals body) hint) builder₁ =
      (.ok node, builder₂))
    (hremember : remember id node builder₂ = (.ok ⟨⟩, builder₃)) :
    builder₂.nodes = builder.nodes ∧
      builder₂.arena.node? node = some (.function fn.formals body) ∧
      builder₃.nodes[id.index]? = some node ∧ builder₃.HasBody id fn body := by
  obtain ⟨rfl, rfl⟩ := onArena_eq_ok hbody
  obtain ⟨rfl, rfl⟩ := onArena_eq_ok hnode
  obtain ⟨_, rfl⟩ := Prod.mk.inj hremember
  have hmade := Arena.node?_push_self (.function fn.formals
    (Arena.push (.block #[]) builder.arena).1) (Arena.push (.block #[]) builder.arena).2
  have hblock := Arena.node?_push_of_node? (Arena.node?_push_self (.block #[]) builder.arena)
    (.function fn.formals (Arena.push (.block #[]) builder.arena).1)
  exact ⟨rfl, hmade, Std.TreeMap.getElem?_insert_self, _, Std.TreeMap.getElem?_insert_self, hmade,
    _, hblock⟩

variable {id : ShapeId} {fn : FunctionShape}

/-- A function is remembered with its formal parameters, and its body is filled then. -/
theorem stepwise_function (hvisit : Steady settings graph visit)
    (hid : graph.shape? id = some (.function fn)) (hnew : builder.nodes[id.index]? = none) :
    Stepwise settings graph (function settings graph visit id fn) builder := by
  refine (stepwise_checked _).bind fun label builder₁ hchecked _ => ?_
  obtain ⟨_, rfl⟩ := checked_eq_ok hchecked
  refine (stepwise_allocation (Arena.allocates_push rfl)).bind fun body builder₂ hbody _ => ?_
  refine (stepwise_hinted rfl (.shape _ (by simp)) ?_).bind
    fun node builder₃ hnode _ => ?_
  · rintro params _ heq
    exact ⟨fn, (Node.function.inj heq).1.symm⟩
  -- The function is remembered as soon as it is made, and its body is open from then on.
  obtain ⟨hnodes, hmade, _, hopen⟩ := hasBody_of_remember hbody hnode rfl
  refine Stepwise.bind (stepwise_modify (.remember fun fn' hfn => ?_))
    fun _ builder₄ hremember _ => ?_
  · obtain rfl := Shape.function.inj (Option.some.inj (hid.symm.trans hfn))
    exact ⟨by rw [hnodes, hnew], body, hmade⟩
  · obtain ⟨_, rfl⟩ := Prod.mk.inj hremember
    exact (stepwise_fillFunction hvisit hid hopen node).andThen fun _ _ => stepwise_pure _

/-- The node of a function is the one that is remembered for it. -/
theorem function_finds (hvisit : Steady settings graph visit)
    (hid : graph.shape? id = some (.function fn)) {node : NodeId} {builder' : Builder}
    (h : function settings graph visit id fn builder = (.ok node, builder')) :
    builder'.nodes[id.index]? = some node := by
  obtain ⟨label, builder₁, _, h⟩ := run_bind_eq_ok h
  obtain ⟨body, builder₂, hbody, h⟩ := run_bind_eq_ok h
  obtain ⟨made, builder₃, hmade, h⟩ := run_bind_eq_ok h
  obtain ⟨_, builder₄, hremember, h⟩ := run_bind_eq_ok h
  obtain ⟨_, builder₅, hfill, h⟩ := run_bind_eq_ok h
  obtain ⟨hresult, rfl⟩ := Prod.mk.inj h
  obtain rfl := Except.ok.inj hresult
  -- Nothing that fills the body puts another node in its place.
  obtain ⟨_, _, hnode, hopen⟩ := hasBody_of_remember hbody hmade hremember
  have hsteps := stepwise_fillFunction hvisit hid hopen made
  rw [Stepwise, hfill] at hsteps
  exact Builder.nodes_eq_of_steps hsteps hid hnode

/-- The hint for an instance is that of a binding. -/
theorem instanceHint_eq_ok {constructor : ShapeId} {hint : String} {builder' : Builder}
    (h : instanceHint graph constructor builder = (.ok hint, builder')) : graph.BindingHint hint := by
  obtain ⟨shape, builder₁, hshape, h⟩ := run_bind_eq_ok h
  split at h
  · obtain ⟨hresult, _⟩ := Prod.mk.inj h
    exact Except.ok.inj hresult ▸ .constructed (ShapeGraph.shape_eq_ok.1 (checked_eq_ok hshape).1)
  · obtain ⟨label, builder₂, _, h⟩ := run_bind_eq_ok h
    obtain ⟨hresult, _⟩ := Prod.mk.inj h
    exact Except.ok.inj hresult ▸ .shape label (by simp)

/-- Making the hint takes no step. -/
theorem stepwise_instanceHint (constructor : ShapeId) :
    Stepwise settings graph (instanceHint graph constructor) builder := by
  refine (stepwise_checked _).andThen fun shape _ => ?_
  split
  · exact stepwise_pure _
  · exact (stepwise_checked _).andThen fun _ _ => stepwise_pure _

/-- An instance is constructed once for its constructor. -/
theorem stepwise_instanceOf (hvisit : Steady settings graph visit) (constructor : ShapeId) :
    Stepwise settings graph (instanceOf graph visit constructor) builder := by
  refine stepwise_get.andThen fun current _ => ?_
  split
  · exact stepwise_pure _
  · refine (hvisit.stepwise constructor _).andThen fun callee _ => ?_
    refine stepwise_get.andThen fun current _ => ?_
    split
    · exact stepwise_pure _
    · refine (stepwise_instanceHint constructor).bind fun hint _ hhint _ => ?_
      exact (stepwise_hinted rfl (instanceHint_eq_ok hhint) (by simp)).andThen fun node _ =>
        (stepwise_modify (.note ..)).andThen fun _ _ => stepwise_pure _

/-! ### Visits -/

/-- The rule for a shape that is known goes by its kind. -/
theorem rule_eq {shape : Shape} (hid : graph.shape? id = some shape) (visit : Visit) :
    rule settings graph visit id = (do
      match shape with
      | .primitive kind => primitive kind
      | .object entries => object graph visit id entries
      | .array entries degraded => array graph visit id entries degraded
      | .function fn => function settings graph visit id fn
      | .instanceOf constructor _ => instanceOf graph visit constructor
      | .union members => union visit id members
      | .builtin fullName properties _ => builtin graph visit id fullName properties
      | .global _ => global settings
      | .parameter param => parameter graph id param) := by
  rw [rule, ShapeGraph.shape_eq_ok.2 hid]
  rfl

/-- The rule for a function answers with the node that is remembered for it. -/
theorem rule_finds (hvisit : Steady settings graph visit)
    (hid : graph.shape? id = some (.function fn)) {node : NodeId} {builder' : Builder}
    (h : rule settings graph visit id builder = (.ok node, builder')) :
    builder'.nodes[id.index]? = some node := by
  rw [rule_eq hid] at h
  exact function_finds hvisit hid h

section

variable (hprimitives : graph.HasPrimitives)
include hprimitives

/-- A rule for a new shape is a sequence of steps if its visits are. -/
theorem stepwise_rule (hvisit : Steady settings graph visit)
    (hnew : builder.nodes[id.index]? = none) :
    Stepwise settings graph (rule settings graph visit id) builder := by
  refine (stepwise_checked _).bind fun shape builder' hchecked _ => ?_
  obtain ⟨hshape, rfl⟩ := checked_eq_ok hchecked
  rw [ShapeGraph.shape_eq_ok] at hshape
  cases shape with
  | primitive kind => exact stepwise_primitive hprimitives kind
  | object entries => exact stepwise_object hvisit (by rw [hshape]; rfl)
  | array entries degraded => exact stepwise_array hvisit hshape
  | function fn => exact stepwise_function hvisit hshape hnew
  | instanceOf constructor _ => exact stepwise_instanceOf hvisit constructor
  | union members => exact stepwise_union hvisit hshape
  | builtin fullName properties constructible =>
    exact stepwise_builtin hvisit id (.inr ⟨id, properties, constructible, hshape⟩) properties
  | global _ => exact stepwise_global
  | parameter use => exact stepwise_parameter id use

/-- Requests for shapes are sequences of steps at any level, and those for functions find their
    nodes. -/
theorem steady_nodeWithin (levels : Nat) :
    Steady settings graph (nodeWithin settings graph levels) := by
  induction levels with
  | zero => exact ⟨fun _ _ => stepwise_throw _, fun _ h => nomatch congrArg Prod.fst h⟩
  | succ levels ih =>
    refine ⟨fun id builder => stepwise_logged id ?_, fun {id builder node builder' fn} hid h => ?_⟩
    · refine (stepwise_known? id).bind fun known builder' hknown _ => ?_
      obtain ⟨rfl, rfl⟩ := known?_eq_ok hknown
      split
      · exact stepwise_pure _
      · next hnew => exact stepwise_rule hprimitives ih hnew
    · -- A function is answered by the node that is remembered for it.
      obtain ⟨builder'', hgen, rfl⟩ := logged_eq_ok h
      show builder''.nodes[id.index]? = some node
      clear h
      obtain ⟨known, builder₁, hknown, h⟩ := run_bind_eq_ok hgen
      obtain ⟨rfl, rfl⟩ := known?_eq_ok hknown
      cases hnode : builder₁.nodes[id.index]? with
      | none =>
        rw [hnode] at h
        exact rule_finds ih hid h
      | some known =>
        rw [hnode] at h
        obtain ⟨hresult, rfl⟩ := Prod.mk.inj h
        exact Except.ok.inj hresult ▸ hnode

/-- The assignment of a global binding is a sequence of steps. -/
theorem stepwise_assignGlobal {binding : String × ShapeId} (hbinding : binding ∈ graph.globals) :
    Stepwise settings graph (assignGlobal settings graph binding.1 binding.2) builder := by
  refine ((steady_nodeWithin hprimitives _).stepwise binding.2 builder).andThen fun value _ => ?_
  have hassign (target : NodeId) (builder : Builder) : Stepwise settings graph
      (do let stmt ← onArena (Arena.assignStmt target value); emit stmt; return stmt) builder :=
    .tail (.single (.allocate (Arena.allocates_assignStmt target value builder.arena)))
      (.emit (Arena.node?_push_self ..))
  dsimp only
  split
  · exact Stepwise.andThen (.single (.global hbinding)) hassign
  · exact stepwise_global.andThen fun scope _ =>
      (stepwise_allocation (Arena.allocates_member scope binding.1)).andThen hassign

end

end Gen

end Semblance
