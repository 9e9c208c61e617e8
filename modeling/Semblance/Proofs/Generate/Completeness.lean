import Semblance.Proofs.Generate.Bodies

/-!
# All requests for shapes are complete

Whatever shape is asked for: when the answer is there, the nodes of all shapes remembered on the way
are put together, instances are constructed by the nodes of their constructors, what was added to
builtins is written out, and there are placeholders for parameters that were asked for only.

## Key results

- `completes_rule`: what a rule completes if its visits do
- `completing_nodeWithin`: so do all requests for shapes
- `completes_assignGlobal`: so does the assignment of a global binding
-/

namespace Semblance

namespace Gen

variable {settings : Settings} {graph : ShapeGraph} {region : ShapeId → Prop} {own : List NodeId}
  {builder builder' : Builder} {visit : Visit} {id : ShapeId} {node : NodeId}

/-! ### Primitives -/

/-- Whatever a generation remembers it completes. -/
structure Completed (settings : Settings) (graph : ShapeGraph) (region : ShapeId → Prop)
    (gen : Gen α) : Prop where
  completes : ∀ {builder result builder'}, gen builder = (.ok result, builder') →
    builder.Completes settings graph region [] builder'

/-- A generation in two parts completes what it remembers if both parts do. -/
theorem Completed.bind {gen : Gen α} {next : α → Gen β} (h : Completed settings graph region gen)
    (hnext : ∀ result, Completed settings graph region (next result)) :
    Completed settings graph region (gen >>= next) where
  completes heq := by
    obtain ⟨result, builder₁, hgen, hrest⟩ := run_bind_eq_ok heq
    exact (h.completes hgen).andThen ((hnext result).completes hrest)

/-- A leaf is not remembered. -/
theorem completed_leaf (origin : Origin) : Completed settings graph region (leaf origin) :=
  ⟨completes_leaf⟩

/-- A member chain is not remembered. -/
theorem completed_platform (path : String) : Completed settings graph region (platform path) :=
  ⟨(forgets_platform path).completes (advancing_platform path)⟩

/-- A node with a hint is not remembered by itself. -/
theorem completed_hinted (made : Node) (hint : String) :
    Completed settings graph region (onArena (Arena.pushHinted made hint)) :=
  ⟨(forgets_onArena _).completes (advancing_hinted made hint)⟩

section

variable (hprimitives : graph.HasPrimitives)
include hprimitives

/-- What is built for a primitive kind is remembered for it. -/
theorem completed_shared {kind : PrimitiveKind} {build : Gen NodeId}
    (hbuild : Completed settings graph region build) :
    Completed settings graph region (shared kind build) where
  completes {builder node builder'} h := by
    obtain ⟨known, builder₁, hknown, h⟩ := run_bind_eq_ok h
    obtain ⟨rfl, rfl⟩ := known?_eq_ok hknown
    cases hnode : builder₁.nodes[(ShapeGraph.primitive kind).index]? with
    | some former =>
      rw [hnode] at h
      obtain ⟨_, rfl⟩ := pure_eq_ok h
      exact .rfl
    | none =>
      rw [hnode] at h
      -- The node is remembered after it was built, and it is that of a primitive.
      obtain ⟨made, builder₂, hmade, h⟩ := run_bind_eq_ok h
      obtain ⟨_, builder₃, hremember, h⟩ := run_bind_eq_ok h
      obtain ⟨_, rfl⟩ := Prod.mk.inj hremember
      obtain ⟨rfl, rfl⟩ := pure_eq_ok h
      exact (hbuild.completes hmade).andThen (Builder.Completes.rfl.remembered .rfl
        (fun _ hmem => List.not_mem_nil.elim hmem) (.inl ⟨kind, hprimitives kind⟩))

/-- The node for numbers is remembered for their kind. -/
theorem completed_numberNode : Completed settings graph region numberNode :=
  completed_shared hprimitives ((completed_platform _).bind fun _ => completed_hinted _ _)

/-- The node for strings is remembered for their kind. -/
theorem completed_stringNode : Completed settings graph region stringNode :=
  completed_shared hprimitives ((completed_numberNode hprimitives).bind fun _ =>
    (completed_leaf _).bind fun _ => completed_hinted _ _)

/-- Every kind of primitive has its node, and what is built for it uses only nodes of other
    kinds. -/
theorem completed_primitive (kind : PrimitiveKind) :
    Completed settings graph region (primitive kind) := by
  cases kind with
  | undefined => exact ⟨completes_allocation Arena.allocates_undefined⟩
  | null => exact ⟨completes_allocation (Arena.allocates_push rfl)⟩
  | boolean =>
    exact completed_shared hprimitives
      ((completed_numberNode hprimitives).bind fun _ => completed_hinted _ _)
  | number => exact completed_numberNode hprimitives
  | string => exact completed_stringNode hprimitives
  | regexp =>
    exact completed_shared hprimitives ((completed_stringNode hprimitives).bind fun _ =>
      (completed_leaf _).bind fun _ => completed_hinted _ _)

end

/-! ### Names -/

/-- A name is taken from the supply, and nothing else changes. -/
theorem freshName_eq_ok {hint : Option String} {name : String}
    (h : freshName hint builder = (.ok name, builder')) :
    ∃ names, builder' = { builder with names } := by
  have hdraw : freshName hint builder = _ :=
    run_bind (show (get : Gen Builder) builder = (.ok builder, builder) from rfl)
  cases hfresh : builder.names.fresh? hint with
  | none =>
    rw [hfresh] at hdraw
    exact nomatch congrArg Prod.fst (hdraw.symm.trans h)
  | some drawn =>
    rw [hfresh] at hdraw
    obtain ⟨_, rfl⟩ := Prod.mk.inj (hdraw.symm.trans h)
    exact ⟨drawn.2, rfl⟩

/-- The name of the global scope is taken when it is asked for first. -/
theorem completed_global : Completed settings graph region (global settings) where
  completes {builder node builder'} h := by
    have hadvances : builder.Advances graph [] builder' := advancing_global.of_eq h
    rw [global, run_get_bind] at h
    cases hname : builder.globalName with
    | some name =>
      rw [hname] at h
      exact (forgets_refer name .scope).completes (advancing_refer name .scope) h
    | none =>
      rw [hname] at h
      obtain ⟨name, builder₁, hfresh, h⟩ := run_bind_eq_ok h
      obtain ⟨names, rfl⟩ := freshName_eq_ok hfresh
      obtain ⟨_, rfl⟩ := Prod.mk.inj h
      -- The declaration is emitted and its name noted; no shape is remembered.
      exact Builder.Same.completes ⟨rfl, rfl, rfl, rfl, rfl⟩ hadvances.arena
        fun _ hmem => Array.mem_push_of_mem _ hmem

/-- The declarator of a placeholder is remembered for no shape. -/
theorem forgets_declarePlaceholder (name : String) : Forgets (declarePlaceholder name) builder := by
  obtain ⟨_, _, decl, _⟩ := builder
  cases decl <;> exact ⟨⟨rfl, rfl, rfl, rfl, rfl⟩, fun _ hmem => hmem⟩

/-- A placeholder is declared for a parameter that is asked for, and the answer will be noted. -/
theorem completes_parameter {use : Parameter} (hid : graph.shape? id = some (.parameter use))
    (h : parameter graph id use builder = (.ok node, builder')) :
    builder.Completes settings graph region []
      { builder' with visits := builder'.visits.push (id, .ok node) } := by
  rw [parameter, run_get_bind] at h
  cases hname : builder.placeholders[id.index]? with
  | some name =>
    rw [hname] at h
    refine ((forgets_refer name _).completes (advancing_refer name _) h).andThen
      (Builder.completes_note fun _ _ => .inr ⟨name, ?_⟩)
    obtain ⟨hanswer, rfl⟩ := Prod.mk.inj h
    obtain rfl := Except.ok.inj hanswer
    exact ⟨Arena.node?_push_self _ _, hname⟩
  | none =>
    rw [hname] at h
    obtain ⟨label, _, h⟩ := checked_bind_eq_ok h
    obtain ⟨name, builder₁, hfresh, h⟩ := run_bind_eq_ok h
    obtain ⟨names, rfl⟩ := freshName_eq_ok hfresh
    obtain ⟨_, builder₂, hdeclare, h⟩ := run_bind_eq_ok h
    obtain ⟨hanswer, rfl⟩ := Prod.mk.inj h
    obtain rfl := Except.ok.inj hanswer
    have hnames : builder.Completes settings graph region [] { builder with names } :=
      Builder.Same.completes ⟨rfl, rfl, rfl, rfl, rfl⟩ .rfl fun _ hmem => hmem
    have hdeclared : Builder.Completes settings graph region [] { builder with names } builder₂ :=
      (forgets_declarePlaceholder name).completes (advancing_declarePlaceholder name) hdeclare
    have hnone : builder₂.placeholders[id.index]? = none := by
      have hsame := placeholders_declarePlaceholder name { builder with names }
      rw [hdeclare] at hsame
      exact hsame ▸ hname
    -- The placeholder is remembered, and the answer is a new reference to it.
    refine (hnames.andThen hdeclared).andThen
      { arena := Arena.spares_push _ _
        visits := fun _ hmem => Array.mem_push_of_mem _ hmem
        statements := fun _ hmem => hmem
        remembers := fun h => h
        placeholders := fun hother => getElem?_insert_of_some hnone hother name
        rendered := .inl, constructed := .inl, patched := .inl
        declared := fun {index other} hother => ?_
        refers := fun {other answer} hmem => ?_ }
    · change (builder₂.placeholders.insert id.index name)[index]? = some other at hother
      rw [Std.TreeMap.getElem?_insert] at hother
      split at hother
      · next heq =>
        obtain rfl := Std.LawfulEqCmp.eq_of_compare heq
        exact .inr ⟨use, _, hid, Array.mem_push_self⟩
      · exact .inl hother
    · rcases Array.mem_push.1 hmem with hformer | hlast
      · exact .inl hformer
      · obtain ⟨rfl, hanswer⟩ := Prod.mk.inj hlast
        obtain rfl := Except.ok.inj hanswer
        exact .inr fun _ _ =>
          .inr ⟨name, Arena.node?_push_self _ _, Std.TreeMap.getElem?_insert_self⟩

/-! ### Builtins -/

/-- A property that was added to a builtin is asked for and written. -/
theorem completes_patch (hvisit : Completing settings graph visit) {fullName : String}
    {binding : String × ShapeId} (hmem : binding.2 ∈ graph.requests settings id)
    (h : patch graph visit fullName binding builder = (.ok ⟨⟩, builder')) :
    builder.Completes settings graph (graph.Needs settings id) [] builder' ∧
      builder'.WritesAddition graph fullName binding := by
  obtain ⟨value, builder₁, hvalue, h⟩ := run_bind_eq_ok h
  have hcompletes := hvisit.asked hmem hvalue
  have hnoted := hvisit.noted hvalue
  split at h
  · next hmember =>
    obtain ⟨_, rfl⟩ := pure_eq_ok h
    -- The platform has the member, so nothing needs to be written.
    exact ⟨hcompletes, value, hnoted, fun hnot => nomatch hmember.symm.trans hnot⟩
  · obtain ⟨owner, builder₂, howner, h⟩ := run_bind_eq_ok h
    obtain ⟨target, builder₃, htarget, hemit⟩ := run_bind_eq_ok h
    have hchain : builder₁.Completes settings graph (graph.Needs settings id) [] builder₂ :=
      (completed_platform fullName).completes howner
    have hmember : builder₂.Completes settings graph (graph.Needs settings id) [] builder₃ :=
      completes_allocation (Arena.allocates_member owner binding.1) htarget
    have hemitted : builder₃.Completes settings graph (graph.Needs settings id) [] builder' :=
      completes_emitAssign hemit
    have hlater := (hchain.andThen hmember).andThen hemitted
    refine ⟨hcompletes.andThen hlater, value, hlater.visits _ hnoted, fun _ => ?_⟩
    obtain ⟨stmt, hstmt, hassigns⟩ := assigns_of_emitAssign hemit
    refine ⟨stmt, hstmt, target, owner, hassigns, ?_⟩
    obtain ⟨rfl, rfl⟩ := onArena_eq_ok htarget
    exact (Arena.isMember_member _ _ _).mono hemitted.arena

/-- A builtin is marked before its added properties are written out. -/
theorem completes_builtin (hvisit : Completing settings graph visit) {fullName : String}
    {properties : Properties} {constructible : Bool}
    (hid : graph.shape? id = some (.builtin fullName properties constructible))
    (h : builtin graph visit id fullName properties builder = (.ok node, builder')) :
    builder.Completes settings graph (graph.Needs settings id) [] builder' := by
  rw [builtin, run_get_bind] at h
  dsimp only at h
  split at h
  · exact (completed_platform fullName).completes h
  · obtain ⟨_, builder₁, hmark, h⟩ := run_bind_eq_ok h
    obtain ⟨_, builder₂, hpatches, hplatform⟩ := run_bind_eq_ok h
    obtain ⟨_, rfl⟩ := Prod.mk.inj hmark
    have hasked {binding : String × ShapeId} (hmem : binding ∈ properties.toList) :
        binding.2 ∈ graph.requests settings id := by
      rw [ShapeGraph.requests_builtin hid]
      exact List.mem_map_of_mem hmem
    -- What is written after the mark is written in the end.
    obtain ⟨marked, hmarked⟩ : ∃ marked : Builder, marked =
      { builder with patched := builder.patched.insert id.index } := ⟨_, rfl⟩
    replace hpatches : properties.toList.forM (patch graph visit fullName) marked =
        (.ok ⟨⟩, builder₂) := hmarked ▸ hpatches
    have hitem : ∀ binding ∈ properties.toList, ∀ {done later later'},
        (marked.Completes settings graph (graph.Needs settings id) [] later ∧
          ∀ former ∈ done, later.WritesAddition graph fullName former) →
        patch graph visit fullName binding later = (.ok ⟨⟩, later') →
        marked.Completes settings graph (graph.Needs settings id) [] later' ∧
          ∀ former ∈ done ++ [binding], later'.WritesAddition graph fullName former := by
      rintro binding hmem done later later' ⟨hcompletes, hdone⟩ hpatch
      obtain ⟨hpatched, hlast⟩ := completes_patch hvisit (hasked hmem) hpatch
      refine ⟨hcompletes.andThen hpatched, fun former hformer => ?_⟩
      rcases List.mem_append.1 hformer with hformer | hformer
      · exact (hdone former hformer).mono hpatched.toCarries
      · exact List.mem_singleton.1 hformer ▸ hlast
    obtain ⟨hcompletes, hwritten⟩ := forM_ok _ hitem hpatches
      ⟨.rfl, fun former (hformer : former ∈ []) => absurd hformer List.not_mem_nil⟩
    have hlast : builder₂.Completes settings graph (graph.Needs settings id) [] builder' :=
      (completed_platform fullName).completes hplatform
    rw [hmarked] at hcompletes
    refine (hcompletes.andThen hlast).marked fun _ _ _ hid' binding hmem => ?_
    obtain ⟨rfl, rfl, rfl⟩ := Shape.builtin.inj (Option.some.inj (hid.symm.trans hid'))
    exact (hwritten binding hmem).mono hlast.toCarries

/-! ### Instances -/

/-- An instance is constructed by the node of its constructor. -/
theorem completes_instanceOf (hvisit : Completing settings graph visit) {constructor : ShapeId}
    {properties : Properties} (hid : graph.shape? id = some (.instanceOf constructor properties))
    (h : instanceOf graph visit constructor builder = (.ok node, builder')) :
    builder.Completes settings graph (graph.Needs settings id) [] builder' := by
  rw [instanceOf, run_get_bind] at h
  cases hnode : builder.instances[constructor.index]? with
  | some former =>
    rw [hnode] at h
    obtain ⟨_, rfl⟩ := pure_eq_ok h
    exact .rfl
  | none =>
    rw [hnode] at h
    obtain ⟨callee, builder₁, hcallee, h⟩ := run_bind_eq_ok h
    have hasked : constructor ∈ graph.requests settings id := by
      rw [ShapeGraph.requests_instanceOf hid]
      exact List.mem_cons_self
    refine (hvisit.asked hasked hcallee).andThen ?_
    -- The constructor may lead back to the instance, which is there then.
    rw [run_get_bind] at h
    cases hnode : builder₁.instances[constructor.index]? with
    | some former =>
      rw [hnode] at h
      obtain ⟨_, rfl⟩ := pure_eq_ok h
      exact .rfl
    | none =>
      rw [hnode] at h
      -- The instance is constructed by the answer for the constructor.
      have hnoted := hvisit.noted hcallee
      obtain ⟨hint, builder₂, hhint, hrest⟩ := run_bind_eq_ok h
      obtain rfl := instances_instanceHint hhint
      obtain ⟨made, builder₃, hmade, hrest⟩ := run_bind_eq_ok hrest
      obtain ⟨rfl, rfl⟩ := onArena_eq_ok hmade
      obtain ⟨_, builder₄, hmodify, hrest⟩ := run_bind_eq_ok hrest
      obtain ⟨_, rfl⟩ := Prod.mk.inj hmodify
      obtain ⟨rfl, rfl⟩ := pure_eq_ok hrest
      exact
        { arena := Arena.spares_pushHinted _ _ _
          visits := fun _ hmem => hmem
          statements := fun _ hmem => hmem
          remembers := fun h => h, placeholders := fun h => h
          rendered := .inl, patched := .inl, declared := .inl, refers := .inl
          constructed := fun {index other} hother => by
            change (builder₂.instances.insert constructor.index _)[index]? = some other at hother
            rw [Std.TreeMap.getElem?_insert] at hother
            split at hother
            · next heq =>
              obtain rfl := Std.LawfulEqCmp.eq_of_compare heq
              obtain rfl := Option.some.inj hother
              exact .inr ⟨callee, hnoted, Arena.node?_push_self _ _⟩
            · exact .inl hother }

/-! ### Visits -/

/-- What a rule completes if its visits do, once the answer is noted. -/
theorem completes_rule (hgraph : graph.Registered) (hvisit : Completing settings graph visit)
    (h : rule settings graph visit id builder = (.ok node, builder')) :
    builder.Completes settings graph (graph.Needs settings id) []
      { builder' with visits := builder'.visits.push (id, .ok node) } := by
  have hprimitives := hasPrimitives_of_registered hgraph
  obtain ⟨shape, hid, h⟩ := checked_bind_eq_ok h
  rw [ShapeGraph.shape_eq_ok] at hid
  -- An answer for anything but a parameter may be noted as it is.
  have hnoted (hshape : ∀ use, shape ≠ .parameter use)
      (hcompletes : builder.Completes settings graph (graph.Needs settings id) [] builder') :
      builder.Completes settings graph (graph.Needs settings id) []
        { builder' with visits := builder'.visits.push (id, .ok node) } :=
    hcompletes.andThen (Builder.completes_note fun use hid' =>
      absurd (Option.some.inj (hid.symm.trans hid')) (hshape use))
  cases shape with
  | primitive kind => exact hnoted nofun ((completed_primitive hprimitives kind).completes h)
  | object entries => exact hnoted nofun (completes_object hvisit hid rfl h)
  | array entries degraded => exact hnoted nofun (completes_array hvisit hid h)
  | function fn => exact hnoted nofun (completes_function hvisit hid h)
  | instanceOf constructor properties => exact hnoted nofun (completes_instanceOf hvisit hid h)
  | union members => exact hnoted nofun (completes_union hvisit hid h)
  | builtin fullName properties constructible => exact hnoted nofun (completes_builtin hvisit hid h)
  | global properties => exact hnoted nofun (completed_global.completes h)
  | parameter use => exact completes_parameter hid h

/-- Requests for shapes complete what they remember, at any level. -/
theorem completing_nodeWithin (hgraph : graph.Registered) (settings : Settings) (levels : Nat) :
    Completing settings graph (nodeWithin settings graph levels) := by
  induction levels with
  | zero => exact ⟨visits_nodeWithin hgraph settings 0, fun heq => nomatch congrArg Prod.fst heq⟩
  | succ levels ih =>
    refine ⟨visits_nodeWithin hgraph settings (levels + 1), fun {id builder node builder'} heq => ?_⟩
    obtain ⟨builder₁, hanswer, rfl⟩ := logged_eq_ok heq
    obtain ⟨known, builder₂, hknown, hanswer⟩ := run_bind_eq_ok hanswer
    obtain ⟨rfl, rfl⟩ := known?_eq_ok hknown
    cases hnode : builder₂.nodes[id.index]? with
    | some former =>
      rw [hnode] at hanswer
      obtain ⟨rfl, rfl⟩ := pure_eq_ok hanswer
      exact Builder.completes_note fun _ _ => .inl (Option.isSome_of_eq_some hnode)
    | none =>
      rw [hnode] at hanswer
      exact completes_rule hgraph ih hanswer

/-! ### The global scope -/

/-- A statement that gives a binding of the global scope its value. -/
def AssignsShape (builder : Builder) (id : ShapeId) (stmt : NodeId) : Prop :=
  stmt ∈ builder.statements ∧ ∃ target value, builder.arena.Assigns stmt target value ∧
    (id, .ok value) ∈ builder.visits

/-- A statement that assigns the value of a shape does so later as well. -/
theorem AssignsShape.mono {stmt : NodeId} (h : AssignsShape builder id stmt)
    (hcarries : builder.Carries own builder') : AssignsShape builder' id stmt := by
  obtain ⟨hmem, target, value, hassigns, hvisit⟩ := h
  exact ⟨hcarries.statements _ hmem, target, value, hassigns.mono hcarries.arena,
    hcarries.visits _ hvisit⟩

/-- The statement for a global binding is at the top level when it is returned, and all that was
    remembered for its value is put together. -/
theorem completes_assignGlobal (hgraph : graph.Registered) {name : String}
    (hregion : ∀ value, graph.Needs settings id value → region value) {stmt : NodeId}
    (h : assignGlobal settings graph name id builder = (.ok stmt, builder')) :
    builder.Completes settings graph region [] builder' ∧ AssignsShape builder' id stmt := by
  have hvisit := completing_nodeWithin hgraph settings (levels graph)
  obtain ⟨value, builder₁, hvalue, h⟩ := run_bind_eq_ok h
  have hcompletes : builder.Completes settings graph region [] builder₁ :=
    (hvisit.completes hvalue).mono hregion (List.nil_subset _)
  have hnoted := hvisit.noted hvalue
  -- The target may make use of the global scope, and then the statement is made.
  have hassigned {target : NodeId} {builder₂ : Builder}
      (htarget : builder₁.Completes settings graph region [] builder₂)
      (h : (do
        let stmt ← onArena (Arena.assignStmt target value)
        emit stmt
        return stmt : Gen NodeId) builder₂ = (.ok stmt, builder')) :
      builder.Completes settings graph region [] builder' ∧ AssignsShape builder' id stmt := by
    obtain ⟨made, builder₃, hmade, h⟩ := run_bind_eq_ok h
    obtain ⟨rfl, rfl⟩ := onArena_eq_ok hmade
    obtain ⟨_, builder₄, hemit, h⟩ := run_bind_eq_ok h
    obtain ⟨_, rfl⟩ := Prod.mk.inj hemit
    obtain ⟨rfl, rfl⟩ := pure_eq_ok h
    refine ⟨(hcompletes.andThen htarget).andThen (Builder.Same.completes ⟨rfl, rfl, rfl, rfl, rfl⟩
      (Arena.allocates_assignStmt target value _).spares fun _ hmem =>
        Array.mem_push_of_mem _ hmem), Array.mem_push_self, target, value,
      Arena.assigns_assignStmt target value _, htarget.visits _ hnoted⟩
  split at h
  · obtain ⟨target, builder₂, htarget, h⟩ := run_bind_eq_ok h
    exact hassigned (completes_leaf htarget) h
  · obtain ⟨scope, builder₂, hscope, h⟩ := run_bind_eq_ok h
    obtain ⟨target, builder₃, htarget, h⟩ := run_bind_eq_ok h
    exact hassigned ((completed_global.completes hscope).andThen
      (completes_allocation (Arena.allocates_member scope name) htarget)) h

end Gen

end Semblance
