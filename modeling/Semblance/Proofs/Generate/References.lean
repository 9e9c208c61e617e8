import Semblance.Proofs.Generate.Advances
import Semblance.Proofs.Shape.Registered

/-!
# What rules for references add

Primitives are leaves or shared nodes, and the global scope, builtins and parameters are referred to
by name. These rules fill no containers, so they leave no object open.

## Key results

- `opens_primitive`, `opens_global`, `opens_parameter`: rules that make no requests
- `opens_builtin`: a rule that marks the shape and goes ahead if its visits do
-/

namespace Semblance

namespace Gen

/-- Requests for shapes go ahead, leave what is asked for settled, and are noted. -/
structure Visits (graph : ShapeGraph) (visit : Visit) : Prop where
  advancing : ∀ id builder, Advancing graph [] (visit id) builder
  settles : ∀ {id builder node builder'}, visit id builder = (.ok node, builder') →
    builder'.Settled graph id node
  noted : ∀ {id builder node builder'}, visit id builder = (.ok node, builder') →
    (id, .ok node) ∈ builder'.visits

variable {settings : Settings} {graph : ShapeGraph} {builder builder' : Builder} {visit : Visit}
  {id : ShapeId} {own : List NodeId}

/-- A visit goes ahead whatever containers are being filled. -/
theorem Visits.within (h : Visits graph visit) (id : ShapeId) (builder : Builder) :
    Advancing graph own (visit id) builder :=
  (h.advancing id builder).mono (List.nil_subset own)

/-! ### Primitives -/

/-- A generation goes ahead and remembers nothing for a shape. -/
structure Passes (graph : ShapeGraph) (shape : ShapeId) (gen : Gen α) : Prop where
  advancing : ∀ own builder, Advancing graph own gen builder
  nodes : ∀ builder, (gen builder).2.nodes[shape.index]? = builder.nodes[shape.index]?

/-- Whatever a generation answers is a new node. -/
structure AnswersNew (gen : Gen NodeId) : Prop where
  size_le : ∀ {builder node builder'}, gen builder = (.ok node, builder') →
    builder.arena.size ≤ node.index

variable {shape : ShapeId} {kind : PrimitiveKind}

/-- A generation in two parts passes a shape if both parts do. -/
theorem Passes.bind {gen : Gen α} {next : α → Gen β} (h : Passes graph shape gen)
    (hnext : ∀ result, Passes graph shape (next result)) : Passes graph shape (gen >>= next) where
  advancing own builder := (h.advancing own builder).andThen fun result builder' =>
    (hnext result).advancing own builder'
  nodes builder := by
    have hnodes := h.nodes builder
    obtain ⟨answer, builder', hgen⟩ := exists_run gen builder
    rw [hgen] at hnodes
    cases answer with
    | error fault => rw [run_bind_error hgen, hnodes]
    | ok result => rw [run_bind hgen, (hnext result).nodes builder', hnodes]

/-- A member chain is remembered for no shape. -/
theorem passes_platform (path : String) : Passes graph shape (platform path) :=
  ⟨fun _ _ => advancing_platform path, fun _ => rfl⟩

/-- A leaf is remembered for no shape. -/
theorem passes_leaf (origin : Origin) : Passes graph shape (leaf origin) :=
  ⟨fun _ _ => advancing_leaf origin, fun _ => rfl⟩

/-- A node with a hint is remembered for no shape by itself. -/
theorem passes_hinted (node : Node) (hint : String) :
    Passes graph shape (onArena (Arena.pushHinted node hint)) :=
  ⟨fun _ _ => advancing_hinted node hint, fun _ => rfl⟩

/-- The answer is that of the last part, and the arena does not shrink before it. -/
theorem Passes.answersNew {gen : Gen α} {next : α → Gen NodeId} (h : Passes graph shape gen)
    (hnext : ∀ result, AnswersNew (next result)) : AnswersNew (gen >>= next) where
  size_le {builder node builder'} heq := by
    obtain ⟨result, builder₁, hgen, hrest⟩ := run_bind_eq_ok heq
    have hsize := ((h.advancing [] builder).of_eq hgen).arena.size
    exact Nat.le_trans hsize ((hnext result).size_le hrest)

/-- A node with a hint is new. -/
theorem answersNew_hinted (node : Node) (hint : String) :
    AnswersNew (onArena (Arena.pushHinted node hint)) where
  size_le heq := by
    obtain ⟨rfl, _⟩ := onArena_eq_ok heq
    exact Nat.le_refl _

/-- What is built for a shape is remembered, and the generation goes on. -/
theorem Advancing.remembered {build : Gen NodeId} {next : NodeId → Gen α}
    (h : Advancing graph own build builder) (shape : ShapeId)
    (hremember : ∀ node builder', build builder = (.ok node, builder') →
      builder.Advances graph own
        { builder' with nodes := builder'.nodes.insert shape.index node })
    (hnext : ∀ node builder', Advancing graph own (next node) builder') :
    Advancing graph own (do let node ← build; remember shape node; next node) builder := by
  obtain ⟨answer, builder', hbuild⟩ := exists_run build builder
  cases answer with
  | error fault => exact h.bind fun _ _ heq _ => nomatch congrArg Prod.fst (hbuild.symm.trans heq)
  | ok node =>
    have hrest := hnext node { builder' with nodes := builder'.nodes.insert shape.index node }
    have hrun : (do let node ← build; remember shape node; next node) builder =
        next node { builder' with nodes := builder'.nodes.insert shape.index node } :=
      (run_bind hbuild).trans (run_bind rfl)
    refine ⟨?_, fun heq visit hmem => ?_⟩
    · rw [hrun]
      exact (hremember node builder' hbuild).trans hrest.advances
    · -- A request is one of the first part or one of what follows.
      rcases hrest.answered (hrun.symm.trans heq) visit hmem with hformer | hok
      · exact h.answered hbuild visit hformer
      · exact .inr hok

/-- What is built for a primitive kind is remembered for it. -/
theorem shared_finds {build : Gen NodeId} {node : NodeId}
    (h : shared kind build builder = (.ok node, builder')) :
    builder'.nodes[(ShapeGraph.primitive kind).index]? = some node := by
  obtain ⟨known, builder₁, hknown, h⟩ := run_bind_eq_ok h
  obtain ⟨rfl, rfl⟩ := known?_eq_ok hknown
  cases hnode : builder₁.nodes[(ShapeGraph.primitive kind).index]? with
  | some former =>
    rw [hnode] at h
    obtain ⟨rfl, rfl⟩ := pure_eq_ok h
    exact hnode
  | none =>
    rw [hnode] at h
    -- The node is built and remembered for the kind.
    obtain ⟨made, builder₂, _, h⟩ := run_bind_eq_ok h
    obtain ⟨_, builder₃, hremember, h⟩ := run_bind_eq_ok h
    obtain ⟨_, rfl⟩ := Prod.mk.inj hremember
    obtain ⟨rfl, rfl⟩ := pure_eq_ok h
    exact Std.TreeMap.getElem?_insert_self

section

variable (hprimitives : graph.HasPrimitives)
include hprimitives

/-- What is built for a primitive kind is remembered for this kind, as a new node. -/
theorem advancing_shared {build : Gen NodeId}
    (hbuild : Passes graph (ShapeGraph.primitive kind) build) (hanswers : AnswersNew build)
    (hkind : (Shape.primitive kind).isRemembered = true) :
    Advancing graph own (shared kind build) builder := by
  refine (advancing_known? _).bind fun known builder' hknown _ => ?_
  obtain ⟨rfl, rfl⟩ := known?_eq_ok hknown
  split
  · exact advancing_pure _
  · next hnone =>
    refine .remembered (hbuild.advancing own builder') _ (fun node builder'' heq => ?_)
      fun node _ => advancing_pure node
    have hnodes := hbuild.nodes builder'
    rw [heq, hnone] at hnodes
    exact ((hbuild.advancing own builder').of_eq heq).remember (hprimitives kind) hkind hnodes
      (hanswers.size_le heq) (.inr nofun)

/-- Nothing is remembered for a shape of another kind. -/
theorem passes_shared {build : Gen NodeId} (hne : ShapeGraph.primitive kind ≠ shape)
    (hbuild : Passes graph (ShapeGraph.primitive kind) build) (hshape : Passes graph shape build)
    (hanswers : AnswersNew build) (hkind : (Shape.primitive kind).isRemembered = true) :
    Passes graph shape (shared kind build) where
  advancing _ _ := advancing_shared hprimitives hbuild hanswers hkind
  nodes builder := by
    -- Another id is remembered, so that of the shape stays as it is.
    have hindex : (ShapeGraph.primitive kind).index ≠ shape.index :=
      fun heq => hne (congrArg ShapeId.mk heq)
    have hknown : known? (ShapeGraph.primitive kind) builder =
        (.ok builder.nodes[(ShapeGraph.primitive kind).index]?, builder) := rfl
    rw [shared, run_bind hknown]
    cases hnode : builder.nodes[(ShapeGraph.primitive kind).index]? with
    | some node => rfl
    | none =>
      have hnodes := hshape.nodes builder
      obtain ⟨answer, builder', heq⟩ := exists_run build builder
      rw [heq] at hnodes
      dsimp only
      cases answer with
      | error fault => rw [run_bind_error heq, hnodes]
      | ok node =>
        rw [run_bind heq]
        show (builder'.nodes.insert (ShapeGraph.primitive kind).index node)[shape.index]? = _
        rw [Std.TreeMap.getElem?_insert, if_neg (by simpa using hindex), hnodes]

/-- A number is remembered as a number only. -/
theorem passes_numberNode (hne : ShapeGraph.primitive .number ≠ shape) :
    Passes graph shape numberNode := by
  have hbuild (shape : ShapeId) : Passes graph shape (do
      let random ← platform "Math.random"
      onArena (Arena.pushHinted (.call random #[]) "$NUMBER$")) :=
    (passes_platform _).bind fun _ => passes_hinted _ _
  exact passes_shared hprimitives hne (hbuild _) (hbuild _)
    ((passes_platform _ : Passes graph shape _).answersNew fun _ => answersNew_hinted _ _) rfl

/-- The node for strings uses that for numbers, and these two kinds are all it remembers. -/
theorem passes_stringNode (hne : ShapeGraph.primitive .number ≠ shape)
    (hne' : ShapeGraph.primitive .string ≠ shape) : Passes graph shape stringNode := by
  have hbuild {shape : ShapeId} (hne : ShapeGraph.primitive .number ≠ shape) :
      Passes graph shape (do
        let number ← numberNode
        let callee ← leaf (.platform "String")
        onArena (Arena.pushHinted (.call callee #[number]) "$STRING$")) :=
    (passes_numberNode hprimitives hne).bind fun _ => (passes_leaf _).bind fun _ =>
      passes_hinted _ _
  exact passes_shared hprimitives hne' (hbuild (by decide)) (hbuild hne)
    ((passes_numberNode hprimitives hne).answersNew fun _ =>
      (passes_leaf _ : Passes graph shape _).answersNew fun _ => answersNew_hinted _ _) rfl

/-- The node for booleans uses that for numbers. -/
theorem advancing_booleanNode : Advancing graph own booleanNode builder := by
  have hnumber : Passes graph (ShapeGraph.primitive .boolean) numberNode :=
    passes_numberNode hprimitives (by decide)
  exact advancing_shared hprimitives (hnumber.bind fun _ => passes_hinted _ _)
    (hnumber.answersNew fun _ => answersNew_hinted _ _) rfl

/-- The node for regular expressions uses that for strings. -/
theorem advancing_regexpNode : Advancing graph own regexpNode builder := by
  have hstring : Passes graph (ShapeGraph.primitive .regexp) stringNode :=
    passes_stringNode hprimitives (by decide) (by decide)
  have hleaf : Passes graph (ShapeGraph.primitive .regexp) (leaf (.platform "RegExp")) :=
    passes_leaf _
  exact advancing_shared hprimitives
    (hstring.bind fun _ => hleaf.bind fun _ => passes_hinted _ _)
    (hstring.answersNew fun _ => hleaf.answersNew fun _ => answersNew_hinted _ _) rfl

/-- The rule for a primitive makes no requests and leaves nothing open. -/
theorem opens_primitive (kind : PrimitiveKind) (hid : id = ShapeGraph.primitive kind) :
    Opens graph id (primitive kind) builder := by
  subst hid
  cases kind with
  | undefined =>
    exact (advancing_allocation Arena.allocates_undefined).opens
      fun _ => .undefined _ (hprimitives .undefined)
  | null =>
    exact (advancing_allocation (Arena.allocates_push rfl)).opens
      fun _ => .null _ (hprimitives .null)
  | boolean => exact (advancing_booleanNode hprimitives).opens fun h => .node (shared_finds h)
  | number =>
    have hnumber : Passes graph (ShapeGraph.primitive .null) numberNode :=
      passes_numberNode hprimitives (by decide)
    exact (hnumber.advancing _ _).opens fun h => .node (shared_finds h)
  | string =>
    have hstring : Passes graph (ShapeGraph.primitive .null) stringNode :=
      passes_stringNode hprimitives (by decide) (by decide)
    exact (hstring.advancing _ _).opens fun h => .node (shared_finds h)
  | regexp => exact (advancing_regexpNode hprimitives).opens fun h => .node (shared_finds h)

end

/-! ### Names -/

/-- A reference is a new node, and it is noted what it refers to. -/
theorem advancing_refer (name : String) (referent : Referent) :
    Advancing graph own (refer name referent) builder :=
  (advancing_push _).andThen fun _ _ =>
    (advancing_modify ⟨id, id, id, id, id⟩ .rfl rfl rfl).andThen fun _ _ => advancing_pure _

/-- A generation that draws a name and puts it to use. -/
theorem advancing_freshName {hint : Option String} {next : String → Gen α}
    (h : ∀ name names, Advancing graph own (next name) { builder with names }) :
    Advancing graph own (freshName hint >>= next) builder := by
  -- What follows starts from the builder with the supply that is left.
  have hdraw : freshName hint builder = _ :=
    run_bind (show (get : Gen Builder) builder = (.ok builder, builder) from rfl)
  have hnames (names : NameSupply) : builder.Advances graph own { builder with names } :=
    Builder.advances_of_knows ⟨id, id, id, id, id⟩ .rfl rfl rfl
  have hfreshName : Advancing graph own (freshName hint) builder := by
    cases hfresh : builder.names.fresh? hint with
    | none =>
      rw [hfresh] at hdraw
      exact advancing_of_visits_eq (by rw [hdraw]; exact .rfl) (by rw [hdraw]; rfl)
    | some drawn =>
      rw [hfresh] at hdraw
      exact advancing_of_visits_eq (by rw [hdraw]; exact hnames drawn.2) (by rw [hdraw]; rfl)
  refine hfreshName.bind fun name builder' heq _ => ?_
  cases hfresh : builder.names.fresh? hint with
  | none =>
    rw [hfresh] at hdraw
    exact nomatch congrArg Prod.fst (hdraw.symm.trans heq)
  | some drawn =>
    rw [hfresh] at hdraw
    obtain ⟨hname, rfl⟩ := Prod.mk.inj (hdraw.symm.trans heq)
    exact Except.ok.inj hname ▸ h drawn.1 drawn.2

/-- A declaration is built of new nodes. -/
theorem advancing_varDecl (name : String) (init : Option NodeId) :
    Advancing graph own (onArena (Arena.varDecl name init)) builder :=
  advancing_onArena ((Arena.spares_push _ _).trans (Arena.spares_push _ _))

/-- The binding for the global scope is declared if it was not declared before. -/
theorem advancing_global : Advancing graph own (global settings) builder := by
  refine .ofState ?_
  split
  · exact advancing_refer _ _
  · next hnone =>
    refine advancing_freshName fun name names => ?_
    refine (advancing_push _).bind fun scope builder₁ hscope _ => ?_
    obtain ⟨_, rfl⟩ := onArena_eq_ok hscope
    refine (advancing_varDecl name _).bind fun decl builder₂ hdecl _ => ?_
    obtain ⟨_, rfl⟩ := onArena_eq_ok hdecl
    refine (advancing_emit decl).bind fun _ builder₃ hemit _ => ?_
    obtain ⟨_, rfl⟩ := Prod.mk.inj hemit
    refine Advancing.andThen (advancing_modify ⟨id, id, id, fun h => ?_, id⟩ .rfl rfl rfl)
      fun _ _ => advancing_refer name .scope
    -- There was no name that could be forgotten.
    cases hnone.symm.trans h

/-- The rule for the global scope makes no requests and leaves nothing open. -/
theorem opens_global {properties : Properties} (hid : graph.shape? id = some (.global properties)) :
    Opens graph id (global settings) builder := by
  refine advancing_global.opens fun {node builder'} h => ?_
  rw [global, run_get_bind] at h
  cases hname : builder.globalName with
  | some name =>
    rw [hname] at h
    obtain ⟨_, rfl⟩ := Prod.mk.inj h
    exact .global node hid hname
  | none =>
    rw [hname] at h
    obtain ⟨name, builder₂, _, h⟩ := run_bind_eq_ok h
    obtain ⟨_, rfl⟩ := Prod.mk.inj h
    exact .global node hid rfl

/-- The declarator of a placeholder is put into the declaration of the placeholders. -/
theorem advancing_declarePlaceholder (name : String) :
    Advancing graph own (declarePlaceholder name) builder := by
  refine (advancing_push _).andThen fun declarator builder₁ => .ofState ?_
  split
  · exact advancing_onArena (Arena.spares_appendDeclarator _ _)
  · exact (advancing_push _).andThen fun _ _ => advancing_modify ⟨id, id, id, id, id⟩ .rfl rfl rfl

/-- The name is noted for the parameter only afterwards. -/
theorem placeholders_declarePlaceholder (name : String) (builder : Builder) :
    (Gen.declarePlaceholder name builder).2.placeholders = builder.placeholders := by
  obtain ⟨_, _, decl, _⟩ := builder
  cases decl <;> rfl

/-- The placeholder of a parameter is declared if it was not declared before. -/
theorem advancing_parameter (id : ShapeId) (use : Parameter) :
    Advancing graph own (parameter graph id use) builder := by
  refine .ofState ?_
  split
  · exact advancing_refer _ _
  · next hnone =>
    refine (advancing_checked _).bind fun label builder₁ hchecked _ => ?_
    obtain ⟨_, rfl⟩ := checked_eq_ok hchecked
    refine advancing_freshName fun name names => ?_
    refine (advancing_declarePlaceholder name).bind fun _ builder₂ hdeclare _ => ?_
    -- Declaring the placeholder leaves the names of the others as they are.
    have hplaceholders := placeholders_declarePlaceholder name { builder₁ with names }
    rw [hdeclare] at hplaceholders
    have hnone : builder₂.placeholders[id.index]? = none := hplaceholders ▸ hnone
    exact Advancing.andThen (advancing_modify ⟨fun h => h, fun h => h, fun h => h, fun h => h,
      fun hother => getElem?_insert_of_some hnone hother name⟩ .rfl rfl rfl)
        fun _ _ => advancing_refer name _

/-- The rule for a parameter makes no requests and leaves nothing open. -/
theorem opens_parameter {use : Parameter} (hid : graph.shape? id = some (.parameter use)) :
    Opens graph id (parameter graph id use) builder := by
  refine (advancing_parameter id use).opens fun {node builder'} h => ?_
  rw [parameter, run_get_bind] at h
  cases hname : builder.placeholders[id.index]? with
  | some name =>
    rw [hname] at h
    obtain ⟨_, rfl⟩ := Prod.mk.inj h
    exact .parameter node hid hname
  | none =>
    rw [hname] at h
    -- The name that is noted here is never changed.
    obtain ⟨label, builder₂, _, h⟩ := run_bind_eq_ok h
    obtain ⟨name, builder₃, _, h⟩ := run_bind_eq_ok h
    obtain ⟨_, builder₄, _, h⟩ := run_bind_eq_ok h
    obtain ⟨_, rfl⟩ := Prod.mk.inj h
    exact .parameter node hid Std.TreeMap.getElem?_insert_self

/-- One property that was added to a builtin is written out, after a request for its value. -/
theorem advancing_patch (hvisit : Visits graph visit) (fullName : String)
    (binding : String × ShapeId) :
    Advancing graph own (patch graph visit fullName binding) builder := by
  refine (hvisit.within _ builder).andThen fun value _ => ?_
  split
  · exact advancing_pure _
  · exact (advancing_platform fullName).andThen fun owner _ =>
      (advancing_allocation (Arena.allocates_member owner _)).andThen fun target _ =>
        advancing_emitAssign target value

/-- All properties that were added to a builtin are written out, and then it is referred to. -/
theorem advancing_patches (hvisit : Visits graph visit) (fullName : String)
    (properties : Properties) :
    Advancing graph own (do
      properties.toList.forM (patch graph visit fullName)
      platform fullName) builder :=
  (advancing_forM fun binding _ _ => advancing_patch hvisit fullName binding).andThen fun _ _ =>
    advancing_platform fullName

/-- A builtin is marked before its properties are written out. -/
theorem opens_builtin (hvisit : Visits graph visit) {fullName : String} {properties : Properties}
    {constructible : Bool}
    (hid : graph.shape? id = some (.builtin fullName properties constructible)) :
    Opens graph id (builtin graph visit id fullName properties) builder := by
  -- A mark is kept by all that follows it.
  have hmarked (builder : Builder) :
      builder.Knows { builder with patched := builder.patched.insert id.index } :=
    ⟨fun h => h, fun h => h, fun h => by simp [h], fun h => h, fun h => h⟩
  have hadvancing : Advancing graph [] (builtin graph visit id fullName properties) builder := by
    refine .ofState ?_
    dsimp only
    split
    · exact advancing_platform fullName
    · exact Advancing.andThen (advancing_modify (hmarked builder) .rfl rfl rfl) fun _ _ =>
        advancing_patches hvisit fullName properties
  refine hadvancing.opens fun {node builder'} h => .builtin node hid ?_
  rw [builtin, run_get_bind] at h
  dsimp only at h
  split at h
  · next hmark =>
    have hplatform : Advancing graph [] (platform fullName) builder := advancing_platform fullName
    exact (hplatform.of_eq h).patched hmark
  · obtain ⟨_, builder₂, hmark, h⟩ := run_bind_eq_ok h
    obtain ⟨_, rfl⟩ := Prod.mk.inj hmark
    have hpatches : Advancing graph [] (do
        properties.toList.forM (patch graph visit fullName)
        platform fullName) { builder with patched := builder.patched.insert id.index } :=
      advancing_patches hvisit fullName properties
    exact (hpatches.of_eq h).patched (by simp)

end Gen

end Semblance
