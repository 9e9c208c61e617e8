import Semblance.Proofs.Generate.Accounts

/-!
# Generations that account for what they do

A generation that ends without a fault accounts for what it emits and answers. Most parts of a rule
emit nothing, so their accounts are empty, and those of a rule are put together from those of its
parts. Primitives are leaves or shared nodes, and the global scope, builtins and parameters are
referred to by new leaves.

## Key results

- `Accounting.bind`, `accounting_forM`, `accounting_foldlM`: generations made from others
- `accounting_primitive`, `accounting_global`, `accounting_parameter`: rules that ask for nothing
- `platform_eq_ok`: the member chain of a dotted name
-/

namespace Semblance

namespace Gen

variable {settings : Settings} {graph : ShapeGraph} {builder builder' : Builder} {id : ShapeId}
  {node : NodeId}

/-- Whatever a generation emits and answers is accounted for. -/
structure Accounting (settings : Settings) (graph : ShapeGraph) (gen : Gen α) (builder : Builder) :
    Prop where
  accounts : ∀ {result builder'}, gen builder = (.ok result, builder') →
    ∃ emissions, builder.Accounts settings graph [] emissions builder'

/-! ### Generations made from others -/

/-- A generation that accounts for what it does goes on from what was known. -/
theorem Accounting.extends {gen : Gen α} {result : α} (h : Accounting settings graph gen builder)
    (heq : gen builder = (.ok result, builder')) : builder.Extends graph builder' := by
  obtain ⟨emissions, haccounts⟩ := h.accounts heq
  exact haccounts.toExtends

/-- The accounts of a generation in two parts are those of its parts. -/
theorem Accounting.bind {gen : Gen α} {next : α → Gen β} (h : Accounting settings graph gen builder)
    (hnext : ∀ result builder', gen builder = (.ok result, builder') →
      builder.Extends graph builder' → Accounting settings graph (next result) builder') :
    Accounting settings graph (gen >>= next) builder where
  accounts heq := by
    obtain ⟨result, builder₁, hgen, hrest⟩ := run_bind_eq_ok heq
    obtain ⟨emissions, haccounts⟩ := h.accounts hgen
    obtain ⟨emissions', haccounts'⟩ := (hnext result _ hgen haccounts.toExtends).accounts hrest
    exact ⟨emissions ++ emissions', haccounts.trans haccounts'⟩

/-- The next generation accounts for what it does from any builder. -/
theorem Accounting.andThen {gen : Gen α} {next : α → Gen β}
    (h : Accounting settings graph gen builder)
    (hnext : ∀ result builder', Accounting settings graph (next result) builder') :
    Accounting settings graph (gen >>= next) builder :=
  h.bind fun result builder' _ _ => hnext result builder'

/-- A generation that looks at the builder first. -/
theorem Accounting.ofState {next : Builder → Gen α}
    (h : Accounting settings graph (next builder) builder) :
    Accounting settings graph (get >>= next) builder :=
  ⟨fun heq => h.accounts heq⟩

/-- Nothing is remembered, marked, answered or emitted. -/
theorem accounting_of_extends {gen : Gen α} (h : builder.Extends graph (gen builder).2)
    (hnodes : (gen builder).2.nodes = builder.nodes)
    (hpatched : (gen builder).2.patched = builder.patched)
    (hvisits : (gen builder).2.visits = builder.visits)
    (hstatements : (gen builder).2.statements = builder.statements) :
    Accounting settings graph gen builder where
  accounts heq := by
    rw [heq] at h hnodes hpatched hvisits hstatements
    exact ⟨[], h.accounts hnodes hpatched hvisits hstatements⟩

/-- A mere answer emits nothing. -/
theorem accounting_pure (result : α) : Accounting settings graph (pure result) builder :=
  accounting_of_extends .rfl rfl rfl rfl rfl

/-- An access to the shapes emits nothing. -/
theorem accounting_checked (access : Except OutOfRange α) :
    Accounting settings graph (checked access) builder where
  accounts heq := by
    obtain ⟨_, rfl⟩ := checked_eq_ok heq
    exact ⟨[], .rfl⟩

/-- A look at the remembered nodes emits nothing. -/
theorem accounting_known? (shape : ShapeId) : Accounting settings graph (known? shape) builder :=
  accounting_of_extends .rfl rfl rfl rfl rfl

/-- A change of the arena in which nodes stay what they are emits nothing. -/
theorem accounting_onArena {build : StateM Arena α}
    (h : builder.arena.Stays (build builder.arena).2) :
    Accounting settings graph (onArena build) builder where
  accounts heq := by
    obtain ⟨_, rfl⟩ := onArena_eq_ok heq
    exact ⟨[], Builder.accounts_arena h⟩

/-- Allocations emit nothing. -/
theorem accounting_allocation {build : StateM Arena α} (h : Arena.AllocatesOnly build) :
    Accounting settings graph (onArena build) builder :=
  accounting_onArena (h _).stays

/-- The allocation of a node with a hint emits nothing. -/
theorem accounting_hinted (made : Node) (hint : String) :
    Accounting settings graph (onArena (Arena.pushHinted made hint)) builder :=
  accounting_onArena (Arena.stays_pushHinted made hint _)

/-- A leaf emits nothing. It is noted what it was made for. -/
theorem accounting_leaf (origin : Origin) : Accounting settings graph (leaf origin) builder :=
  accounting_of_extends (Builder.extends_leaf origin) rfl rfl rfl rfl

/-- A member chain of the platform emits nothing. -/
theorem accounting_platform (path : String) :
    Accounting settings graph (platform path) builder :=
  (accounting_leaf _).andThen fun root _ =>
    accounting_allocation (Arena.allocates_foldlM Arena.allocates_member _ root)

/-- A reference to a binding emits nothing. -/
theorem accounting_refer (name : String) (referent : Referent) :
    Accounting settings graph (refer name referent) builder :=
  accounting_of_extends (Builder.extends_of_arena (Arena.stays_push (.ident name) builder.arena)
    rfl rfl rfl rfl rfl rfl rfl) rfl rfl rfl rfl

/-- A statement that goes into a block is not emitted. -/
theorem accounting_assignIn (block target value : NodeId) :
    Accounting settings graph (assignIn block target value) builder :=
  accounting_onArena ((Arena.allocates_assignStmt target value builder.arena).stays.trans
    (Arena.stays_appendStmt _ _))

/-- A shape is remembered that is neither a function nor a primitive. -/
theorem accounting_remember {shape : Shape} (hid : graph.shape? id = some shape)
    (hfunction : ∀ fn, shape ≠ .function fn) (hprimitive : ∀ kind, shape ≠ .primitive kind)
    (node : NodeId) : Accounting settings graph (remember id node) builder where
  accounts heq := by
    obtain ⟨_, rfl⟩ := Prod.mk.inj heq
    exact ⟨[], Builder.accounts_remember hid hfunction
      fun kind hkind => absurd hkind (hprimitive kind)⟩

/-- A generation over a list accounts for what is done for each item. -/
theorem accounting_forM {action : α → Gen PUnit} {items : List α}
    (h : ∀ item ∈ items, ∀ builder', Accounting settings graph (action item) builder') :
    Accounting settings graph (items.forM action) builder := by
  induction items generalizing builder with
  | nil => exact accounting_pure _
  | cons item items ih =>
    exact (h item List.mem_cons_self builder).andThen fun _ _ =>
      ih fun other hmem => h other (List.mem_cons_of_mem _ hmem)

/-- A generation that collects the answers for a list accounts for what is done for each item. -/
theorem accounting_mapM {action : α → Gen β} {items : List α}
    (h : ∀ item builder', Accounting settings graph (action item) builder') :
    Accounting settings graph (items.mapM action) builder := by
  induction items generalizing builder with
  | nil => exact accounting_pure _
  | cons item items ih =>
    rw [List.mapM_cons]
    exact (h item builder).andThen fun _ _ => ih.andThen fun _ _ => accounting_pure _

/-- A generation that hands each answer on accounts for what is done for each item. -/
theorem accounting_foldlM {step : β → α → Gen β} {items : List α}
    (h : ∀ state item builder', Accounting settings graph (step state item) builder') (state : β) :
    Accounting settings graph (items.foldlM step state) builder := by
  induction items generalizing builder state with
  | nil => exact accounting_pure _
  | cons item items ih =>
    rw [List.foldlM_cons]
    exact (h state item builder).andThen fun state' _ => ih state'

/-! ### Primitives -/

/-- Whatever a generation answers is a node that stays as it is. -/
structure AnswersFixed (gen : Gen NodeId) : Prop where
  fixed : ∀ {builder node builder'}, gen builder = (.ok node, builder') → builder'.arena.IsFixed node

/-- What is answered in the end counts. -/
theorem AnswersFixed.after {gen : Gen α} {next : α → Gen NodeId}
    (h : ∀ result, AnswersFixed (next result)) : AnswersFixed (gen >>= next) where
  fixed heq := by
    obtain ⟨result, _, _, hrest⟩ := run_bind_eq_ok heq
    exact (h result).fixed hrest

/-- A new node stays as it is if nothing of its kind is changed later. -/
theorem answersFixed_hinted {made : Node} {hint : String} (hkind : made.isContainer = false)
    (hbinding : made.isBinding = false) :
    AnswersFixed (onArena (Arena.pushHinted made hint)) where
  fixed heq := by
    obtain ⟨rfl, rfl⟩ := onArena_eq_ok heq
    exact ⟨made, Arena.node?_push_self _ _, hkind, hbinding⟩

/-- What is allocated without a hint has none. -/
theorem hint_of_allocation {build : StateM Arena NodeId} (h : Arena.AllocatesOnly build)
    (heq : onArena build builder = (.ok node, builder'))
    (hnew : builder.arena.size ≤ node.index)
    (hsize : builder'.arena.hints.size = builder'.arena.nodes.size) :
    builder'.arena.hint node = none := by
  obtain ⟨_, rfl⟩ := onArena_eq_ok heq
  exact (h builder.arena).hint_new hnew hsize

/-- The undefined value is denoted by `void 0`, and so is a union of nothing. -/
theorem answers_undefined
    (hid : graph.shape? id = some (.primitive .undefined) ∨ graph.shape? id = some (.union []))
    (h : onArena Arena.undefined builder = (.ok node, builder')) :
    builder'.Answers graph id node := by
  have hsize : builder.arena.size ≤ node.index := by
    obtain ⟨rfl, _⟩ := onArena_eq_ok h
    exact (Arena.stays_push _ _).size
  have hhint := hint_of_allocation Arena.allocates_undefined h hsize
  obtain ⟨rfl, rfl⟩ := onArena_eq_ok h
  exact .denoted (.undefined hid (Arena.node?_push_self _ _)
    (Arena.node?_push_of_node? (Arena.node?_push_self _ _) _)) hhint

section

variable (hprimitives : graph.HasPrimitives)
include hprimitives

/-- A primitive is remembered when it is built, and its node stays as it is. -/
theorem accounting_shared {kind : PrimitiveKind} {build : Gen NodeId}
    (hbuild : ∀ builder, Accounting settings graph build builder) (hfixed : AnswersFixed build) :
    Accounting settings graph (shared kind build) builder := by
  refine (accounting_known? _).andThen fun known builder' => ?_
  split
  · exact accounting_pure _
  · refine (hbuild builder').bind fun made builder₁ hmade _ => ?_
    exact Accounting.andThen ⟨fun heq => by
      obtain ⟨_, rfl⟩ := Prod.mk.inj heq
      exact ⟨[], Builder.accounts_remember (hprimitives kind) nofun
        fun _ _ => hfixed.fixed hmade⟩⟩ fun _ _ => accounting_pure _

/-- A number emits nothing. -/
theorem accounting_numberNode : Accounting settings graph numberNode builder :=
  accounting_shared hprimitives
    (fun _ => (accounting_platform _).andThen fun _ _ => accounting_hinted _ _)
    (.after fun _ => answersFixed_hinted rfl rfl)

/-- A string emits nothing. -/
theorem accounting_stringNode : Accounting settings graph stringNode builder :=
  accounting_shared hprimitives (fun _ => (accounting_numberNode hprimitives).andThen fun _ _ =>
    (accounting_leaf _).andThen fun _ _ => accounting_hinted _ _)
    (.after fun _ => .after fun _ => answersFixed_hinted rfl rfl)

/-- No primitive emits anything. -/
theorem accounting_primitive (kind : PrimitiveKind) :
    Accounting settings graph (primitive kind) builder := by
  cases kind with
  | undefined => exact accounting_allocation Arena.allocates_undefined
  | null => exact accounting_allocation (Arena.allocates_push rfl)
  | boolean =>
    exact accounting_shared hprimitives
      (fun _ => (accounting_numberNode hprimitives).andThen fun _ _ => accounting_hinted _ _)
      (.after fun _ => answersFixed_hinted rfl rfl)
  | number => exact accounting_numberNode hprimitives
  | string => exact accounting_stringNode hprimitives
  | regexp =>
    exact accounting_shared hprimitives
      (fun _ => (accounting_stringNode hprimitives).andThen fun _ _ =>
        (accounting_leaf _).andThen fun _ _ => accounting_hinted _ _)
      (.after fun _ => .after fun _ => answersFixed_hinted rfl rfl)

end

/-- The undefined value and null are denoted, and other primitives have nodes of their own. -/
theorem answers_primitive {kind : PrimitiveKind} (hid : graph.shape? id = some (.primitive kind))
    (h : primitive kind builder = (.ok node, builder')) : builder'.Answers graph id node := by
  cases kind with
  | undefined => exact answers_undefined (.inl hid) h
  | null =>
    have h : onArena (Arena.push (.literal .null)) builder = (.ok node, builder') := h
    have hhint := hint_of_allocation (Arena.allocates_push rfl) h (by
      obtain ⟨rfl, _⟩ := onArena_eq_ok h
      exact Nat.le_refl _)
    obtain ⟨rfl, rfl⟩ := onArena_eq_ok h
    exact .denoted (.null hid (Arena.node?_push_self _ _)) hhint
  | boolean | number | string | regexp => exact .own node hid rfl

/-! ### Names -/

/-- A reference is a new leaf. -/
theorem refer_eq_ok {name : String} {referent : Referent}
    (h : refer name referent builder = (.ok node, builder')) :
    node.index = builder.arena.size ∧ builder'.arena.node? node = some (.ident name) ∧
      (builder'.arena.hints.size = builder'.arena.nodes.size → builder'.arena.hint node = none) ∧
      ∃ arena references, builder' = { builder with arena, references } := by
  obtain ⟨hanswer, rfl⟩ := Prod.mk.inj h
  obtain rfl := Except.ok.inj hanswer
  exact ⟨rfl, Arena.node?_push_self _ _, Arena.hint_push_self (.ident name), _, _, rfl⟩

/-- The binding for the global scope is declared if there is none yet, and then it is referred to. -/
theorem global_eq_ok (h : global settings builder = (.ok node, builder')) :
    ∃ name builder₁, refer name .scope builder₁ = (.ok node, builder') ∧
      builder₁.globalName = some name ∧ (builder₁ = builder ∨ ∃ names,
        builder.globalName = none ∧ builder₁ = builder.declareScope name names) := by
  rw [global, run_get_bind] at h
  cases hname : builder.globalName with
  | some name =>
    rw [hname] at h
    exact ⟨name, builder, h, hname, .inl rfl⟩
  | none =>
    rw [hname] at h
    obtain ⟨name, builder₁, hfresh, h⟩ := run_bind_eq_ok h
    obtain ⟨names, rfl⟩ := freshName_eq_ok hfresh
    exact ⟨name, builder.declareScope name names, h, rfl, .inr ⟨names, rfl, rfl⟩⟩

/-- The global scope is declared by the first reference to it, which is all that is emitted. -/
theorem accounting_global : Accounting settings graph (global settings) builder where
  accounts {node builder'} h := by
    obtain ⟨name, builder₁, hrefer, _, hdeclared⟩ := global_eq_ok h
    obtain ⟨emissions, haccounts⟩ : ∃ emissions,
      builder₁.Accounts settings graph [] emissions builder' := (accounting_refer _ _).accounts hrefer
    rcases hdeclared with rfl | ⟨names, hnone, rfl⟩
    · exact ⟨emissions, haccounts⟩
    · exact ⟨_, (Builder.accounts_declareScope hnone name names).trans haccounts⟩

/-- The global scope is denoted by the name that was declared for it. -/
theorem answers_global {properties : Properties} (hid : graph.shape? id = some (.global properties))
    (h : global settings builder = (.ok node, builder')) : builder'.Answers graph id node := by
  obtain ⟨name, builder₁, hrefer, hname, _⟩ := global_eq_ok h
  obtain ⟨_, hnode, hhint, _, _, rfl⟩ := refer_eq_ok hrefer
  exact .denoted (.scope hid hname hnode) hhint

/-- The placeholder of a parameter is declared if there is none yet, and then it is referred to. -/
theorem parameter_eq_ok {use : Parameter}
    (h : parameter graph id use builder = (.ok node, builder')) :
    ∃ name builder₁, refer name (.parameter id) builder₁ = (.ok node, builder') ∧
      builder₁.placeholders[id.index]? = some name ∧ (builder₁ = builder ∨ ∃ names,
        builder.placeholders[id.index]? = none ∧
          builder₁ = builder.declarePlaceholder id name names) := by
  rw [parameter, run_get_bind] at h
  cases hname : builder.placeholders[id.index]? with
  | some name =>
    rw [hname] at h
    exact ⟨name, builder, h, hname, .inl rfl⟩
  | none =>
    rw [hname] at h
    obtain ⟨label, _, h⟩ := checked_bind_eq_ok h
    obtain ⟨name, builder₁, hfresh, h⟩ := run_bind_eq_ok h
    obtain ⟨names, rfl⟩ := freshName_eq_ok hfresh
    refine ⟨name, builder.declarePlaceholder id name names, ?_, Std.TreeMap.getElem?_insert_self,
      .inr ⟨names, rfl, rfl⟩⟩
    -- The declaration is made or extended, which depends on whether there is one.
    obtain ⟨arena, _, decl, _⟩ := builder
    cases decl <;> exact h

/-- A placeholder joins the declaration of the others, so nothing is emitted. -/
theorem accounting_parameter (id : ShapeId) (use : Parameter) :
    Accounting settings graph (parameter graph id use) builder where
  accounts {node builder'} h := by
    obtain ⟨name, builder₁, hrefer, _, hdeclared⟩ := parameter_eq_ok h
    obtain ⟨emissions, haccounts⟩ : ∃ emissions,
      builder₁.Accounts settings graph [] emissions builder' := (accounting_refer _ _).accounts hrefer
    rcases hdeclared with rfl | ⟨names, hnone, rfl⟩
    · exact ⟨emissions, haccounts⟩
    · have hextends : builder.Extends graph (builder.declarePlaceholder id name names) :=
        Builder.extends_declarePlaceholder hnone name names
      exact ⟨[] ++ emissions, (hextends.accounts rfl rfl rfl rfl).trans haccounts⟩

/-- A parameter is denoted by the name of its placeholder. -/
theorem answers_parameter {use : Parameter} (hid : graph.shape? id = some (.parameter use))
    (h : parameter graph id use builder = (.ok node, builder')) : builder'.Answers graph id node := by
  obtain ⟨name, builder₁, hrefer, hname, _⟩ := parameter_eq_ok h
  obtain ⟨_, hnode, hhint, _, _, rfl⟩ := refer_eq_ok hrefer
  exact .denoted (.placeholder hid hname hnode) hhint

/-- The member chain of a dotted name is new. -/
theorem platform_eq_ok {path : String} (h : platform path builder = (.ok node, builder')) :
    ∃ root, builder'.arena.IsPath path root node ∧ (root, .platform path) ∈ builder'.origins ∧
      (builder'.arena.hints.size = builder'.arena.nodes.size → builder'.arena.hint node = none) := by
  obtain ⟨hanswer, rfl⟩ := Prod.mk.inj h
  obtain rfl := Except.ok.inj hanswer
  exact ⟨⟨builder.arena.size⟩, Arena.isPath_path path builder.arena, Array.mem_push_self,
    Arena.hint_path path builder.arena⟩

end Gen

end Semblance
