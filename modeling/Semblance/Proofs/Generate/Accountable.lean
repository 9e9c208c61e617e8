import Semblance.Proofs.Generate.Bookkeeping

/-!
# Requests for shapes account for what they do

Each rule of generation accounts for what it emits and answers if its visits do. A function or a
builtin is marked before its properties are asked for, so no visit writes them, and the rule writes
them one after the other.

## Key results

- `Underway`: how far the properties of a function or a builtin have been written
- `accounting_function`, `accounting_builtin`: in the end all of them are, once each
- `accountable_nodeWithin`: all requests for shapes account for what they do
-/

namespace Semblance

namespace Gen

/-- Requests for shapes are accounted for, and so are their answers. -/
structure Accountable (settings : Settings) (graph : ShapeGraph) (visit : Visit) : Prop where
  accounting : ∀ id builder, Accounting settings graph (visit id) builder
  answers : ∀ {id builder node builder'}, visit id builder = (.ok node, builder') →
    builder'.Answers graph id node
  noted : ∀ {id builder node builder'}, visit id builder = (.ok node, builder') →
    (id, .ok node) ∈ builder'.visits

variable {settings : Settings} {graph : ShapeGraph} {builder builder' start : Builder}
  {visit : Visit} {id : ShapeId} {node : NodeId} {written : List (String × ShapeId)}

/-! ### Aggregates -/

section

variable (hvisit : Accountable settings graph visit)
include hvisit

/-- An entry accounts for the visit of its value. -/
theorem accounting_addEntry (object : NodeId) (kind : EntryKind) (binding : String × ShapeId) :
    Accounting settings graph (addEntry visit object kind binding) builder :=
  (hvisit.accounting _ _).andThen fun _ _ => accounting_onArena
    ((Arena.stays_push _ _).trans (Arena.stays_appendEntry _ _))

/-- An object is remembered and then filled, and nothing else is emitted than for its values. -/
theorem accounting_object {shape : Shape} (hid : graph.shape? id = some shape)
    (hfunction : ∀ fn, shape ≠ .function fn) (hprimitive : ∀ kind, shape ≠ .primitive kind)
    (entries : Aggregate) : Accounting settings graph (object graph visit id entries) builder := by
  rw [object_eq]
  exact (accounting_checked _).andThen fun _ _ => (accounting_hinted _ _).andThen fun node _ =>
    (accounting_remember hid hfunction hprimitive node).andThen fun _ _ =>
      (accounting_forM fun _ _ _ => accounting_addEntry hvisit node _ _).andThen fun _ _ =>
        accounting_pure _

/-- The array is still one when its elements are there. -/
theorem accounting_denseArray {entries : Aggregate} {degraded : Bool}
    (hid : graph.shape? id = some (.array entries degraded)) (elements : List (Nat × ShapeId)) :
    Accounting settings graph (denseArray graph visit id elements) builder := by
  refine (accounting_checked _).andThen fun label builder₁ => ?_
  refine (accounting_hinted _ _).bind fun node builder₂ hmade _ => ?_
  have harray : builder₂.arena.node? node = some (.array #[]) := by
    obtain ⟨rfl, rfl⟩ := onArena_eq_ok hmade
    exact Arena.node?_push_self _ _
  refine (accounting_remember hid nofun nofun node).bind fun _ builder₃ _ hremembered => ?_
  refine (accounting_foldlM (fun slots element builder' =>
    (hvisit.accounting element.2 builder').andThen fun value _ => accounting_pure _) _).bind
      fun slots builder₄ _ hvisited => ?_
  -- The literal is still an array when its elements are there, so they may be put into it.
  obtain ⟨later, hlater, hchange⟩ := (hremembered.arena.trans hvisited.arena).node harray
  have hfills : later.Fills (.array slots) := by
    obtain hfills | ⟨hbinding, _⟩ := hchange
    · cases hfills with
      | same | array => exact .array
    · cases hbinding
  refine (accounting_onArena (Arena.stays_modifyNode fun former hformer => .inl ?_)).andThen
    fun _ _ => accounting_pure _
  exact Option.some.inj (hlater.symm.trans hformer) ▸ hfills

/-- An array accounts for its elements, or for its entries if it is rebuilt as an object. -/
theorem accounting_array {entries : Aggregate} {degraded : Bool}
    (hid : graph.shape? id = some (.array entries degraded)) :
    Accounting settings graph (array graph visit id entries degraded) builder := by
  unfold array
  split
  · exact accounting_object hvisit hid nofun nofun entries
  · split
    · exact accounting_denseArray hvisit hid _
    · exact accounting_object hvisit hid nofun nofun entries

/-- The members of a union are joined when they are all there, unless one of them has done so. -/
theorem accounting_union {members : List ShapeId} (hid : graph.shape? id = some (.union members)) :
    Accounting settings graph (union visit id members) builder := by
  match members with
  | [] => exact accounting_allocation Arena.allocates_undefined
  | [only] => exact hvisit.accounting only builder
  | first :: second :: rest =>
    refine (hvisit.accounting first builder).andThen fun head _ => ?_
    rw [List.mapM_cons]
    simp only [bind_assoc, pure_bind]
    refine (hvisit.accounting second _).andThen fun operand _ => ?_
    refine (accounting_mapM hvisit.accounting).andThen fun operands _ => ?_
    refine (accounting_known? id).andThen fun known _ => ?_
    split
    · exact accounting_pure _
    · -- The hint goes to the last alternative, which is a node of the chain and no leaf.
      refine (accounting_allocation (Arena.allocates_foldlM (fun _ _ => Arena.allocates_push rfl)
        (operand :: operands) head)).bind fun joined builder₁ hjoined _ => ?_
      obtain ⟨left, right, hor⟩ : ∃ left right,
          builder₁.arena.node? joined = some (.or left right) := by
        obtain ⟨rfl, rfl⟩ := onArena_eq_ok hjoined
        exact or_of_foldlM operands ⟨head, operand, Arena.node?_push_self _ _⟩
      exact (accounting_onArena (Arena.stays_setHint hor _)).andThen fun _ _ =>
        (accounting_remember hid nofun nofun joined).andThen fun _ _ => accounting_pure _

/-- A union of several members has a node of its own, and that of one member is denoted as the
    member. -/
theorem answers_union {members : List ShapeId} (hid : graph.shape? id = some (.union members))
    (h : union visit id members builder = (.ok node, builder')) : builder'.Answers graph id node := by
  match members with
  | [] => exact answers_undefined (.inr hid) h
  | [only] => exact .only hid (hvisit.answers h)
  | first :: second :: rest => exact .own node hid rfl

end

/-! ### What is worked on -/

/-- A function or a builtin is worked on: it is marked, and these of its properties are written. -/
structure Underway (settings : Settings) (graph : ShapeGraph) (id : ShapeId) (start : Builder)
    (written : List (String × ShapeId)) (builder : Builder) : Prop where
  marked : builder.marks graph id = true
  accounts : ∃ emissions, start.Accounts settings graph [id] emissions builder ∧
    emissions.filterMap (Emission.property? id) = written

/-- Work begins with the mark. -/
theorem underway_start (hmarked : start.marks graph id = true) :
    Underway settings graph id start [] start :=
  ⟨hmarked, [], .rfl, rfl⟩

/-- Whatever else is generated writes none of the properties, since the mark is there. -/
theorem Underway.next (h : Underway settings graph id start written builder) {gen : Gen α}
    (hgen : Accounting settings graph gen builder) {result : α}
    (heq : gen builder = (.ok result, builder')) :
    Underway settings graph id start written builder' := by
  obtain ⟨emissions, haccounts, hwritten⟩ := h.accounts
  obtain ⟨emissions', hnext⟩ := hgen.accounts heq
  refine ⟨hnext.toExtends.marks h.marked, emissions ++ emissions',
    haccounts.trans (hnext.mono (List.nil_subset _)), ?_⟩
  rw [List.filterMap_append, hwritten, hnext.written List.not_mem_nil, newly_of_before h.marked,
    List.append_nil]

/-- A further property is written to a member of the owner. -/
theorem Underway.emit (h : Underway settings graph id start written builder)
    {binding : String × ShapeId} {owner value : NodeId} (howner : builder.IsOwner graph id owner)
    (hvalue : (binding.2, .ok value) ∈ builder.visits)
    (hrun : (do
      let target ← onArena (Arena.member owner binding.1)
      emitAssign target value : Gen PUnit) builder = (.ok ⟨⟩, builder')) :
    Underway settings graph id start (written ++ [binding]) builder' := by
  obtain ⟨target, builder₁, htarget, hemit⟩ := run_bind_eq_ok hrun
  have hmember : Accounting settings graph (onArena (Arena.member owner binding.1)) builder :=
    accounting_allocation (Arena.allocates_member owner binding.1)
  have hextends := hmember.extends htarget
  obtain ⟨hmarked, emissions, haccounts, hwritten⟩ := h.next hmember htarget
  -- The statement that is emitted writes the member of the owner.
  have hmade : builder₁.arena.IsMember target owner binding.1 := by
    obtain ⟨rfl, rfl⟩ := onArena_eq_ok htarget
    exact Arena.isMember_member owner binding.1 builder.arena
  obtain ⟨_, rfl⟩ := Prod.mk.inj hemit
  have hemitted : builder₁.Accounts settings graph [id] [.property id binding] _ :=
    Builder.accounts_emitAssign
      (fun other hother => if_neg fun heq => hother (List.mem_singleton.2 heq.symm))
      fun hlater hassigns => ⟨target, owner, value, hassigns, hlater.arena.isMember hmade,
        (howner.mono hextends).mono hlater, hlater.visits _ (hextends.visits _ hvalue)⟩
  refine ⟨hemitted.toExtends.marks hmarked, _, haccounts.trans hemitted, ?_⟩
  rw [List.filterMap_append, hwritten]
  simp [Emission.property?]

/-- A loop that writes some of the items. -/
theorem underway_forM {action : String × ShapeId → Gen PUnit} {keep : String × ShapeId → Bool}
    {items : List (String × ShapeId)}
    (hitem : ∀ item ∈ items, ∀ {written builder builder'},
      Underway settings graph id start written builder → action item builder = (.ok ⟨⟩, builder') →
      Underway settings graph id start (if keep item then written ++ [item] else written) builder')
    (h : Underway settings graph id start [] builder)
    (hrun : items.forM action builder = (.ok ⟨⟩, builder')) :
    Underway settings graph id start (items.filter keep) builder' := by
  refine forM_ok (fun done later => Underway settings graph id start (done.filter keep) later)
    (fun item hmem {done _ _} h hrun => ?_) hrun
    (show Underway settings graph id start (List.filter keep []) builder from h)
  have hstep := hitem item hmem h hrun
  rw [List.filter_append]
  split at hstep
  · next hkeep => rwa [List.filter_cons_of_pos hkeep]
  · next hkeep => rwa [List.filter_cons_of_neg hkeep, List.filter_nil, List.append_nil]

/-! ### Builtins -/

section

variable (hvisit : Accountable settings graph visit)
include hvisit

/-- A property that was added to a builtin is written to a new member chain. -/
theorem underway_patch {fullName : String} {properties : Properties} {constructible : Bool}
    (hid : graph.shape? id = some (.builtin fullName properties constructible))
    {binding : String × ShapeId} (h : Underway settings graph id start written builder)
    (hrun : patch graph visit fullName binding builder = (.ok ⟨⟩, builder')) :
    Underway settings graph id start
      (if !isOwnMember graph fullName binding then written ++ [binding] else written) builder' := by
  obtain ⟨value, builder₁, hvalue, hrun⟩ := run_bind_eq_ok hrun
  have h := h.next (hvisit.accounting _ _) hvalue
  have hnoted := hvisit.noted hvalue
  cases hmember : isOwnMember graph fullName binding with
  | true =>
    rw [hmember] at hrun
    obtain ⟨_, rfl⟩ := pure_eq_ok hrun
    -- What the platform has there is asked for and not written.
    exact h
  | false =>
    rw [hmember] at hrun
    obtain ⟨owner, builder₂, howner, hrun⟩ := run_bind_eq_ok hrun
    have hplatform : Accounting settings graph (platform fullName) builder₁ :=
      accounting_platform fullName
    obtain ⟨root, hpath, horigin, _⟩ := platform_eq_ok howner
    exact (h.next hplatform howner).emit (.builtin hid hpath horigin)
      ((hplatform.extends howner).visits _ hnoted) hrun

/-- All properties that were added to a builtin are written when it is met first, and none later. -/
theorem accounting_builtin {fullName : String} {properties : Properties} {constructible : Bool}
    (hid : graph.shape? id = some (.builtin fullName properties constructible)) :
    Accounting settings graph (builtin graph visit id fullName properties) builder := by
  refine .ofState ?_
  dsimp only
  split
  · exact accounting_platform fullName
  · next hmarked =>
    refine ⟨fun {node builder'} h => ?_⟩
    obtain ⟨_, builder₁, hmark, h⟩ := run_bind_eq_ok h
    obtain ⟨_, builder₂, hpatches, hplatform⟩ := run_bind_eq_ok h
    obtain ⟨_, rfl⟩ := Prod.mk.inj hmark
    -- From the mark on, nobody else writes the additions, so they are written here once each.
    have hstart : Builder.marks graph { builder with patched := builder.patched.insert id.index } id =
        true := by
      rw [Builder.marks_builtin hid]
      exact Std.TreeSet.contains_insert_self
    have hwritten := underway_forM (fun binding _ {_ _ _} h hrun => underway_patch hvisit hid h hrun)
      (underway_start hstart) hpatches
    obtain ⟨_, emissions, haccounts, hall⟩ := hwritten.next (accounting_platform fullName) hplatform
    exact ⟨emissions, haccounts.marked hid (Bool.eq_false_iff.2 hmarked) hall⟩

omit hvisit in
/-- A builtin is denoted by a new member chain. -/
theorem answers_builtin {fullName : String} {properties : Properties} {constructible : Bool}
    (hid : graph.shape? id = some (.builtin fullName properties constructible))
    (h : builtin graph visit id fullName properties builder = (.ok node, builder')) :
    builder'.Answers graph id node := by
  have hplatform : ∃ builder₁, platform fullName builder₁ = (.ok node, builder') := by
    rw [builtin, run_get_bind] at h
    dsimp only at h
    split at h
    · exact ⟨builder, h⟩
    · obtain ⟨_, builder₁, _, h⟩ := run_bind_eq_ok h
      obtain ⟨_, builder₂, _, hplatform⟩ := run_bind_eq_ok h
      exact ⟨builder₂, hplatform⟩
  obtain ⟨builder₁, hplatform⟩ := hplatform
  obtain ⟨root, hpath, _, hhint⟩ := platform_eq_ok hplatform
  exact .denoted (.builtin hid hpath) hhint

/-! ### Functions -/

/-- A property of a function value is written to the node of the function. -/
theorem underway_writeStatic {fn : FunctionShape} (hid : graph.shape? id = some (.function fn))
    {binding : String × ShapeId} (h : Underway settings graph id start written builder)
    (hnode : start.nodes[id.index]? = some node)
    (hrun : writeStatic settings graph visit node binding builder = (.ok ⟨⟩, builder')) :
    Underway settings graph id start
      (if !(binding.1 == "prototype" && settings.suppressEmptyPrototype &&
        graph.isEmptyObject binding.2) then written ++ [binding] else written) builder' := by
  unfold writeStatic at hrun
  split at hrun
  · next hleft =>
    obtain ⟨_, rfl⟩ := pure_eq_ok hrun
    rwa [hleft]
  · next hleft =>
    obtain ⟨value, builder₁, hvalue, hrun⟩ := run_bind_eq_ok hrun
    have h := h.next (hvisit.accounting _ _) hvalue
    obtain ⟨emissions, haccounts, _⟩ := h.accounts
    rw [Bool.eq_false_iff.2 hleft]
    exact h.emit (.function hid (haccounts.function hid hnode)) (hvisit.noted hvalue) hrun

/-- Copying a parameter appends to the body of a function, so it emits nothing. -/
theorem accounting_copyParam (body : NodeId) (used : Nat × ShapeId) :
    Accounting settings graph (copyParam visit id body used) builder :=
  (hvisit.accounting _ _).andThen fun _ _ => (accounting_leaf _).andThen fun _ _ =>
    accounting_assignIn _ _ _

/-- Writing a property of the instances appends to the body of the constructor, so it emits
    nothing. -/
theorem accounting_writeToReceiver (body : NodeId) (binding : String × ShapeId) :
    Accounting settings graph (writeToReceiver visit id body binding) builder :=
  (hvisit.accounting _ _).andThen fun _ _ => (accounting_leaf _).andThen fun receiver _ =>
    (accounting_allocation (Arena.allocates_member receiver _)).andThen fun _ _ =>
      accounting_assignIn _ _ _

/-- While the body is filled, the properties of the function value are written. -/
theorem underway_fillFunction {fn : FunctionShape} {body : NodeId}
    (hid : graph.shape? id = some (.function fn)) (hnode : start.nodes[id.index]? = some node)
    (hrun : fillFunction settings graph visit id fn node body start = (.ok ⟨⟩, builder')) :
    Underway settings graph id start (graph.statics settings fn) builder' := by
  have hstart : start.marks graph id = true := by
    rw [Builder.marks_function hid, hnode]
    rfl
  -- What follows the copies, whether there are any or not.
  have hrest {builder : Builder} (h : Underway settings graph id start [] builder)
      (hrun : (do
        fn.properties.toList.forM (writeStatic settings graph visit node)
        (instanceProperties graph fn).toList.forM (writeToReceiver visit id body)
        unless ← checked (graph.isAbsent fn.returns) do
          let value ← visit fn.returns
          onArena do
            let stmt ← Arena.ret value
            modify fun arena => arena.appendStmt body stmt : Gen PUnit) builder =
          (.ok ⟨⟩, builder')) :
      Underway settings graph id start (graph.statics settings fn) builder' := by
    obtain ⟨_, builder₁, hstatics, hrun⟩ := run_bind_eq_ok hrun
    have h := underway_forM
      (fun binding _ {_ _ _} h hrun => underway_writeStatic hvisit hid h hnode hrun) h hstatics
    refine h.next ?_ hrun
    refine (accounting_forM fun binding _ _ => accounting_writeToReceiver hvisit body binding).andThen
      fun _ _ => (accounting_checked _).andThen fun absent _ => ?_
    split
    · exact accounting_pure _
    · exact (hvisit.accounting fn.returns _).andThen fun value _ => accounting_onArena
        ((Arena.stays_push _ _).trans (Arena.stays_appendStmt _ _))
  unfold fillFunction at hrun
  split at hrun
  · obtain ⟨_, builder₁, hcopies, hrun⟩ := run_bind_eq_ok hrun
    exact hrest ((underway_start hstart).next
      (accounting_forM fun used _ _ => accounting_copyParam hvisit body used) hcopies) hrun
  · exact hrest (underway_start hstart) hrun

/-- A function is remembered when its node is made, and its properties are written after that. -/
theorem accounting_function {fn : FunctionShape} (hid : graph.shape? id = some (.function fn))
    (hnone : builder.nodes[id.index]? = none) :
    Accounting settings graph (function settings graph visit id fn) builder where
  accounts {node builder'} h := by
    obtain ⟨label, _, h⟩ := checked_bind_eq_ok h
    obtain ⟨body, builder₁, hbody, h⟩ := run_bind_eq_ok h
    obtain ⟨_, rfl⟩ := onArena_eq_ok hbody
    obtain ⟨made, builder₂, hmade, h⟩ := run_bind_eq_ok h
    obtain ⟨rfl, rfl⟩ := onArena_eq_ok hmade
    obtain ⟨_, builder₃, hremember, h⟩ := run_bind_eq_ok h
    obtain ⟨_, rfl⟩ := Prod.mk.inj hremember
    obtain ⟨_, builder₄, hfill, h⟩ := run_bind_eq_ok h
    obtain ⟨_, rfl⟩ := pure_eq_ok h
    -- The function is remembered from here on, so that it is exempt while its properties are
    -- written.
    obtain ⟨_, emissions, haccounts, hwritten⟩ :=
      underway_fillFunction hvisit hid Std.TreeMap.getElem?_insert_self hfill
    have hblock : builder.arena.Stays (Arena.push (.block #[]) builder.arena).2 :=
      Arena.stays_push (.block #[]) builder.arena
    have haccounts : Builder.Accounts settings graph [id] emissions
      { builder with
        arena := (Arena.pushHinted (.function fn.formals body) ("function_" ++ toString label)
          (Arena.push (.block #[]) builder.arena).2).2
        nodes := builder.nodes.insert id.index ⟨(Arena.push (.block #[]) builder.arena).2.size⟩ }
      _ := haccounts
    exact ⟨emissions, haccounts.made hid hnone (hblock.trans (Arena.stays_pushHinted _ _ _))
      hblock.size (Arena.node?_push_self _ _) hwritten⟩

/-- What constructs an instance is asked for first, unless the instance is there. -/
theorem accounting_instanceOf (constructor : ShapeId) :
    Accounting settings graph (instanceOf graph visit constructor) builder := by
  refine .ofState ?_
  split
  · exact accounting_pure _
  · refine (hvisit.accounting constructor _).andThen fun callee builder₁ => .ofState ?_
    split
    · exact accounting_pure _
    · have hhint : Accounting settings graph (instanceHint graph constructor) builder₁ := by
        refine (accounting_checked _).andThen fun shape _ => ?_
        split
        · exact accounting_pure _
        · exact (accounting_checked _).andThen fun _ _ => accounting_pure _
      refine hhint.andThen fun hint _ => (accounting_hinted _ _).andThen fun node _ => ?_
      exact Accounting.andThen (accounting_of_extends
        (Builder.extends_of_arena .rfl rfl rfl rfl rfl rfl rfl rfl) rfl rfl rfl rfl)
        fun _ _ => accounting_pure _

end

/-! ### Visits -/

/-- A rule for a new shape accounts for what it does if its visits do. -/
theorem accounting_rule (hgraph : graph.Registered) (hvisit : Accountable settings graph visit)
    (hnone : builder.nodes[id.index]? = none) :
    Accounting settings graph (rule settings graph visit id) builder := by
  have hprimitives := hasPrimitives_of_registered hgraph
  cases hshape : graph.shape id with
  | error failed =>
    rw [rule, hshape]
    refine ⟨fun heq => ?_⟩
    cases congrArg Prod.fst heq
  | ok shape =>
    rw [rule, hshape]
    rw [ShapeGraph.shape_eq_ok] at hshape
    cases shape with
    | primitive kind => exact accounting_primitive hprimitives kind
    | object entries => exact accounting_object hvisit hshape (by simp) (by simp) entries
    | array entries degraded => exact accounting_array hvisit hshape
    | function fn => exact accounting_function hvisit hshape hnone
    | instanceOf constructor properties => exact accounting_instanceOf hvisit constructor
    | union members => exact accounting_union hvisit hshape
    | builtin fullName properties constructible => exact accounting_builtin hvisit hshape
    | global properties => exact accounting_global
    | parameter use => exact accounting_parameter id use

/-- Every rule answers with a node of the shape or with one that denotes its value. -/
theorem answers_rule (hvisit : Accountable settings graph visit)
    (h : rule settings graph visit id builder = (.ok node, builder')) :
    builder'.Answers graph id node := by
  obtain ⟨shape, hid, h⟩ := checked_bind_eq_ok h
  rw [ShapeGraph.shape_eq_ok] at hid
  cases shape with
  | primitive kind => exact answers_primitive hid h
  | object | array | function | instanceOf => exact .own node hid rfl
  | union members => exact answers_union hvisit hid h
  | builtin fullName properties constructible => exact answers_builtin hid h
  | global properties => exact answers_global hid h
  | parameter use => exact answers_parameter hid h

/-- Requests for shapes account for what they do, at any level. -/
theorem accountable_nodeWithin (hgraph : graph.Registered) (settings : Settings) (levels : Nat) :
    Accountable settings graph (nodeWithin settings graph levels) := by
  induction levels with
  | zero =>
    exact ⟨fun id builder => ⟨fun heq => nomatch congrArg Prod.fst heq⟩,
      fun heq => (nomatch congrArg Prod.fst heq), fun heq => (nomatch congrArg Prod.fst heq)⟩
  | succ levels ih =>
    -- A request ends with a note, whether the node is remembered or a rule makes it.
    have hrun {id : ShapeId} {builder : Builder} {node : NodeId} {builder' : Builder}
        (heq : nodeWithin settings graph (levels + 1) id builder = (.ok node, builder')) :
        ∃ builder₁ emissions, builder.Accounts settings graph [] emissions builder₁ ∧
          builder₁.Answers graph id node ∧
          builder' = { builder₁ with visits := builder₁.visits.push (id, .ok node) } := by
      obtain ⟨builder₁, hanswer, rfl⟩ := logged_eq_ok heq
      obtain ⟨known, builder₂, hknown, hanswer⟩ := run_bind_eq_ok hanswer
      obtain ⟨rfl, rfl⟩ := known?_eq_ok hknown
      cases hnode : builder₂.nodes[id.index]? with
      | some former =>
        rw [hnode] at hanswer
        obtain ⟨rfl, rfl⟩ := pure_eq_ok hanswer
        exact ⟨_, [], .rfl, .remembered _ (Option.isSome_of_eq_some hnode), rfl⟩
      | none =>
        rw [hnode] at hanswer
        obtain ⟨emissions, haccounts⟩ := (accounting_rule hgraph ih hnode).accounts hanswer
        exact ⟨_, emissions, haccounts, answers_rule ih hanswer, rfl⟩
    refine ⟨fun id builder => ⟨fun heq => ?_⟩, fun heq => ?_, fun heq => ?_⟩
    · obtain ⟨builder₁, emissions, haccounts, hanswers, rfl⟩ := hrun heq
      exact ⟨_, haccounts.trans (Builder.accounts_note hanswers)⟩
    · obtain ⟨builder₁, _, _, hanswers, rfl⟩ := hrun heq
      exact hanswers.mono (Builder.extends_note _)
    · obtain ⟨builder₁, _, _, _, rfl⟩ := hrun heq
      exact Array.mem_push_self

end Gen

end Semblance
