import Semblance.Proofs.Generate.Repetition
import Semblance.Proofs.Syntax.Forest

/-!
# What the nodes of shapes are made of

The rule for a shape asks for the nodes of other shapes and puts them together: the entries of an
object, the elements of an array, the alternatives of a union, and the statements in the body of a
function. `ShapeGraph.requests` lists the shapes that a rule asks for, and `Builder.Renders` says how
their nodes are put together. What is put together stays so while other containers are being filled.

## Key results

- `Renders.mono`: a node goes on to render its shape
- `Renders.provides`: it has the nodes of all shapes that its rule asked for beneath it, or beneath
  some statement
-/

namespace Semblance

/-! ### What rules ask for -/

/-- What a statement in the body of a function does. -/
inductive BodyPart where
  /-- Copy a parameter to its placeholder. -/
  | copy (index : Nat) (parameter : ShapeId)
  /-- Write a property of the receiver. -/
  | write (name : String) (value : ShapeId)
  | ret (value : ShapeId)
deriving DecidableEq, Repr

/-- The shape that a statement uses. -/
def BodyPart.shape : BodyPart → ShapeId
  | copy _ parameter => parameter
  | write _ value | ret value => value

/-- The elements of an array that is rebuilt as an array literal. -/
def Shape.elements? : Shape → Option (List (Nat × ShapeId))
  | array entries degraded => if degraded then none else entries.elements?
  | _ => none

/-- The entries of a shape that is rebuilt as an object. -/
def Shape.entries? : Shape → Option Aggregate
  | object entries => some entries
  | array entries degraded =>
    if (elements? (array entries degraded)).isSome then none else some entries
  | _ => none

/-- What is rebuilt as an object is no array literal. -/
theorem Shape.elements?_eq_none {shape : Shape} {entries : Aggregate}
    (h : shape.entries? = some entries) : shape.elements? = none := by
  cases shape with
  | array => exact Option.not_isSome_iff_eq_none.1 (Option.ite_none_left_eq_some.1 h).1
  | _ => rfl

namespace ShapeGraph

/-- The return at the end of a body, unless a function was seen to return nothing. -/
def returnParts (graph : ShapeGraph) (fn : FunctionShape) : List BodyPart :=
  match graph.isAbsent fn.returns with
  | .ok false => [.ret fn.returns]
  | _ => []

/-- What the body of a function does in order. -/
def bodyParts (graph : ShapeGraph) (fn : FunctionShape) : List BodyPart :=
  (if fn.accessor.isNone then fn.usedParams.map fun used => .copy used.1 used.2 else []) ++
    (Gen.instanceProperties graph fn).toList.map (fun binding => .write binding.1 binding.2) ++
    graph.returnParts fn

/-- The properties of a function value that are written. -/
def statics (settings : Settings) (graph : ShapeGraph) (fn : FunctionShape) :
    List (String × ShapeId) :=
  fn.properties.toList.filter fun binding =>
    !(binding.1 == "prototype" && settings.suppressEmptyPrototype && graph.isEmptyObject binding.2)

/-- The shapes that the rule for a shape asks for. -/
def requests (settings : Settings) (graph : ShapeGraph) (id : ShapeId) : List ShapeId :=
  match graph.shape? id with
  | some (.object entries) => entries.entryList.map (·.2.2)
  | some (.array entries degraded) =>
    match (Shape.array entries degraded).elements? with
    | some elements => elements.map (·.2)
    | none => entries.entryList.map (·.2.2)
  | some (.function fn) =>
    (graph.bodyParts fn).map BodyPart.shape ++ (graph.statics settings fn).map (·.2)
  | some (.instanceOf constructor _) => [constructor]
  | some (.union members) => members
  | some (.builtin _ properties _) => properties.toList.map (·.2)
  | _ => []

variable {settings : Settings} {graph : ShapeGraph} {id : ShapeId} {shape : Shape}

/-- The body copies each used parameter, unless the function is an accessor. -/
theorem copy_mem_bodyParts {fn : FunctionShape} (haccessor : fn.accessor.isNone = true)
    {used : Nat × ShapeId} (h : used ∈ fn.usedParams) :
    .copy used.1 used.2 ∈ graph.bodyParts fn := by
  rw [bodyParts, if_pos haccessor]
  exact List.mem_append_left _ (List.mem_append_left _ (List.mem_map_of_mem h))

/-- The body writes each property of the instances. -/
theorem write_mem_bodyParts {fn : FunctionShape} {binding : String × ShapeId}
    (h : binding ∈ (Gen.instanceProperties graph fn).toList) :
    .write binding.1 binding.2 ∈ graph.bodyParts fn :=
  List.mem_append_left _ (List.mem_append_right _ (List.mem_map_of_mem h))

/-- There is a return if the union of what is returned has a member. -/
theorem returnParts_eq {fn : FunctionShape} {members : List ShapeId}
    (hreturns : graph.shape? fn.returns = some (.union members)) :
    graph.returnParts fn = if members.isEmpty then [] else [.ret fn.returns] := by
  have habsent : graph.isAbsent fn.returns = .ok members.isEmpty := by
    rw [isAbsent, shape_eq_ok.2 hreturns]
    rfl
  rw [returnParts, habsent]
  cases members.isEmpty <;> rfl

/-- The rule for an object asks for the values of its entries. -/
theorem requests_of_entries {entries : Aggregate} (hid : graph.shape? id = some shape)
    (hentries : shape.entries? = some entries) :
    graph.requests settings id = entries.entryList.map (·.2.2) := by
  cases shape with
  | object =>
    obtain rfl := Option.some.inj hentries
    rw [requests, hid]
  | array entries' degraded =>
    simp only [Shape.entries?] at hentries
    split at hentries
    · cases hentries
    · next helements =>
      obtain rfl := Option.some.inj hentries
      rw [requests, hid]
      simp only [Option.not_isSome_iff_eq_none.1 helements]
  | _ => cases hentries

/-- The rule for an array literal asks for its elements. -/
theorem requests_of_elements {elements : List (Nat × ShapeId)} (hid : graph.shape? id = some shape)
    (helements : shape.elements? = some elements) :
    graph.requests settings id = elements.map (·.2) := by
  cases shape with
  | array entries degraded =>
    rw [requests, hid]
    simp only [helements]
  | _ => cases helements

/-- The rule for a function asks for what its body uses, and for the properties of the function
    value. -/
theorem requests_function {fn : FunctionShape} (hid : graph.shape? id = some (.function fn)) :
    graph.requests settings id =
      (graph.bodyParts fn).map BodyPart.shape ++ (graph.statics settings fn).map (·.2) := by
  rw [requests, hid]

/-- The rule for an instance asks for the constructor. -/
theorem requests_instanceOf {constructor : ShapeId} {properties : Properties}
    (hid : graph.shape? id = some (.instanceOf constructor properties)) :
    graph.requests settings id = [constructor] := by
  rw [requests, hid]

/-- The rule for a union asks for the members. -/
theorem requests_union {members : List ShapeId} (hid : graph.shape? id = some (.union members)) :
    graph.requests settings id = members := by
  rw [requests, hid]

/-- The rule for a builtin asks for what was added to it. -/
theorem requests_builtin {fullName : String} {properties : Properties} {constructible : Bool}
    (hid : graph.shape? id = some (.builtin fullName properties constructible)) :
    graph.requests settings id = properties.toList.map (·.2) := by
  rw [requests, hid]

end ShapeGraph

/-! ### Syntax -/

namespace Arena

/-- A statement assigns a value to a target. -/
def Assigns (arena : Arena) (stmt target value : NodeId) : Prop :=
  ∃ expr, arena.node? stmt = some (.exprStmt expr) ∧
    arena.node? expr = some (.assign target value)

/-- A node is the member of an owner with a name. -/
inductive IsMember (arena : Arena) (id owner : NodeId) (name : String) : Prop
  | named : isIdentifier name = true → arena.node? id = some (.member owner (.named name)) →
      IsMember arena id owner name
  | computed {key : NodeId} : isIdentifier name = false →
      arena.node? id = some (.member owner (.computed key)) →
      arena.node? key = some (.literal (.str name)) → IsMember arena id owner name

/-- A node is the chain of alternatives that starts with a first one and goes on with others. -/
def Joins (arena : Arena) (node : NodeId) : NodeId → List NodeId → Prop
  | head, [] => node = head
  | head, operand :: operands =>
    ∃ next, arena.node? next = some (.or head operand) ∧ Joins arena node next operands

variable {own : List NodeId} {arena arena' : Arena} {id node owner stmt target value : NodeId}
  {name : String}

/-- An assignment stays one, since neither of its nodes is a container. -/
theorem Assigns.mono (h : arena.Assigns stmt target value) (harena : arena.Spares own arena') :
    arena'.Assigns stmt target value := by
  obtain ⟨expr, hstmt, hexpr⟩ := h
  exact ⟨expr, harena.node?_eq hstmt rfl (.inr rfl), harena.node?_eq hexpr rfl (.inr rfl)⟩

/-- A member access stays one. -/
theorem IsMember.mono (h : arena.IsMember id owner name) (harena : arena.Spares own arena') :
    arena'.IsMember id owner name := by
  cases h with
  | named hname hnode => exact .named hname (harena.node?_eq hnode rfl (.inr rfl))
  | computed hname hnode hkey =>
    exact .computed hname (harena.node?_eq hnode rfl (.inr rfl))
      (harena.node?_eq hkey rfl (.inr rfl))

/-- A chain of alternatives stays one. -/
theorem Joins.mono {head : NodeId} {operands : List NodeId} (h : arena.Joins node head operands)
    (harena : arena.Spares own arena') : arena'.Joins node head operands := by
  induction operands generalizing head with
  | nil => exact h
  | cons operand operands ih =>
    obtain ⟨next, hnext, hrest⟩ := h
    exact ⟨next, harena.node?_eq hnext rfl (.inr rfl), ih hrest⟩

/-- What is built for an assignment is one. -/
theorem assigns_assignStmt (target value : NodeId) (arena : Arena) :
    (assignStmt target value arena).2.Assigns (assignStmt target value arena).1 target value :=
  ⟨_, node?_push_self .., node?_push_of_node? (node?_push_self ..) _⟩

/-- The member of an owner is a member access, whether the name is written plainly or computed. -/
theorem IsMember.exists_key (h : arena.IsMember id owner name) :
    ∃ key, arena.node? id = some (.member owner key) := by
  cases h with
  | named _ hnode => exact ⟨_, hnode⟩
  | computed _ hnode _ => exact ⟨_, hnode⟩

/-- What is built for a member is one, whatever its name. -/
theorem isMember_member (owner : NodeId) (name : String) (arena : Arena) :
    (member owner name arena).2.IsMember (member owner name arena).1 owner name := by
  unfold member
  split
  · next hname => exact .named hname (node?_push_self ..)
  · next hname =>
    exact .computed (Bool.eq_false_iff.2 hname) (node?_push_self ..)
      (node?_push_of_node? (node?_push_self ..) _)

/-- What is built for a list of alternatives joins them in order. -/
theorem joins_foldlM_or (head : NodeId) (operands : List NodeId) (arena : Arena) :
    (operands.foldlM Arena.or head arena).2.Joins (operands.foldlM Arena.or head arena).1 head
      operands := by
  induction operands generalizing head arena with
  | nil => exact Eq.refl _
  | cons operand operands ih =>
    have hrest : Arena.Spares [] (push (.or head operand) arena).2
        (operands.foldlM Arena.or (push (.or head operand) arena).1
          (push (.or head operand) arena).2).2 :=
      (allocates_foldlM (fun _ _ => allocates_push (Eq.refl _)) operands _ _).spares
    exact ⟨(push (.or head operand) arena).1,
      hrest.node?_eq (node?_push_self ..) (Eq.refl _) (.inr (Eq.refl _)), ih _ _⟩

/-- The operands of a node are below it. -/
theorem reaches_operand {node : Node} {child : NodeId} (hnode : arena.node? id = some node)
    (hmem : some child ∈ node.operands) : arena.Reaches [id] child := by
  obtain ⟨slot, hslot⟩ := List.getElem?_of_mem hmem
  refine .child (.root List.mem_cons_self) ((child?_of_node? hnode slot).trans ?_)
  rw [Node.child?_eq, hslot, Option.join_some]

/-- The operands of a node below the roots are below the roots. -/
theorem Reaches.operand {roots : List NodeId} {node : Node} {child : NodeId}
    (h : arena.Reaches roots id) (hnode : arena.node? id = some node)
    (hmem : some child ∈ node.operands) : arena.Reaches roots child :=
  (reaches_operand hnode hmem).mono fun _ hroot => List.mem_singleton.1 hroot ▸ h

/-- The value of an assignment is below the statement. -/
theorem Assigns.reaches (h : arena.Assigns stmt target value) : arena.Reaches [stmt] value := by
  obtain ⟨expr, hstmt, hexpr⟩ := h
  exact (reaches_operand hstmt List.mem_cons_self).operand hexpr (by simp [Node.operands])

/-- The target of an assignment is below the statement. -/
theorem Assigns.reaches_target (h : arena.Assigns stmt target value) :
    arena.Reaches [stmt] target := by
  obtain ⟨expr, hstmt, hexpr⟩ := h
  exact (reaches_operand hstmt List.mem_cons_self).operand hexpr (by simp [Node.operands])

/-- All alternatives are below the chain. -/
theorem Joins.reaches {head operand : NodeId} {operands : List NodeId}
    (h : arena.Joins node head operands) (hmem : operand ∈ head :: operands) :
    arena.Reaches [node] operand := by
  induction operands generalizing head operand with
  | nil =>
    rw [List.mem_singleton.1 hmem, ← show node = head from h]
    exact .root List.mem_cons_self
  | cons second operands ih =>
    obtain ⟨next, hnext, hrest⟩ := h
    rcases List.mem_cons.1 hmem with rfl | hmem
    · exact (ih hrest List.mem_cons_self).operand hnext List.mem_cons_self
    · rcases List.mem_cons.1 hmem with rfl | hmem
      · exact (ih hrest List.mem_cons_self).operand hnext (by simp [Node.operands])
      · exact ih hrest (List.mem_cons_of_mem _ hmem)

end Arena

/-! ### What a builder has put together -/

namespace Builder

/-- A later builder has all statements, answers and placeholders, and all nodes that are not being
    filled. -/
structure Carries (own : List NodeId) (builder builder' : Builder) : Prop where
  arena : builder.arena.Spares own builder'.arena
  visits : ∀ visit ∈ builder.visits, visit ∈ builder'.visits
  statements : ∀ stmt ∈ builder.statements, stmt ∈ builder'.statements
  remembers : ∀ {index : Nat}, (builder.nodes[index]?).isSome → (builder'.nodes[index]?).isSome
  placeholders : ∀ {index : Nat} {name}, builder.placeholders[index]? = some name →
    builder'.placeholders[index]? = some name

/-- A statement does what a part of a body is there for. -/
def Does (builder : Builder) (stmt : NodeId) : BodyPart → Prop
  | .copy index parameter => ∃ target source, builder.arena.Assigns stmt target source ∧
      (parameter, .ok target) ∈ builder.visits ∧
      builder.arena.node? source = some (if index = 0 then .this else .ident (formalName index))
  | .write name value => ∃ target receiver node, builder.arena.Assigns stmt target node ∧
      builder.arena.IsMember target receiver name ∧
      builder.arena.node? receiver = some .this ∧ (value, .ok node) ∈ builder.visits
  | .ret value => ∃ node, builder.arena.node? stmt = some (.ret (some node)) ∧
      (value, .ok node) ∈ builder.visits

/-- A node refers to the placeholder of a parameter. What is remembered is no parameter. -/
def Refers (graph : ShapeGraph) (builder : Builder) (id : ShapeId) (node : NodeId) : Prop :=
  ∀ use, graph.shape? id = some (.parameter use) → (builder.nodes[id.index]?).isSome ∨
    ∃ name, builder.arena.node? node = some (.ident name) ∧
      builder.placeholders[id.index]? = some name

/-- The statements in a body do these parts one by one. -/
def Performs (builder : Builder) (body : NodeId) (parts : List BodyPart) : Prop :=
  ∃ statements, builder.arena.node? body = some (.block statements) ∧
    List.Forall₂ builder.Does statements.toList parts

/-- A top-level statement writes a property of a function value. -/
def WritesStatic (builder : Builder) (function : NodeId) (binding : String × ShapeId) : Prop :=
  ∃ stmt ∈ builder.statements, ∃ target value, builder.arena.Assigns stmt target value ∧
    builder.arena.IsMember target function binding.1 ∧ (binding.2, .ok value) ∈ builder.visits

/-- An array literal has the elements at their indices and holes elsewhere, and it ends with the
    last element. -/
def HasElements (builder : Builder) (node : NodeId) (elements : List (Nat × ShapeId)) : Prop :=
  ∃ slots, builder.arena.node? node = some (.array slots) ∧
    (∀ element ∈ elements,
      ∃ value, (element.2, .ok value) ∈ builder.visits ∧ slots[element.1]? = some (some value)) ∧
    (∀ index value, slots[index]? = some (some value) → ∃ element ∈ elements, element.1 = index) ∧
    ∀ index < slots.size, ∃ element ∈ elements, index ≤ element.1

/-- The value of a property that was added to a builtin is asked for, and it is written unless it is
    a builtin that the platform has there. -/
def WritesAddition (graph : ShapeGraph) (builder : Builder) (fullName : String)
    (binding : String × ShapeId) : Prop :=
  ∃ value, (binding.2, .ok value) ∈ builder.visits ∧
    (Gen.isOwnMember graph fullName binding = false → ∃ stmt ∈ builder.statements, ∃ target owner,
      builder.arena.Assigns stmt target value ∧ builder.arena.IsMember target owner binding.1)

/-- All properties that were added to a builtin are written. -/
def WritesOut (graph : ShapeGraph) (builder : Builder) (id : ShapeId) : Prop :=
  ∀ fullName properties constructible,
    graph.shape? id = some (.builtin fullName properties constructible) →
    ∀ binding ∈ properties.toList, builder.WritesAddition graph fullName binding

/-- A node puts together what the rule for a shape has asked for, and the containers that were
    filled for it are not among the first nodes. -/
inductive Renders (settings : Settings) (graph : ShapeGraph) (builder : Builder) (start : Nat)
    (id : ShapeId) (node : NodeId) : Prop
  | object {shape : Shape} {entries : Aggregate} : graph.shape? id = some shape →
      shape.entries? = some entries → start ≤ node.index →
      builder.Filled node entries.entryList → Renders settings graph builder start id node
  | array {shape : Shape} {elements : List (Nat × ShapeId)} : graph.shape? id = some shape →
      shape.elements? = some elements → start ≤ node.index →
      builder.HasElements node elements → Renders settings graph builder start id node
  | function {fn : FunctionShape} {body : NodeId} : graph.shape? id = some (.function fn) →
      start ≤ body.index → builder.arena.node? node = some (.function fn.formals body) →
      builder.Performs body (graph.bodyParts fn) →
      (∀ binding ∈ graph.statics settings fn, builder.WritesStatic node binding) →
      Renders settings graph builder start id node
  | union {first : ShapeId} {rest : List ShapeId} {head : NodeId} {operands : List NodeId} :
      graph.shape? id = some (.union (first :: rest)) → (first, .ok head) ∈ builder.visits →
      List.Forall₂ (fun member operand => (member, .ok operand) ∈ builder.visits) rest operands →
      builder.arena.Joins node head operands → Renders settings graph builder start id node

variable {settings : Settings} {graph : ShapeGraph} {own : List NodeId}
  {builder builder' builder'' : Builder} {id : ShapeId} {node stmt body : NodeId} {start : Nat}

/-- Nodes are added. -/
theorem carries_arena {arena : Arena} (h : builder.arena.Spares own arena) :
    builder.Carries own { builder with arena } :=
  ⟨h, fun _ hmem => hmem, fun _ hmem => hmem, id, id⟩

/-- What is carried twice is carried. -/
theorem Carries.trans (h : builder.Carries own builder') (h' : builder'.Carries own builder'') :
    builder.Carries own builder'' where
  arena := h.arena.trans h'.arena
  visits visit hmem := h'.visits visit (h.visits visit hmem)
  statements stmt hmem := h'.statements stmt (h.statements stmt hmem)
  remembers hnode := h'.remembers (h.remembers hnode)
  placeholders hname := h'.placeholders (h.placeholders hname)

theorem Carries.mono {own' : List NodeId} (h : builder.Carries own builder') (hown : own ⊆ own') :
    builder.Carries own' builder' :=
  { h with arena := h.arena.mono hown }

section

variable (hcarries : builder.Carries own builder')
include hcarries

/-- A statement goes on to do its part. -/
theorem Does.mono {part : BodyPart} (h : builder.Does stmt part) : builder'.Does stmt part := by
  cases part with
  | copy index parameter =>
    obtain ⟨target, source, hassigns, hvisit, hsource⟩ := h
    exact ⟨target, source, hassigns.mono hcarries.arena, hcarries.visits _ hvisit,
      hcarries.arena.node?_eq hsource (by split <;> rfl) (.inr (by split <;> rfl))⟩
  | write name value =>
    obtain ⟨target, receiver, node, hassigns, hmember, hreceiver, hvisit⟩ := h
    exact ⟨target, receiver, node, hassigns.mono hcarries.arena, hmember.mono hcarries.arena,
      hcarries.arena.node?_eq hreceiver rfl (.inr rfl), hcarries.visits _ hvisit⟩
  | ret value =>
    obtain ⟨node, hnode, hvisit⟩ := h
    exact ⟨node, hcarries.arena.node?_eq hnode rfl (.inr rfl), hcarries.visits _ hvisit⟩

/-- A reference to a placeholder stays one. -/
theorem Refers.mono (h : builder.Refers graph id node) : builder'.Refers graph id node :=
  fun use hid => (h use hid).imp hcarries.remembers fun ⟨name, hnode, hname⟩ =>
    ⟨name, hcarries.arena.node?_eq hnode rfl (.inr rfl), hcarries.placeholders hname⟩

/-- A body goes on to do its parts, unless it is being filled. -/
theorem Performs.mono {parts : List BodyPart} (h : builder.Performs body parts)
    (hbody : body ∉ own) : builder'.Performs body parts := by
  obtain ⟨statements, hblock, hdone⟩ := h
  exact ⟨statements, hcarries.arena.node?_eq hblock rfl (.inl hbody),
    hdone.imp fun _ _ hdoes => hdoes.mono hcarries⟩

/-- A property that is written stays written. -/
theorem WritesStatic.mono {binding : String × ShapeId} (h : builder.WritesStatic node binding) :
    builder'.WritesStatic node binding := by
  obtain ⟨stmt, hmem, target, value, hassigns, hmember, hvisit⟩ := h
  exact ⟨stmt, hcarries.statements _ hmem, target, value, hassigns.mono hcarries.arena,
    hmember.mono hcarries.arena, hcarries.visits _ hvisit⟩

/-- An array literal keeps its elements, unless it is being filled. -/
theorem HasElements.mono {elements : List (Nat × ShapeId)} (h : builder.HasElements node elements)
    (hnode : node ∉ own) : builder'.HasElements node elements := by
  obtain ⟨slots, harray, hslots, hholes⟩ := h
  refine ⟨slots, hcarries.arena.node?_eq harray rfl (.inl hnode), fun element hmem => ?_, hholes⟩
  obtain ⟨value, hvisit, hslot⟩ := hslots element hmem
  exact ⟨value, hcarries.visits _ hvisit, hslot⟩

/-- What is written for a builtin stays written. -/
theorem WritesAddition.mono {fullName : String} {binding : String × ShapeId}
    (h : builder.WritesAddition graph fullName binding) :
    builder'.WritesAddition graph fullName binding := by
  obtain ⟨value, hvisit, hwritten⟩ := h
  refine ⟨value, hcarries.visits _ hvisit, fun hmember => ?_⟩
  obtain ⟨stmt, hstmt, target, owner, hassigns, htarget⟩ := hwritten hmember
  exact ⟨stmt, hcarries.statements _ hstmt, target, owner, hassigns.mono hcarries.arena,
    htarget.mono hcarries.arena⟩

/-- A builtin stays written out. -/
theorem WritesOut.mono (h : builder.WritesOut graph id) : builder'.WritesOut graph id :=
  fun fullName properties constructible hid binding hmem =>
    (h fullName properties constructible hid binding hmem).mono hcarries

/-- A node goes on to render its shape while containers among the first nodes are being filled. -/
theorem Renders.mono (h : builder.Renders settings graph start id node)
    (hown : ∀ container ∈ own, container.index < start) :
    builder'.Renders settings graph start id node := by
  -- What was filled for the node is not among the first nodes, so it is not filled again.
  have hnot {container : NodeId} (hstart : start ≤ container.index) : container ∉ own :=
    fun hmem => Nat.not_lt.2 hstart (hown container hmem)
  cases h with
  | object hid hentries hstart hfilled =>
    exact .object hid hentries hstart
      (hfilled.mono hcarries.arena hcarries.visits (hnot hstart))
  | array hid helements hstart hslots =>
    exact .array hid helements hstart (hslots.mono hcarries (hnot hstart))
  | function hid hstart hnode hbody hstatics =>
    exact .function hid hstart (hcarries.arena.node?_eq hnode rfl (.inr rfl))
      (hbody.mono hcarries (hnot hstart)) fun binding hmem => (hstatics binding hmem).mono hcarries
  | union hid hfirst hrest hjoins =>
    exact .union hid (hcarries.visits _ hfirst)
      (hrest.imp fun _ _ hvisit => hcarries.visits _ hvisit) (hjoins.mono hcarries.arena)

end

/-- What renders a function is a function. -/
theorem Renders.function_cases (h : builder.Renders settings graph start id node)
    {fn : FunctionShape} (hid : graph.shape? id = some (.function fn)) :
    ∃ body, builder.arena.node? node = some (.function fn.formals body) ∧
      builder.Performs body (graph.bodyParts fn) := by
  cases h with
  | object hid' hentries =>
    obtain rfl := Option.some.inj (hid.symm.trans hid')
    cases hentries
  | array hid' helements =>
    obtain rfl := Option.some.inj (hid.symm.trans hid')
    cases helements
  | function hid' _ hnode hbody =>
    cases hid.symm.trans hid'
    exact ⟨_, hnode, hbody⟩
  | union hid' => cases hid.symm.trans hid'

/-- What renders an object has its entries. -/
theorem Renders.filled (h : builder.Renders settings graph start id node) {shape : Shape}
    (hid : graph.shape? id = some shape) {entries : Aggregate}
    (hentries : shape.entries? = some entries) : builder.Filled node entries.entryList := by
  cases h with
  | object hid' hentries' _ hfilled =>
    cases hid.symm.trans hid'
    cases hentries.symm.trans hentries'
    exact hfilled
  | array hid' helements =>
    cases hid.symm.trans hid'
    cases (Shape.elements?_eq_none hentries).symm.trans helements
  | function hid' | union hid' =>
    cases hid.symm.trans hid'
    cases hentries

/-- What renders an array literal has its elements. -/
theorem Renders.hasElements (h : builder.Renders settings graph start id node) {shape : Shape}
    (hid : graph.shape? id = some shape) {elements : List (Nat × ShapeId)}
    (helements : shape.elements? = some elements) : builder.HasElements node elements := by
  cases h with
  | object hid' hentries =>
    cases hid.symm.trans hid'
    cases (Shape.elements?_eq_none hentries).symm.trans helements
  | array hid' helements' _ hslots =>
    cases hid.symm.trans hid'
    cases helements.symm.trans helements'
    exact hslots
  | function hid' | union hid' =>
    cases hid.symm.trans hid'
    cases helements

/-- What renders a union joins its members. -/
theorem Renders.union_cases (h : builder.Renders settings graph start id node) {first : ShapeId}
    {rest : List ShapeId} (hid : graph.shape? id = some (.union (first :: rest))) :
    ∃ head operands, (first, .ok head) ∈ builder.visits ∧
      List.Forall₂ (fun member operand => (member, .ok operand) ∈ builder.visits) rest operands ∧
      builder.arena.Joins node head operands := by
  cases h with
  | object hid' hentries =>
    cases hid.symm.trans hid'
    cases hentries
  | array hid' helements =>
    cases hid.symm.trans hid'
    cases helements
  | function hid' => cases hid.symm.trans hid'
  | union hid' hfirst hrest hjoins =>
    cases hid.symm.trans hid'
    exact ⟨_, _, hfirst, hrest, hjoins⟩

/-- The bound on the containers may be lowered. -/
theorem Renders.of_le {start' : Nat} (h : builder.Renders settings graph start id node)
    (hle : start' ≤ start) : builder.Renders settings graph start' id node := by
  cases h with
  | object hid hentries hstart hfilled =>
    exact .object hid hentries (Nat.le_trans hle hstart) hfilled
  | array hid helements hstart hslots =>
    exact .array hid helements (Nat.le_trans hle hstart) hslots
  | function hid hstart hnode hbody hstatics =>
    exact .function hid (Nat.le_trans hle hstart) hnode hbody hstatics
  | union hid hfirst hrest hjoins => exact .union hid hfirst hrest hjoins

/-! ### What a node provides -/

/-- A shape was asked for, and the node of the answer is below a node or below some statement. -/
def Provides (builder : Builder) (node : NodeId) (value : ShapeId) : Prop :=
  ∃ answer, (value, .ok answer) ∈ builder.visits ∧
    (builder.arena.Reaches [node] answer ∨
      ∃ stmt ∈ builder.statements, builder.arena.Reaches [stmt] answer)

/-- An object provides the values of its entries. -/
theorem Filled.provides {entries : List (EntryKind × String × ShapeId)}
    (h : builder.Filled node entries) {entry : EntryKind × String × ShapeId}
    (hmem : entry ∈ entries) : builder.Provides node entry.2.2 := by
  obtain ⟨ids, hnode, hentries⟩ := h
  obtain ⟨id, hid, value, hvisit, hentry⟩ := exists_of_forall₂ hentries hmem
  exact ⟨value, hvisit, .inl ((Arena.reaches_operand hnode
    (List.mem_map_of_mem hid)).operand hentry List.mem_cons_self)⟩

/-- An array literal provides its elements. -/
theorem HasElements.provides {elements : List (Nat × ShapeId)}
    (h : builder.HasElements node elements) {element : Nat × ShapeId} (hmem : element ∈ elements) :
    builder.Provides node element.2 := by
  obtain ⟨slots, harray, hslots, _⟩ := h
  obtain ⟨value, hvisit, hslot⟩ := hslots element hmem
  exact ⟨value, hvisit, .inl (Arena.reaches_operand harray
    (Array.mem_toList_iff.2 (Array.mem_of_getElem? hslot)))⟩

/-- What a statement in a body uses is below the statement. -/
theorem Does.reaches {part : BodyPart} (h : builder.Does stmt part) :
    ∃ answer, (part.shape, .ok answer) ∈ builder.visits ∧ builder.arena.Reaches [stmt] answer := by
  cases part with
  | copy index parameter =>
    obtain ⟨target, source, hassigns, hvisit, _⟩ := h
    exact ⟨target, hvisit, hassigns.reaches_target⟩
  | write name value =>
    obtain ⟨target, receiver, node, hassigns, _, _, hvisit⟩ := h
    exact ⟨node, hvisit, hassigns.reaches⟩
  | ret value =>
    obtain ⟨node, hnode, hvisit⟩ := h
    exact ⟨node, hvisit, Arena.reaches_operand hnode List.mem_cons_self⟩

/-- What stands in a body may have no hint. -/
theorem Does.exists_node {part : BodyPart} (h : builder.Does stmt part) :
    ∃ node, builder.arena.node? stmt = some node ∧ node.takesHint = false := by
  cases part with
  | copy =>
    obtain ⟨target, source, ⟨expr, hnode, _⟩, _⟩ := h
    exact ⟨_, hnode, rfl⟩
  | write =>
    obtain ⟨target, receiver, node, ⟨expr, hnode, _⟩, _⟩ := h
    exact ⟨_, hnode, rfl⟩
  | ret =>
    obtain ⟨node, hnode, _⟩ := h
    exact ⟨_, hnode, rfl⟩

/-- A function provides what its body uses. -/
theorem Performs.provides {fn : FunctionShape} {parts : List BodyPart}
    (h : builder.Performs body parts)
    (hnode : builder.arena.node? node = some (.function fn.formals body)) {part : BodyPart}
    (hmem : part ∈ parts) : builder.Provides node part.shape := by
  obtain ⟨statements, hblock, hdone⟩ := h
  obtain ⟨stmt, hstmt, hdoes⟩ := exists_of_forall₂ hdone hmem
  obtain ⟨answer, hvisit, hreached⟩ := hdoes.reaches
  have hbody : builder.arena.Reaches [node] stmt :=
    (Arena.reaches_operand hnode List.mem_cons_self).operand hblock (List.mem_map_of_mem hstmt)
  exact ⟨answer, hvisit, .inl (hreached.mono fun _ hroot => List.mem_singleton.1 hroot ▸ hbody)⟩

/-- A node has the nodes of all shapes that the rule asked for below it or below some statement. -/
theorem Renders.provides (h : builder.Renders settings graph start id node) {value : ShapeId}
    (hmem : value ∈ graph.requests settings id) : builder.Provides node value := by
  cases h with
  | object hid hentries _ hfilled =>
    rw [ShapeGraph.requests_of_entries hid hentries] at hmem
    obtain ⟨entry, hentry, rfl⟩ := List.mem_map.1 hmem
    exact hfilled.provides hentry
  | array hid helements _ hslots =>
    rw [ShapeGraph.requests_of_elements hid helements] at hmem
    obtain ⟨element, helement, rfl⟩ := List.mem_map.1 hmem
    exact hslots.provides helement
  | function hid _ hnode hbody hstatics =>
    rw [ShapeGraph.requests_function hid] at hmem
    rcases List.mem_append.1 hmem with hmem | hmem
    · -- A request of a function is one of its body or one of a property that is written at the top
      -- level.
      obtain ⟨part, hpart, rfl⟩ := List.mem_map.1 hmem
      exact hbody.provides hnode hpart
    · obtain ⟨binding, hbinding, rfl⟩ := List.mem_map.1 hmem
      obtain ⟨stmt, hstmt, target, value, hassigns, _, hvisit⟩ := hstatics binding hbinding
      exact ⟨value, hvisit, .inr ⟨stmt, hstmt, hassigns.reaches⟩⟩
  | @union first rest head operands hid hfirst hrest hjoins =>
    rw [ShapeGraph.requests_union hid] at hmem
    rcases List.mem_cons.1 hmem with rfl | hmem
    · exact ⟨head, hfirst, .inl (hjoins.reaches List.mem_cons_self)⟩
    · obtain ⟨operand, hoperand, hvisit⟩ := exists_of_forall₂ hrest.flip hmem
      exact ⟨operand, hvisit, .inl (hjoins.reaches (List.mem_cons_of_mem _ hoperand))⟩

end Builder

end Semblance
