import Semblance.Proofs.Lowering.Statements
import Semblance.Proofs.Synthesis.Reached
import Semblance.Proofs.Synthesis.Receivers

/-!
# Function bodies in a synthesized program

Every function that was generated stands in the program, and the statements in its body do what the
function is there for: they copy used parameters to placeholders, write the properties of instances
to the receiver, and return. A value in such a statement is the node that was answered for it, or a
reference to the declaration of this node.

## Key results

- `Program.Does`: what a statement of a program does
- `Generates.performs`: the body of a function does all parts in order
-/

namespace Semblance

namespace Program

/-- A statement of a program does what a part of a body is there for. -/
def Does (program : Program) (builder : Builder) (stmt : NodeId) : BodyPart → Prop
  | .copy index parameter => ∃ target source name, program.arena.Assigns stmt target source ∧
      program.arena.node? target = some (.ident name) ∧
      builder.placeholders[parameter.index]? = some name ∧
      program.arena.node? source = some (if index = 0 then .this else .ident (formalName index))
  | .write name value => ∃ target receiver place node, program.arena.Assigns stmt target place ∧
      program.arena.IsMember target receiver name ∧ program.arena.node? receiver = some .this ∧
      (value, .ok node) ∈ builder.visits ∧ program.Holds place node
  | .ret value => ∃ place node, program.arena.node? stmt = some (.ret (some place)) ∧
      (value, .ok node) ∈ builder.visits ∧ program.Holds place node

/-- A node of a program is a function with these formal parameters, and the statements in its body
    do these parts one by one. -/
def Performs (program : Program) (builder : Builder) (function : NodeId) (formals : Array String)
    (parts : List BodyPart) : Prop :=
  program.arena.Reaches program.body function ∧ ∃ body statements,
    program.arena.node? function = some (.function formals body) ∧
    program.arena.node? body = some (.block statements) ∧
    List.Forall₂ (program.Does builder) statements.toList parts

end Program

namespace ShapeGraph

variable {graph : ShapeGraph} {config : Config} {builder : Builder} {lowering : Lowering}
  {id : ShapeId} {fn : FunctionShape} {node : NodeId}

/-- Only used parameters are copied. -/
theorem mem_usedParams_of_copy {index : Nat} {parameter : ShapeId}
    (h : .copy index parameter ∈ graph.bodyParts fn) : (index, parameter) ∈ fn.usedParams := by
  rcases List.mem_append.1 h with h | h
  · rcases List.mem_append.1 h with h | h
    · split at h
      · obtain ⟨used, hused, heq⟩ := List.mem_map.1 h
        obtain ⟨rfl, rfl⟩ := BodyPart.copy.inj heq
        exact hused
      · cases h
    · obtain ⟨binding, _, heq⟩ := List.mem_map.1 h
      cases heq
  · unfold returnParts at h
    split at h
    · cases List.mem_singleton.1 h
    · cases h

/-- A generation hints at names only where a node may be hoisted. -/
theorem Generates.hintsFit (hgraph : graph.Recorded) (h : graph.Generates config builder) :
    builder.arena.HintsFit :=
  (Builder.traced_of_steps (h.steps hgraph)).hintsFit

section

variable (hgraph : graph.Recorded) (hgenerates : graph.Generates config builder)
  (hsound : builder.Sound []) (hlower : builder.arena.lower builder.roots builder.names = .ok lowering)
include hgraph hgenerates hsound hlower

/-- What a statement does it does in the program. -/
theorem Generates.does {stmt : NodeId} {part : BodyPart}
    (hstmt : builder.arena.Reaches builder.roots stmt) (hdoes : builder.Does stmt part)
    (hpart : ∀ index parameter, part = .copy index parameter →
      ∃ use, graph.shape? parameter = some (.parameter use)) :
    lowering.program.Does builder stmt part := by
  have hhints : builder.arena.HintsFit := hgenerates.hintsFit hgraph
  have hclosed := hsound.closed
  cases part with
  | copy index parameter =>
    obtain ⟨target, source, hassigns, hvisit, hsource⟩ := hdoes
    obtain ⟨use, huse⟩ := hpart index parameter rfl
    have hwhole := hgenerates.whole hgraph.registered
    -- What is remembered is no parameter, so the target is a reference to the placeholder.
    obtain hremembered | ⟨name, htarget, hname⟩ := hwhole.refers hvisit use huse
    · obtain ⟨node, hnode⟩ := Option.isSome_iff_exists.1 hremembered
      obtain ⟨shape, hid, hkind⟩ := hwhole.kinds hnode
      obtain rfl := Option.some.inj (huse.symm.trans hid)
      cases hkind
    · have htakes : (if index = 0 then Node.this else .ident (formalName index)).takesHint =
          false := by split <;> rfl
      have hassigns' := lower_assigns_of_unhinted hsound.arena hsound.statement hhints hlower hstmt
        hassigns htarget rfl hsource htakes
      refine ⟨target, source, name, hassigns', lower_ident hclosed hlower htarget, hname, ?_⟩
      refine lower_node?_of_unhinted hsound.arena hsound.statement hhints hlower ?_ hsource ?_
      · exact hassigns.reaches.mono fun _ hroot => List.mem_singleton.1 hroot ▸ hstmt
      · intro child hchild
        split at hchild <;> exact nomatch hchild
  | write name value =>
    obtain ⟨target, receiver, node, hassigns, hmember, hreceiver, hvisit⟩ := hdoes
    obtain ⟨key, htarget⟩ := hmember.exists_key
    have hbelow : builder.arena.Reaches builder.roots target :=
      hassigns.reaches_target.mono fun _ hroot => List.mem_singleton.1 hroot ▸ hstmt
    have howner : builder.arena.Reaches builder.roots receiver :=
      hbelow.operand htarget (by cases key <;> exact List.mem_cons_self)
    obtain ⟨place, hassigns', hholds⟩ := lower_assigns hsound.arena hsound.statement hhints hlower
      hstmt hassigns htarget rfl
    exact ⟨target, receiver, place, node, hassigns', lower_isMember hsound.arena hsound.statement
      hhints hlower hbelow hmember hreceiver rfl, lower_node?_of_unhinted hsound.arena
      hsound.statement hhints hlower howner hreceiver nofun, hvisit, hholds⟩
  | ret value =>
    obtain ⟨node, hret, hvisit⟩ := hdoes
    obtain ⟨place, hret', hholds⟩ := lower_ret hclosed hlower hstmt hret
    exact ⟨place, node, hret', hvisit, hholds⟩

/-- A function that was generated stands in the program, and its body does all parts. -/
theorem Generates.performs (hid : graph.shape? id = some (.function fn))
    (hnode : builder.nodes[id.index]? = some node) :
    lowering.program.Performs builder node fn.formals (graph.bodyParts fn) := by
  have hhints : builder.arena.HintsFit := hgenerates.hintsFit hgraph
  have hclosed := hsound.closed
  -- The recorded graph is rendered whole, so the node of a function is made by the rule of
  -- functions.
  obtain ⟨kind, hid'⟩ | ⟨hreached, hrenders⟩ :=
    (hgenerates.whole hgraph.registered).reached hnode
  · cases hid.symm.trans hid'
  obtain ⟨body, hfunction, statements, hblock, hdone⟩ := hrenders.function_cases hid
  have hbody : builder.arena.Reaches builder.roots body :=
    hreached.operand hfunction List.mem_cons_self
  have hfunction' := lower_function hsound.arena hsound.statement hhints hlower hfunction hblock rfl
    hreached
  refine ⟨(lower_reaches_iff hclosed hlower (Arena.lt_size_of_node? hfunction)).2 hreached, body,
    statements, hfunction', ?_, ?_⟩
  · -- The statements of a body carry no hint: the lowering keeps the block as it is.
    refine lower_node?_of_unhinted hsound.arena hsound.statement hhints hlower hbody hblock
      fun stmt hstmt => ?_
    obtain ⟨_, hmem, heq⟩ := List.mem_map.1 hstmt
    obtain rfl := Option.some.inj heq
    obtain ⟨part, _, hdoes⟩ := exists_of_forall₂ hdone.flip hmem
    exact Builder.Does.exists_node hdoes
  · have hstatements : ∀ stmt ∈ statements.toList, builder.arena.Reaches builder.roots stmt :=
      fun stmt hmem => hbody.operand hblock (List.mem_map_of_mem hmem)
    -- A copy names a parameter in use, which is what `does` asks of it.
    have hparts : ∀ part ∈ graph.bodyParts fn, ∀ index parameter, part = .copy index parameter →
        ∃ use, graph.shape? parameter = some (.parameter use) := by
      rintro _ hmem index parameter rfl
      exact ⟨_, hgraph.registered.used hid _ (mem_usedParams_of_copy hmem)⟩
    have hboth := (List.forall₂_and_left _ _).2 ⟨hparts, ((List.forall₂_and_left _ _).2
      ⟨hstatements, hdone⟩).flip⟩
    exact hboth.flip.imp fun stmt part ⟨hpart, hstmt, hdoes⟩ =>
      hgenerates.does hgraph hsound hlower hstmt hdoes hpart

end

end ShapeGraph

end Semblance
