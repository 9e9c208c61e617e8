import Semblance.Proofs.Generate.Accountable

/-!
# What a builder has generated when its calls have returned

With a name for the global scope all calls for known shapes return. Then everything that the builder
remembers is put together, and everything that it has emitted and answered is accounted for. So the
answers stand for the values: a value with a node of its own is represented by this node, and every
other one by a node that denotes it and that nothing else refers to.

## Key results

- `outcome_afterCalls`: what holds after all calls
- `Outcome.standsFor`: an answer stands for the value
- `Outcome.renders`: the node that is remembered for a shape renders it
-/

namespace Semblance

namespace Shape

/-- Whether a shape is remembered with a node that is put together from others. -/
def isAssembled : Shape → Bool
  | primitive _ => false
  | shape => shape.isRemembered

variable {shape : Shape}

/-- What is put together is remembered. -/
theorem isRemembered_of_isAssembled (h : shape.isAssembled = true) : shape.isRemembered = true := by
  cases shape with
  | primitive => cases h
  | _ => exact h

/-- What is remembered has a node of its own. -/
theorem hasOwnNode_of_isRemembered (h : shape.isRemembered = true) : shape.hasOwnNode = true := by
  cases shape with
  | instanceOf => rfl
  | _ => exact h

end Shape

namespace Builder

/-- Leaves that are noted with an origin are there. -/
def OriginsAllocated (builder : Builder) : Prop :=
  ∀ leaf ∈ builder.origins, leaf.1.index < builder.arena.size

/-- Nodes with an origin are there, so they are there later as well. -/
theorem OriginsAllocated.extends {graph : ShapeGraph} {builder builder' : Builder}
    (h : builder.OriginsAllocated) (hextends : builder.Extends graph builder') :
    builder'.OriginsAllocated := by
  intro leaf hmem
  rcases hextends.fresh hmem with hformer | ⟨_, hlt⟩
  · exact Nat.lt_of_lt_of_le (h leaf hformer) hextends.arena.size
  · exact hlt

end Builder

namespace Gen

variable {settings : Settings} {graph : ShapeGraph} {names : NameSupply}
  {builder builder' : Builder} {calls : List Call} {id : ShapeId} {node : NodeId}

/-! ### Calls -/

/-- The leaf that refers to the global scope has no origin. -/
theorem origins_global (hallocated : builder.OriginsAllocated)
    (h : global settings builder = (.ok node, builder')) :
    (∃ name, builder'.arena.node? node = some (.ident name)) ∧
      ∀ origin, (node, origin) ∉ builder'.origins := by
  obtain ⟨name, builder₁, hrefer, _, hdeclared⟩ := global_eq_ok h
  obtain ⟨hindex, hnode, _, _, _, rfl⟩ := refer_eq_ok hrefer
  refine ⟨⟨name, hnode⟩, fun origin hmem => ?_⟩
  have hallocated₁ : builder₁.OriginsAllocated := by
    rcases hdeclared with rfl | ⟨names, hnone, rfl⟩
    · exact hallocated
    · have hextends : builder.Extends ∅ (builder.declareScope name names) :=
        Builder.extends_declareScope hnone name names
      exact hallocated.extends hextends
  exact Nat.ne_of_lt (hallocated₁ _ hmem) hindex

/-- The value of a global binding is asked for before it is written. -/
theorem accounting_assignGlobal (hgraph : graph.Registered) (hallocated : builder.OriginsAllocated)
    (name : String) (id : ShapeId) :
    Accounting settings graph (assignGlobal settings graph name id) builder := by
  have hvisit : Accountable settings graph (toNode settings graph) :=
    accountable_nodeWithin hgraph settings (levels graph)
  refine (hvisit.accounting id builder).bind fun value builder₁ hvalue hvisited => ?_
  -- What is left once the target is there.
  have hassign {target : NodeId} {builder₂ : Builder} (hextends : builder₁.Extends graph builder₂)
      (htarget : builder₂.IsBinding name target) : Accounting settings graph (do
        let stmt ← onArena (Arena.assignStmt target value)
        emit stmt
        return stmt) builder₂ := by
    refine ⟨fun {stmt builder'} h => ?_⟩
    obtain ⟨made, builder₃, hmade, h⟩ := run_bind_eq_ok h
    obtain ⟨rfl, rfl⟩ := onArena_eq_ok hmade
    obtain ⟨_, builder₄, hemit, h⟩ := run_bind_eq_ok h
    obtain ⟨_, rfl⟩ := Prod.mk.inj hemit
    obtain ⟨_, rfl⟩ := pure_eq_ok h
    exact ⟨[.binding name id], Builder.accounts_emitAssign (fun _ _ => rfl)
      fun hlater hassigns => ⟨target, value, hassigns, htarget.mono hlater,
        hlater.visits _ (hextends.visits _ (hvisit.noted hvalue))⟩⟩
  split
  · refine (accounting_leaf (.global name)).bind fun target builder₂ htarget hextends => ?_
    exact hassign hextends (.named (node?_of_leaf htarget))
  · refine accounting_global.bind fun scope builder₂ hscope hextends => ?_
    refine (accounting_allocation (Arena.allocates_member scope name)).bind
      fun target builder₃ htarget hextends' => ?_
    obtain ⟨⟨former, hnode⟩, hnot⟩ := origins_global (hallocated.extends hvisited) hscope
    refine hassign (hextends.trans hextends') ?_
    have hmember : builder₃.arena.IsMember target scope name := by
      obtain ⟨rfl, rfl⟩ := onArena_eq_ok htarget
      exact Arena.isMember_member scope name builder₂.arena
    refine .member hmember (hextends'.arena.node?_eq hnode rfl rfl) ?_
    obtain ⟨_, rfl⟩ := onArena_eq_ok htarget
    exact hnot

/-- Whatever a call emits and answers is accounted for. -/
theorem accounting_call (hgraph : graph.Registered) (hallocated : builder.OriginsAllocated)
    (call : Call) : Accounting settings graph (call.run settings graph) builder := by
  cases call with
  | node shape => exact (accountable_nodeWithin hgraph settings (levels graph)).accounting shape _
  | assign name shape => exact accounting_assignGlobal hgraph hallocated name shape

/-- Whatever a call remembers is put together when it returns. -/
theorem completes_call (hgraph : graph.Registered) {call : Call}
    (h : call.run settings graph builder = (.ok node, builder')) :
    builder.Completes settings graph (fun _ => True) [] builder' := by
  cases call with
  | node shape =>
    exact ((completing_nodeWithin hgraph settings (levels graph)).completes h).mono
      (fun _ _ => trivial) (List.nil_subset _)
  | assign name shape => exact (completes_assignGlobal hgraph (fun _ _ => trivial) h).1

/-- All calls for known shapes return, so whatever they do is accounted for, and what they remember
    is put together. -/
theorem accounts_afterCalls (hgraph : graph.Recorded) (hname : settings.globalName ≠ "")
    (hcalls : ∀ call ∈ calls, (graph.shape? call.shape).isSome) (hsound : builder.Sound [])
    (hallocated : builder.OriginsAllocated) :
    (∃ emissions, builder.Accounts settings graph [] emissions
      (afterCalls settings graph calls builder)) ∧
      builder.Completes settings graph (fun _ => True) [] (afterCalls settings graph calls builder) := by
  induction calls generalizing builder with
  | nil => exact ⟨⟨[], .rfl⟩, .rfl⟩
  | cons call calls ih =>
    obtain ⟨node, builder', hrun, hsound'⟩ :=
      call_ok hgraph.valid hname hsound (hcalls call List.mem_cons_self)
    -- The call returns, so the other ones go on with its builder.
    have hnext : afterCalls settings graph (call :: calls) builder =
        afterCalls settings graph calls builder' := by
      rw [afterCalls, List.foldl_cons, hrun]
      rfl
    obtain ⟨emissions, hfirst⟩ := (accounting_call hgraph.registered hallocated call).accounts hrun
    obtain ⟨⟨emissions', hrest⟩, hcompletes⟩ :=
      ih (fun other hmem => hcalls other (List.mem_cons_of_mem _ hmem)) hsound'
        (hallocated.extends hfirst.toExtends)
    rw [hnext]
    exact ⟨⟨_, hfirst.trans hrest⟩, (completes_call hgraph.registered hrun).andThen hcompletes⟩

/-- What is known of a builder whose calls have returned. -/
structure Outcome (settings : Settings) (graph : ShapeGraph) (names : NameSupply)
    (builder : Builder) : Prop where
  sound : builder.Sound []
  answered : ∀ visit ∈ builder.visits, ∃ node, visit.2 = .ok node
  advances : (Builder.start names).Advances graph [] builder
  completes : (Builder.start names).Completes settings graph (fun _ => True) [] builder
  accounts : ∃ emissions, (Builder.start names).Accounts settings graph [] emissions builder

/-- All that can be known after the calls holds, since each of them returns and completes what it
    remembers. -/
theorem outcome_afterCalls (hgraph : graph.Recorded) (hname : settings.globalName ≠ "")
    (names : NameSupply) (hcalls : ∀ call ∈ calls, (graph.shape? call.shape).isSome) :
    Outcome settings graph names (afterCalls settings graph calls (.start names)) where
  sound := (answered_afterCalls hgraph hname hcalls (Builder.sound_start names) nofun).1
  answered := (answered_afterCalls hgraph hname hcalls (Builder.sound_start names) nofun).2.1
  advances := advances_afterCalls hgraph.registered
  completes := (accounts_afterCalls hgraph hname hcalls (Builder.sound_start names) nofun).2
  accounts := (accounts_afterCalls hgraph hname hcalls (Builder.sound_start names) nofun).1

end Gen

/-! ### Answers -/

namespace Builder

variable {settings : Settings} {graph : ShapeGraph} {builder : Builder} {id : ShapeId} {node : NodeId}

/-- A shape without a node of its own is denoted by each answer, and the answer has no hint. -/
theorem Answers.denotes (h : builder.Answers graph id node) (hgraph : graph.Valid)
    (hkinds : builder.RemembersKinds graph) (hown : graph.hasOwnNode id = false) :
    builder.Denotes graph id node ∧
      (builder.arena.hints.size = builder.arena.nodes.size → builder.arena.hint node = none) := by
  induction h with
  | @remembered id node hnode =>
    obtain ⟨former, hformer⟩ := Option.isSome_iff_exists.1 hnode
    obtain ⟨shape, hid, hkind⟩ := hkinds hformer
    -- What is remembered has a node of its own.
    have hshape : ∀ only, shape ≠ .union [only] := by
      rintro only rfl
      cases hkind
    rw [Gen.hasOwnNode_eq hid hshape, Shape.hasOwnNode_of_isRemembered hkind] at hown
    cases hown
  | @own id shape node hid hshape =>
    have hnot : ∀ only, shape ≠ .union [only] := by
      rintro only rfl
      cases hshape
    cases hshape.symm.trans ((Gen.hasOwnNode_eq hid hnot).symm.trans hown)
  | denoted hdenotes hhint => exact ⟨hdenotes, hhint⟩
  | @only id only node hid _ ih =>
    obtain ⟨shape, honly, hshape⟩ := (hgraph.fits hid).member only List.mem_cons_self
    rw [Gen.hasOwnNode_only hid honly hshape] at hown
    exact (ih hown).imp_left (.only hid)

/-- A node stands for a value. If the value has a node of its own, it is this one: all requests have
    it for an answer, and so does a further one. Otherwise the node denotes the value by what was
    declared for it, and there is one reference to it. -/
structure StandsFor (settings : Settings) (graph : ShapeGraph) (builder : Builder) (id : ShapeId)
    (node : NodeId) : Prop where
  answered : (id, .ok node) ∈ builder.visits
  own : graph.hasOwnNode id = true → (∀ other, (id, .ok other) ∈ builder.visits → other = node) ∧
    Gen.Repeats graph id node (Gen.toNode settings graph id) builder
  fresh : graph.hasOwnNode id = false →
    builder.Denotes graph id node ∧ builder.arena.uses node = 1

end Builder

namespace Gen.Outcome

variable {settings : Settings} {graph : ShapeGraph} {names : NameSupply} {builder : Builder}
  {id : ShapeId} {node : NodeId} {shape : Shape}

/-- What is remembered is of a kind that is remembered. -/
theorem kinds (h : Outcome settings graph names builder) : builder.RemembersKinds graph :=
  Builder.remembersKinds_of_advances_start h.advances

/-- Every answer is settled. -/
theorem settled (h : Outcome settings graph names builder) (hvisit : (id, .ok node) ∈ builder.visits) :
    builder.Settled graph id node :=
  (h.advances.settled hvisit).resolve_left nofun

/-- Every answer is accounted for. -/
theorem answers (h : Outcome settings graph names builder) (hvisit : (id, .ok node) ∈ builder.visits) :
    builder.Answers graph id node := by
  obtain ⟨emissions, haccounts⟩ := h.accounts
  exact (haccounts.answers hvisit).resolve_left nofun

/-- An answer that some node refers to stands for the value. -/
theorem standsFor (h : Outcome settings graph names builder) (hgraph : graph.Recorded)
    (hvisit : (id, .ok node) ∈ builder.visits) {parent : NodeId} {made : Node}
    (hparent : builder.arena.node? parent = some made) (hmem : some node ∈ made.operands) :
    builder.StandsFor settings graph id node where
  answered := hvisit
  own hown := ⟨fun _ hother => (h.settled hother).unique (h.settled hvisit) h.kinds hown,
    repeats_toNode hgraph.valid (h.settled hvisit) h.kinds⟩
  fresh hown := by
    obtain ⟨hdenotes, hhint⟩ := (h.answers hvisit).denotes hgraph.valid h.kinds hown
    refine ⟨hdenotes, Nat.le_antisymm ?_ ?_⟩
    · -- A node without a hint is not shared.
      have hnot : ¬ builder.arena.Shareable node := by
        rintro ⟨_, hint, hnamed, _⟩
        cases (hhint h.sound.arena.hints_size).symm.trans hnamed
      exact Nat.le_trans (Nat.le_add_right _ _) (h.sound.arena.linear node hnot)
    · obtain ⟨slot, hslot⟩ := List.getElem?_of_mem hmem
      refine Arena.one_le_uses ((Arena.child?_of_node? hparent slot).trans ?_)
      rw [Node.child?_eq, hslot, Option.join_some]

/-- The node of a shape that is put together from others renders it. -/
theorem renders (h : Outcome settings graph names builder) (hid : graph.shape? id = some shape)
    (hkind : shape.isAssembled = true) (hsettled : builder.Settled graph id node) :
    builder.Renders settings graph 0 id node := by
  have hremembered := Shape.isRemembered_of_isAssembled hkind
  rcases h.completes.rendered (hsettled.nodes hid hremembered) with
    hformer | ⟨kind, hid'⟩ | ⟨_, hrenders⟩
  · cases hformer.symm.trans Std.TreeMap.getElem?_emptyc
  · cases hid.symm.trans hid'
    cases hkind
  · exact hrenders

end Gen.Outcome

end Semblance
