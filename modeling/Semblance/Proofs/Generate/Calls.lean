import Semblance.Proofs.Generate.Visits
import Semblance.Proofs.Synthesis

/-!
# A builder in use

A builder takes one call after the other, and it goes on after a call that ended in a fault. Objects
are remembered before they are filled, and a fault does not take this back: the next request for the
object finds what is there. So an object has its first entries, and it has all of them if no request
for it has met a fault. With a name for the global scope there are no faults.

## Key results

- `advances_afterCalls`: the calls go ahead only, whatever their outcome
- `answered_afterCalls`: if the global scope has a name, no request meets a fault
- `toNode_entries`: what entries the node of an object has
-/

namespace Semblance

namespace Gen

/-- What is asked of a builder. -/
inductive Call where
  /-- The node of a shape. -/
  | node (shape : ShapeId)
  /-- The statement that gives a global binding the value of a shape. -/
  | assign (name : String) (shape : ShapeId)
deriving DecidableEq, Repr

/-- The shape that a call is about. -/
def Call.shape : Call → ShapeId
  | node shape | assign _ shape => shape

/-- The generation that a call starts. -/
def Call.run (settings : Settings) (graph : ShapeGraph) : Call → Gen NodeId
  | node shape => toNode settings graph shape
  | assign name shape => assignGlobal settings graph name shape

/-- The builder after some calls, whatever their outcome. -/
def afterCalls (settings : Settings) (graph : ShapeGraph) (calls : List Call) (builder : Builder) :
    Builder :=
  calls.foldl (fun builder call => (call.run settings graph builder).2) builder

variable {settings : Settings} {graph : ShapeGraph} {builder builder' : Builder} {id : ShapeId}
  {calls : List Call}

/-! ### Calls go ahead -/

/-- A request for a node is a visit to its shape. -/
theorem visits_toNode (hgraph : graph.Registered) (settings : Settings) :
    Visits graph (toNode settings graph) :=
  visits_nodeWithin hgraph settings (levels graph)

/-- What follows the request for the value of a global binding. -/
theorem advancing_assignValue (name : String) (value : NodeId) : Advancing graph [] (do
    let target ←
      if isIdentifier name then
        leaf (.global name)
      else
        let scope ← global settings
        onArena (Arena.member scope name)
    let stmt ← onArena (Arena.assignStmt target value)
    emit stmt
    return stmt) builder := by
  have hassign (target : NodeId) (builder : Builder) : Advancing graph [] (do
      let stmt ← onArena (Arena.assignStmt target value)
      emit stmt
      return stmt) builder :=
    (advancing_allocation (Arena.allocates_assignStmt target value)).andThen fun stmt _ =>
      (advancing_emit stmt).andThen fun _ _ => advancing_pure stmt
  dsimp only
  split
  · exact (advancing_leaf _).andThen fun target _ => hassign target _
  · exact advancing_global.andThen fun scope _ =>
      (advancing_allocation (Arena.allocates_member scope name)).andThen fun target _ =>
        hassign target _

/-- Any call goes ahead, whatever its outcome. -/
theorem advancing_call (hgraph : graph.Registered) (call : Call) :
    Advancing graph [] (call.run settings graph) builder := by
  cases call with
  | node shape => exact (visits_toNode hgraph settings).advancing shape builder
  | assign name shape =>
    exact ((visits_toNode hgraph settings).advancing shape builder).andThen fun value _ =>
      advancing_assignValue name value

/-- The answer for the shape of a call is noted. -/
theorem noted_of_call (hgraph : graph.Registered) {call : Call} {node : NodeId}
    (h : call.run settings graph builder = (.ok node, builder')) :
    ∃ value, (call.shape, .ok value) ∈ builder'.visits := by
  cases call with
  | node shape => exact ⟨node, (visits_toNode hgraph settings).noted h⟩
  | assign name shape =>
    obtain ⟨value, builder₁, hvalue, h⟩ := run_bind_eq_ok h
    have hassigned := @advancing_assignValue settings graph builder₁ name value
    exact ⟨value, (hassigned.of_eq h).visits _ ((visits_toNode hgraph settings).noted hvalue)⟩

/-- The calls go ahead only, whatever their outcome. -/
theorem advances_afterCalls (hgraph : graph.Registered) :
    builder.Advances graph [] (afterCalls settings graph calls builder) := by
  induction calls generalizing builder with
  | nil => exact .rfl
  | cons call calls ih => exact (advancing_call hgraph call).advances.trans ih

/-! ### Calls come to an end -/

/-- A call for a known shape ends without a fault. -/
theorem call_ok (hvalid : graph.Valid) (hname : settings.globalName ≠ "") (hsound : builder.Sound [])
    {call : Call} (hcall : (graph.shape? call.shape).isSome) :
    ∃ node builder', call.run settings graph builder = (.ok node, builder') ∧ builder'.Sound [] := by
  cases call with
  | node shape =>
    obtain ⟨node, builder', hrun, hbecomes⟩ := runs_toNode hvalid hname hsound hcall
    exact ⟨node, builder', hrun, hbecomes.sound.drop⟩
  | assign name shape =>
    obtain ⟨stmt, builder', hrun, hbecomes⟩ := runs_assignGlobal hvalid hname hsound hcall name
    exact ⟨stmt, builder', hrun, hbecomes.sound⟩

/-- No request meets a fault, and the shapes of all calls have been asked for. -/
theorem answered_afterCalls (hgraph : graph.Recorded) (hname : settings.globalName ≠ "")
    (hcalls : ∀ call ∈ calls, (graph.shape? call.shape).isSome) (hsound : builder.Sound [])
    (hanswered : ∀ visit ∈ builder.visits, ∃ node, visit.2 = .ok node) :
    (afterCalls settings graph calls builder).Sound [] ∧
      (∀ visit ∈ (afterCalls settings graph calls builder).visits, ∃ node, visit.2 = .ok node) ∧
      ∀ call ∈ calls, ∃ node,
        (call.shape, .ok node) ∈ (afterCalls settings graph calls builder).visits := by
  induction calls generalizing builder with
  | nil => exact ⟨hsound, hanswered, nofun⟩
  | cons call calls ih =>
    -- The first call leaves a sound builder for the others, which take back none of its answers.
    obtain ⟨node, builder', hrun, hsound'⟩ :=
      call_ok hgraph.valid hname hsound (hcalls call List.mem_cons_self)
    have hnext : afterCalls settings graph (call :: calls) builder =
        afterCalls settings graph calls builder' := by
      rw [afterCalls, List.foldl_cons, hrun]
      rfl
    have hcall : Advancing graph [] (call.run settings graph) builder :=
      advancing_call hgraph.registered call
    obtain ⟨hsound, hall, hnoted⟩ :=
      ih (fun other hmem => hcalls other (List.mem_cons_of_mem _ hmem)) hsound'
        fun visit hmem => (hcall.answered hrun visit hmem).elim (hanswered visit) fun h => h
    rw [hnext]
    refine ⟨hsound, hall, fun other hmem => ?_⟩
    rcases List.mem_cons.1 hmem with rfl | hmem
    · obtain ⟨value, hvalue⟩ := noted_of_call hgraph.registered hrun
      exact ⟨value, (advances_afterCalls hgraph.registered).visits _ hvalue⟩
    · exact hnoted other hmem

/-! ### Objects -/

/-- What is remembered for an object has its first entries, and all of them if no request for the
    object met a fault. -/
theorem done_of_advances_start {names : NameSupply} (h : (Builder.start names).Advances graph [] builder)
    {node : NodeId} (hnode : builder.nodes[id.index]? = some node) : builder.Done graph id node := by
  rcases h.done hnode with hformer | hmem | hdone
  · exact nomatch hformer.symm.trans Std.TreeMap.getElem?_emptyc
  · exact absurd hmem List.not_mem_nil
  · exact hdone

/-- Whenever the node of an object is handed out, it has entries for the first properties, getters
    and setters in this order. It has entries for all of them if the global scope has a name, or
    else if no request for the object has met a fault before. -/
theorem toNode_entries (hgraph : graph.Recorded) (names : NameSupply)
    (hcalls : ∀ call ∈ calls, (graph.shape? call.shape).isSome) {entries : Aggregate}
    (hid : graph.shape? id = some (.object entries)) {node : NodeId}
    (h : toNode settings graph id (afterCalls settings graph calls (.start names)) =
      (.ok node, builder')) :
    (∃ done, done <+: entries.entryList ∧ builder'.Filled node done) ∧
      (settings.globalName ≠ "" ∨ (∀ fault, (id, .error fault) ∉
          (afterCalls settings graph calls (.start names)).visits) →
        builder'.Filled node entries.entryList) := by
  have hvisits := visits_toNode hgraph.registered settings
  have hrequest := hvisits.advancing id (afterCalls settings graph calls (.start names))
  have hadvances := (advances_afterCalls hgraph.registered).trans (hrequest.of_eq h)
  obtain ⟨done, hprefix, hfilled, hall⟩ :=
    done_of_advances_start hadvances ((hvisits.settles h).nodes hid rfl) entries hid
  refine ⟨⟨done, hprefix, hfilled⟩, fun hclean => ?_⟩
  rcases hall with rfl | ⟨fault, hmem⟩
  · exact hfilled
  · -- The request that was answered met no fault, so it was one before.
    rcases hrequest.answered h _ hmem with hmem | ⟨_, hok⟩
    · rcases hclean with hname | hclean
      · obtain ⟨_, hanswered, _⟩ := answered_afterCalls hgraph hname hcalls
          (Builder.sound_start names) nofun
        obtain ⟨_, hok⟩ := hanswered _ hmem
        cases hok
      · exact absurd hmem (hclean fault)
    · cases hok

/-- An object that holds itself. -/
def selfHolder : ShapeGraph :=
  ((ShapeGraph.empty.object none).2.object none).2.modify ⟨7⟩
    (Shape.modifyProperties (·.insert "self" ⟨7⟩))

/-- An object that holds the first one and then the global scope. -/
def scopeHolder : ShapeGraph :=
  (selfHolder.modify ⟨8⟩ (Shape.modifyProperties (·.insert "o" ⟨7⟩))).modify ⟨8⟩
    (Shape.modifyProperties (·.insert "g" ShapeGraph.global))

/-- Both objects are what their operations record. -/
theorem scopeHolder_recorded : scopeHolder.Recorded := by
  have hself : ((ShapeGraph.empty.object none).2.object none).2.addProperty ⟨7⟩ "self" ⟨7⟩ =
    .ok (true, selfHolder) := rfl
  have hobject : selfHolder.addProperty ⟨8⟩ "o" ⟨7⟩ = .ok (true, _) := rfl
  have hglobal : (selfHolder.modify ⟨8⟩ (Shape.modifyProperties (·.insert "o" ⟨7⟩))).addProperty ⟨8⟩
    "g" ShapeGraph.global = .ok (true, scopeHolder) := rfl
  have hrecorded := ShapeGraph.Recorded.addProperty (.object none (.object none .empty)) rfl hself
  exact .addProperty (.addProperty hrecorded rfl hobject) rfl hglobal

/-- A run is known by its answer. -/
theorem run_eq_ok {gen : Gen NodeId} {node : NodeId}
    (h : (gen builder).1.toOption = some node) : gen builder = (.ok node, (gen builder).2) := by
  cases hanswer : (gen builder).1 with
  | error fault =>
    rw [hanswer] at h
    cases h
  | ok node' =>
    rw [hanswer] at h
    exact Option.some.inj h ▸ Prod.ext hanswer rfl

/-- A builder that was asked for the second object, without a name for the global scope. -/
def scopeless : Builder :=
  afterCalls { globalName := "" } scopeHolder [.node ⟨8⟩] (.start ∅)

/-- The request met a fault, but the first object is filled. -/
theorem toNode_entries_holdsSelf :
    scopeHolder.Recorded ∧ (∀ call ∈ [Call.node ⟨8⟩], (scopeHolder.shape? call.shape).isSome) ∧
      ∃ entries builder, scopeHolder.shape? ⟨7⟩ = some (.object entries) ∧
        toNode { globalName := "" } scopeHolder ⟨7⟩ scopeless = (.ok ⟨1⟩, builder) ∧
        (∃ fault, (⟨8⟩, .error fault) ∈ scopeless.visits) ∧
        (∀ fault, (⟨7⟩, .error fault) ∉ scopeless.visits) ∧
        entries.entryList = [(.value, "self", ⟨7⟩)] ∧ builder.Filled ⟨1⟩ entries.entryList := by
  have hknown : ∀ call ∈ [Call.node ⟨8⟩], (scopeHolder.shape? call.shape).isSome := by decide
  have hfault : scopeless.visits.any (fun visit => visit.1 == ⟨8⟩ && !visit.2.isOk) = true := by
    decide +kernel
  have hfirst : scopeless.visits.all (fun visit => visit.1 != ⟨7⟩ || visit.2.isOk) = true := by
    decide +kernel
  have hclean : ∀ fault, (⟨7⟩, .error fault) ∉ scopeless.visits :=
    fun fault hmem => nomatch Array.all_eq_true'.1 hfirst _ hmem
  have hsecond : ∃ fault, (⟨8⟩, .error fault) ∈ scopeless.visits := by
    obtain ⟨⟨id, answer⟩, hmem, hvisit⟩ := Array.any_eq_true'.1 hfault
    cases answer with
    | ok node => simp [Except.isOk, Except.toBool] at hvisit
    | error fault =>
      obtain rfl : id = ⟨8⟩ := by simpa [Except.isOk, Except.toBool] using hvisit
      exact ⟨fault, hmem⟩
  obtain ⟨entries, hentries, hlist⟩ : ∃ entries, scopeHolder.shape? ⟨7⟩ = some (.object entries) ∧
      entries.entryList = [(.value, "self", ⟨7⟩)] := ⟨_, rfl, rfl⟩
  have hanswer := run_eq_ok (show (toNode { globalName := "" } scopeHolder ⟨7⟩ scopeless).1.toOption =
    some ⟨1⟩ by decide +kernel)
  exact ⟨scopeHolder_recorded, hknown, entries, _, hentries, hanswer, hsecond, hclean, hlist,
    (toNode_entries scopeHolder_recorded ∅ hknown hentries hanswer).2 (.inr hclean)⟩

/-- A second request for an object that met a fault is answered with an object without the last
    entry. -/
theorem toNode_entries_holdsScope :
    scopeHolder.Recorded ∧ (∀ call ∈ [Call.node ⟨8⟩], (scopeHolder.shape? call.shape).isSome) ∧
      ∃ entries builder, scopeHolder.shape? ⟨8⟩ = some (.object entries) ∧
        toNode { globalName := "" } scopeHolder ⟨8⟩ scopeless = (.ok ⟨0⟩, builder) ∧
        entries.entryList = [(.value, "o", ⟨7⟩), (.value, "g", ShapeGraph.global)] ∧
        builder.arena.node? ⟨0⟩ = some (.object #[⟨3⟩]) ∧
        ¬ builder.Filled ⟨0⟩ entries.entryList := by
  have hanswer := run_eq_ok (show (toNode { globalName := "" } scopeHolder ⟨8⟩ scopeless).1.toOption =
    some ⟨0⟩ by decide +kernel)
  have hnode : (toNode { globalName := "" } scopeHolder ⟨8⟩ scopeless).2.arena.node? ⟨0⟩ =
      some (.object #[⟨3⟩]) := by decide +kernel
  obtain ⟨entries, hentries, hlist⟩ : ∃ entries, scopeHolder.shape? ⟨8⟩ = some (.object entries) ∧
      entries.entryList = [(.value, "o", ⟨7⟩), (.value, "g", ShapeGraph.global)] := ⟨_, rfl, rfl⟩
  refine ⟨scopeHolder_recorded, by decide, entries, _, hentries, hanswer, hlist, hnode, ?_⟩
  rintro ⟨ids, hnode', hfilled⟩
  obtain rfl := Node.object.inj (Option.some.inj (hnode.symm.trans hnode'))
  rw [hlist] at hfilled
  exact nomatch hfilled.length_eq

end Gen

end Semblance
