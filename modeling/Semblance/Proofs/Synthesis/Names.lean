import Semblance.Proofs.Generate.Names
import Semblance.Proofs.Lowering.Names
import Semblance.Proofs.Synthesis

/-!
# Names in a synthesized program

Generation and lowering draw their names from one supply, which starts with the names that are kept
for the global bindings. So no two declarators of a program have one name, and no declarator has a
kept one. What refers to the global scope, to a placeholder or to a hoisted node finds a declarator
of its name in the program.

## Key results

- `synthesize_generates`, `synthesize_run`, `synthesize_stages`: synthesis in terms of its stages
- `synthesize_names`: names tell declarators apart, and references have declarators
-/

namespace Semblance

/-- The children of a declaration are its declarators. -/
theorem Arena.child?_varDecl {arena : Arena} {decl : NodeId} {declarators : Array NodeId}
    (hnode : arena.node? decl = some (.varDecl declarators)) (slot : Nat) :
    arena.child? decl slot = declarators[slot]? := by
  rw [child?_of_node? hnode, Node.child?, Node.operands, List.getElem?_map, Array.getElem?_toList]
  cases declarators[slot]? <;> rfl

/-- The declarators of a statement are below it. -/
theorem Arena.reaches_declarator {arena : Arena} {roots : List NodeId} {decl declarator : NodeId}
    {declarators : Array NodeId} (hroot : decl ∈ roots)
    (hnode : arena.node? decl = some (.varDecl declarators)) (hmem : declarator ∈ declarators) :
    arena.Reaches roots declarator := by
  obtain ⟨slot, hslot⟩ := Array.getElem?_of_mem hmem
  exact .child (.root hroot) ((child?_varDecl hnode slot).trans hslot)

/-- What is referred to has a declarator below some statement. -/
theorem Builder.Bound.exists_declarator {builder : Builder} (h : builder.Bound) {leaf : NodeId}
    {referent : Referent} (hmem : (leaf, referent) ∈ builder.references) :
    ∃ name, builder.arena.node? leaf = some (.ident name) ∧
      ∃ declarator init, builder.arena.node? declarator = some (.declarator name init) ∧
        builder.arena.Reaches builder.roots declarator := by
  obtain ⟨name, hleaf, hname⟩ := h.reference hmem
  refine ⟨name, hleaf, ?_⟩
  cases referent with
  | scope =>
    obtain ⟨decl, hdecl, scope, ⟨declarator, hnode, hdeclarator⟩, _⟩ := h.scope hname
    exact ⟨declarator, _, hdeclarator, Arena.reaches_declarator
      (List.mem_append_right _ hdecl) hnode (Array.mem_singleton_self _)⟩
  | parameter shape =>
    obtain ⟨decl, declarators, hdecl, hnode, declarator, hmem, hdeclarator⟩ := h.placeholder hname
    have hroot : decl ∈ builder.roots := List.mem_append_left _ (by rw [hdecl]; simp)
    exact ⟨declarator, _, hdeclarator, Arena.reaches_declarator hroot hnode hmem⟩

/-- The statements of a sound builder have all that they refer to. -/
theorem Builder.Sound.closed {builder : Builder} (h : builder.Sound []) :
    builder.arena.Closed builder.roots :=
  (h.arena.hoistable h.statement).closed

namespace ShapeGraph

variable {graph : ShapeGraph} {config : Config}

/-- The names of the global bindings are in use from the start, if they are kept. -/
theorem isTaken_initialNames (hreserve : config.reserveGlobalNames = true)
    {binding : String × ShapeId} (hmem : binding ∈ graph.globals) :
    (graph.initialNames config).isTaken binding.1 = true := by
  -- The induction is on the names that are still to be reserved.
  have hfold (bindings : List (String × ShapeId)) (names : NameSupply)
      (h : names.isTaken binding.1 = true ∨ binding ∈ bindings) :
      (bindings.foldl (fun names binding => names.reserve binding.1) names).isTaken binding.1 =
        true := by
    induction bindings generalizing names with
    | nil => exact h.resolve_right fun hmem => nomatch hmem
    | cons first bindings ih =>
      refine ih _ ?_
      rw [NameSupply.isTaken_reserve, Bool.or_eq_true, beq_iff_eq]
      rcases h with htaken | hmem
      · exact .inl (.inr htaken)
      · rcases List.mem_cons.1 hmem with rfl | hmem
        · exact .inl (.inl rfl)
        · exact .inr hmem
  rw [initialNames, if_pos hreserve]
  exact hfold _ _ (.inr hmem)

/-- The assignments to the global names are a sequence of steps. -/
theorem stepwise_assignments (h : graph.Recorded) :
    Gen.Stepwise config.toSettings graph (graph.globals.forM fun binding =>
      discard (Gen.assignGlobal config.toSettings graph binding.1 binding.2))
      (.start (graph.initialNames config)) :=
  Gen.stepwise_forM fun binding hmem builder _ => by
    rw [Gen.discard_eq_bind]
    exact (Gen.stepwise_assignGlobal h.primitive hmem).andThen fun _ _ => Gen.stepwise_pure _

/-- A synthesis lowers what a generation ends with. -/
theorem synthesize_generates (h : graph.Recorded) (hname : config.globalName ≠ "") :
    ∃ builder lowering, graph.synthesize config = .ok ⟨builder.finish, lowering⟩ ∧
      graph.Generates config builder ∧ builder.Sound [] ∧
      builder.arena.lower builder.roots builder.names = .ok lowering := by
  obtain ⟨builder, hassignments, hsound⟩ := assignments_ok h.valid hname
  have hgenerate : graph.generate config = .ok builder.finish := by
    rw [generate, show _ = _ from hassignments]
  obtain ⟨hoisted, hhoist⟩ :=
    Hoist.hoist_ok (hsound.arena.hoistable hsound.statement) builder.names
  have hlower : builder.arena.lower builder.roots builder.names = .ok _ :=
    bind_eq_ok.2 ⟨hoisted, hhoist, rfl⟩
  exact ⟨builder, _, bind_eq_ok.2 ⟨_, hgenerate, bind_eq_ok.2 ⟨_, hlower, rfl⟩⟩, hassignments,
    hsound, hlower⟩

/-- A generation is a sequence of steps. -/
theorem Generates.steps {builder : Builder} (hgraph : graph.Recorded)
    (h : graph.Generates config builder) :
    Builder.Steps config.toSettings graph (.start (graph.initialNames config)) builder := by
  have hsteps := @stepwise_assignments graph config hgraph
  rwa [Gen.Stepwise, show _ = _ from h] at hsteps

/-- A generation keeps the names of its declarators apart. -/
theorem Generates.wellNamed {builder : Builder} (hgraph : graph.Recorded)
    (h : graph.Generates config builder) : builder.WellNamed (graph.initialNames config) :=
  Builder.wellNamed_of_steps (h.steps hgraph)

/-- A synthesis lowers what the steps of a generation end with. -/
theorem synthesize_run (h : graph.Recorded) (hname : config.globalName ≠ "") :
    ∃ builder lowering, graph.synthesize config = .ok ⟨builder.finish, lowering⟩ ∧
      Builder.Steps config.toSettings graph (.start (graph.initialNames config)) builder ∧
      builder.Sound [] ∧
      builder.arena.lower builder.roots builder.names = .ok lowering := by
  obtain ⟨builder, lowering, hsynthesize, hgenerates, hsound, hlower⟩ :=
    synthesize_generates h hname
  exact ⟨builder, lowering, hsynthesize, hgenerates.steps h, hsound, hlower⟩

/-- A synthesis generates a graph that can be hoisted, with names that tell declarators apart and
    references that are bound, and lowers it. -/
theorem synthesize_stages (h : graph.Recorded) (hname : config.globalName ≠ "") :
    ∃ synthesis, graph.synthesize config = .ok synthesis ∧
      synthesis.generated.arena.Hoistable synthesis.generated.roots ∧
      synthesis.generated.arena.lower synthesis.generated.roots synthesis.generated.names =
        .ok synthesis.lowering ∧
      ∃ builder : Builder, builder.WellNamed (graph.initialNames config) ∧
        synthesis.generated = builder.finish := by
  obtain ⟨builder, lowering, hsynthesize, hsteps, hsound, hlower⟩ := synthesize_run h hname
  exact ⟨_, hsynthesize, hsound.arena.hoistable hsound.statement, hlower, builder,
    Builder.wellNamed_of_steps hsteps, rfl⟩

/-- A name that is kept for a global binding is not declared. -/
theorem not_declares_global {builder : Builder} {lowering : Lowering}
    (hnamed : builder.WellNamed (graph.initialNames config))
    (hclosed : builder.arena.Closed builder.roots)
    (hlower : builder.arena.lower builder.roots builder.names = .ok lowering)
    (hreserve : config.reserveGlobalNames = true) {binding : String × ShapeId}
    (hmem : binding ∈ graph.globals) (declarator : NodeId) :
    ¬ lowering.program.Declares declarator binding.1 := by
  intro hdeclares
  -- The names of the global bindings are in use from the start.
  have hkept := isTaken_initialNames hreserve hmem
  rcases lower_declares_cases hclosed hlower hdeclares with ⟨init, hnode⟩ | hfree
  · rw [hnamed.supplied.fresh hnode] at hkept
    exact nomatch hkept
  · exact nomatch hfree.symm.trans (hnamed.supplied.kept hkept)

/-- Names tell the declarators of a synthesized program apart, none of them has a name that is kept
    for a global binding, and every reference has a declarator: one to the global scope or to a
    placeholder, and one that lowering put in, which is a new leaf. -/
theorem synthesize_names (h : graph.Recorded) (hname : config.globalName ≠ "") :
    ∃ synthesis, graph.synthesize config = .ok synthesis ∧
      (∀ name declarator declarator', synthesis.program.Declares declarator name →
        synthesis.program.Declares declarator' name → declarator = declarator') ∧
      (config.reserveGlobalNames = true → ∀ binding ∈ graph.globals, ∀ declarator,
        ¬ synthesis.program.Declares declarator binding.1) ∧
      (∀ reference ∈ synthesis.generated.references, ∃ name,
        synthesis.program.arena.node? reference.1 = some (.ident name) ∧
        ∃ declarator, synthesis.program.Declares declarator name) ∧
      ∀ leaf name, synthesis.generated.arena.size ≤ leaf.index →
        synthesis.program.arena.Reaches synthesis.program.body leaf →
        synthesis.program.arena.node? leaf = some (.ident name) →
        ∃ declarator, synthesis.program.Declares declarator name := by
  obtain ⟨⟨generated, lowering⟩, hsynthesize, ⟨hclosed, _⟩, hlower, builder, hnamed, rfl⟩ :=
    synthesize_stages h hname
  refine ⟨_, hsynthesize, fun name declarator declarator' => ?_, ?_, ?_, fun leaf name => ?_⟩
  · exact lower_declares_unique hclosed hlower hnamed.supplied.taken hnamed.supplied.unique
  · exact fun hreserve binding hmem => not_declares_global hnamed hclosed hlower hreserve hmem
  · rintro ⟨leaf, referent⟩ hmem
    obtain ⟨name, hleaf, declarator, init, hnode, hreaches⟩ := hnamed.bound.exists_declarator hmem
    exact ⟨name, lower_ident hclosed hlower hleaf, declarator,
      lower_declares_of_reaches hclosed hlower hreaches hnode⟩
  · exact fun hnew hleaf hnode => lower_reference_declares hclosed hlower hleaf hnew hnode

/-- A function that uses its first parameter is bound to two global names, and a third global name is
    that of the function, for the global scope. -/
def collidingHints : ShapeGraph :=
  let graph := ((empty.function none).2.use ⟨7⟩ 1).hold global "function_7" global
  (graph.hold global "a" ⟨7⟩).hold global "b" ⟨7⟩

/-- The shapes are what their operations record. -/
theorem collidingHints_recorded : collidingHints.Recorded :=
  ((((Recorded.function none .empty).use ⟨7⟩ 1 rfl).hold global "function_7" global rfl rfl).hold
    global "a" ⟨7⟩ rfl rfl).hold global "b" ⟨7⟩ rfl rfl

/-- The leaf `⟨3⟩` is for the global scope and `⟨11⟩` for the parameter, and `⟨23⟩` was put in for the
    function. -/
theorem collidingHints_run :
    ∃ synthesis, collidingHints.synthesize (.withGlobalName "function_7") = .ok synthesis ∧
      ((⟨3⟩, Referent.scope) ∈ synthesis.generated.references ∧
        synthesis.program.arena.node? ⟨3⟩ = some (.ident "function_7_1")) ∧
      ((⟨11⟩, Referent.parameter ⟨10⟩) ∈ synthesis.generated.references ∧
        synthesis.program.arena.node? ⟨11⟩ = some (.ident "function_7_1_1")) ∧
      synthesis.generated.arena.size ≤ 23 ∧
      synthesis.program.arena.Reaches synthesis.program.body ⟨23⟩ ∧
      synthesis.program.arena.node? ⟨23⟩ = some (.ident "function_7_2") := by
  have hrun : (collidingHints.synthesize (.withGlobalName "function_7")).toOption.any
      (fun synthesis =>
        let arena := synthesis.program.arena
        decide (((⟨3⟩, Referent.scope) ∈ synthesis.generated.references ∧
            arena.node? ⟨3⟩ = some (.ident "function_7_1")) ∧
          ((⟨11⟩, Referent.parameter ⟨10⟩) ∈ synthesis.generated.references ∧
            arena.node? ⟨11⟩ = some (.ident "function_7_1_1")) ∧
          synthesis.generated.arena.size ≤ 23 ∧
          -- The function is assigned to the global bindings.
          (⟨17⟩ ∈ synthesis.program.body ∧ [0, 1].foldlM arena.child? ⟨17⟩ = some ⟨23⟩) ∧
          arena.node? ⟨23⟩ = some (.ident "function_7_2"))) = true := by
    decide +kernel
  obtain ⟨synthesis, hok, hrun⟩ := exists_of_any hrun
  obtain ⟨hscope, hparameter, hnew, ⟨hassign, hslots⟩, hident⟩ := of_decide_eq_true hrun
  exact ⟨synthesis, hok, hscope, hparameter, hnew, (Arena.Reaches.root hassign).descend hslots, hident⟩

/-- The global binding keeps its name, although the binding for the global scope, the placeholder and
    the function would all take it or a variant of it. Each of the three has one declarator. -/
theorem synthesize_names_collidingHints :
    collidingHints.Recorded ∧ (Config.withGlobalName "function_7").globalName ≠ "" ∧
      ∃ synthesis, collidingHints.synthesize (.withGlobalName "function_7") = .ok synthesis ∧
        (∀ declarator, ¬ synthesis.program.Declares declarator "function_7") ∧
        (synthesis.program.arena.node? ⟨3⟩ = some (.ident "function_7_1") ∧
          ∃! declarator, synthesis.program.Declares declarator "function_7_1") ∧
        (synthesis.program.arena.node? ⟨11⟩ = some (.ident "function_7_1_1") ∧
          ∃! declarator, synthesis.program.Declares declarator "function_7_1_1") ∧
        synthesis.program.arena.node? ⟨23⟩ = some (.ident "function_7_2") ∧
          ∃! declarator, synthesis.program.Declares declarator "function_7_2" := by
  obtain ⟨synthesis, hok, hunique, hkept, hbound, hnew⟩ :=
    @synthesize_names collidingHints (.withGlobalName "function_7") collidingHints_recorded
      (by decide)
  obtain ⟨_, hok', ⟨hscope, hident⟩, ⟨hparameter, hident'⟩, hge, hreaches, hident''⟩ :=
    collidingHints_run
  obtain rfl := Except.ok.inj (hok.symm.trans hok')
  -- Two declarators never have one name, so it is enough that there is one.
  have hone {name : String} (h : ∃ declarator, synthesis.program.Declares declarator name) :
      ∃! declarator, synthesis.program.Declares declarator name := by
    obtain ⟨declarator, hdeclares⟩ := h
    exact ⟨declarator, hdeclares, fun other hother => hunique name other declarator hother hdeclares⟩
  have hreference {leaf : NodeId} {referent : Referent} {name : String}
      (hmem : (leaf, referent) ∈ synthesis.generated.references)
      (hnode : synthesis.program.arena.node? leaf = some (.ident name)) :
      ∃! declarator, synthesis.program.Declares declarator name := by
    obtain ⟨name', hnode', hdeclared⟩ := hbound _ hmem
    obtain rfl : name = name' := by simpa using hnode.symm.trans hnode'
    exact hone hdeclared
  exact ⟨collidingHints_recorded, by decide, synthesis, hok,
    hkept rfl ("function_7", global) List.mem_cons_self, ⟨hident, hreference hscope hident⟩,
    ⟨hident', hreference hparameter hident'⟩, hident'', hone (hnew ⟨23⟩ _ hge hreaches hident'')⟩

end ShapeGraph

end Semblance
