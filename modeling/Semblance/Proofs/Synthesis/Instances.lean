import Semblance.Proofs.Synthesis.Bodies

/-!
# Instances in a synthesized program

An instance is rebuilt as a construction without arguments, so what was seen on it has to be written
by what it is constructed with. A function writes all of it to the receiver in its body. A builtin
has no body: what was seen on its instances is recorded, but it is not written.

## Key results

- `instanceProperties_eq`: what the body of a constructor writes
- `synthesize_instances`: how an instance is constructed, and where its properties are written
- `synthesize_instances_builtin`: an instance of a builtin whose property is lost
-/

namespace Semblance

/-- An instance is a construction by the node of its constructor. -/
theorem Builder.Whole.constructs {settings : Settings} {graph : ShapeGraph} {builder : Builder}
    {id constructor : ShapeId} {properties : Properties} {node : NodeId}
    (h : builder.Whole settings graph) (hvisit : (id, .ok node) ∈ builder.visits)
    (hid : graph.shape? id = some (.instanceOf constructor properties)) :
    ∃ callee, (constructor, .ok callee) ∈ builder.visits ∧
      builder.arena.node? node = some (.new callee #[]) :=
  h.constructed ((h.settled hvisit).instances hid (RemembersKinds.none h.kinds hid rfl))

namespace ShapeGraph

variable {graph : ShapeGraph} {config : Config}

/-- A function writes what was seen on its instances. -/
theorem instanceProperties_eq (h : graph.Registered) {id constructor : ShapeId}
    {properties : Properties} {fn : FunctionShape}
    (hid : graph.shape? id = some (.instanceOf constructor properties))
    (hconstructor : graph.shape? constructor = some (.function fn)) :
    Gen.instanceProperties graph fn = properties := by
  have hkey : graph.keyOf? id = some (.instanceOf constructor) := by
    rw [keyOf?, hid]
    rfl
  -- The constructor is found to construct just this instance.
  have hfind : graph.find? (.instanceOf constructor) = some fn.constructs := by
    rw [find?, hconstructor]
    rfl
  obtain rfl := Option.some.inj (hfind.symm.trans (h.found.2 hkey))
  rw [Gen.instanceProperties, hid]
  rfl

/-- All requests are answered. An instance is a construction without arguments by the node of its
    constructor, and if the constructor is a function, then this node stands in the program and its
    body writes all properties of the instance to the receiver: each gets the node that was answered
    for its value, or a reference to the declaration of this node. -/
theorem synthesize_instances (h : graph.Recorded) (hname : config.globalName ≠ "") :
    ∃ builder lowering, graph.synthesize config = .ok ⟨builder.finish, lowering⟩ ∧
      graph.Generates config builder ∧
      ∀ id answer constructor properties, (id, answer) ∈ builder.visits →
        graph.shape? id = some (.instanceOf constructor properties) →
        ∃ node callee, answer = .ok node ∧ (constructor, .ok callee) ∈ builder.visits ∧
          builder.arena.node? node = some (.new callee #[]) ∧
          ∀ fn, graph.shape? constructor = some (.function fn) →
            lowering.program.arena.Reaches lowering.program.body callee ∧
            ∃ body statements,
              lowering.program.arena.node? callee = some (.function fn.formals body) ∧
              lowering.program.arena.node? body = some (.block statements) ∧
              ∀ binding ∈ properties.toList, ∃ stmt ∈ statements,
                lowering.program.Does builder stmt (.write binding.1 binding.2) := by
  obtain ⟨builder, lowering, hsynthesize, hgenerates, hsound, hlower⟩ :=
    synthesize_generates h hname
  refine ⟨builder, lowering, hsynthesize, hgenerates,
    fun id answer constructor properties hvisit hid => ?_⟩
  have hwhole := hgenerates.whole h.registered
  obtain ⟨node, rfl⟩ := hgenerates.answered h.registered hvisit
  obtain ⟨callee, hcallee, hnew⟩ := hwhole.constructs hvisit hid
  refine ⟨node, callee, rfl, hcallee, hnew, fun fn hfn => ?_⟩
  have hnode := (hwhole.settled hcallee).nodes hfn rfl
  obtain ⟨hreached, body, statements, hfunction, hblock, hdone⟩ :=
    hgenerates.performs h hsound hlower hfn hnode
  refine ⟨hreached, body, statements, hfunction, hblock, fun binding hmem => ?_⟩
  have hwrite : .write binding.1 binding.2 ∈ graph.bodyParts fn := by
    rw [← instanceProperties_eq h.registered hid hfn] at hmem
    exact write_mem_bodyParts hmem
  obtain ⟨stmt, hstmt, hdoes⟩ := exists_of_forall₂ hdone hwrite
  exact ⟨stmt, Array.mem_toList_iff.1 hstmt, hdoes⟩

/-- A global binding with an instance of a function that counts something. -/
def tally : ShapeGraph :=
  ((empty.function none).2.hold ⟨8⟩ "count" (primitive .number)).hold global "t" ⟨8⟩

/-- The function and its instance are what their operations record. -/
theorem tally_recorded : tally.Recorded :=
  ((Recorded.function none .empty).hold ⟨8⟩ "count" (primitive .number) rfl rfl).hold global "t" ⟨8⟩
    rfl rfl

/-- What is counted is written in the body of the function. -/
theorem synthesize_instances_tally :
    tally.Recorded ∧ ({} : Config).globalName ≠ "" ∧
      ∃ builder lowering, tally.synthesize {} = .ok ⟨builder.finish, lowering⟩ ∧
        ∃ node callee params body statements, (⟨8⟩, .ok node) ∈ builder.visits ∧
          tally.shape? ⟨8⟩ = some (.instanceOf ⟨7⟩ ((∅ : Properties).insert "count" ⟨3⟩)) ∧
          tally.shape? ⟨7⟩ = some (.function { constructs := ⟨8⟩, returns := ⟨9⟩ }) ∧
          builder.arena.node? node = some (.new callee #[]) ∧
          lowering.program.arena.node? callee = some (.function params body) ∧
          lowering.program.arena.node? body = some (.block statements) ∧
          ∃ stmt ∈ statements, lowering.program.Does builder stmt (.write "count" ⟨3⟩) := by
  obtain ⟨builder, lowering, hok, hgenerates, hinstances⟩ :=
    @synthesize_instances tally {} tally_recorded (by decide)
  obtain ⟨_, _, _, node, _, hvisit⟩ :=
    (hgenerates.whole tally_recorded.registered).assigned ("t", ⟨8⟩) List.mem_cons_self
  obtain ⟨_, callee, heq, _, hnew, hbody⟩ := hinstances ⟨8⟩ _ ⟨7⟩ _ hvisit rfl
  obtain rfl := Except.ok.inj heq
  obtain ⟨_, body, statements, hfunction, hblock, hwrites⟩ := hbody _ rfl
  exact ⟨tally_recorded, by decide, builder, lowering, hok, node, callee, _, body, statements, hvisit,
    rfl, rfl, hnew, hfunction, hblock, hwrites ("count", ⟨3⟩) List.mem_cons_self⟩

/-- A global binding with an instance of a builtin that had a property. -/
def mapInstance : ShapeGraph :=
  let graph := ((empty.builtin "Map" true).2.alloc (.instanceOf ⟨7⟩ ∅)).2
  (({ graph with constructed := graph.constructed.insert 7 ⟨8⟩ } : ShapeGraph).hold ⟨8⟩ "x"
    (primitive .number)).hold global "m" ⟨8⟩

/-- The instance is what its operations record. -/
theorem mapInstance_recorded : mapInstance.Recorded := by
  have hinstance : (empty.builtin "Map" true).2.instanceOf ⟨7⟩ = .ok (some ⟨8⟩, _) := rfl
  exact ((Recorded.instanceOf (.builtin "Map" true .empty) hinstance).hold ⟨8⟩ "x"
    (primitive .number) rfl rfl).hold global "m" ⟨8⟩ rfl rfl

/-- The instance is asked for, and the program is `m = new Map()`: it has no member accesses and no
    entries, so nothing writes the property. -/
theorem synthesize_instances_builtin :
    mapInstance.Recorded ∧
      mapInstance.shape? ⟨8⟩ = some (.instanceOf ⟨7⟩ ((∅ : Properties).insert "x" ⟨3⟩)) ∧
      ∃ builder lowering, mapInstance.synthesize {} = .ok ⟨builder.finish, lowering⟩ ∧
        mapInstance.Generates {} builder ∧ (∃ node, (⟨8⟩, .ok node) ∈ builder.visits) ∧
        lowering.program.body = [⟨4⟩] ∧ lowering.program.arena.nodes =
          #[.ident "Map", .new ⟨0⟩ #[], .ident "m", .assign ⟨2⟩ ⟨1⟩, .exprStmt ⟨3⟩] ∧
        ∀ node ∈ lowering.program.arena.nodes, (∀ owner key, node ≠ .member owner key) ∧
          ∀ key value kind, node ≠ .entry key value kind := by
  obtain ⟨builder, lowering, hok, hgenerates, _⟩ :=
    @synthesize_generates mapInstance {} mapInstance_recorded (by decide)
  obtain ⟨_, _, _, node, _, hvisit⟩ :=
    (hgenerates.whole mapInstance_recorded.registered).assigned ("m", ⟨8⟩) List.mem_cons_self
  have hrun : (mapInstance.synthesize {}).toOption.any (fun synthesis =>
      decide (synthesis.program.body = [⟨4⟩] ∧ synthesis.program.arena.nodes =
        #[.ident "Map", .new ⟨0⟩ #[], .ident "m", .assign ⟨2⟩ ⟨1⟩, .exprStmt ⟨3⟩])) = true := by
    decide +kernel
  rw [hok] at hrun
  obtain ⟨hbody, hnodes⟩ := of_decide_eq_true hrun
  refine ⟨mapInstance_recorded, rfl, builder, lowering, hok, hgenerates, ⟨node, hvisit⟩, hbody,
    hnodes, fun node hmem => ?_⟩
  rw [show lowering.program.arena.nodes = _ from hnodes] at hmem
  have hcases : node = .ident "Map" ∨ node = .new ⟨0⟩ #[] ∨ node = .ident "m" ∨
      node = .assign ⟨2⟩ ⟨1⟩ ∨ node = .exprStmt ⟨3⟩ := by
    simpa using hmem
  rcases hcases with rfl | rfl | rfl | rfl | rfl <;> exact ⟨nofun, nofun⟩

end ShapeGraph

end Semblance
