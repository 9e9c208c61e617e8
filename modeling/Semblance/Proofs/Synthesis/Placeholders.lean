import Mathlib.Data.Set.Function
import Semblance.Proofs.Generate.Placeholders
import Semblance.Proofs.Synthesis.Bodies

/-!
# Placeholders in a synthesized program

What callers pass for a parameter is not known, so a parameter is rebuilt as a reference to a
placeholder: a declarator without an initializer, which gets its value when its function is called.
All placeholders are declared by the first statement of the program, since their declaration is
the first to be lowered and needs nothing. Each function starts by copying its used parameters to
their placeholders.

## Key results

- `Generates.exists_bijOn`: parameters that were asked for have one placeholder each
- `Generates.declaration`: the first statement of the program declares them
- `Generates.copies`: how the body of a function starts
- `synthesize_placeholders`: placeholders are declared once, first, and fed by their functions
-/

namespace Semblance

/-- The parameters that were asked for. -/
def Builder.parameters (graph : ShapeGraph) (builder : Builder) : Set ShapeId :=
  { id | (∃ use, graph.shape? id = some (.parameter use)) ∧
    ∃ answer, (id, answer) ∈ builder.visits }

/-- A statement of a program copies what its function was given for the parameter in this position
    to the placeholder with this declarator. -/
def Program.Copies (program : Program) (declarator : NodeId) (index : Nat) (stmt : NodeId) : Prop :=
  ∃ target source name, program.arena.Assigns stmt target source ∧
    program.arena.node? target = some (.ident name) ∧ program.DeclaresBare declarator name ∧
    program.arena.node? source = some (if index = 0 then .this else .ident (formalName index))

/-- A parameter that was asked for has a name. -/
theorem Builder.Settled.placeholder {graph : ShapeGraph} {builder : Builder} {id : ShapeId}
    {node : NodeId} {use : Parameter} (h : builder.Settled graph id node)
    (hid : graph.shape? id = some (.parameter use)) (hnone : builder.nodes[id.index]? = none) :
    ∃ name, builder.placeholders[id.index]? = some name := by
  cases h with
  | node hnode => cases hnone.symm.trans hnode
  | parameter _ _ hname => exact ⟨_, hname⟩
  | constructed hid' | member hid' | empty _ hid' | undefined _ hid' | null _ hid'
  | builtin _ hid' | global _ hid' => cases hid.symm.trans hid'

/-! ### Declarations without initializers -/

namespace Arena

variable {arena : Arena} {roots : List NodeId} {decl id : NodeId} {declarators : Array NodeId}

/-- The declarators of a declaration that stands in a forest are different. -/
theorem IsForest.declarators_nodup (h : arena.IsForest roots) (hdecl : arena.Reaches roots decl)
    (hnode : arena.node? decl = some (.varDecl declarators)) : declarators.toList.Nodup := by
  have hslot {slot : Nat} (hlt : slot < declarators.toList.length) :
      arena.child? decl slot = some declarators.toList[slot] := by
    rw [child?_varDecl hnode, ← Array.getElem?_toList, List.getElem?_eq_getElem hlt]
  rw [List.Nodup, List.pairwise_iff_getElem]
  intro i j hi hj hlt heq
  exact Nat.ne_of_lt hlt (h.slot_unique hdecl (hslot hi) hdecl (heq ▸ hslot hj)).2

/-- A declaration without initializers refers to nothing. -/
theorem not_ident_of_bare (hvar : arena.node? decl = some (.varDecl declarators))
    (hbare : ∀ declarator ∈ declarators, ∃ name,
      arena.node? declarator = some (.declarator name none))
    (hid : arena.Reaches [decl] id) (name : String) : arena.node? id ≠ some (.ident name) := by
  have hcases : id = decl ∨ ∃ name, arena.node? id = some (.declarator name none) := by
    induction hid with
    | root hmem => exact .inl (List.mem_singleton.1 hmem)
    | @child parent child slot _ hchild ih =>
      rcases ih with rfl | ⟨name, hnode⟩
      · rw [child?_varDecl hvar] at hchild
        exact .inr (hbare child (Array.mem_of_getElem? hchild))
      · rw [child?_of_node? hnode] at hchild
        cases slot <;> exact nomatch hchild
  intro hident
  rcases hcases with rfl | ⟨_, hnode⟩
  · exact nomatch hvar.symm.trans hident
  · exact nomatch hnode.symm.trans hident

end Arena

/-- A declaration without initializers stays one, and it needs nothing. -/
theorem lower_bareDecl {arena : Arena} {roots : List NodeId} {names : NameSupply}
    {lowering : Lowering} {decl : NodeId} {declarators : Array NodeId} (hsound : arena.Sound roots)
    (hroots : ∀ id ∈ roots, arena.IsStatement id) (hhints : arena.HintsFit)
    (h : arena.lower roots names = .ok lowering) (hroot : decl ∈ roots)
    (hvar : arena.node? decl = some (.varDecl declarators))
    (hbare : ∀ declarator ∈ declarators, ∃ name,
      arena.node? declarator = some (.declarator name none)) :
    lowering.program.arena.node? decl = some (.varDecl declarators) ∧
      ∀ stmt, ¬ Relation.TransGen lowering.DependsOn decl stmt := by
  have hclosed := (hsound.hoistable hroots).closed
  have hvar' : lowering.program.arena.node? decl = some (.varDecl declarators) := by
    refine lower_node?_of_unhinted hsound hroots hhints h (.root hroot) hvar fun child hchild => ?_
    obtain ⟨declarator, hmem, heq⟩ := List.mem_map.1 hchild
    obtain rfl := Option.some.inj heq
    obtain ⟨name, hnode⟩ := hbare declarator (Array.mem_toList_iff.1 hmem)
    exact ⟨_, hnode, rfl⟩
  refine ⟨hvar', lower_not_needs hclosed h fun id name hid => ?_⟩
  refine Arena.not_ident_of_bare hvar' (fun declarator hmem => ?_) hid name
  obtain ⟨name, hnode⟩ := hbare declarator hmem
  have hreached := Arena.reaches_declarator hroot hvar hmem
  exact ⟨name, ((lower_declaresBare_iff hclosed h).2 ⟨hreached, hnode⟩).2⟩

/-! ### Placeholders -/

namespace ShapeGraph

variable {graph : ShapeGraph} {config : Config} {builder : Builder} {lowering : Lowering}
  {id : ShapeId} {fn : FunctionShape} {node declarator declarator' : NodeId} {name : String}

/-- Parameters that were asked for have placeholders, and no other ones. -/
theorem Generates.mem_parameters_iff (hgraph : graph.Registered)
    (h : graph.Generates config builder) :
    id ∈ builder.parameters graph ↔ ∃ name, builder.placeholders[id.index]? = some name := by
  have hwhole := h.whole hgraph
  constructor
  · rintro ⟨⟨use, hid⟩, answer, hvisit⟩
    obtain ⟨node, rfl⟩ := h.answered hgraph hvisit
    exact (hwhole.settled hvisit).placeholder hid
      (Builder.RemembersKinds.none hwhole.kinds hid rfl)
  · rintro ⟨name, hname⟩
    obtain ⟨use, node, hid, hvisit⟩ := hwhole.placeholders hname
    exact ⟨⟨use, hid⟩, _, hvisit⟩

/-- Every placeholder belongs to one parameter. -/
theorem Generates.placed (hgraph : graph.Recorded) (h : graph.Generates config builder) :
    builder.Placed :=
  Builder.placed_of_steps (h.steps hgraph)

section

variable (hgraph : graph.Recorded) (hgenerates : graph.Generates config builder)
  (hsound : builder.Sound []) (hlower : builder.arena.lower builder.roots builder.names = .ok lowering)
include hgraph hgenerates hsound hlower

/-- The placeholder of a parameter stands in the program. -/
theorem Generates.exists_declaresBare {index : Nat}
    (hname : builder.placeholders[index]? = some name) :
    ∃ declarator, lowering.program.DeclaresBare declarator name := by
  obtain ⟨decl, declarators, hdecl, hvar, declarator, hmem, hnode⟩ :=
    (hgenerates.wellNamed hgraph).bound.placeholder hname
  have hroot : decl ∈ builder.roots :=
    List.mem_append_left _ (Option.mem_toList.2 hdecl)
  exact ⟨declarator, (lower_declaresBare_iff hsound.closed hlower).2
    ⟨Arena.reaches_declarator hroot hvar hmem, hnode⟩⟩

/-- A declarator without an initializer is the placeholder of some parameter. -/
theorem Generates.exists_placeholder (hdeclares : lowering.program.DeclaresBare declarator name) :
    ∃ index : Nat, builder.placeholders[index]? = some name :=
  (hgenerates.placed hgraph).parameter ((lower_declaresBare_iff hsound.closed hlower).1 hdeclares).2

/-- The placeholders are told apart by their names. -/
theorem Generates.declaresBare_unique (hdeclares : lowering.program.DeclaresBare declarator name)
    (hdeclares' : lowering.program.DeclaresBare declarator' name) : declarator = declarator' :=
  (hgenerates.wellNamed hgraph).supplied.unique
    ((lower_declaresBare_iff hsound.closed hlower).1 hdeclares).2
    ((lower_declaresBare_iff hsound.closed hlower).1 hdeclares').2

/-- If there are any placeholders, then the first statement of the program declares them all. -/
theorem Generates.declaration (hdeclares : lowering.program.DeclaresBare declarator name) :
    ∃ decl declarators, lowering.program.body.head? = some decl ∧
      lowering.program.arena.node? decl = some (.varDecl declarators) ∧
      declarators.toList.Nodup ∧
      ∀ other, other ∈ declarators ↔ ∃ name, lowering.program.DeclaresBare other name := by
  have hnamed := hgenerates.wellNamed hgraph
  have hclosed := hsound.closed
  obtain ⟨index, hname⟩ := hgenerates.exists_placeholder hgraph hsound hlower hdeclares
  obtain ⟨decl, declarators, hdecl, hvar, _⟩ := hnamed.bound.placeholder hname
  -- The declaration of the placeholders is the first statement that is lowered.
  have hroots : builder.roots = decl :: builder.statements.toList := by
    rw [Builder.roots, hdecl]
    rfl
  have hroot : decl ∈ builder.roots := hroots ▸ List.mem_cons_self
  have hmem_iff : ∀ other, other ∈ declarators ↔
      ∃ name, builder.arena.node? other = some (.declarator name none) :=
    fun _ => hnamed.mem_declarators (hgenerates.placed hgraph) hdecl hvar
  obtain ⟨hvar', hneeds⟩ := lower_bareDecl hsound.arena hsound.statement
    (hgenerates.hintsFit hgraph) hlower hroot hvar fun other => (hmem_iff other).1
  refine ⟨decl, declarators, lower_head hclosed hlower hroots hneeds, hvar',
    (lower_forest hclosed hlower).declarators_nodup (.root (lower_mem_body hclosed hlower hroot))
      hvar', fun other => ?_⟩
  simp only [hmem_iff, lower_declaresBare_iff hclosed hlower]
  refine exists_congr fun name => ⟨fun hnode => ⟨?_, hnode⟩, fun hother => hother.2⟩
  exact Arena.reaches_declarator hroot hvar ((hmem_iff other).2 ⟨name, hnode⟩)

/-- Each parameter that was asked for has one placeholder, and there are no other ones. -/
theorem Generates.exists_bijOn : ∃ declarator : ShapeId → NodeId,
    (∀ (id : ShapeId) name, builder.placeholders[id.index]? = some name →
      lowering.program.DeclaresBare (declarator id) name) ∧
    Set.BijOn declarator (builder.parameters graph)
      { id | ∃ name, lowering.program.DeclaresBare id name } := by
  have hchoice : ∀ id : ShapeId, ∃ declarator, ∀ name, builder.placeholders[id.index]? = some name →
      lowering.program.DeclaresBare declarator name := by
    intro id
    cases hid : builder.placeholders[id.index]? with
    | none => exact ⟨⟨0⟩, nofun⟩
    | some name =>
      obtain ⟨declarator, hdeclares⟩ := hgenerates.exists_declaresBare hgraph hsound hlower hid
      exact ⟨declarator, fun _ heq => Option.some.inj heq ▸ hdeclares⟩
  choose declarator hdeclares using hchoice
  have hmem_iff {id : ShapeId} : id ∈ builder.parameters graph ↔
      ∃ name, builder.placeholders[id.index]? = some name :=
    hgenerates.mem_parameters_iff hgraph.registered
  refine ⟨declarator, hdeclares, fun id hid => ?_, fun id hid id' hid' heq => ?_,
    fun other ⟨name, hother⟩ => ?_⟩
  · obtain ⟨name, hid⟩ := hmem_iff.1 hid
    exact ⟨name, hdeclares id name hid⟩
  · obtain ⟨name, hid⟩ := hmem_iff.1 hid
    obtain ⟨name', hid'⟩ := hmem_iff.1 hid'
    -- One declarator has one name, and the name belongs to one parameter.
    have hnode := (hdeclares id name hid).2
    rw [heq, (hdeclares id' name' hid').2] at hnode
    obtain ⟨rfl, _⟩ := Node.declarator.inj (Option.some.inj hnode)
    exact congrArg ShapeId.mk ((hgenerates.placed hgraph).unique hid hid')
  · obtain ⟨index, hindex⟩ := hgenerates.exists_placeholder hgraph hsound hlower hother
    exact ⟨⟨index⟩, hmem_iff.2 ⟨name, hindex⟩,
      hgenerates.declaresBare_unique hgraph hsound hlower (hdeclares ⟨index⟩ name hindex) hother⟩

/-- The body of a function that is no accessor starts with the copies of its used parameters. -/
theorem Generates.copies (hid : graph.shape? id = some (.function fn)) (haccessor : fn.accessor = none)
    (hnode : builder.nodes[id.index]? = some node) {declarator : ShapeId → NodeId}
    (hdeclares : ∀ (id : ShapeId) name, builder.placeholders[id.index]? = some name →
      lowering.program.DeclaresBare (declarator id) name) :
    lowering.program.arena.Reaches lowering.program.body node ∧ ∃ body statements,
      lowering.program.arena.node? node = some (.function fn.formals body) ∧
      lowering.program.arena.node? body = some (.block statements) ∧
      ∃ copies rest, statements.toList = copies ++ rest ∧
        List.Forall₂ (fun stmt used => used.2 ∈ builder.parameters graph ∧
          lowering.program.Copies (declarator used.2) used.1 stmt) copies fn.usedParams := by
  obtain ⟨hreached, body, statements, hfunction, hblock, hdone⟩ :=
    hgenerates.performs hgraph hsound hlower hid hnode
  -- The copies are the first parts of the body, since the function is no accessor.
  have hparts : graph.bodyParts fn = fn.usedParams.map (fun used => .copy used.1 used.2) ++
      ((Gen.instanceProperties graph fn).toList.map (fun binding => .write binding.1 binding.2) ++
        graph.returnParts fn) := by
    rw [bodyParts, haccessor, List.append_assoc]
    rfl
  rw [hparts] at hdone
  have hcopies := List.forall₂_map_right_iff.1 (List.forall₂_take_append _ _ _ hdone)
  refine ⟨hreached, body, statements, hfunction, hblock, _, _,
    (List.take_append_drop _ statements.toList).symm, hcopies.imp ?_⟩
  rintro stmt used ⟨target, source, name, hassigns, htarget, hname, hsource⟩
  exact ⟨(hgenerates.mem_parameters_iff hgraph.registered).2 ⟨name, hname⟩, target, source, name,
    hassigns, htarget, hdeclares _ _ hname, hsource⟩

end

/-- The parameters that were asked for have one placeholder each, and these are the declarators
    without initializers. If there are any, they are declared by the first statement of the program,
    and nothing else is. The body of a function that is no accessor starts with one statement for
    each of its used parameters, in ascending order: it assigns what the function was called on, or
    the formal parameter, to the name of the placeholder. -/
theorem synthesize_placeholders (h : graph.Recorded) (hname : config.globalName ≠ "") :
    ∃ builder lowering, graph.synthesize config = .ok ⟨builder.finish, lowering⟩ ∧
      graph.Generates config builder ∧ ∃ declarator : ShapeId → NodeId,
        Set.BijOn declarator (builder.parameters graph)
          { id | ∃ name, lowering.program.DeclaresBare id name } ∧
        (∀ id name, lowering.program.DeclaresBare id name → ∃ decl declarators,
          lowering.program.body.head? = some decl ∧
          lowering.program.arena.node? decl = some (.varDecl declarators) ∧
          declarators.toList.Nodup ∧
          ∀ other, other ∈ declarators ↔ ∃ name, lowering.program.DeclaresBare other name) ∧
        ∀ id fn node, graph.shape? id = some (.function fn) → fn.accessor = none →
          builder.nodes[id.index]? = some node →
          fn.Ascending ∧
          (∀ used ∈ fn.usedParams, graph.shape? used.2 = some (.parameter ⟨id, used.1⟩)) ∧
          lowering.program.arena.Reaches lowering.program.body node ∧ ∃ body statements,
            lowering.program.arena.node? node = some (.function fn.formals body) ∧
            lowering.program.arena.node? body = some (.block statements) ∧
            ∃ copies rest, statements.toList = copies ++ rest ∧
              List.Forall₂ (fun stmt used => used.2 ∈ builder.parameters graph ∧
                lowering.program.Copies (declarator used.2) used.1 stmt) copies fn.usedParams := by
  obtain ⟨builder, lowering, hsynthesize, hgenerates, hsound, hlower⟩ :=
    synthesize_generates h hname
  obtain ⟨declarator, hdeclares, hbij⟩ := hgenerates.exists_bijOn h hsound hlower
  exact ⟨builder, lowering, hsynthesize, hgenerates, declarator, hbij,
    fun id name hbare => hgenerates.declaration h hsound hlower hbare,
    fun id fn node hid haccessor hnode => ⟨h.ascending hid, h.registered.used hid,
      hgenerates.copies h hsound hlower hid haccessor hnode hdeclares⟩⟩

/-- The method has two placeholders, and its body starts with two copies. -/
theorem synthesize_placeholders_method :
    method.Recorded ∧ ({} : Config).globalName ≠ "" ∧
      ∃ (builder : Builder) (lowering : Lowering),
        method.synthesize {} = .ok ⟨builder.finish, lowering⟩ ∧ ∃ (declarator : ShapeId → NodeId)
          (decl : NodeId) (declarators : Array NodeId),
          lowering.program.body.head? = some decl ∧
          lowering.program.arena.node? decl = some (.varDecl declarators) ∧
          declarator ⟨10⟩ ∈ declarators ∧ declarator ⟨11⟩ ∈ declarators ∧
          ∃ node params body statements receiver formal rest,
            lowering.program.arena.node? node = some (.function params body) ∧
            lowering.program.arena.node? body = some (.block statements) ∧
            statements.toList = receiver :: formal :: rest ∧
            lowering.program.Copies (declarator ⟨10⟩) 0 receiver ∧
            lowering.program.Copies (declarator ⟨11⟩) 1 formal := by
  obtain ⟨builder, lowering, hok, hgenerates, declarator, _, hdeclaration, hfunctions⟩ :=
    @synthesize_placeholders method {} method_recorded (by decide)
  have hwhole := hgenerates.whole method_recorded.registered
  obtain ⟨_, _, _, node, _, hvisit⟩ := hwhole.assigned ("f", ⟨7⟩) List.mem_cons_self
  obtain ⟨_, _, _, body, statements, hfunction, hblock, copies, rest, hstatements, hcopies⟩ :=
    hfunctions ⟨7⟩ _ node rfl rfl ((hwhole.settled hvisit).nodes rfl rfl)
  have hcopies : List.Forall₂ (fun stmt (used : Nat × ShapeId) =>
      used.2 ∈ builder.parameters method ∧
        lowering.program.Copies (declarator used.2) used.1 stmt)
      copies [(0, ⟨10⟩), (1, ⟨11⟩)] := hcopies
  obtain _ | ⟨⟨_, hreceiver⟩, _ | ⟨⟨_, hformal⟩, _ | _⟩⟩ := hcopies
  have ⟨_, _, name, _, _, hbare, _⟩ := hreceiver
  have ⟨_, _, name', _, _, hbare', _⟩ := hformal
  obtain ⟨decl, declarators, hhead, hvar, _, hmem_iff⟩ := hdeclaration _ _ hbare
  exact ⟨method_recorded, by decide, builder, lowering, hok, declarator, decl, declarators, hhead,
    hvar, (hmem_iff _).2 ⟨name, hbare⟩, (hmem_iff _).2 ⟨name', hbare'⟩, node, _, body, statements,
    _, _, rest, hfunction, hblock, hstatements, hreceiver, hformal⟩

end ShapeGraph

end Semblance
