import Semblance.Proofs.Lowering.Functions
import Semblance.Proofs.Synthesis.Scope

/-!
# Receivers and formal parameters in a synthesized program

The body of a function refers to what the function was called on and to its formal parameters.
These leaves have no hint, and neither has anything between them and the body, so that hoisting
leaves all of it in the function. The only other receiver is the value of the binding for the global
scope.

## Key results

- `formalName_mem_formals`: the used parameters of a function are among its formal ones
- `synthesize_receivers`: receivers and formal parameters stay in their function
-/

namespace Semblance

/-! ### Formal parameters -/

/-- No used parameter is higher than the last one. -/
theorem le_of_mem_getLast? {params : List (Nat × ShapeId)} (h : params.Pairwise (·.1 < ·.1))
    {used last : Nat × ShapeId} (hused : used ∈ params) (hlast : params.getLast? = some last) :
    used.1 ≤ last.1 := by
  obtain ⟨init, rfl⟩ := List.getLast?_eq_some_iff.1 hlast
  rcases List.mem_append.1 hused with hmem | hmem
  · exact Nat.le_of_lt ((List.pairwise_append.1 h).2.2 used hmem last (List.mem_singleton_self _))
  · exact Nat.le_of_eq (congrArg Prod.fst (List.mem_singleton.1 hmem))

/-- The used parameters of a function are among its formal ones, unless it is an accessor. -/
theorem FunctionShape.formalName_mem_formals {fn : FunctionShape} (h : fn.Ascending)
    (haccessor : fn.accessor = none) {index : Nat} {shape : ShapeId} (hindex : index ≠ 0)
    (hused : (index, shape) ∈ fn.usedParams) : formalName index ∈ fn.formals := by
  obtain ⟨last, hlast⟩ : ∃ last, fn.usedParams.getLast? = some last :=
    Option.isSome_iff_exists.1 (List.getLast?_isSome.2 (List.ne_nil_of_mem hused))
  have hle : index ≤ last.1 := le_of_mem_getLast? h hused hlast
  rw [formals, haccessor, maxParam, hlast]
  refine Array.mem_map.2 ⟨index - 1, Array.mem_range.2 ?_, ?_⟩
  · show index - 1 < last.1
    omega
  · rw [Nat.sub_add_cancel (Nat.one_le_iff_ne_zero.2 hindex)]

/-! ### The binding for the global scope -/

/-- A statement declares the binding by which the program refers to the global scope. -/
def Synthesis.DeclaresScope (synthesis : Synthesis) (name : String) (scope : NodeId) : Prop :=
  ∃ decl ∈ synthesis.program.body, synthesis.program.arena.Declares decl name scope ∧
    ∀ reference, (reference, Referent.scope) ∈ synthesis.generated.references →
      synthesis.program.arena.node? reference = some (.ident name)

section

variable {settings : Settings} {graph : ShapeGraph} {names : NameSupply} {builder : Builder}
  {lowering : Lowering} {declarator leaf : NodeId} {name : String}

/-- The binding for the global scope has one value, if it is declared. -/
theorem exists_scope (hnamed : builder.WellNamed names) :
    ∃ scope, ∀ leaf declarator name, builder.globalName = some name →
      builder.arena.node? declarator = some (.declarator name (some leaf)) → leaf = scope := by
  by_cases hdeclared : ∃ leaf declarator name, builder.globalName = some name ∧
      builder.arena.node? declarator = some (.declarator name (some leaf))
  · obtain ⟨scope, declarator, name, hname, hdeclarator⟩ := hdeclared
    refine ⟨scope, fun leaf declarator' name' hname' hdeclarator' => ?_⟩
    obtain rfl : name = name' := Option.some.inj (hname.symm.trans hname')
    obtain rfl := hnamed.supplied.unique hdeclarator hdeclarator'
    simpa using hdeclarator'.symm.trans hdeclarator
  · exact ⟨⟨0⟩, fun leaf declarator name hname hnode =>
      absurd ⟨leaf, declarator, name, hname, hnode⟩ hdeclared⟩

/-- The declarator for the global scope stands in a declaration of its own. -/
theorem declaresScope_of_declarator (hnamed : builder.WellNamed names)
    (hhoistable : builder.arena.Hoistable builder.roots)
    (hlower : builder.arena.lower builder.roots builder.names = .ok lowering)
    (hname : builder.globalName = some name)
    (hdeclarator : builder.arena.node? declarator = some (.declarator name (some leaf))) :
    Synthesis.DeclaresScope ⟨builder.finish, lowering⟩ name leaf := by
  obtain ⟨decl, hdecl, scope, ⟨declarator', hnode, hdeclarator'⟩, hscope⟩ :=
    hnamed.bound.scope hname
  -- There is one declarator of this name.
  obtain rfl := hnamed.supplied.unique hdeclarator hdeclarator'
  obtain rfl : leaf = scope := by
    simpa using hdeclarator.symm.trans hdeclarator'
  have hroot : decl ∈ builder.roots := List.mem_append_right _ hdecl
  refine ⟨decl, lower_mem_body hhoistable.closed hlower hroot,
    (lower_declares_this hhoistable hnamed.leaves hlower hroot ⟨declarator, hnode, hdeclarator⟩
      hscope).1, fun reference hmem => ?_⟩
  obtain ⟨name', hreference, hname'⟩ := hnamed.bound.reference hmem
  obtain rfl : name' = name := Option.some.inj (hname'.symm.trans hname)
  exact lower_ident hhoistable.closed hlower hreference

end

namespace Builder.Traced

variable {settings : Settings} {graph : ShapeGraph} {builder : Builder} {leaf : NodeId}

/-- Hints are only on nodes of kinds that may have one. -/
theorem hintsFit (h : builder.Traced settings graph) : builder.arena.HintsFit :=
  fun hhint => (h.hint hhint).2

end Builder.Traced

namespace ShapeGraph

variable {graph : ShapeGraph} {config : Config}

/-- Every receiver of a synthesized program is the value of the binding for the global scope, or it
    was made for a function. What was made for a receiver or a formal parameter of a function is in
    the body of the node of this function, and there is no function in between; and the node has the
    formal parameter. -/
theorem synthesize_receivers (h : graph.Recorded) (hname : config.globalName ≠ "") :
    ∃ synthesis, graph.synthesize config = .ok synthesis ∧
      (∃ scope, ∀ leaf, synthesis.program.arena.Reaches synthesis.program.body leaf →
        synthesis.program.arena.node? leaf = some .this →
        (leaf = scope ∧ ∃ name, synthesis.DeclaresScope name scope) ∨
          ∃ function, (leaf, Origin.receiver function) ∈ synthesis.generated.origins) ∧
      ∀ leaf origin function, (leaf, origin) ∈ synthesis.generated.origins →
        origin.function? = some function →
        synthesis.program.arena.Reaches synthesis.program.body leaf →
        synthesis.program.arena.node? leaf = some origin.node ∧
        ∃ node params body, synthesis.generated.nodes[function.index]? = some node ∧
          synthesis.program.arena.Reaches synthesis.program.body node ∧
          synthesis.program.arena.node? node = some (.function params body) ∧
          (∀ nearest, synthesis.program.arena.Reaches synthesis.program.body nearest →
            (synthesis.program.arena.Within nearest leaf ↔ nearest = node)) ∧
          ∀ index, origin = .formal function index → formalName index ∈ params := by
  obtain ⟨builder, lowering, hsynthesize, hsteps, hsound, hlower⟩ := synthesize_run h hname
  have htraced := Builder.traced_of_steps hsteps
  have hhoistable := hsound.arena.hoistable hsound.statement
  have hnamed := Builder.wellNamed_of_steps hsteps
  obtain ⟨scope, hscope⟩ := exists_scope hnamed
  refine ⟨_, hsynthesize, ⟨scope, fun leaf hleaf hnode => ?_⟩,
    fun leaf origin function hmem hpart hleaf => ?_⟩
  · rcases lower_node?_cases hhoistable.closed hlower hleaf hnode with
      ⟨_, former, hformer, hskeleton⟩ | ⟨_, ⟨_, heq⟩ | ⟨_, heq⟩ | ⟨_, _, heq⟩⟩
    · obtain rfl := Node.eq_this_of_skeleton_eq hskeleton.symm
      refine (htraced.made hformer).this_cases.symm.imp ?_ id
      rintro ⟨declarator, name, hname, hdeclarator⟩
      obtain rfl := hscope leaf declarator name hname hdeclarator
      exact ⟨rfl, name, declaresScope_of_declarator hnamed hhoistable hlower hname hdeclarator⟩
    -- Lowering adds no receivers.
    all_goals exact nomatch heq
  · have hfounded := htraced.founded hmem
    obtain ⟨fn, body, hfn, ⟨node, hfunction, hnode, _⟩, hbelow⟩ := hfounded.inBody hpart
    obtain ⟨hreached, hnode', hnearest⟩ := lower_within_iff hsound.arena hsound.statement
      htraced.hintsFit hlower hnode hbelow hleaf
    refine ⟨?_, node, fn.formals, body, hfunction, hreached, hnode', hnearest, ?_⟩
    · have hold := (lower_reaches_iff hhoistable.closed hlower
        (Arena.lt_size_of_node? hfounded.node)).1 hleaf
      exact lower_node?_eq hhoistable.closed hlower hold hfounded.node
        (by cases origin <;> exact nofun)
    · rintro index rfl
      obtain ⟨fn', shape, hfn', haccessor, hindex, hused⟩ := hfounded.sensible
      obtain rfl : fn = fn' := by simpa using hfn.symm.trans hfn'
      exact FunctionShape.formalName_mem_formals (h.ascending hfn) haccessor hindex hused

/-- A function that uses what it is called on and its first parameter. -/
def method : ShapeGraph :=
  (((empty.function none).2.use ⟨7⟩ 0).use ⟨7⟩ 1).hold global "f" ⟨7⟩

/-- The method is what its operations record. -/
theorem method_recorded : method.Recorded :=
  (((Recorded.function none .empty).use ⟨7⟩ 0 rfl).use ⟨7⟩ 1 rfl).hold global "f" ⟨7⟩ rfl rfl

/-- Both leaves stay in the function. -/
theorem synthesize_receivers_method :
    method.Recorded ∧ ({} : Config).globalName ≠ "" ∧
      ∃ synthesis, method.synthesize {} = .ok synthesis ∧
        ∃ receiver formal node params body,
          synthesis.program.arena.node? receiver = some .this ∧
          synthesis.program.arena.node? formal = some (.ident "x1") ∧
          synthesis.program.arena.node? node = some (.function params body) ∧
          synthesis.program.arena.Within node receiver ∧
          synthesis.program.arena.Within node formal ∧ "x1" ∈ params := by
  obtain ⟨synthesis, hok, _, hparts⟩ := @synthesize_receivers method {} method_recorded (by decide)
  have hrun : (method.synthesize {}).toOption.any (fun synthesis =>
      let arena := synthesis.program.arena
      -- The function is assigned to a global binding, and its body has two statements.
      decide ((⟨5⟩, Origin.receiver ⟨7⟩) ∈ synthesis.generated.origins ∧
        (⟨10⟩, Origin.formal ⟨7⟩ 1) ∈ synthesis.generated.origins ∧
        ⟨15⟩ ∈ synthesis.program.body ∧
        [0, 1, 0, 0, 0, 1].foldlM arena.child? ⟨15⟩ = some ⟨5⟩ ∧
        [0, 1, 0, 1, 0, 1].foldlM arena.child? ⟨15⟩ = some ⟨10⟩)) = true := by
    decide +kernel
  rw [hok] at hrun
  obtain ⟨hreceiver, hformal, hassign, hthis, hident⟩ := of_decide_eq_true hrun
  have hroot : synthesis.program.arena.Reaches synthesis.program.body ⟨15⟩ := .root hassign
  obtain ⟨hnode, node, params, body, hnodes, hin, hnode', hnearest, _⟩ :=
    hparts ⟨5⟩ _ ⟨7⟩ hreceiver rfl (hroot.descend hthis)
  obtain ⟨hformal', node', params', body', hnodes', hin', hnode'', hnearest', hparams⟩ :=
    hparts ⟨10⟩ _ ⟨7⟩ hformal rfl (hroot.descend hident)
  obtain rfl : node = node' := by simpa using hnodes.symm.trans hnodes'
  obtain ⟨rfl, rfl⟩ : params = params' ∧ body = body' := by simpa using hnode'.symm.trans hnode''
  exact ⟨method_recorded, by decide, synthesis, hok, ⟨5⟩, ⟨10⟩, node, params, body, hnode, hformal',
    hnode', (hnearest node hin).2 rfl, (hnearest' node hin).2 rfl, hparams 1 rfl⟩

end ShapeGraph

end Semblance
