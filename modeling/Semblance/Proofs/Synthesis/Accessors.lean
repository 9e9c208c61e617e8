import Semblance.Proofs.Generate.Origins
import Semblance.Proofs.Synthesis.Scope

/-!
# Accessors in a synthesized program

The value of an entry for a getter or a setter is the node of the function that was seen there. Its
parameters follow the mark of the function, which is that of the accessor observed last. A function
that is met in several places is hoisted, as any other node is, and the entry then holds a reference
to its declaration.

## Key results

- `FunctionShape.formals_of_accessor`: the parameters follow the mark
- `synthesize_accessors`: what the entry of an accessor holds
- `synthesize_accessors_sharedGetter`: a getter that is no literal function, and one with a parameter
-/

namespace Semblance

/-- The formal parameters of a function that is marked as an accessor. -/
def AccessorKind.formals : AccessorKind → Array String
  | .getter => #[]
  | .setter => #["x1"]

/-- An accessor has the formal parameters of its kind. -/
theorem FunctionShape.formals_of_accessor {fn : FunctionShape} {kind : AccessorKind}
    (h : fn.accessor = some kind) : fn.formals = kind.formals := by
  rw [formals, h]
  cases kind <;> rfl

namespace ShapeGraph

variable {graph : ShapeGraph} {config : Config}

/-- The value of an entry for an accessor that is a function is the node of this function, or it is a
    reference to the declaration of the node if the node is shared. If the function is marked with
    the kind of the entry, then its node has the parameters of this kind: none for a getter, and one
    for a setter. -/
theorem synthesize_accessors (h : graph.Recorded) (hname : config.globalName ≠ "") :
    ∃ synthesis, graph.synthesize config = .ok synthesis ∧
      ∀ id key value, ∀ kind : AccessorKind,
        synthesis.program.arena.Reaches synthesis.program.body id →
        synthesis.program.arena.node? id = some (.entry key value kind.entryKind) →
        ∃ function, graph.Binds kind.entryKind key.name function ∧
          ∀ fn, graph.shape? function = some (.function fn) → fn.accessor.isSome = true ∧
            ∃ node params body, synthesis.generated.nodes[function.index]? = some node ∧
              synthesis.program.arena.node? node = some (.function params body) ∧
              (fn.accessor = some kind → params = kind.formals) ∧
              ((¬ synthesis.generated.arena.Shared synthesis.generated.roots node ∧ value = node) ∨
                (synthesis.generated.arena.Shared synthesis.generated.roots node ∧
                  ∃ decl ∈ synthesis.program.body, ∃ name,
                    synthesis.program.arena.Declares decl name node ∧
                    synthesis.program.arena.node? value = some (.ident name))) := by
  obtain ⟨builder, lowering, hsynthesize, hsteps, hsound, hlower⟩ := synthesize_run h hname
  have htraced := Builder.traced_of_steps hsteps
  have hclosed := (hsound.arena.hoistable hsound.statement).closed
  refine ⟨_, hsynthesize, fun id key value kind hid hentry => ?_⟩
  rcases lower_node?_cases hclosed hlower hid hentry with ⟨hreached, former, hformer, hskeleton⟩ |
    ⟨_, ⟨_, heq⟩ | ⟨_, heq⟩ | ⟨_, _, heq⟩⟩
  · obtain ⟨node, rfl⟩ := Node.eq_entry_of_skeleton_eq hskeleton.symm
    obtain ⟨function, hbinds, hnodes⟩ := (htraced.made hformer).entry_cases
    refine ⟨function, hbinds, fun fn hfn => ?_⟩
    -- The function is marked, since it is bound as an accessor.
    obtain ⟨shape, hshape, hflag⟩ := h.flagged hbinds
    obtain rfl := Option.some.inj (hfn.symm.trans hshape)
    obtain ⟨body, hnode⟩ := htraced.function hfn (hnodes fn hfn)
    obtain ⟨_, hnode', hskeleton'⟩ := lower_skeleton_eq hclosed hlower hnode
    obtain ⟨body', rfl⟩ := Node.eq_function_of_skeleton_eq hskeleton'
    refine ⟨hflag, node, fn.formals, body', hnodes fn hfn, hnode',
      FunctionShape.formals_of_accessor, ?_⟩
    have hchild : builder.arena.child? id 0 = some node := Arena.child?_of_node? hformer 0
    have hvalue : lowering.program.arena.child? id 0 = some value := Arena.child?_of_node? hentry 0
    by_cases hshared : builder.arena.Shared builder.roots node
    · obtain ⟨decl, hdecl, name, hdeclares, reference, hreference, hident⟩ :=
        lower_child?_of_shared hclosed hlower hreached hchild hshared
      obtain rfl := Option.some.inj (hvalue.symm.trans hreference)
      exact .inr ⟨hshared, decl, hdecl, name, hdeclares, hident⟩
    · have hkept := lower_child?_eq hclosed hlower hreached hchild hshared
      exact .inl ⟨hshared, Option.some.inj (hvalue.symm.trans hkept)⟩
  -- Lowering adds no entries.
  all_goals exact nomatch heq

/-- Two objects have one getter, and the first object has another one, which is a setter of an object
    that is not in use. -/
def accessors : ShapeGraph :=
  let graph := (((empty.object none).2.object none).2.object none).2
  let graph := ((graph.function none).2.function none).2
  let graph := (graph.access .getter ⟨7⟩ "x" ⟨10⟩).access .getter ⟨8⟩ "x" ⟨10⟩
  let graph := (graph.access .getter ⟨7⟩ "y" ⟨13⟩).access .setter ⟨9⟩ "y" ⟨13⟩
  (graph.hold global "a" ⟨7⟩).hold global "b" ⟨8⟩

/-- The accessors are what their operations record. -/
theorem accessors_recorded : accessors.Recorded :=
  (((((((Recorded.function none (.function none (.object none (.object none
    (.object none .empty))))).access .getter ⟨7⟩ "x" ⟨10⟩ rfl).access .getter ⟨8⟩ "x" ⟨10⟩
    rfl).access .getter ⟨7⟩ "y" ⟨13⟩ rfl).access .setter ⟨9⟩ "y" ⟨13⟩ rfl).hold global "a" ⟨7⟩ rfl
    rfl).hold global "b" ⟨8⟩ rfl rfl)

/-- A getter or a setter called `x` is the first function, and one called `y` is the second one. -/
theorem accessors_binds {kind : AccessorKind} {name : String} {function : ShapeId}
    (h : accessors.Binds kind.entryKind name function) :
    (name = "x" ∧ function = ⟨10⟩) ∨ (name = "y" ∧ function = ⟨13⟩) := by
  have hall : ∀ kind ∈ [AccessorKind.getter, .setter], ∀ shape ∈ accessors.shapes,
      ∀ entries ∈ shape.aggregate?, ∀ binding ∈ (entries.bindings kind.entryKind).toList,
        (binding.1 = "x" ∧ binding.2 = ⟨10⟩) ∨ (binding.1 = "y" ∧ binding.2 = ⟨13⟩) := by
    decide
  obtain ⟨owner, entries, hentries, hmem⟩ := h
  obtain ⟨shape, hshape, hentries⟩ := Option.bind_eq_some_iff.1 hentries
  exact hall kind (by cases kind <;> decide) shape (Array.mem_of_getElem? hshape) entries hentries _
    hmem

/-- The first object has its getters in the nodes `⟨3⟩` and `⟨6⟩`. -/
theorem accessors_run :
    ∃ synthesis, accessors.synthesize {} = .ok synthesis ∧
      (synthesis.program.arena.Reaches synthesis.program.body ⟨3⟩ ∧
        synthesis.program.arena.node? ⟨3⟩ = some (.entry (.bare "x") ⟨17⟩ .getter) ∧
        synthesis.program.arena.node? ⟨17⟩ = some (.ident "function_10")) ∧
      synthesis.program.arena.Reaches synthesis.program.body ⟨6⟩ ∧
      synthesis.program.arena.node? ⟨6⟩ = some (.entry (.bare "y") ⟨5⟩ .getter) ∧
      synthesis.program.arena.node? ⟨5⟩ = some (.function #["x1"] ⟨4⟩) := by
  have hrun : (accessors.synthesize {}).toOption.any (fun synthesis =>
      let arena := synthesis.program.arena
      -- The object is assigned to a global binding.
      decide (⟨9⟩ ∈ synthesis.program.body ∧
        [0, 1, 0].foldlM arena.child? ⟨9⟩ = some ⟨3⟩ ∧
        [0, 1, 1].foldlM arena.child? ⟨9⟩ = some ⟨6⟩ ∧
        arena.node? ⟨3⟩ = some (.entry (.bare "x") ⟨17⟩ .getter) ∧
        arena.node? ⟨17⟩ = some (.ident "function_10") ∧
        arena.node? ⟨6⟩ = some (.entry (.bare "y") ⟨5⟩ .getter) ∧
        arena.node? ⟨5⟩ = some (.function #["x1"] ⟨4⟩))) = true := by
    decide +kernel
  obtain ⟨synthesis, hok, hrun⟩ := exists_of_any hrun
  obtain ⟨hassign, hfirst, hsecond, hentry, hident, hentry', hfunction⟩ := of_decide_eq_true hrun
  have hroot : synthesis.program.arena.Reaches synthesis.program.body ⟨9⟩ := .root hassign
  exact ⟨synthesis, hok, ⟨hroot.descend hfirst, hentry, hident⟩, hroot.descend hsecond, hentry',
    hfunction⟩

/-- The first entry of the first object holds a reference to a getter, which has no parameters and is
    shared. The second one holds the function itself, which is not shared. -/
theorem synthesize_accessors_entry :
    accessors.Recorded ∧ ({} : Config).globalName ≠ "" ∧
      ∃ synthesis, accessors.synthesize {} = .ok synthesis ∧
        (synthesis.program.arena.node? ⟨3⟩ = some (.entry (.bare "x") ⟨17⟩ .getter) ∧
          ∃ node body, synthesis.generated.nodes[10]? = some node ∧
            synthesis.program.arena.node? node = some (.function #[] body) ∧
            synthesis.generated.arena.Shared synthesis.generated.roots node ∧
            ∃ decl ∈ synthesis.program.body, ∃ name,
              synthesis.program.arena.Declares decl name node ∧
              synthesis.program.arena.node? ⟨17⟩ = some (.ident name)) ∧
        synthesis.program.arena.node? ⟨6⟩ = some (.entry (.bare "y") ⟨5⟩ .getter) ∧
          synthesis.generated.nodes[13]? = some ⟨5⟩ ∧
          (∃ params body, synthesis.program.arena.node? ⟨5⟩ = some (.function params body)) ∧
          ¬ synthesis.generated.arena.Shared synthesis.generated.roots ⟨5⟩ := by
  obtain ⟨synthesis, hok, haccessors⟩ := @synthesize_accessors accessors {} accessors_recorded
    (by decide)
  obtain ⟨_, hok', ⟨hreached, hentry, hident⟩, hreached', hentry', hfunction⟩ := accessors_run
  obtain rfl := Except.ok.inj (hok.symm.trans hok')
  refine ⟨accessors_recorded, by decide, synthesis, hok, ⟨hentry, ?_⟩, hentry', ?_⟩
  · -- The getter `x`: the run shows a reference as its value, which excludes the function itself.
    obtain ⟨function, hbinds, hvalue⟩ := haccessors ⟨3⟩ _ _ .getter hreached hentry
    obtain ⟨_, rfl⟩ | ⟨hname, _⟩ := accessors_binds hbinds
    · obtain ⟨_, node, params, body, hnodes, hnode, hparams, ⟨_, rfl⟩ | ⟨hshared, hreference⟩⟩ :=
        hvalue _ rfl
      · exact nomatch hident.symm.trans hnode
      · obtain rfl := hparams rfl
        exact ⟨node, body, hnodes, hnode, hshared, hreference⟩
    · exact absurd hname (by decide)
  · -- The getter `y`: the run shows a function there, which excludes the reference.
    obtain ⟨function, hbinds, hvalue⟩ := haccessors ⟨6⟩ _ _ .getter hreached' hentry'
    obtain ⟨hname, _⟩ | ⟨_, rfl⟩ := accessors_binds hbinds
    · exact absurd hname (by decide)
    · obtain ⟨_, node, params, body, hnodes, hnode, _, ⟨hshared, rfl⟩ | ⟨_, _, _, _, _, hident⟩⟩ :=
        hvalue _ rfl
      · exact ⟨hnodes, ⟨params, body, hnode⟩, hshared⟩
      · exact nomatch hfunction.symm.trans hident

/-- Where all accessors are functions, the value of a getter may still be a reference, and it may be
    a function with a parameter. -/
theorem synthesize_accessors_sharedGetter :
    accessors.Recorded ∧ ({} : Config).globalName ≠ "" ∧
      (∀ kind : AccessorKind, ∀ name function, accessors.Binds kind.entryKind name function →
        ∃ fn, accessors.shape? function = some (.function fn)) ∧
      ∃ synthesis, accessors.synthesize {} = .ok synthesis ∧
        (∃ id key value name, synthesis.program.arena.Reaches synthesis.program.body id ∧
          synthesis.program.arena.node? id = some (.entry key value .getter) ∧
          synthesis.program.arena.node? value = some (.ident name)) ∧
        ∃ id key value body, synthesis.program.arena.Reaches synthesis.program.body id ∧
          synthesis.program.arena.node? id = some (.entry key value .getter) ∧
          synthesis.program.arena.node? value = some (.function #["x1"] body) := by
  obtain ⟨synthesis, hok, hfirst, hsecond⟩ := accessors_run
  refine ⟨accessors_recorded, by decide, fun kind name function hbinds => ?_, synthesis, hok,
    ⟨_, _, _, _, hfirst⟩, ⟨_, _, _, _, hsecond⟩⟩
  obtain ⟨_, rfl⟩ | ⟨_, rfl⟩ := accessors_binds hbinds
  · exact ⟨_, rfl⟩
  · exact ⟨_, rfl⟩

end ShapeGraph

end Semblance
