import Semblance.Proofs.Name.Numeral
import Semblance.Proofs.Synthesis.Receivers

/-!
# Names that a synthesized program captures

A program refers to some things by names that it does not declare: to the platform, to global
bindings and to formal parameters. The names of its own bindings keep clear of the global bindings,
and their form keeps them clear of the names that are fixed. Nothing keeps them clear of the first
component of a builtin's name, and nothing keeps the binding for the global scope from having a
fixed name if it was asked for.

## Key results

- `bindingName_not_fixed`: a binding that has its name from a hint has no fixed name
- `synthesize_capture`: what the declared names of a program may be
- `synthesize_capture_builtin`: names of builtins that are captured
-/

namespace Semblance

/-! ### Fixed names -/

/-- The names of the platform that primitives refer to, and the names of formal parameters. -/
def IsFixedName (name : String) : Prop :=
  name ∈ ["Math", "String", "RegExp"] ∨ ∃ index, name = formalName index

/-- There is no underscore in a fixed name. -/
theorem IsFixedName.not_mem (h : IsFixedName name) : '_' ∉ name.toList := by
  rcases h with hmem | ⟨index, rfl⟩
  · simp only [List.mem_cons, List.not_mem_nil, or_false] at hmem
    rcases hmem with rfl | rfl | rfl <;> decide
  · intro hmem
    rw [formalName, String.toList_append, List.mem_append] at hmem
    rcases hmem with hmem | hmem
    · exact absurd hmem (by decide)
    · exact nomatch isDigit_of_mem_toString hmem

/-- Fixed names start with few letters. -/
theorem IsFixedName.head (h : IsFixedName name) :
    ∃ c ∈ ['M', 'S', 'R', 'x'], name.toList.head? = some c := by
  rcases h with hmem | ⟨index, rfl⟩
  · simp only [List.mem_cons, List.not_mem_nil, or_false] at hmem
    rcases hmem with rfl | rfl | rfl
    · exact ⟨'M', by decide, by decide⟩
    · exact ⟨'S', by decide, by decide⟩
    · exact ⟨'R', by decide, by decide⟩
  · exact ⟨'x', by decide, by simp [formalName]⟩

/-- A fixed name is no variant of another one. -/
theorem IsFixedName.eq_of_follows {name hint : String} (h : IsFixedName name)
    (hfollows : NameSupply.Follows name hint) : name = hint := by
  rcases hfollows with rfl | ⟨n, rfl⟩
  · rfl
  · exact absurd (by simp [NameSupply.variant]) h.not_mem

/-- A leaf that was made to refer to the platform has the name of a binding of the program. -/
def Synthesis.Captures (synthesis : Synthesis) (path : String) : Prop :=
  ∃ leaf declarator name, (leaf, Origin.platform path) ∈ synthesis.generated.origins ∧
    synthesis.program.arena.Reaches synthesis.program.body leaf ∧
    synthesis.program.arena.node? leaf = some (.ident name) ∧
    synthesis.program.Declares declarator name

namespace ShapeGraph

variable {graph : ShapeGraph} {config : Config}

/-- The hints of bindings start with others. -/
theorem BindingHint.head {hint : String} (h : graph.BindingHint hint) :
    ∃ c ∈ ['o', 'a', 'f', 'n', 'u', '$'], hint.toList.head? = some c := by
  cases h with
  | shape label hmem =>
    simp only [List.mem_cons, List.not_mem_nil, or_false] at hmem
    rcases hmem with rfl | rfl | rfl | rfl | rfl <;> simp
  | parameter label index => exact ⟨'f', by decide, by simp⟩
  | primitive hmem =>
    simp only [List.mem_cons, List.not_mem_nil, or_false] at hmem
    rcases hmem with rfl | rfl | rfl | rfl <;> exact ⟨'$', by decide, by decide⟩
  | constructed _ => exact ⟨'n', by decide, by simp⟩

/-- A binding that has its name from a hint has no fixed name. -/
theorem bindingName_not_fixed {name : String} (h : graph.BindingName name) : ¬ IsFixedName name := by
  obtain ⟨hint, hhint, hfollows⟩ := h
  intro hfixed
  obtain rfl := hfixed.eq_of_follows hfollows
  -- The first characters differ.
  obtain ⟨c, hc, hhead⟩ := hhint.head
  obtain ⟨c', hc', hhead'⟩ := hfixed.head
  obtain rfl : c = c' := Option.some.inj (hhead.symm.trans hhead')
  revert hc hc'
  simp only [List.mem_cons, List.not_mem_nil, or_false]
  rintro (rfl | rfl | rfl | rfl | rfl | rfl) <;> decide

/-- What a leaf with an origin refers to by its name: something with a fixed name, a global binding,
    or the first component of the name of a builtin. -/
theorem refers_of_sensible {origin : Origin} {name : String} (h : origin.Sensible graph)
    (hnode : origin.node = .ident name) :
    IsFixedName name ∨ (∃ binding ∈ graph.globals, binding.1 = name) ∨
      ∃ id fullName properties constructible,
        graph.shape? id = some (.builtin fullName properties constructible) ∧
        name = (Arena.dotComponents fullName).1 := by
  cases origin with
  | platform path =>
    obtain rfl := Node.ident.inj hnode
    rcases h with hmem | ⟨id, properties, constructible, hshape⟩
    · simp only [List.mem_cons, List.not_mem_nil, or_false] at hmem
      rcases hmem with rfl | rfl | rfl <;> exact .inl (.inl (by decide))
    · exact .inr (.inr ⟨id, path, properties, constructible, hshape, rfl⟩)
  | global _ =>
    obtain rfl := Node.ident.inj hnode
    exact .inr (.inl h)
  | receiver _ => exact nomatch hnode
  | formal _ index =>
    obtain rfl := Node.ident.inj hnode
    exact .inl (.inr ⟨index, rfl⟩)

/-- Every identifier of a synthesized program refers to a binding of the program, or it was made to
    refer to something with a fixed name, to a global binding, or to a builtin. A declared name is
    that of no global binding. The binding for the global scope has the name that was asked for, or a
    variant of it that is not fixed. All other bindings have names that follow their hints, and none
    of them is fixed. -/
theorem synthesize_capture (h : graph.Recorded) (hname : config.globalName ≠ "")
    (hreserve : config.reserveGlobalNames = true) :
    ∃ synthesis, graph.synthesize config = .ok synthesis ∧
      (∀ leaf name, synthesis.program.arena.Reaches synthesis.program.body leaf →
        synthesis.program.arena.node? leaf = some (.ident name) →
        synthesis.generated.arena.size ≤ leaf.index ∨
        (∃ referent, (leaf, referent) ∈ synthesis.generated.references) ∨
        ∃ origin, (leaf, origin) ∈ synthesis.generated.origins ∧
          (IsFixedName name ∨ (∃ binding ∈ graph.globals, binding.1 = name) ∨
            ∃ id fullName properties constructible,
              graph.shape? id = some (.builtin fullName properties constructible) ∧
              name = (Arena.dotComponents fullName).1)) ∧
      ∀ declarator name, synthesis.program.Declares declarator name →
        (∀ binding ∈ graph.globals, binding.1 ≠ name) ∧
        ((graph.BindingName name ∧ ¬ IsFixedName name) ∨
          ((∃ scope, synthesis.DeclaresScope name scope) ∧
            NameSupply.Follows name config.globalName ∧
            (IsFixedName name → name = config.globalName))) := by
  obtain ⟨builder, lowering, hsynthesize, hsteps, hsound, hlower⟩ := synthesize_run h hname
  have htraced := Builder.traced_of_steps hsteps
  have hnamed := Builder.wellNamed_of_steps hsteps
  have hhoistable := hsound.arena.hoistable hsound.statement
  refine ⟨_, hsynthesize, fun leaf name hleaf hnode => ?_, fun declarator name hdeclares =>
    ⟨fun binding hmem heq => ?_, ?_⟩⟩
  · -- A leaf of the program is one of the builder, with the node it had there, or one that the
    -- lowering appended.
    rcases lower_node?_cases hhoistable.closed hlower hleaf hnode with
      ⟨_, former, hformer, hskeleton⟩ | ⟨hnew, _⟩
    · obtain rfl := Node.eq_ident_of_skeleton_eq hskeleton.symm
      rcases (htraced.made hformer).ident_cases with hreferent | ⟨origin, hmem, horigin⟩
      · exact .inr (.inl hreferent)
      · exact .inr (.inr ⟨origin, hmem, refers_of_sensible (htraced.founded hmem).sensible horigin⟩)
    · exact .inl hnew
  · exact not_declares_global hnamed hhoistable.closed hlower hreserve hmem declarator
      (heq ▸ hdeclares)
  · -- A declarator is one that the builder wrote, or stands for the hint of a node that is hoisted.
    rcases lower_declares_follows hhoistable.closed hlower hdeclares with ⟨init, hnode⟩ |
      ⟨id, hint, hhint, hfollows⟩
    · rcases (htraced.made hnode).declarator_cases with ⟨_, hbinding⟩ | ⟨hglobal, hfollows⟩
      · exact .inl ⟨hbinding, bindingName_not_fixed hbinding⟩
      · -- Only the alias of the global object takes its name from the configuration.
        obtain ⟨decl, _, scope, ⟨declarator', _, hdeclarator⟩, _⟩ := hnamed.bound.scope hglobal
        exact .inr ⟨⟨scope, declaresScope_of_declarator hnamed hhoistable hlower hglobal
          hdeclarator⟩, hfollows, fun hfixed => hfixed.eq_of_follows hfollows⟩
    · have hbinding : graph.BindingName name := ⟨hint, (htraced.hint hhint).1, hfollows⟩
      exact .inl ⟨hbinding, bindingName_not_fixed hbinding⟩

/-- A shared object, the two builtins that the declared names get in the way of, the global scope
    and a number. -/
def captured : ShapeGraph :=
  let graph := ((empty.builtin "global.process" false).2.builtin "obj_9.k" false).2
  let graph := ((graph.object none).2.hold global "a" ⟨9⟩).hold global "b" ⟨9⟩
  let graph := (graph.hold global "p" ⟨7⟩).hold global "q" global
  (graph.hold global "r" ⟨8⟩).hold global "n" (primitive .number)

/-- The globals are what their operations record. -/
theorem captured_recorded : captured.Recorded :=
  ((((((Recorded.object none (.builtin "obj_9.k" false (.builtin "global.process" false
    .empty))).hold global "a" ⟨9⟩ rfl rfl).hold global "b" ⟨9⟩ rfl rfl).hold global "p" ⟨7⟩ rfl
    rfl).hold global "q" global rfl rfl).hold global "r" ⟨8⟩ rfl rfl).hold global "n"
    (primitive .number) rfl rfl

/-- With `Math` as the name for the global scope, `Math.random` is not that of the platform. -/
theorem captured_math :
    ∃ synthesis, captured.synthesize (.withGlobalName "Math") = .ok synthesis ∧
      synthesis.program.Declares ⟨13⟩ "Math" ∧ synthesis.Captures "Math.random" := by
  have hrun : (captured.synthesize (.withGlobalName "Math")).toOption.any (fun synthesis =>
      let arena := synthesis.program.arena
      decide (⟨14⟩ ∈ synthesis.program.body ∧ arena.child? ⟨14⟩ 0 = some ⟨13⟩ ∧
        arena.node? ⟨13⟩ = some (.declarator "Math" (some ⟨12⟩)) ∧
        (⟨24⟩, Origin.platform "Math.random") ∈ synthesis.generated.origins ∧
        ⟨29⟩ ∈ synthesis.program.body ∧ [0, 1, 0, 0].foldlM arena.child? ⟨29⟩ = some ⟨24⟩ ∧
        arena.node? ⟨24⟩ = some (.ident "Math"))) = true := by
    decide +kernel
  obtain ⟨synthesis, hok, hrun⟩ := exists_of_any hrun
  obtain ⟨hscope, hchild, hnode, horigin, hstmt, hslots, hleaf⟩ := of_decide_eq_true hrun
  have hdeclares : synthesis.program.Declares ⟨13⟩ "Math" := ⟨.child (.root hscope) hchild, _, hnode⟩
  exact ⟨synthesis, hok, hdeclares, _, _, _, horigin, (Arena.Reaches.root hstmt).descend hslots, hleaf,
    hdeclares⟩

/-- What is declared as `Math` is the global scope. -/
theorem synthesize_capture_alias :
    captured.Recorded ∧ (Config.withGlobalName "Math").globalName ≠ "" ∧
      (Config.withGlobalName "Math").reserveGlobalNames = true ∧
      ∃ synthesis, captured.synthesize (.withGlobalName "Math") = .ok synthesis ∧
        ∃ scope, synthesis.DeclaresScope "Math" scope := by
  obtain ⟨synthesis, hok, _, hnames⟩ :=
    @synthesize_capture captured (.withGlobalName "Math") captured_recorded (by decide) rfl
  obtain ⟨_, hok', hdeclares, _⟩ := captured_math
  obtain rfl := Except.ok.inj (hok.symm.trans hok')
  refine ⟨captured_recorded, by decide, rfl, synthesis, hok, ?_⟩
  rcases (hnames ⟨13⟩ "Math" hdeclares).2 with ⟨_, hnot⟩ | ⟨hscope, _⟩
  · exact absurd (.inl (by decide)) hnot
  · exact hscope

/-- The binding for the global scope captures a builtin, and so does one for a shared object. -/
theorem synthesize_capture_builtin :
    captured.Recorded ∧
      (isIdentifier ({} : Config).globalName = true ∧ ({} : Config).reserveGlobalNames = true ∧
        ∃ synthesis, captured.synthesize {} = .ok synthesis ∧
          synthesis.Captures "global.process" ∧ synthesis.Captures "obj_9.k") ∧
      isIdentifier (Config.withGlobalName "Math").globalName = true ∧
        (Config.withGlobalName "Math").reserveGlobalNames = true ∧
        ∃ synthesis, captured.synthesize (.withGlobalName "Math") = .ok synthesis ∧
          synthesis.Captures "Math.random" := by
  -- One run of the synthesis; the positions are those of its arena.
  have hrun : (captured.synthesize {}).toOption.any (fun synthesis =>
      let arena := synthesis.program.arena
      decide ((⟨7⟩, Origin.platform "global.process") ∈ synthesis.generated.origins ∧
        ⟨11⟩ ∈ synthesis.program.body ∧ [0, 1, 0].foldlM arena.child? ⟨11⟩ = some ⟨7⟩ ∧
        arena.node? ⟨7⟩ = some (.ident "global") ∧
        ⟨14⟩ ∈ synthesis.program.body ∧ arena.child? ⟨14⟩ 0 = some ⟨13⟩ ∧
        arena.node? ⟨13⟩ = some (.declarator "global" (some ⟨12⟩)) ∧
        (⟨19⟩, Origin.platform "obj_9.k") ∈ synthesis.generated.origins ∧
        ⟨23⟩ ∈ synthesis.program.body ∧ [0, 1, 0].foldlM arena.child? ⟨23⟩ = some ⟨19⟩ ∧
        arena.node? ⟨19⟩ = some (.ident "obj_9") ∧
        ⟨31⟩ ∈ synthesis.program.body ∧ arena.child? ⟨31⟩ 0 = some ⟨30⟩ ∧
        arena.node? ⟨30⟩ = some (.declarator "obj_9" (some ⟨0⟩)))) = true := by
    decide +kernel
  obtain ⟨synthesis, hok, hrun⟩ := exists_of_any hrun
  obtain ⟨horigin, hstmt, hslots, hleaf, hscope, hchild, hnode, horigin', hstmt', hslots', hleaf',
    hdecl, hchild', hnode'⟩ := of_decide_eq_true hrun
  obtain ⟨synthesis', hok', _, hcaptures⟩ := captured_math
  exact ⟨captured_recorded, ⟨by decide, rfl, synthesis, hok,
    ⟨_, _, _, horigin, (Arena.Reaches.root hstmt).descend hslots, hleaf, .child (.root hscope) hchild,
      _, hnode⟩,
    ⟨_, _, _, horigin', (Arena.Reaches.root hstmt').descend hslots', hleaf',
      .child (.root hdecl) hchild', _, hnode'⟩⟩,
    by decide, rfl, synthesis', hok', hcaptures⟩

end ShapeGraph

end Semblance
