import Semblance.Proofs.Generate.Placeholders
import Semblance.Proofs.Synthesis.Capture

/-!
# Declared names that are identifiers

The names that a program declares are made from hints, and a number after a hint does not change
whether it is an identifier. All hints are identifiers except those made from the names of builtins:
these have their dots replaced, and nothing else.

## Key results

- `NameSupply.Follows.isIdentifier_eq`: a name is an identifier if and only if its hint is
- `BindingHint.eq_constructedHint`: hints that are no identifiers are made from names of builtins
- `synthesize_identifiers`: which declared names are no identifiers
-/

namespace Semblance

/-! ### Names and hints -/

/-- What ends in an underscore is not empty. -/
theorem append_underscore_ne_empty (stem : String) : stem ++ "_" ≠ "" := by
  simp

/-- A variant of a hint is an identifier if the hint is one, since a number may continue an
    identifier. -/
theorem isIdentifier_variant {hint : String} (h : hint ≠ "") (n : Nat) :
    isIdentifier (NameSupply.variant hint n) = isIdentifier hint := by
  rw [NameSupply.variant, isIdentifier_append_toString (append_underscore_ne_empty hint),
    isIdentifier_append h, show "_".toList.all continuesIdentifier = true by decide, Bool.and_true]

/-- A name is an identifier if and only if its hint is. -/
theorem NameSupply.Follows.isIdentifier_eq {name hint : String} (h : Follows name hint)
    (hhint : hint ≠ "") : isIdentifier name = isIdentifier hint := by
  rcases h with rfl | ⟨n, rfl⟩
  · rfl
  · exact isIdentifier_variant hhint n

/-- The hint for a parameter is not empty. -/
theorem parameterHint_ne_empty (label position : Nat) :
    "function_" ++ toString label ++ "_" ++ toString position ≠ "" := by
  simp

/-- The hint for a parameter is an identifier. -/
theorem isIdentifier_parameterHint (label position : Nat) :
    isIdentifier ("function_" ++ toString label ++ "_" ++ toString position) = true := by
  rw [isIdentifier_append_toString (append_underscore_ne_empty _), isIdentifier_append (by simp),
    isIdentifier_append_toString (by decide)]
  decide

/-! ### Hints made from the names of builtins -/

/-- The hint for what a builtin constructs. -/
def constructedHint (fullName : String) : String :=
  "new_" ++ fullName.map fun c => if c = '.' then '_' else c

/-- There is a character in the name that may stand in no identifier, other than the dots between the
    components. -/
def HasForeignChar (fullName : String) : Prop :=
  ∃ c ∈ fullName.toList, c ≠ '.' ∧ continuesIdentifier c = false

/-- The hint for what a builtin constructs is not empty. -/
theorem constructedHint_ne_empty (fullName : String) : constructedHint fullName ≠ "" := by
  simp [constructedHint]

/-- Replacing the dots makes an identifier only if there is nothing else to replace. -/
theorem isIdentifier_constructedHint (fullName : String) :
    isIdentifier (constructedHint fullName) = false ↔ HasForeignChar fullName := by
  rw [constructedHint, isIdentifier_append (by decide), show isIdentifier "new_" = true by decide,
    Bool.true_and, String.toList_map, List.all_map, List.all_eq_false]
  refine exists_congr fun c => and_congr_right fun _ => ?_
  by_cases hdot : c = '.'
  · subst hdot
    simp [continuesIdentifier]
  · simp [hdot]

namespace ShapeGraph

variable {graph : ShapeGraph} {config : Config}

/-- No hint of a binding is empty. -/
theorem BindingHint.ne_empty {hint : String} (h : graph.BindingHint hint) : hint ≠ "" := by
  obtain ⟨c, _, hhead⟩ := h.head
  rintro rfl
  exact nomatch hhead

/-- A hint that is no identifier is made from the name of a builtin. -/
theorem BindingHint.eq_constructedHint {hint : String} (h : graph.BindingHint hint)
    (hhint : isIdentifier hint = false) :
    ∃ id fullName properties constructible,
      graph.shape? id = some (.builtin fullName properties constructible) ∧
        hint = constructedHint fullName ∧ HasForeignChar fullName := by
  cases h with
  | shape label hmem =>
    simp only [List.mem_cons, List.not_mem_nil, or_false] at hmem
    rcases hmem with rfl | rfl | rfl | rfl | rfl <;>
      rw [isIdentifier_append_toString (by decide)] at hhint <;> exact absurd hhint (by decide)
  | parameter label index =>
    rw [isIdentifier_parameterHint] at hhint
    exact nomatch hhint
  | primitive hmem =>
    simp only [List.mem_cons, List.not_mem_nil, or_false] at hmem
    rcases hmem with rfl | rfl | rfl | rfl <;> exact absurd hhint (by decide)
  | constructed hshape =>
    exact ⟨_, _, _, _, hshape, rfl, (isIdentifier_constructedHint _).1 hhint⟩

/-- A synthesized program declares a name that is no identifier just where it declares what a builtin
    constructs, if the name of the builtin has a character other than a dot that may stand in no
    identifier. All other bindings have identifiers for names. -/
theorem synthesize_identifiers (h : graph.Recorded)
    (hname : isIdentifier config.globalName = true) :
    ∃ synthesis, graph.synthesize config = .ok synthesis ∧
      ∀ declarator name, synthesis.program.Declares declarator name →
        (isIdentifier name = false ↔
          ∃ node id fullName properties constructible,
            synthesis.program.arena.child? declarator 0 = some node ∧
            synthesis.generated.arena.hint node = some (constructedHint fullName) ∧
            NameSupply.Follows name (constructedHint fullName) ∧
            graph.shape? id = some (.builtin fullName properties constructible) ∧
            HasForeignChar fullName) := by
  have hglobal := isIdentifier.ne_empty hname
  obtain ⟨builder, lowering, hsynthesize, hsteps, hsound, hlower⟩ := synthesize_run h hglobal
  have htraced := Builder.traced_of_steps hsteps
  have hclosed := (hsound.arena.hoistable hsound.statement).closed
  refine ⟨_, hsynthesize, fun declarator name hdeclares => ⟨fun hfalse => ?_, ?_⟩⟩
  · rcases lower_declares_hinted hclosed hlower hdeclares with ⟨init, hnode⟩ |
      ⟨node, hint, hchild, hhint, hfollows⟩
    · -- What generation declares is the global scope or a placeholder.
      rcases (htraced.made hnode).declarator_cases with ⟨rfl, _⟩ | ⟨_, hfollows⟩
      · obtain ⟨index, hplaceholder⟩ := (Builder.placed_of_steps hsteps).parameter hnode
        obtain ⟨label, position, hfollows⟩ :=
          Builder.placeholder_follows_of_steps hsteps hplaceholder
        rw [hfollows.isIdentifier_eq (parameterHint_ne_empty label position), isIdentifier_parameterHint]
          at hfalse
        exact nomatch hfalse
      · rw [hfollows.isIdentifier_eq hglobal, hname] at hfalse
        exact nomatch hfalse
    · have hbinding := (htraced.hint hhint).1
      rw [hfollows.isIdentifier_eq hbinding.ne_empty] at hfalse
      obtain ⟨id, fullName, properties, constructible, hshape, rfl, hforeign⟩ :=
        hbinding.eq_constructedHint hfalse
      exact ⟨node, id, fullName, properties, constructible, hchild, hhint, hfollows, hshape,
        hforeign⟩
  · rintro ⟨_, _, fullName, _, _, _, _, hfollows, _, hforeign⟩
    rw [hfollows.isIdentifier_eq (constructedHint_ne_empty fullName)]
    exact (isIdentifier_constructedHint fullName).2 hforeign

/-- Two global bindings with one instance of a builtin whose name has a hyphen. -/
def hyphenated : ShapeGraph :=
  let graph := ((empty.builtin "node.fs-extra.Stats" true).2.alloc (.instanceOf ⟨7⟩ ∅)).2
  (({ graph with constructed := graph.constructed.insert 7 ⟨8⟩ } : ShapeGraph).hold global "a"
    ⟨8⟩).hold global "b" ⟨8⟩

/-- The instance is what its operations record. -/
theorem hyphenated_recorded : hyphenated.Recorded := by
  have hinstance :
      (empty.builtin "node.fs-extra.Stats" true).2.instanceOf ⟨7⟩ = .ok (some ⟨8⟩, _) := rfl
  exact ((Recorded.instanceOf (.builtin "node.fs-extra.Stats" true .empty) hinstance).hold global
    "a" ⟨8⟩ rfl rfl).hold global "b" ⟨8⟩ rfl rfl

/-- The binding for the instance is declared under a name with a hyphen. -/
theorem hyphenated_declares :
    ∃ synthesis, hyphenated.synthesize {} = .ok synthesis ∧
      synthesis.program.Declares ⟨11⟩ "new_node_fs-extra_Stats" := by
  have hrun : (hyphenated.synthesize {}).toOption.any (fun synthesis =>
      let arena := synthesis.program.arena
      decide (⟨12⟩ ∈ synthesis.program.body ∧ arena.child? ⟨12⟩ 0 = some ⟨11⟩ ∧
        arena.node? ⟨11⟩ = some (.declarator "new_node_fs-extra_Stats" (some ⟨4⟩)))) = true := by
    decide +kernel
  obtain ⟨synthesis, hok, hrun⟩ := exists_of_any hrun
  obtain ⟨hdecl, hchild, hnode⟩ := of_decide_eq_true hrun
  exact ⟨synthesis, hok, .child (.root hdecl) hchild, _, hnode⟩

/-- The name of what the builtin constructs is no identifier, and this is why. -/
theorem synthesize_identifiers_hyphen :
    hyphenated.Recorded ∧ isIdentifier ({} : Config).globalName = true ∧
      ∃ synthesis, hyphenated.synthesize {} = .ok synthesis ∧
        synthesis.program.Declares ⟨11⟩ "new_node_fs-extra_Stats" ∧
        ∃ node fullName, synthesis.program.arena.child? ⟨11⟩ 0 = some node ∧
          synthesis.generated.arena.hint node = some (constructedHint fullName) ∧
          HasForeignChar fullName := by
  obtain ⟨synthesis, hok, hnames⟩ :=
    @synthesize_identifiers hyphenated {} hyphenated_recorded (by decide)
  obtain ⟨_, hok', hdeclares⟩ := hyphenated_declares
  obtain rfl := Except.ok.inj (hok.symm.trans hok')
  obtain ⟨node, _, fullName, _, _, hchild, hhint, _, _, hforeign⟩ :=
    (hnames _ _ hdeclares).1 (by decide)
  exact ⟨hyphenated_recorded, by decide, synthesis, hok, hdeclares, node, fullName, hchild, hhint,
    hforeign⟩

/-- Not every declared name is an identifier. -/
theorem synthesize_not_identifiers :
    ¬ ∀ (graph : ShapeGraph) (config : Config) (synthesis : Synthesis), graph.Recorded →
      isIdentifier config.globalName = true → graph.synthesize config = .ok synthesis →
      ∀ declarator name, synthesis.program.Declares declarator name →
        isIdentifier name = true := by
  intro hall
  obtain ⟨synthesis, hok, hdeclares⟩ := hyphenated_declares
  exact absurd (hall hyphenated {} synthesis hyphenated_recorded (by decide) hok _ _ hdeclares)
    (by decide)

end ShapeGraph

end Semblance
