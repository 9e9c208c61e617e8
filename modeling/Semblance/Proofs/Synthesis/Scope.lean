import Semblance.Proofs.Lowering.Order
import Semblance.Proofs.Synthesis.Names

/-!
# When the global scope is declared

The declaration `var global = this` is generated with the first reference to the global scope. What
refers to it is no dependency, so a statement comes after this declaration only if the order that
lowering keeps says so: it comes before the declaration if it was generated earlier, or if something
that was generated earlier needs it. The latter happens, as a property added to a builtin is written
out while the value that it holds is still being generated.

## Key results

- `synthesize_scope`: which statements come after the declaration of the global scope
- `synthesize_scope_late`: one that refers to the global scope before it is declared
-/

namespace Semblance

namespace Arena

variable {arena : Arena} {roots : List NodeId} {decl id : NodeId} {name name' : String}

/-- The declaration of the global scope refers to nothing. -/
theorem DeclaresScope.not_ident (h : arena.DeclaresScope decl name) (hid : arena.Reaches [decl] id) :
    arena.node? id ≠ some (.ident name') := by
  obtain ⟨scope, ⟨declarator, hdecl, hdeclarator⟩, hscope⟩ := h
  -- Only the three nodes of the declaration are below it.
  have hcases : id = decl ∨ id = declarator ∨ id = scope := by
    induction hid with
    | root hmem => exact .inl (List.mem_singleton.1 hmem)
    | @child parent child slot _ hchild ih =>
      rcases ih with rfl | rfl | rfl
      · rw [child?_of_node? hdecl] at hchild
        cases slot with
        | zero => exact .inr (.inl (Option.some.inj hchild).symm)
        | succ => exact nomatch hchild
      · rw [child?_of_node? hdeclarator] at hchild
        cases slot with
        | zero => exact .inr (.inr (Option.some.inj hchild).symm)
        | succ => exact nomatch hchild
      · rw [child?_of_node? hscope] at hchild
        exact nomatch hchild
  intro hident
  rcases hcases with rfl | rfl | rfl
  · exact nomatch hdecl.symm.trans hident
  · exact nomatch hdeclarator.symm.trans hident
  · exact nomatch hscope.symm.trans hident

end Arena

section

variable {arena : Arena} {roots : List NodeId} {names : NameSupply} {lowering : Lowering}
  {decl id : NodeId} {name : String}

/-- The declaration of the global scope is not changed. -/
theorem lower_declares_this {scope : NodeId} (hhoistable : arena.Hoistable roots)
    (hleaves : arena.LeavesUnhinted) (h : arena.lower roots names = .ok lowering)
    (hroot : decl ∈ roots) (hdecl : arena.Declares decl name scope)
    (hscope : arena.node? scope = some .this) :
    lowering.program.arena.Declares decl name scope ∧
      lowering.program.arena.node? scope = some .this := by
  obtain ⟨declarator, hnode, hdeclarator⟩ := hdecl
  have hreached : arena.Reaches roots decl := .root hroot
  have hbelow : arena.Reaches roots declarator :=
    Arena.reaches_declarator hroot hnode (Array.mem_singleton_self _)
  have hchild : arena.child? declarator 0 = some scope :=
    (Arena.child?_of_node? hdeclarator 0).trans rfl
  -- A declarator is no expression, and a leaf has no hint, so neither of them is shared.
  have hnot : ¬ arena.Shared roots declarator := fun hshared =>
    nomatch hhoistable.expression hshared hdeclarator
  have hnot' : ¬ arena.Shared roots scope := by
    intro hshared
    obtain ⟨hint, hhint, _⟩ := hhoistable.named hshared
    exact nomatch (hleaves.hint_eq hscope rfl).symm.trans hhint
  refine ⟨⟨declarator, ?_, ?_⟩, ?_⟩
  · refine lower_node?_eq hhoistable.closed h hreached hnode fun slot child hchild => ?_
    cases slot with
    | zero => rwa [← Option.some.inj hchild]
    | succ => exact nomatch hchild
  · refine lower_node?_eq hhoistable.closed h hbelow hdeclarator fun slot child hchild => ?_
    cases slot with
    | zero => rwa [← Option.some.inj hchild]
    | succ => exact nomatch hchild
  · exact lower_node?_eq hhoistable.closed h (hbelow.child hchild) hscope nofun

/-- Lowering keeps the declaration of the global scope: none of its nodes can be shared, so none is
    moved. -/
theorem lower_declaresScope (hhoistable : arena.Hoistable roots) (hleaves : arena.LeavesUnhinted)
    (h : arena.lower roots names = .ok lowering) (hroot : decl ∈ roots)
    (hdecl : arena.DeclaresScope decl name) : lowering.program.arena.DeclaresScope decl name := by
  obtain ⟨scope, hdecl, hscope⟩ := hdecl
  exact ⟨scope, lower_declares_this hhoistable hleaves h hroot hdecl hscope⟩

/-- The declaration of the global scope needs nothing. -/
theorem lower_declaresScope_not_needs (hclosed : arena.Closed roots)
    (h : arena.lower roots names = .ok lowering)
    (hdecl : lowering.program.arena.DeclaresScope decl name) (stmt : NodeId) :
    ¬ Relation.TransGen lowering.DependsOn decl stmt :=
  lower_not_needs hclosed h (fun _ _ hid => hdecl.not_ident hid) stmt

end

namespace ShapeGraph

variable {graph : ShapeGraph} {config : Config}

/-- A statement that refers to the global scope comes after the declaration `var global = this` if
    no statement that was generated before this declaration is the same or needs it, and only then. -/
theorem synthesize_scope (h : graph.Recorded) (hname : config.globalName ≠ "") :
    ∃ synthesis, graph.synthesize config = .ok synthesis ∧
      ∀ leaf, (leaf, Referent.scope) ∈ synthesis.generated.references →
        ∃ name before decl after, synthesis.generated.roots = before ++ decl :: after ∧
          synthesis.program.arena.DeclaresScope decl name ∧
          synthesis.program.arena.node? leaf = some (.ident name) ∧
          ∀ stmt ∈ synthesis.program.body, synthesis.program.arena.Reaches [stmt] leaf →
            ([decl, stmt].Sublist synthesis.program.body ↔ ∀ early ∈ before,
              early ≠ stmt ∧ ¬ Relation.TransGen synthesis.lowering.DependsOn early stmt) := by
  obtain ⟨⟨generated, lowering⟩, hsynthesize, hhoistable, hlower, builder, hnamed, rfl⟩ :=
    synthesize_stages h hname
  refine ⟨_, hsynthesize, fun leaf hmem => ?_⟩
  obtain ⟨name, hleaf, hdeclared⟩ := hnamed.bound.reference hmem
  obtain ⟨decl, hdecl, hscope⟩ := hnamed.bound.scope hdeclared
  have hroot : decl ∈ builder.finish.roots := List.mem_append_right _ hdecl
  have hscope := lower_declaresScope hhoistable hnamed.leaves hlower hroot hscope
  have hleaf := lower_ident hhoistable.closed hlower hleaf
  obtain ⟨before, after, hroots⟩ := List.append_of_mem hroot
  refine ⟨name, before, decl, after, hroots, hscope, hleaf, fun stmt hstmt hreaches => ?_⟩
  refine (lower_sublist_iff hhoistable.closed hlower hroots hstmt).trans ?_
  rw [List.forall_mem_append, List.forall_mem_singleton, and_iff_left]
  -- The declaration has no reference in it, so it is not the statement and needs nothing.
  refine ⟨?_, lower_declaresScope_not_needs hhoistable.closed hlower hscope stmt⟩
  rintro rfl
  exact hscope.not_ident hreaches hleaf

/-- A property that was added to `Intl` holds an object, and the object holds `Intl` and the global
    scope. -/
def patchedIntl : ShapeGraph :=
  ((((empty.object none).2.builtin "Intl" false).2.hold ⟨8⟩ "x" ⟨7⟩).hold ⟨7⟩ "b" ⟨8⟩).hold ⟨7⟩ "g"
    global |>.hold global "p" ⟨7⟩

/-- The objects are what their operations record. -/
theorem patchedIntl_recorded : patchedIntl.Recorded :=
  ((((Recorded.builtin "Intl" false (.object none .empty)).hold ⟨8⟩ "x" ⟨7⟩ rfl rfl).hold
    ⟨7⟩ "b" ⟨8⟩ rfl rfl).hold ⟨7⟩ "g" global rfl rfl).hold global "p" ⟨7⟩ rfl rfl

/-- The object is hoisted into the first statement, and the global scope is declared by the third one,
    which was generated as the second one. -/
theorem patchedIntl_run :
    ∃ synthesis, patchedIntl.synthesize {} = .ok synthesis ∧
      (⟨10⟩, Referent.scope) ∈ synthesis.generated.references ∧
      synthesis.generated.roots = [⟨4⟩, ⟨9⟩, ⟨14⟩] ∧
      synthesis.program.body = [⟨16⟩, ⟨4⟩, ⟨9⟩, ⟨14⟩] ∧
      synthesis.program.arena.Reaches [⟨16⟩] ⟨10⟩ ∧
      synthesis.program.arena.node? ⟨10⟩ = some (.ident "global") ∧
      synthesis.program.arena.DeclaresScope ⟨9⟩ "global" ∧
      (∀ decl ∈ synthesis.generated.roots, ∀ name,
        synthesis.program.arena.DeclaresScope decl name → decl = ⟨9⟩) ∧
      ∀ node ∈ synthesis.program.arena.nodes, ∀ params body, node ≠ .function params body := by
  have hrun : (patchedIntl.synthesize {}).toOption.any (fun synthesis =>
      let arena := synthesis.program.arena
      decide ((⟨10⟩, Referent.scope) ∈ synthesis.generated.references ∧
        synthesis.generated.roots = [⟨4⟩, ⟨9⟩, ⟨14⟩] ∧
        synthesis.program.body = [⟨16⟩, ⟨4⟩, ⟨9⟩, ⟨14⟩] ∧
        -- The hoisted object is below its declaration.
        [0, 0, 1, 0].foldlM arena.child? ⟨16⟩ = some ⟨10⟩ ∧
        arena.node? ⟨10⟩ = some (.ident "global") ∧
        (arena.node? ⟨9⟩ = some (.varDecl #[⟨8⟩]) ∧
          arena.node? ⟨8⟩ = some (.declarator "global" (some ⟨7⟩)) ∧
          arena.node? ⟨7⟩ = some .this) ∧
        (arena.node? ⟨4⟩ = some (.exprStmt ⟨3⟩) ∧ arena.node? ⟨14⟩ = some (.exprStmt ⟨13⟩)) ∧
        ∀ node ∈ arena.nodes, node.kindName ≠ (Node.function #[] ⟨0⟩).kindName)) = true := by
    decide +kernel
  obtain ⟨synthesis, hok, hrun⟩ := exists_of_any hrun
  obtain ⟨hmem, hroots, hbody, hslots, hident, ⟨hscope, hdeclarator, hthis⟩, ⟨hpatch, hassign⟩,
    hkinds⟩ := of_decide_eq_true hrun
  refine ⟨synthesis, hok, hmem, hroots, hbody,
    (Arena.Reaches.root (List.mem_singleton_self _)).descend hslots, hident,
    ⟨⟨7⟩, ⟨⟨8⟩, hscope, hdeclarator⟩, hthis⟩, ?_, ?_⟩
  · -- The other two statements are assignments.
    rintro decl hdecl name ⟨_, ⟨_, hnode, _⟩, _⟩
    rw [hroots] at hdecl
    simp only [List.mem_cons, List.not_mem_nil, or_false] at hdecl
    rcases hdecl with rfl | rfl | rfl
    · exact nomatch hpatch.symm.trans hnode
    · rfl
    · exact nomatch hassign.symm.trans hnode
  · rintro node hnode params body rfl
    exact hkinds _ hnode rfl

/-- The declaration of the object refers to the global scope. It does not come after the declaration
    of the global scope, as the assignment to the property of `Intl` was generated before and needs
    the object. -/
theorem synthesize_scope_patchedIntl :
    patchedIntl.Recorded ∧ ({} : Config).globalName ≠ "" ∧
      ∃ synthesis, patchedIntl.synthesize {} = .ok synthesis ∧
        (⟨10⟩, Referent.scope) ∈ synthesis.generated.references ∧
        synthesis.program.arena.Reaches [⟨16⟩] ⟨10⟩ ∧
        ∃ name after, synthesis.generated.roots = [⟨4⟩] ++ ⟨9⟩ :: after ∧
          synthesis.program.arena.DeclaresScope ⟨9⟩ name ∧
          synthesis.program.arena.node? ⟨10⟩ = some (.ident name) ∧
          ([⟨9⟩, ⟨16⟩].Sublist synthesis.program.body ↔
            ¬ Relation.TransGen synthesis.lowering.DependsOn ⟨4⟩ ⟨16⟩) ∧
          Relation.TransGen synthesis.lowering.DependsOn ⟨4⟩ ⟨16⟩ := by
  obtain ⟨synthesis, hok, huses⟩ := @synthesize_scope patchedIntl {} patchedIntl_recorded (by decide)
  obtain ⟨_, hok', hmem, hroots, hbody, hreaches, _, _, hdeclares, _⟩ := patchedIntl_run
  obtain rfl := Except.ok.inj (hok.symm.trans hok')
  obtain ⟨name, before, decl, after, hsplit, hscope, hleaf, hafter⟩ := huses ⟨10⟩ hmem
  obtain rfl := hdeclares decl (hsplit ▸ List.mem_append_right _ List.mem_cons_self) name hscope
  have hroots : synthesis.generated.roots = [⟨4⟩] ++ ⟨9⟩ :: [⟨14⟩] := hroots
  -- The alias is declared once, so the split at its declaration is the one the run shows.
  obtain ⟨rfl, _⟩ := (List.append_cons_inj_of_notMem (by decide) (by decide)).1
    (hroots.symm.trans hsplit)
  have hne : (⟨4⟩ : NodeId) ≠ ⟨16⟩ := by decide
  have hiff := hafter ⟨16⟩ (by simp [hbody]) hreaches
  -- The only statement before the declaration is the root `#4`, so the condition is about it alone.
  rw [List.forall_mem_singleton, and_iff_right hne] at hiff
  refine ⟨patchedIntl_recorded, by decide, synthesis, hok, hmem, hreaches, name, after, hsplit,
    hscope, hleaf, hiff, not_not.1 (mt hiff.2 ?_)⟩
  rw [hbody]
  decide

/-- `Intl` gets the object, which is hoisted, before the object refers to the global scope and has it
    declared. So the object is built with a reference to the global scope that comes too early, and
    there is no function around the reference that would put it off. -/
theorem synthesize_scope_late :
    patchedIntl.Recorded ∧ ({} : Config).globalName ≠ "" ∧
      ∃ synthesis, patchedIntl.synthesize {} = .ok synthesis ∧
        (∀ node ∈ synthesis.program.arena.nodes, ∀ params body, node ≠ .function params body) ∧
        ∃ leaf name stmt decl, (leaf, Referent.scope) ∈ synthesis.generated.references ∧
          synthesis.program.arena.node? leaf = some (.ident name) ∧
          synthesis.program.arena.DeclaresScope decl name ∧
          synthesis.program.arena.Reaches [stmt] leaf ∧
          [stmt, decl].Sublist synthesis.program.body ∧
          ¬ [decl, stmt].Sublist synthesis.program.body := by
  obtain ⟨synthesis, hok, hmem, _, hbody, hreaches, hident, hdecl, _, hnone⟩ := patchedIntl_run
  refine ⟨patchedIntl_recorded, by decide, synthesis, hok, hnone, ⟨10⟩, "global", ⟨16⟩, ⟨9⟩, hmem,
    hident, hdecl, hreaches, ?_, ?_⟩
  · rw [hbody]
    decide
  · rw [hbody]
    decide

end ShapeGraph

end Semblance
