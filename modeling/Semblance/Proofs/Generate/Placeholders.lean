import Semblance.Proofs.Generate.Names

/-!
# The placeholders of parameters

The placeholder of a parameter is a declarator without an initializer. A parameter gets one when it
is asked for first, with a name that was drawn for it, so the name tells which parameter it is. All
placeholders stand in one declaration.

## Key results

- `Placed.step`: every placeholder belongs to one parameter
- `placed_of_steps`: this holds after any generation
- `placeholder_follows_of_steps`: placeholders have the names of parameters
- `WellNamed.mem_declarators`: where the placeholders stand
-/

namespace Semblance.Builder

/-- Declarators without initializers are placeholders, and no two parameters have one name. -/
structure Placed (builder : Builder) : Prop where
  parameter : ∀ {id name}, builder.arena.node? id = some (.declarator name none) →
    ∃ index : Nat, builder.placeholders[index]? = some name
  unique : ∀ {index index' : Nat} {name}, builder.placeholders[index]? = some name →
    builder.placeholders[index']? = some name → index = index'

variable {settings : Settings} {graph : ShapeGraph} {names₀ : NameSupply} {builder builder' : Builder}

/-- At the start there are no placeholders. -/
theorem placed_start (names : NameSupply) : Placed (.start names) where
  parameter hnode := nomatch hnode
  unique hname := by simp [Builder.start] at hname

/-- The name of a placeholder is in use. -/
theorem WellNamed.isTaken_placeholder (h : WellNamed names₀ builder) {index : Nat} {name : String}
    (hname : builder.placeholders[index]? = some name) : builder.names.isTaken name = true := by
  obtain ⟨_, _, _, _, _, _, hdeclarator⟩ := h.bound.placeholder hname
  exact h.supplied.taken hdeclarator

/-- A step gives a name to one parameter at most, and this name was free. -/
theorem Step.placeholders_cases (hstep : builder.Step settings graph builder') :
    builder'.placeholders = builder.placeholders ∨ ∃ index name,
      builder.names.isTaken name = false ∧
        builder'.placeholders = builder.placeholders.insert index name := by
  rcases hstep.cases_quiet with hquiet | ⟨_, _, _, _, rfl⟩ | ⟨shape, _, name, _, _, hfresh, rfl⟩ |
    ⟨_, _, _, rfl⟩
  · exact .inl hquiet.placeholders
  · exact .inl rfl
  · exact .inr ⟨shape.index, name, NameSupply.isTaken_fresh hfresh, rfl⟩
  · exact .inl rfl

namespace Placed

/-- A further placeholder has a name that no other one has, since it is drawn from the supply. -/
theorem step (h : Placed builder) (hnamed : WellNamed names₀ builder)
    (hstep : builder.Step settings graph builder') : Placed builder' where
  parameter {id name} hnode := by
    have hold (hnode : builder.arena.node? id = some (.declarator name none)) :
        ∃ index : Nat, builder'.placeholders[index]? = some name := by
      obtain ⟨index, hname⟩ := h.parameter hnode
      exact ⟨index, @Step.nameOf?_eq _ _ _ _ hstep (.parameter ⟨index⟩) name hname⟩
    rcases hstep.cases_quiet with hquiet | ⟨_, _, _, _, rfl⟩ |
      ⟨shape, _, new, _, _, _, rfl⟩ | ⟨_, _, _, rfl⟩
    · exact hold (hquiet.arena.binding hnode rfl)
    · -- The declarator for the global scope has an initializer.
      rcases Arena.node?_push_cases hnode with hnode | ⟨_, hdecl⟩
      · rcases Arena.node?_push_cases hnode with hnode | ⟨_, hdeclarator⟩
        · exact hold ((Arena.quiet_push rfl).binding hnode rfl)
        · cases (Node.declarator.inj hdeclarator).2
      · cases hdecl
    · rcases Arena.node?_push_cases (declarator_of_placeholderDeclWith hnode) with
        hnode | ⟨_, hdeclarator⟩
      · exact hold hnode
      · rw [(Node.declarator.inj hdeclarator).1]
        exact ⟨shape.index, Std.TreeMap.getElem?_insert_self⟩
    · exact hold ((Arena.quiet_push rfl).binding hnode rfl)
  unique {index index' name} hname hname' := by
    rcases hstep.placeholders_cases with hsame | ⟨new, drawn, hfree, hinsert⟩
    · exact h.unique (hsame ▸ hname) (hsame ▸ hname')
    · -- The name that is drawn is not one that some parameter has.
      have hne {former : Nat} (hformer : builder.placeholders[former]? = some drawn) : False :=
        nomatch hfree.symm.trans (hnamed.isTaken_placeholder hformer)
      rw [hinsert, Std.TreeMap.getElem?_insert] at hname hname'
      split at hname <;> split at hname'
      · next heq heq' =>
        exact (Std.LawfulEqCmp.eq_of_compare heq).symm.trans (Std.LawfulEqCmp.eq_of_compare heq')
      · exact (hne (Option.some.inj hname ▸ hname')).elim
      · exact (hne (Option.some.inj hname' ▸ hname)).elim
      · exact h.unique hname hname'

end Placed

/-- Whatever is generated, every placeholder belongs to one parameter. -/
theorem placed_of_steps (h : Steps settings graph (.start names₀) builder) : Placed builder := by
  induction h with
  | refl => exact placed_start names₀
  | tail hsteps hstep ih => exact ih.step (wellNamed_of_steps hsteps) hstep

/-- A placeholder gets its name from the function and the position of its parameter. -/
theorem Step.placeholder_cases (hstep : builder.Step settings graph builder') {index : Nat}
    {name : String} (hname : builder'.placeholders[index]? = some name) :
    builder.placeholders[index]? = some name ∨ ∃ label position : Nat,
      NameSupply.Follows name ("function_" ++ toString label ++ "_" ++ toString position) := by
  cases hstep with
  | @declarePlaceholder shape parameter label drawn names _ _ hfresh =>
    rw [Builder.declarePlaceholder, Std.TreeMap.getElem?_insert] at hname
    split at hname
    · obtain rfl := Option.some.inj hname
      obtain ⟨hint, hhint, hfollows⟩ := NameSupply.fresh_follows hfresh
      obtain rfl := Option.some.inj hhint
      exact .inr ⟨label, parameter.index, hfollows⟩
    · exact .inl hname
  | _ => exact .inl hname

/-- Whatever is generated, placeholders have the names of parameters. -/
theorem placeholder_follows_of_steps (h : Steps settings graph (.start names₀) builder)
    {index : Nat} {name : String} (hname : builder.placeholders[index]? = some name) :
    ∃ label position : Nat,
      NameSupply.Follows name ("function_" ++ toString label ++ "_" ++ toString position) := by
  induction h with
  | refl => simp [Builder.start] at hname
  | tail _ hstep ih => exact (hstep.placeholder_cases hname).elim ih id

/-- All placeholders stand in their declaration. -/
theorem WellNamed.mem_declarators (h : WellNamed names₀ builder) (hplaced : builder.Placed)
    {decl : NodeId} {declarators : Array NodeId} (hdecl : builder.placeholderDecl = some decl)
    (hvar : builder.arena.node? decl = some (.varDecl declarators)) {id : NodeId} :
    id ∈ declarators ↔ ∃ name, builder.arena.node? id = some (.declarator name none) := by
  constructor
  · intro hmem
    obtain ⟨_, hvar', hbare⟩ := h.bound.placeholderDecl hdecl
    obtain rfl := Node.varDecl.inj (Option.some.inj (hvar.symm.trans hvar'))
    exact hbare id hmem
  · rintro ⟨name, hnode⟩
    obtain ⟨index, hname⟩ := hplaced.parameter hnode
    obtain ⟨_, _, hdecl', hvar', declarator, hmem, hdeclarator⟩ := h.bound.placeholder hname
    obtain rfl := Option.some.inj (hdecl.symm.trans hdecl')
    obtain rfl := Node.varDecl.inj (Option.some.inj (hvar.symm.trans hvar'))
    rwa [h.supplied.unique hnode hdeclarator]

end Semblance.Builder
