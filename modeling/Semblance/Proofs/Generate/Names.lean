import Semblance.Proofs.Generate.Stepwise
import Semblance.Proofs.Name.Fresh

/-!
# The names that a generation declares

A generation declares the binding for the global scope and the placeholders of parameters. Each name
is drawn from the supply when it is declared, so that no two declarators have one name, and none has
a name that was in use at the start. What refers to a binding does so by the name that was declared
for it.

## Key results

- `Supplied.step`: the names of declarators stay apart
- `Bound.step`: references stay bound
- `wellNamed_of_steps`: both hold after any generation
-/

namespace Semblance

/-- The statement `var name = this` with nothing else in it. -/
def Arena.DeclaresScope (arena : Arena) (decl : NodeId) (name : String) : Prop :=
  ∃ scope, arena.Declares decl name scope ∧ arena.node? scope = some .this

namespace Builder

/-- The declarators have different names, which were taken from the supply since the start. -/
structure Supplied (start : NameSupply) (builder : Builder) : Prop where
  taken : ∀ {id name init}, builder.arena.node? id = some (.declarator name init) →
    builder.names.isTaken name = true
  fresh : ∀ {id name init}, builder.arena.node? id = some (.declarator name init) →
    start.isTaken name = false
  unique : ∀ {id id' name init init'}, builder.arena.node? id = some (.declarator name init) →
    builder.arena.node? id' = some (.declarator name init') → id = id'
  kept : ∀ {name}, start.isTaken name = true → builder.names.isTaken name = true

/-- Some statement is `var name = this`. -/
def DeclaresScope (builder : Builder) (name : String) : Prop :=
  ∃ decl ∈ builder.statements.toList, builder.arena.DeclaresScope decl name

/-- The declaration of the placeholders has one of this name. -/
def DeclaresPlaceholder (builder : Builder) (name : String) : Prop :=
  ∃ decl declarators, builder.placeholderDecl = some decl ∧
    builder.arena.node? decl = some (.varDecl declarators) ∧
    ∃ declarator ∈ declarators, builder.arena.node? declarator = some (.declarator name none)

/-- What is referred to is declared. -/
structure Bound (builder : Builder) : Prop where
  scope : ∀ {name}, builder.globalName = some name → builder.DeclaresScope name
  placeholder : ∀ {index : Nat} {name}, builder.placeholders[index]? = some name →
    builder.DeclaresPlaceholder name
  /-- Placeholders have no initializers. -/
  placeholderDecl : ∀ {decl}, builder.placeholderDecl = some decl →
    ∃ declarators, builder.arena.node? decl = some (.varDecl declarators) ∧
      ∀ declarator ∈ declarators, ∃ name,
        builder.arena.node? declarator = some (.declarator name none)
  reference : ∀ {leaf referent}, (leaf, referent) ∈ builder.references →
    ∃ name, builder.arena.node? leaf = some (.ident name) ∧ builder.nameOf? referent = some name

variable {settings : Settings} {graph : ShapeGraph} {names₀ : NameSupply} {builder builder' : Builder}

/-! ### Names of declarators -/

/-- The declaration of the placeholders is no declarator. -/
theorem declarator_of_placeholderDeclWith {id : NodeId} {name other : String} {init : Option NodeId}
    (hnode : (builder.placeholderDeclWith name).2.node? id = some (.declarator other init)) :
    (Arena.push (.declarator name none) builder.arena).2.node? id =
      some (.declarator other init) := by
  cases hdecl : builder.placeholderDecl with
  | none =>
    rw [placeholderDeclWith_none hdecl] at hnode
    refine (Arena.node?_push_cases hnode).resolve_right ?_
    rintro ⟨_, heq⟩
    cases heq
  | some decl =>
    -- The declaration is changed to a declaration.
    rw [placeholderDeclWith_some hdecl, Arena.appendDeclarator, Arena.node?_modifyNode] at hnode
    split at hnode
    · obtain ⟨node, hnode', heq⟩ := Option.map_eq_some_iff.1 hnode
      split at heq
      · cases heq
      · exact heq ▸ hnode'
    · exact hnode

namespace Supplied

/-- A builder starts without declarators. -/
theorem start (names : NameSupply) : Supplied names (.start names) where
  taken hnode := nomatch hnode
  fresh hnode := nomatch hnode
  unique hnode := nomatch hnode
  kept htaken := htaken

/-- A change that declares nothing. -/
theorem same (h : Supplied names₀ builder) (hnames : builder'.names = builder.names)
    (hsame : ∀ {id name init}, builder'.arena.node? id = some (.declarator name init) →
      builder.arena.node? id = some (.declarator name init)) : Supplied names₀ builder' where
  taken hnode := hnames ▸ h.taken (hsame hnode)
  fresh hnode := h.fresh (hsame hnode)
  unique hnode hnode' := h.unique (hsame hnode) (hsame hnode')
  kept htaken := hnames ▸ h.kept htaken

/-- One more name is drawn and declared. -/
theorem declare (h : Supplied names₀ builder) {hint : Option String} {name : String}
    (hfresh : builder.names.fresh? hint = some (name, builder'.names)) {new : NodeId}
    (hnew : ∀ {id other init}, builder'.arena.node? id = some (.declarator other init) →
      builder.arena.node? id = some (.declarator other init) ∨ (id = new ∧ other = name)) :
    Supplied names₀ builder' := by
  have htaken := NameSupply.fresh_isTaken_iff hfresh
  have hfree := NameSupply.isTaken_fresh hfresh
  -- The new name is not one of those that were taken before.
  have hne {id : NodeId} {other : String} {init : Option NodeId}
      (hnode : builder.arena.node? id = some (.declarator other init)) : other ≠ name := by
    rintro rfl
    rw [h.taken hnode] at hfree
    exact nomatch hfree
  refine ⟨fun hnode => ?_, fun hnode => ?_, fun hnode hnode' => ?_, fun hkept => ?_⟩
  · rcases hnew hnode with hold | ⟨_, rfl⟩
    · exact (htaken _).2 (.inr (h.taken hold))
    · exact (htaken _).2 (.inl rfl)
  · rcases hnew hnode with hold | ⟨_, rfl⟩
    · exact h.fresh hold
    · refine Bool.eq_false_iff.2 fun hstart => ?_
      rw [h.kept hstart] at hfree
      exact nomatch hfree
  · rcases hnew hnode with hold | ⟨rfl, hname⟩ <;> rcases hnew hnode' with hold' | ⟨rfl, hname'⟩
    · exact h.unique hold hold'
    · exact absurd hname' (hne hold)
    · exact absurd hname (hne hold')
    · rfl
  · exact (htaken _).2 (.inr (h.kept hkept))

/-- No step declares a name that is in use. -/
theorem step (h : Supplied names₀ builder) (hstep : builder.Step settings graph builder') :
    Supplied names₀ builder' := by
  rcases hstep.cases_quiet with hquiet | ⟨name, names, _, hfresh, rfl⟩ |
    ⟨shape, hint, name, names, _, hfresh, rfl⟩ | ⟨name, referent, _, rfl⟩
  · exact h.same hquiet.names fun hnode => hquiet.arena.binding hnode rfl
  · -- Three nodes are new: the receiver, the declarator and its declaration.
    refine @declare _ _ _ h _ name hfresh (builder.scopeDeclarator name).1 ?_
    intro id other init hnode
    rcases Arena.node?_push_cases hnode with hnode | ⟨_, hdecl⟩
    · rcases Arena.node?_push_cases hnode with hnode | ⟨hid, hdeclarator⟩
      · exact .inl ((Arena.quiet_push rfl).binding hnode rfl)
      · exact .inr ⟨hid, (Node.declarator.inj hdeclarator).1⟩
    · cases hdecl
  · -- The declarator of the placeholder is new, and so may be the declaration.
    refine @declare _ _ _ h _ name hfresh (Arena.push (.declarator name none) builder.arena).1 ?_
    intro id other init hnode
    rcases Arena.node?_push_cases (declarator_of_placeholderDeclWith hnode) with
      hnode | ⟨hid, hdeclarator⟩
    · exact .inl hnode
    · exact .inr ⟨hid, (Node.declarator.inj hdeclarator).1⟩
  · exact h.same rfl fun hnode => (Arena.quiet_push rfl).binding hnode rfl

end Supplied

/-! ### What names refer to -/

/-- The binding for the global scope is declared as `this`. -/
theorem declareScope_declares (builder : Builder) (name : String) (names : NameSupply) :
    (builder.declareScope name names).DeclaresScope name := by
  refine ⟨(builder.scopeDecl name).1, by simp [Builder.declareScope], (Arena.this builder.arena).1,
    ⟨(builder.scopeDeclarator name).1, Arena.node?_push_self .., ?_⟩, ?_⟩
  · exact Arena.node?_push_of_node? (Arena.node?_push_self ..) _
  · exact Arena.node?_push_of_node? (Arena.node?_push_of_node? (Arena.node?_push_self ..) _) _

namespace Bound

/-- At the start there is nothing to refer to. -/
theorem start (names : NameSupply) : Bound (.start names) where
  scope hname := nomatch hname
  placeholder hname := by simp [Builder.start] at hname
  placeholderDecl hdecl := nomatch hdecl
  reference hmem := by simp [Builder.start] at hmem

/-- A new placeholder is declared with the other ones. -/
theorem declarePlaceholder_declares (h : Bound builder) (shape : ShapeId) (name : String)
    (names : NameSupply) : (builder.declarePlaceholder shape name names).DeclaresPlaceholder name := by
  refine ⟨(builder.placeholderDeclWith name).1, ?_⟩
  rw [arena_declarePlaceholder]
  have hself := Arena.node?_push_self (.declarator name none) builder.arena
  cases hdecl : builder.placeholderDecl with
  | none =>
    refine ⟨#[(Arena.push (.declarator name none) builder.arena).1], rfl, ?_, _,
      Array.mem_singleton_self _, ?_⟩
    · rw [placeholderDeclWith_none hdecl, Arena.node?_push_self]
    · rw [placeholderDeclWith_none hdecl]
      exact Arena.node?_push_of_node? hself _
  | some decl =>
    obtain ⟨declarators, hnode, _⟩ := h.placeholderDecl hdecl
    refine ⟨declarators.push (Arena.push (.declarator name none) builder.arena).1, rfl, ?_, _,
      Array.mem_push_self, ?_⟩
    · rw [placeholderDeclWith_some hdecl, Arena.appendDeclarator, Arena.node?_modifyNode,
        if_pos rfl, Arena.node?_push_of_node? hnode, Option.map_some]
    · rw [placeholderDeclWith_some hdecl, Arena.appendDeclarator, Arena.node?_modifyNode, if_neg,
        hself]
      -- The new declarator is not the declaration, which was there before.
      rintro rfl
      exact Nat.lt_irrefl _ (Arena.lt_size_of_node? hnode)

variable (h : Bound builder) (hstep : builder.Step settings graph builder')
include h hstep

/-- The declaration of the placeholders goes on to declare what it declares. -/
theorem placeholderDecl_step {decl : NodeId} {declarators : Array NodeId}
    (hdecl : builder.placeholderDecl = some decl)
    (hnode : builder.arena.node? decl = some (.varDecl declarators)) :
    ∃ declarators', builder'.arena.node? decl = some (.varDecl declarators') ∧
      (∀ declarator ∈ declarators, declarator ∈ declarators') ∧
      ∀ declarator ∈ declarators', ∃ name,
        builder'.arena.node? declarator = some (.declarator name none) := by
  obtain ⟨declarators, hnode', hbare⟩ := h.placeholderDecl hdecl
  obtain rfl := Node.varDecl.inj (Option.some.inj (hnode.symm.trans hnode'))
  have hkept (declarator) (hmem : declarator ∈ declarators) : ∃ name,
      builder'.arena.node? declarator = some (.declarator name none) := by
    obtain ⟨name, hdeclarator⟩ := hbare declarator hmem
    exact ⟨name, hstep.node?_eq hdeclarator rfl nofun⟩
  obtain ⟨node', hnew, hfills | ⟨_, _, declarator, name, heq, rfl, hdeclarator⟩⟩ :=
    hstep.node?_of_node? hnode
  · -- A declaration is no container, so it was not filled.
    rw [hfills.eq_of_not_isContainer rfl] at hnew
    exact ⟨declarators, hnew, fun _ hmem => hmem, hkept⟩
  · -- One placeholder was added.
    obtain rfl := Node.varDecl.inj heq
    refine ⟨_, hnew, fun _ => Array.mem_push_of_mem _, fun other hmem => ?_⟩
    rcases Array.mem_push.1 hmem with hmem | rfl
    · exact hkept other hmem
    · exact ⟨name, hdeclarator⟩

/-- The global scope stays declared. -/
theorem scope_step {name : String} (hname : builder.globalName = some name) :
    builder'.DeclaresScope name := by
  obtain ⟨decl, hmem, scope, ⟨declarator, hdecl, hdeclarator⟩, hscope⟩ := h.scope hname
  refine ⟨decl, hstep.statements_prefix.subset hmem, scope, ⟨declarator,
    hstep.node?_eq hdecl rfl ?_, hstep.node?_eq hdeclarator rfl nofun⟩,
    hstep.node?_eq hscope rfl nofun⟩
  -- The declaration of the placeholders is another one, since it has no initializers.
  intro declarators _ heq
  obtain ⟨declarators', hdecl', hbare⟩ := h.placeholderDecl heq
  obtain rfl : #[declarator] = declarators' :=
    Node.varDecl.inj (Option.some.inj (hdecl.symm.trans hdecl'))
  obtain ⟨other, hother⟩ := hbare declarator (Array.mem_singleton_self _)
  exact nomatch hdeclarator.symm.trans hother

/-- Placeholders stay declared. -/
theorem placeholder_step {index : Nat} {name : String}
    (hname : builder.placeholders[index]? = some name) : builder'.DeclaresPlaceholder name := by
  obtain ⟨decl, declarators, hdecl, hnode, declarator, hmem, hdeclarator⟩ := h.placeholder hname
  obtain ⟨declarators', hnode', hsub, _⟩ := h.placeholderDecl_step hstep hdecl hnode
  exact ⟨decl, declarators', hstep.placeholderDecl_eq hdecl, hnode', declarator, hsub _ hmem,
    hstep.node?_eq hdeclarator rfl nofun⟩

/-- What refers to a binding in one step is declared by the end of it. -/
theorem step : Bound builder' where
  scope {name} hname := by
    rcases hstep.cases_quiet with hquiet | ⟨_, names, _, _, rfl⟩ |
      ⟨_, _, _, _, _, _, rfl⟩ | ⟨_, _, _, rfl⟩
    · exact h.scope_step hstep (hquiet.globalName.symm.trans hname)
    · obtain rfl := Option.some.inj hname
      exact declareScope_declares ..
    · exact h.scope_step hstep hname
    · exact h.scope_step hstep hname
  placeholder {index name} hname := by
    rcases hstep.cases_quiet with hquiet | ⟨_, _, _, _, rfl⟩ |
      ⟨shape, _, new, names, _, _, rfl⟩ | ⟨_, _, _, rfl⟩
    · exact h.placeholder_step hstep (hquiet.placeholders ▸ hname)
    · exact h.placeholder_step hstep hname
    · rw [Builder.declarePlaceholder, Std.TreeMap.getElem?_insert] at hname
      split at hname
      · obtain rfl := Option.some.inj hname
        exact h.declarePlaceholder_declares ..
      · exact h.placeholder_step hstep hname
    · exact h.placeholder_step hstep hname
  placeholderDecl {decl} hdecl := by
    cases hformer : builder.placeholderDecl with
    | some former =>
      obtain rfl := Option.some.inj (hdecl.symm.trans (hstep.placeholderDecl_eq hformer))
      obtain ⟨declarators, hnode, _⟩ := h.placeholderDecl hformer
      obtain ⟨declarators', hnode', _, hbare⟩ := h.placeholderDecl_step hstep hformer hnode
      exact ⟨declarators', hnode', hbare⟩
    | none =>
      -- There was no declaration, so the step must have been the first placeholder.
      have hnone (decl : NodeId) : builder.placeholderDecl ≠ some decl := by
        rw [hformer]
        exact (Option.some_ne_none decl).symm
      rcases hstep.cases_quiet with hquiet | ⟨_, _, _, _, rfl⟩ |
        ⟨shape, _, name, names, _, _, rfl⟩ | ⟨_, _, _, rfl⟩
      · exact absurd (hquiet.placeholderDecl.symm.trans hdecl) (hnone decl)
      · exact absurd hdecl (hnone decl)
      · obtain rfl := Option.some.inj hdecl
        rw [arena_declarePlaceholder, placeholderDeclWith_none hformer]
        refine ⟨_, Arena.node?_push_self .., fun declarator hmem => ⟨name, ?_⟩⟩
        rw [Array.mem_singleton.1 hmem]
        exact Arena.node?_push_of_node? (Arena.node?_push_self ..) _
      · exact absurd hdecl (hnone decl)
  reference {leaf referent} hmem := by
    -- References that were there keep their names.
    have hold (hmem : (leaf, referent) ∈ builder.references) : ∃ name,
        builder'.arena.node? leaf = some (.ident name) ∧
          builder'.nameOf? referent = some name := by
      obtain ⟨name, hleaf, hname⟩ := h.reference hmem
      exact ⟨name, hstep.node?_eq hleaf rfl (by simp), hstep.nameOf?_eq hname⟩
    rcases hstep.cases_quiet with hquiet | ⟨_, _, _, _, rfl⟩ |
      ⟨_, _, _, _, _, _, rfl⟩ | ⟨name, target, hname, rfl⟩
    · exact hold (hquiet.references ▸ hmem)
    · exact hold hmem
    · exact hold hmem
    · rcases Array.mem_push.1 hmem with hmem | heq
      · exact hold hmem
      · obtain ⟨rfl, rfl⟩ := Prod.mk.inj heq
        exact ⟨name, Arena.node?_push_self .., hstep.nameOf?_eq hname⟩

end Bound

/-! ### Generations -/

/-- Leaves and statements have no hints, since a step gives hints only to what it builds for a
    value. -/
theorem Step.leavesUnhinted (hstep : builder.Step settings graph builder')
    (h : builder.arena.LeavesUnhinted) : builder'.arena.LeavesUnhinted := by
  rcases hstep.cases_quiet with hquiet | ⟨name, _, _, _, rfl⟩ | ⟨shape, _, name, _, _, _, rfl⟩ |
    ⟨name, _, _, rfl⟩
  · exact hquiet.arena.leaves h
  · exact Arena.leavesUnhinted_push
      (Arena.leavesUnhinted_push (Arena.leavesUnhinted_push h _) _) _
  · have hpush := Arena.leavesUnhinted_push h (.declarator name none)
    rw [arena_declarePlaceholder]
    cases hdecl : builder.placeholderDecl with
    | none =>
      rw [placeholderDeclWith_none hdecl]
      exact Arena.leavesUnhinted_push hpush _
    | some decl =>
      rw [placeholderDeclWith_some hdecl]
      -- Only the declaration changes, and a declaration is no leaf.
      exact Arena.leavesUnhinted_modifyNode hpush fun node _ hleaf => by
        split at hleaf
        · exact nomatch hleaf
        · exact hleaf
  · exact Arena.leavesUnhinted_push h _

/-- The declarators of a builder have names of their own, and references are bound to them. -/
structure WellNamed (start : NameSupply) (builder : Builder) : Prop where
  supplied : Supplied start builder
  bound : Bound builder
  leaves : builder.arena.LeavesUnhinted

/-- Whatever is generated, names tell declarators apart and references are bound. -/
theorem wellNamed_of_steps (h : Steps settings graph (.start names₀) builder) :
    WellNamed names₀ builder := by
  induction h with
  | refl => exact ⟨.start names₀, .start names₀, ⟨rfl, fun hnode => nomatch hnode⟩⟩
  | tail _ hstep ih =>
    exact ⟨ih.supplied.step hstep, ih.bound.step hstep, hstep.leavesUnhinted ih.leaves⟩

end Builder

end Semblance
