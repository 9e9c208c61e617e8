import Semblance.Proofs.Generate.Outcome

/-!
# What is written out at the top level

The statements of a builder are those that it has emitted, in this order, and each of them was emitted
for one thing. So the statements that write a member of a function or of a builtin can be told from
all others: the node of a function is no node of another one, and a member chain spells the name of
one builtin. Hence these statements are the ones that were emitted for this owner, which are there once
for each property.

## Key results

- `dotComponents_injective`: a dotted name is known by its components
- `IsOwner.unique`: a node stands for one owner
- `Emitted.writesMember_iff`: the statements that write a member of an owner
- `Outcome.writtenOut`: they write the properties that are to be written, in order
-/

namespace Semblance

/-! ### Dotted names -/

namespace Arena

/-- The components of a dotted name, joined by dots, are the name. -/
theorem intercalate_dotComponents (path : String) :
    ".".intercalate ((dotComponents path).1 :: (dotComponents path).2) = path := by
  have hjoin (head : List Char) (rest : List (List Char)) :
      (".".intercalate (String.ofList head :: rest.map String.ofList)).toList =
        head ++ rest.flatMap ('.' :: ·) := by
    induction rest generalizing head with
    | nil => simp
    | cons next rest ih =>
      rw [List.map_cons, String.intercalate_cons_of_ne_nil (List.cons_ne_nil _ _)]
      simp [ih]
  refine String.toList_injective ?_
  rw [dotComponents]
  exact (hjoin _ _).trans (splitAtDots_join path.toList)

/-- A path is known by its components. -/
theorem dotComponents_injective {path path' : String} (h : dotComponents path = dotComponents path') :
    path = path' := by
  rw [← intercalate_dotComponents path, h, intercalate_dotComponents]

variable {arena : Arena} {stmt target target' value value' root root' node : NodeId}
  {path path' : String}

/-- An assignment has one target and one value. -/
theorem Assigns.unique (h : arena.Assigns stmt target value) (h' : arena.Assigns stmt target' value') :
    target = target' ∧ value = value' := by
  obtain ⟨expr, hstmt, hexpr⟩ := h
  obtain ⟨expr', hstmt', hexpr'⟩ := h'
  cases hstmt.symm.trans hstmt'
  cases hexpr.symm.trans hexpr'
  exact ⟨rfl, rfl⟩

/-- A member chain spells one name. -/
theorem IsPath.unique (h : arena.IsPath path root node) (h' : arena.IsPath path' root' node) :
    root = root' ∧ path = path' := by
  obtain ⟨hroot, hrest⟩ := Leads.unique h.1 h'.1 h.2 h'.2
  subst hroot
  refine ⟨rfl, dotComponents_injective (Prod.ext ?_ hrest)⟩
  exact Node.ident.inj (Option.some.inj (h.1.symm.trans h'.1))

/-- A chain that ends in a name has no members. -/
theorem IsPath.root_eq {name : String} (h : arena.IsPath path root node)
    (hnode : arena.node? node = some (.ident name)) : root = node := by
  obtain ⟨_, hleads⟩ := h
  generalize (dotComponents path).2 = names at hleads
  cases hleads with
  | root => rfl
  | member _ hmember => exact absurd hmember (not_isMember_of_ident hnode)

end Arena

/-! ### Owners -/

namespace Builder

variable {settings : Settings} {graph : ShapeGraph} {builder : Builder} {id id' : ShapeId}
  {owner stmt : NodeId}

/-- A node stands for one owner. -/
theorem IsOwner.unique (h : builder.IsOwner graph id owner) (h' : builder.IsOwner graph id' owner)
    (hgraph : graph.Registered) (hdistinct : builder.DistinctFunctions graph) : id = id' := by
  -- The end of a chain is no function.
  have hneither {id : ShapeId} {fn : FunctionShape} {path : String} {root : NodeId}
      (hfn : graph.shape? id = some (.function fn)) (hnode : builder.nodes[id.index]? = some owner)
      (hpath : builder.arena.IsPath path root owner) : False := by
    obtain ⟨_, _, hfunction⟩ := hdistinct.node hfn hnode
    obtain ⟨_, hend⟩ | ⟨_, _, hend⟩ := hpath.cases <;> cases hfunction.symm.trans hend
  cases h with
  | function hfn hnode =>
    cases h' with
    | function hfn' hnode' => exact hdistinct.inj hfn hfn' hnode hnode'
    | builtin _ hpath => exact (hneither hfn hnode hpath).elim
  | builtin hid hpath =>
    cases h' with
    | function hfn hnode => exact (hneither hfn hnode hpath).elim
    | builtin hid' hpath' =>
      obtain ⟨_, rfl⟩ := hpath.unique hpath'
      have hkey {id : ShapeId} {fullName : String} {properties : Properties} {constructible : Bool}
          (hid : graph.shape? id = some (.builtin fullName properties constructible)) :
          graph.find? (.builtin fullName) = some id :=
        hgraph.found.2 (by rw [ShapeGraph.keyOf?, hid]; rfl)
      exact Option.some.inj ((hkey hid).symm.trans (hkey hid'))

/-- What refers to the global scope stands for no owner. -/
theorem not_isOwner_scope {name : String} (hnode : builder.arena.node? owner = some (.ident name))
    (hnot : ∀ origin, (owner, origin) ∉ builder.origins)
    (hdistinct : builder.DistinctFunctions graph) : ¬ builder.IsOwner graph id owner := by
  intro h
  cases h with
  | function hfn hremembered =>
    obtain ⟨_, _, hfunction⟩ := hdistinct.node hfn hremembered
    cases hnode.symm.trans hfunction
  | builtin _ hpath horigin => exact hnot _ (hpath.root_eq hnode ▸ horigin)

/-- A statement writes a member of the node of a function, or of a member chain that was made for a
    builtin. -/
def WritesMember (graph : ShapeGraph) (builder : Builder) (id : ShapeId) (stmt : NodeId) : Prop :=
  ∃ target value owner name, builder.arena.Assigns stmt target value ∧
    builder.arena.IsMember target owner name ∧ builder.IsOwner graph id owner

/-- A declaration writes no member. -/
theorem not_writesMember_of_isBinding {decl : Node} (hnode : builder.arena.node? stmt = some decl)
    (hbinding : decl.isBinding = true) : ¬ builder.WritesMember graph id stmt := by
  rintro ⟨_, _, _, _, ⟨_, hstmt, _⟩, _⟩
  cases hnode.symm.trans hstmt
  cases hbinding

/-- A statement writes a member of an owner if it was emitted for a property of this owner. -/
theorem Emitted.writesMember_iff {emission : Emission} (h : builder.Emitted graph stmt emission)
    (hgraph : graph.Registered) (hdistinct : builder.DistinctFunctions graph) :
    builder.WritesMember graph id stmt ↔ (emission.property? id).isSome := by
  cases emission with
  | scope =>
    obtain ⟨decl, hdecl, hbinding⟩ := h
    exact iff_of_false (not_writesMember_of_isBinding hdecl hbinding) Bool.false_ne_true
  | property other written =>
    -- The statement writes one member of one owner, and an owner has one id.
    obtain ⟨target, owner, value, hassigns, hmember, howner, _⟩ := h
    rw [Emission.property?, Option.isSome_ite]
    constructor
    · rintro ⟨target', value', owner', name, hassigns', hmember', howner'⟩
      obtain ⟨rfl, _⟩ := hassigns.unique hassigns'
      obtain ⟨rfl, _⟩ := hmember.unique hmember'
      exact howner.unique howner' hgraph hdistinct
    · rintro rfl
      exact ⟨target, value, owner, written.1, hassigns, hmember, howner⟩
  | binding name shape =>
    -- The target is a name or a member of the global scope, which owns nothing.
    obtain ⟨target, node, hassigns, htarget, _⟩ := h
    refine iff_of_false ?_ Bool.false_ne_true
    rintro ⟨target', value', owner, name', hassigns', hmember', howner⟩
    obtain ⟨rfl, _⟩ := hassigns.unique hassigns'
    cases htarget with
    | named hnode => exact Arena.not_isMember_of_ident hnode hmember'
    | member hmember hscope hnot =>
      obtain ⟨rfl, _⟩ := hmember.unique hmember'
      exact not_isOwner_scope hscope hnot hdistinct howner

open scoped Classical in
/-- The top-level statements that write a member of an owner, in order. -/
noncomputable def writers (graph : ShapeGraph) (builder : Builder) (id : ShapeId) : List NodeId :=
  builder.roots.filter fun stmt => builder.WritesMember graph id stmt

/-- The top-level statements that write a member of an owner write these properties one by one, and
    what they write stands for the values. -/
def WrittenOut (settings : Settings) (graph : ShapeGraph) (builder : Builder) (id : ShapeId)
    (written : List (String × ShapeId)) : Prop :=
  List.Forall₂ (fun stmt (binding : String × ShapeId) => ∃ target owner value,
      builder.arena.Assigns stmt target value ∧ builder.arena.IsMember target owner binding.1 ∧
      builder.IsOwner graph id owner ∧ builder.StandsFor settings graph binding.2 value)
    (builder.writers graph id) written

open scoped Classical in
/-- The declaration of the placeholders is none of them. -/
theorem writers_eq (hdecl : ∀ decl, builder.placeholderDecl = some decl →
      ∃ node, builder.arena.node? decl = some node ∧ node.isBinding = true) :
    builder.writers graph id =
      builder.statements.toList.filter fun stmt => builder.WritesMember graph id stmt := by
  rw [writers, roots, List.filter_append, List.filter_eq_nil_iff.2, List.nil_append]
  intro decl hmem
  obtain ⟨node, hnode, hbinding⟩ := hdecl decl (Option.mem_toList.1 hmem)
  simpa using not_writesMember_of_isBinding hnode hbinding

end Builder

namespace Gen.Outcome

variable {settings : Settings} {graph : ShapeGraph} {names : NameSupply} {builder : Builder}
  {id : ShapeId} {node : NodeId}

/-- The node of a function is that of no other function. -/
theorem distinct (h : Outcome settings graph names builder) : builder.DistinctFunctions graph := by
  obtain ⟨_, haccounts⟩ := h.accounts
  refine haccounts.distinct ⟨fun _ hnode => ?_, fun _ _ hnode _ => ?_⟩ <;>
    exact nomatch hnode.symm.trans Std.TreeMap.getElem?_emptyc

/-- What an assignment writes stands for the value. -/
theorem standsFor_assigned (h : Outcome settings graph names builder) (hgraph : graph.Recorded)
    {stmt target : NodeId} (hassigns : builder.arena.Assigns stmt target node)
    (hvisit : (id, .ok node) ∈ builder.visits) : builder.StandsFor settings graph id node := by
  obtain ⟨expr, _, hexpr⟩ := hassigns
  exact h.standsFor hgraph hvisit hexpr (by simp [Node.operands])

/-- Once an owner is marked, all its properties that are to be written are written out, and nothing
    else is. -/
theorem writtenOut (h : Outcome settings graph names builder) (hgraph : graph.Recorded)
    (hmarks : builder.marks graph id = true) :
    builder.WrittenOut settings graph id (graph.written settings id) := by
  obtain ⟨emissions, haccounts⟩ := h.accounts
  obtain ⟨emitted, hstatements, hemitted⟩ := haccounts.statements
  -- Nothing is marked at the start.
  have hstart : (Builder.start names).marks graph id = false := by
    unfold Builder.marks
    split
    · exact congrArg Option.isSome Std.TreeMap.getElem?_emptyc
    · exact Std.TreeSet.contains_emptyc
    · rfl
  have hwritten : emissions.filterMap (Emission.property? id) = graph.written settings id := by
    rw [haccounts.written (List.not_mem_nil), hstart, hmarks]
    rfl
  have hdecl : ∀ decl, builder.placeholderDecl = some decl →
      ∃ node, builder.arena.node? decl = some node ∧ node.isBinding = true :=
    fun _ hdecl => (haccounts.declared hdecl).resolve_left nofun
  rw [Builder.WrittenOut, Builder.writers_eq hdecl, hstatements, ← hwritten]
  refine (forall₂_filter_filterMap hemitted fun stmt emission hemitted =>
    hemitted.writesMember_iff hgraph.registered h.distinct).imp ?_
  rintro stmt binding ⟨emission, hemitted, hbinding⟩
  cases emission with
  | property other written =>
    rw [Emission.property?, Option.ite_none_right_eq_some] at hbinding
    obtain ⟨rfl, hbinding⟩ := hbinding
    obtain rfl := Option.some.inj hbinding
    obtain ⟨target, owner, value, hassigns, hmember, howner, hvisit⟩ := hemitted
    exact ⟨target, owner, value, hassigns, hmember, howner,
      h.standsFor_assigned hgraph hassigns hvisit⟩
  | _ => cases hbinding

end Gen.Outcome

end Semblance
