import Semblance.Generate.Basic
import Semblance.Proofs.Generate.Rules

/-!
# Generation comes to an end

Objects, arrays and functions are remembered, and builtins marked, before their rules ask for other
shapes. These shapes are pending until then. A rule that is used while its shape is pending leaves
fewer pending shapes for the visits it makes. The other rules lead to a rule of that sort in at most
two steps: the members of a union are no unions, and what constructs an instance is a function or a
builtin. So three levels for each pending shape, and three more, are enough.

## Key results

- `runs_rule`: a rule comes to an end if its visits do, one level deeper
- `serves_nodeWithin`: so does a visit that has as many levels as it needs
- `runs_toNode`, `runs_assignGlobal`: the levels granted are enough
-/

namespace Semblance

/-- How many levels a rule may take before it comes to a shape that is remembered or marked. -/
def Shape.rank : Shape → Nat
  | union _ => 3
  | instanceOf _ _ => 2
  | _ => 1

/-- No rule takes more than three levels to come to such a shape. -/
theorem Shape.rank_le (shape : Shape) : shape.rank ≤ 3 := by
  cases shape <;> simp [rank]

/-- Every rule takes a level for itself. -/
theorem Shape.rank_pos (shape : Shape) : 1 ≤ shape.rank := by
  cases shape <;> simp [rank]

/-- Whether the rule for a shape is still to remember or mark it. -/
def Shape.isPending (builder : Builder) (index : Nat) : Shape → Bool
  | object _ | array _ _ | function _ => builder.nodes[index]?.isNone
  | builtin _ _ _ => !builder.patched.contains index
  | _ => false

namespace Gen

/-- Whether a shape of a graph is still to be remembered or marked. -/
def isPending (graph : ShapeGraph) (builder : Builder) (index : Nat) : Bool :=
  (graph.shape? ⟨index⟩).any (·.isPending builder index)

/-- The shapes that are still to be remembered or marked. -/
def pending (graph : ShapeGraph) (builder : Builder) : List Nat :=
  (List.range graph.size).filter (isPending graph builder)

/-- The levels are enough for a visit of the shape. -/
def Within (graph : ShapeGraph) (levels : Nat) (builder : Builder) (id : ShapeId) : Prop :=
  ∃ shape, graph.shape? id = some shape ∧
    3 * (pending graph builder).length + shape.rank ≤ levels

variable {settings : Settings} {graph : ShapeGraph} {builder builder' : Builder}
  {held : List NodeId} {id : ShapeId} {levels : Nat} {visit : Visit}

/-! ### Pending shapes -/

/-- A shape that is remembered or marked stays so. -/
theorem isPending_of_grows (h : builder.Grows builder') {index : Nat}
    (hpending : isPending graph builder' index = true) : isPending graph builder index = true := by
  have hnode (hnone : (builder'.nodes[index]?).isNone = true) :
      (builder.nodes[index]?).isNone = true := by
    cases hsome : builder.nodes[index]? with
    | none => rfl
    | some node =>
      have hsome' : (builder'.nodes[index]?).isSome := h.nodes (by rw [hsome, Option.isSome_some])
      simp_all
  have hpatched (hnot : (!builder'.patched.contains index) = true) :
      (!builder.patched.contains index) = true := by
    cases hcontains : builder.patched.contains index with
    | false => rfl
    | true => simp_all [h.patched hcontains]
  -- Of the shapes that can be pending all but builtins are remembered.
  unfold isPending at hpending ⊢
  cases hshape : graph.shape? ⟨index⟩ with
  | none =>
    rw [hshape] at hpending
    exact nomatch hpending
  | some shape =>
    rw [hshape, Option.any_some] at hpending
    rw [Option.any_some]
    cases shape with
    | object | array | function => exact hnode hpending
    | builtin => exact hpatched hpending
    | _ => exact nomatch hpending

/-- Whether a shape of the graph is pending is a matter of its kind. -/
theorem isPending_eq {shape : Shape} (hshape : graph.shape? id = some shape) (builder : Builder) :
    isPending graph builder id.index = shape.isPending builder id.index := by
  rw [isPending, show graph.shape? ⟨id.index⟩ = some shape from hshape, Option.any_some]

/-- No shapes become pending. -/
theorem pending_of_grows (h : builder.Grows builder') :
    pending graph builder' = (pending graph builder).filter (isPending graph builder') := by
  rw [pending, pending, List.filter_filter]
  refine List.filter_congr fun index _ => ?_
  cases hpending : isPending graph builder' index with
  | false => rfl
  | true => rw [isPending_of_grows h hpending, Bool.and_self]

/-- There are never more pending shapes than before. -/
theorem length_pending_le (graph : ShapeGraph) (h : builder.Grows builder') :
    (pending graph builder').length ≤ (pending graph builder).length := by
  rw [pending_of_grows h]
  exact List.length_filter_le _ _

/-- There are fewer pending shapes once one is pending no more. -/
theorem length_pending_lt (h : builder.Grows builder') {index : Nat} (hindex : index < graph.size)
    (hpending : isPending graph builder index = true)
    (hdone : isPending graph builder' index = false) :
    (pending graph builder').length < (pending graph builder).length := by
  rw [pending_of_grows h]
  refine List.length_filter_lt_length_iff_exists.2 ⟨index, ?_, Bool.eq_false_iff.1 hdone⟩
  exact List.mem_filter.2 ⟨List.mem_range.2 hindex, hpending⟩

/-- Levels that are enough stay enough. -/
theorem Within.mono (h : Within graph levels builder id) (hgrows : builder.Grows builder') :
    Within graph levels builder' id := by
  obtain ⟨shape, hshape, hlevels⟩ := h
  have hle := length_pending_le graph hgrows
  exact ⟨shape, hshape, by omega⟩

/-- Once a shape is pending no more, all shapes are within one level less. -/
theorem ready_of_pending (h : Within graph (levels + 1) builder id)
    (hpending : isPending graph builder id.index = true) (hgrows : builder.Grows builder')
    (hdone : isPending graph builder' id.index = false) :
    Ready graph (Within graph levels) builder' := by
  intro builder'' hgrows' ref href
  obtain ⟨shape, hshape, hlevels⟩ := h
  obtain ⟨shape', hshape'⟩ := Option.isSome_iff_exists.1 href
  have hindex : id.index < graph.size := (Array.getElem?_eq_some_iff.1 hshape).1
  -- One pending shape less makes up for any rank.
  have hlt := length_pending_lt hgrows hindex hpending hdone
  have hle := length_pending_le graph hgrows'
  have hrank := shape.rank_pos
  have hrank' := shape'.rank_le
  exact ⟨shape', hshape', by omega⟩

/-- A shape that is remembered is not pending. -/
theorem ready_of_node {shape : Shape} (h : Within graph (levels + 1) builder id)
    (hshape : graph.shape? id = some shape)
    (hkind : ∀ builder : Builder,
      shape.isPending builder id.index = (builder.nodes[id.index]?).isNone)
    (hnew : builder.nodes[id.index]? = none) (hgrows : builder.Grows builder')
    (hnode : (builder'.nodes[id.index]?).isSome) : Ready graph (Within graph levels) builder' := by
  refine ready_of_pending h ?_ hgrows ?_
  · rw [isPending_eq hshape, hkind, hnew, Option.isNone_none]
  · rw [isPending_eq hshape, hkind, ← Option.not_isSome, hnode, Bool.not_true]

/-! ### Rules and visits -/

/-- What was seen on the instances of a function is what the shape of the instances refers to. -/
theorem mem_refs_of_instanceProperties {fn : FunctionShape} {ref : ShapeId}
    (h : ref ∈ (instanceProperties graph fn).refs) :
    ∃ shape, graph.shape? fn.constructs = some shape ∧ ref ∈ shape.refs := by
  unfold instanceProperties at h
  cases hshape : graph.shape? fn.constructs with
  | none => simp [hshape] at h
  | some shape =>
    cases hproperties : shape.properties? with
    | none => simp [hshape, hproperties] at h
    | some properties =>
      rw [hshape, Option.bind_some, hproperties, Option.getD_some] at h
      exact ⟨shape, rfl, Shape.mem_refs_of_property hproperties h⟩

/-- What was seen on the instances of a function is known. -/
theorem known_instanceProperties (hvalid : graph.Valid) (fn : FunctionShape) :
    ∀ ref ∈ (instanceProperties graph fn).refs, (graph.shape? ref).isSome := by
  intro ref hmem
  obtain ⟨shape, hshape, hmem⟩ := mem_refs_of_instanceProperties hmem
  exact (hvalid.fits hshape).known ref hmem

/-- A rule comes to an end if its visits do, one level deeper. -/
theorem runs_rule (hvalid : graph.Valid) (hname : settings.globalName ≠ "")
    (hvisit : Serves visit (Within graph levels)) (h : builder.Sound held)
    (hwithin : Within graph (levels + 1) builder id) (hnew : builder.nodes[id.index]? = none) :
    Yields (rule settings graph visit id) builder held := by
  have ⟨shape, hshape, hlevels⟩ := hwithin
  have hknown := (hvalid.fits hshape).known
  have hid : (graph.shape? id).isSome := by rw [hshape, Option.isSome_some]
  refine .bind (runs_checked (ShapeGraph.shape_eq_ok.2 hshape) ?_)
  cases shape with
  | primitive kind => exact runs_primitive h kind
  | object entries =>
    exact runs_object hvisit h hid
      (fun _ hgrows hnode => ready_of_node hwithin hshape (fun _ => rfl) hnew hgrows hnode) hknown
  | array entries degraded =>
    exact runs_array hvisit h hid
      (fun _ hgrows hnode => ready_of_node hwithin hshape (fun _ => rfl) hnew hgrows hnode) hknown
      degraded
  | function fn =>
    exact runs_function hvisit h hid
      (fun _ hgrows hnode => ready_of_node hwithin hshape (fun _ => rfl) hnew hgrows hnode) hknown
      (known_instanceProperties hvalid fn) settings
  | instanceOf constructor properties =>
    -- A constructor is remembered or marked.
    obtain ⟨shape', hshape', hconstructor⟩ := (hvalid.fits hshape).constructed constructor rfl
    refine runs_instanceOf hvisit h (by rw [hshape', Option.isSome_some]) ⟨shape', hshape', ?_⟩
    cases shape' with
    | function | builtin =>
      simp only [Shape.rank] at hlevels ⊢
      omega
    | _ => exact nomatch hconstructor
  | union members =>
    refine runs_union hvisit h fun member hmem builder' hgrows => Within.mono ?_ hgrows
    -- A member is no union.
    obtain ⟨shape', hshape', hmember⟩ := (hvalid.fits hshape).member member hmem
    refine ⟨shape', hshape', ?_⟩
    cases shape' with
    | union => exact nomatch hmember
    | _ =>
      simp only [Shape.rank] at hlevels ⊢
      omega
  | builtin fullName properties constructible =>
    refine runs_builtin hvisit h (fun hnot _ hgrows hmarked => ?_) hknown fullName
    refine ready_of_pending hwithin ?_ hgrows ?_
    · rw [isPending_eq hshape, Shape.isPending, hnot, Bool.not_false]
    · rw [isPending_eq hshape, Shape.isPending, hmarked, Bool.not_true]
  | global properties => exact runs_global hname h
  | parameter use => exact runs_parameter h (hknown _ List.mem_cons_self)

/-- A visit that has as many levels as it needs comes to an end. -/
theorem serves_nodeWithin (hvalid : graph.Valid) (hname : settings.globalName ≠ "") (levels : Nat) :
    Serves (nodeWithin settings graph levels) (Within graph levels) := by
  induction levels with
  | zero =>
    -- Every shape needs a level at least.
    intro builder held id _ ⟨shape, _, hlevels⟩
    have hrank := shape.rank_pos
    omega
  | succ levels ih =>
    intro builder held id h hwithin
    refine yields_logged id (.bind (runs_known? ?_))
    split
    · next node hnode => exact runs_pure ⟨.rfl, h.share (h.node hnode)⟩
    · next hnew => exact runs_rule hvalid hname ih h hwithin hnew

/-- The levels granted are enough for every shape. -/
theorem runs_toNode (hvalid : graph.Valid) (hname : settings.globalName ≠ "")
    (h : builder.Sound held) (hid : (graph.shape? id).isSome) :
    Yields (toNode settings graph id) builder held := by
  obtain ⟨shape, hshape⟩ := Option.isSome_iff_exists.1 hid
  have hlength := List.length_filter_le (isPending graph builder) (List.range graph.size)
  have hrank := shape.rank_le
  rw [List.length_range] at hlength
  exact serves_nodeWithin hvalid hname _ h ⟨shape, hshape, by unfold levels pending; omega⟩

/-- The assignment to a global name comes to an end. -/
theorem runs_assignGlobal (hvalid : graph.Valid) (hname : settings.globalName ≠ "")
    (h : builder.Sound held) (hid : (graph.shape? id).isSome) (name : String) :
    Leaves (assignGlobal settings graph name id) builder held := by
  refine .step (runs_toNode hvalid hname h hid) fun value _ _ h => ?_
  have hassign {target : NodeId} {builder : Builder} (h : builder.Sound (target :: value :: held)) :
      Leaves (do let stmt ← onArena (Arena.assignStmt target value); emit stmt; return stmt)
        builder held :=
    .emitted h (fun _ => mem_of_mem_pair) (makes_assignment h) fun _ _ _ h => runs_pure ⟨.rfl, h⟩
  dsimp only
  split
  · -- The name can be written by itself.
    exact .step (runs_leafOf h _) fun _ _ _ h => hassign h
  · refine .step (runs_global hname h) fun scope _ _ h => ?_
    exact .step (runs_member h name) fun _ _ _ h => hassign h

end Gen

end Semblance
