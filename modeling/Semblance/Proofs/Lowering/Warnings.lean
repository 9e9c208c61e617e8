import Semblance.Proofs.Hoist.Owners
import Semblance.Proofs.Lowering.Forest

/-!
# Warnings are the references that come too early

A statement refers to a declaration that hoisting has added if a reference which hoisting has put in
stands in its tree. These are the dependencies by which the statements are scheduled, so that a
reference comes before its declaration exactly if it is reported.

## Key results

- `Hoist.Unfolded.mem_deps_iff_refersTo`: dependencies are the references in the trees of statements
- `lower_warnings`: warnings are the references that come before their declarations
-/

namespace Semblance

variable {arena : Arena} {roots : List NodeId} {names : NameSupply}

/-- In `out` the tree of `source` has a reference to the declaration `target`, where neither the
    reference nor the declaration is part of `arena`. -/
def Arena.RefersTo (arena out : Arena) (source target : NodeId) : Prop :=
  ∃ name node ident, arena.DeclaresAnew out target name node ∧ out.Reaches [source] ident ∧
    arena.size ≤ ident.index ∧ out.node? ident = some (.ident name)

/-- The tree of a statement is part of the graph. -/
theorem Arena.reaches_of_statement {statements : Array NodeId} {i : Nat} {source id : NodeId}
    (hi : statements[i]? = some source) (hid : arena.Reaches [source] id) :
    arena.Reaches statements.toList id :=
  hid.mono fun _ hmem => List.mem_singleton.1 hmem ▸
    .root (Array.mem_toList_iff.2 (Array.mem_of_getElem? hi))

namespace Hoist.Unfolded

variable {hoist : Hoist} {done : Agenda} {id source target : NodeId} {i j owner : Nat}

/-- The statement around a node has the node in its tree. -/
theorem reaches_of_around (h : Unfolded arena roots names hoist)
    (hw : Walked arena roots done [] hoist) (haround : hoist.Around id owner) :
    ∃ root, hoist.roots[owner]? = some root ∧ hoist.arena.Reaches [root] id := by
  have hself (id : NodeId) : hoist.arena.Reaches [id] id := .root (List.mem_singleton_self id)
  induction haround with
  | hoisted hsighting =>
    obtain ⟨hmem, rfl, _⟩ := hw.again hsighting
    obtain ⟨decl, declarator, hdecl⟩ := h.declaring hmem
    refine ⟨decl, hdecl.root, ?_⟩
    have hdeclarator : hoist.arena.Reaches [decl] declarator :=
      (hself decl).child (by rw [hdecl.child?_decl, if_pos rfl])
    exact hdeclarator.child (by rw [hdecl.child?_declarator, if_pos rfl])
  | @root id position hsighting =>
    have hroot := hw.occurs_of_done (hw.first_mem hsighting)
    exact ⟨id, h.root_getElem? hroot, hself id⟩
  | slot hsighting _ ih =>
    obtain ⟨root, hroot, hparent⟩ := ih
    obtain ⟨hreached, hchild⟩ := hw.occurs_of_done (hw.first_mem hsighting)
    refine ⟨root, hroot, hparent.child (h.slot_eq hreached hchild fun hshared => ?_)⟩
    -- A shared node is hoisted, and this one is not.
    obtain ⟨promotion, hmem, rfl⟩ := h.shared_iff.1 hshared
    obtain ⟨first, hhoisted⟩ := hw.hoisted hmem
    exact nomatch hsighting.symm.trans hhoisted

/-- A node of the graph stands in the tree of the statement around it. -/
theorem around_iff (h : Unfolded arena roots names hoist) (hw : Walked arena roots done [] hoist)
    (hclosed : arena.Closed roots) (hid : arena.Reaches roots id)
    (hi : hoist.roots[i]? = some source) :
    hoist.Around id i ↔ hoist.arena.Reaches [source] id := by
  constructor
  · intro haround
    obtain ⟨root, hroot, hreaches⟩ := h.reaches_of_around hw haround
    obtain rfl := Option.some.inj (hi.symm.trans hroot)
    exact hreaches
  · intro hreaches
    -- Some statement is around the node, and the trees of two statements are disjoint.
    obtain ⟨k, hk⟩ := Array.getElem?_of_mem (hw.mem_trail.2 (hw.met hid))
    obtain ⟨owner, haround⟩ := hw.exists_around hk
    obtain ⟨root, hroot, hreaches'⟩ := h.reaches_of_around hw haround
    rw [(h.isForest hclosed).statement_unique (Array.getElem?_toList.trans hi)
      (Array.getElem?_toList.trans hroot) hreaches hreaches']
    exact haround

/-- A reference that hoisting has put in stands in a slot of a node of the graph. -/
theorem reference_of_ident (h : Unfolded arena roots names hoist) (hclosed : arena.Closed roots)
    {ident : NodeId} {name : String} (hid : hoist.arena.Reaches hoist.roots.toList ident)
    (hge : arena.size ≤ ident.index) (hnode : hoist.arena.node? ident = some (.ident name)) :
    ∃ parent slot, ∃ promotion ∈ hoist.promotions, promotion.name = name ∧
      arena.Reaches roots parent ∧ arena.child? parent slot = some promotion.node ∧
      hoist.arena.child? parent slot = some ident := by
  obtain ⟨place, hsite⟩ := h.exists_site hclosed hid
  cases hsite with
  | kept hoccurs _ => exact absurd (hclosed.lt_size hoccurs.reaches) (Nat.not_lt.2 hge)
  | reference hparent hmem hchild hident _ hnode' =>
    have hname := Node.ident.inj (Option.some.inj (hnode'.symm.trans hnode))
    exact ⟨_, _, _, hmem, hname, hparent, hchild, hident⟩
  | decl hdecl => exact nomatch hnode.symm.trans hdecl.decl_node
  | declarator hdecl => exact nomatch hnode.symm.trans hdecl.declarator_node
  | hoisted hdecl =>
    exact absurd (hclosed.lt_size (h.node_reached hdecl.mem)) (Nat.not_lt.2 hge)

/-- A statement made of new nodes is the declaration of a hoisted node. -/
theorem declaring_of_declaresAnew (h : Unfolded arena roots names hoist)
    (hclosed : arena.Closed roots) {name : String} {node : NodeId}
    (hj : hoist.roots[j]? = some target) (hdecl : arena.DeclaresAnew hoist.arena target name node) :
    ∃ promotion ∈ hoist.promotions, promotion.root = j ∧ promotion.name = name := by
  obtain ⟨declarator, hge, _, hnode, hnode'⟩ := hdecl
  cases h.site_of_root hj with
  | kept hoccurs _ => exact absurd (hclosed.lt_size hoccurs.reaches) (Nat.not_lt.2 hge)
  | @decl promotion _ declarator' hdecl' =>
    have hsame := Option.some.inj (hnode.symm.trans hdecl'.decl_node)
    obtain rfl : declarator = declarator' := by simpa using hsame
    have hname := Option.some.inj (hnode'.symm.trans hdecl'.declarator_node)
    exact ⟨promotion, hdecl'.mem, rfl, (Node.declarator.inj hname).1.symm⟩

/-- Dependencies are the references in the trees of statements. -/
theorem mem_deps_iff_refersTo (h : Unfolded arena roots names hoist)
    (hw : Walked arena roots done [] hoist) (hclosed : arena.Closed roots)
    (hi : hoist.roots[i]? = some source) (hj : hoist.roots[j]? = some target) :
    j ∈ Schedule.edges hoist.deps i ↔ arena.RefersTo hoist.arena source target := by
  rw [hw.mem_deps_iff h.toRewrites]
  constructor
  · -- A reference that was noted stands below its holder, and that in the tree of the statement.
    rintro ⟨holder, hreference, haround⟩
    obtain ⟨hholder, slot, promotion, hmem, rfl, _, ident, hident, hge, hnode⟩ :=
      (h.references_iff holder j).1 hreference
    obtain ⟨k, hk⟩ := Array.getElem?_of_mem hmem
    obtain ⟨_, decl, hroot, hdecl⟩ := h.declared hk
    obtain rfl := Option.some.inj (hj.symm.trans hroot)
    have hreaches := (h.around_iff hw hclosed hholder hi).1 haround
    exact ⟨promotion.name, promotion.node, ident, hdecl, hreaches.child hident, hge, hnode⟩
  · -- The name tells which hoisted node a reference is for.
    rintro ⟨name, node, ident, hdecl, hreaches, hge, hnode⟩
    obtain ⟨promotion, hmem, hroot, hname⟩ := h.declaring_of_declaresAnew hclosed hj hdecl
    have hid := Arena.reaches_of_statement hi hreaches
    obtain ⟨parent, slot, promotion', hmem', hname', hparent, hchild, hident⟩ :=
      h.reference_of_ident hclosed hid hge hnode
    obtain rfl := h.name_inj hmem hmem' (hname.trans hname'.symm)
    refine ⟨parent, (h.references_iff parent j).2 ⟨hparent, slot, promotion, hmem, hroot, hchild,
      ident, hident, hge, hname.symm ▸ hnode⟩, ?_⟩
    -- The reference is not a statement, so its parent is part of the same tree.
    rw [h.around_iff hw hclosed hparent hi]
    have hforest := h.isForest hclosed
    cases hreaches with
    | root hself =>
      obtain rfl := List.mem_singleton.1 hself
      exact absurd hident (hforest.not_child_of_root
        (Array.mem_toList_iff.2 (Array.mem_of_getElem? hi)) (h.reaches hparent))
    | child hparent' hident' =>
      obtain ⟨rfl, _⟩ := hforest.slot_unique (h.reaches hparent) hident
        (Arena.reaches_of_statement hi hparent') hident'
      exact hparent'

end Hoist.Unfolded

/-! ### Warnings -/

namespace Schedule

private theorem warning_eq_some {roots : Array NodeId} {i j : Nat} {warning : CycleWarning} :
    (do let source ← roots[i]?
        let target ← roots[j]?
        return ⟨source, target, arena.declaredName source, arena.declaredName target⟩) =
        some warning ↔
      roots[i]? = some warning.source ∧ roots[j]? = some warning.target ∧
        warning.sourceName = arena.declaredName warning.source ∧
        warning.targetName = arena.declaredName warning.target := by
  simp only [bind, Option.bind_eq_some_iff, pure, Option.some.injEq]
  constructor
  · rintro ⟨source, hsource, target, htarget, rfl⟩
    exact ⟨hsource, htarget, rfl, rfl⟩
  · rintro ⟨hsource, htarget, hname, hname'⟩
    exact ⟨_, hsource, _, htarget, by rw [← hname, ← hname']⟩

/-- A warning is for a broken dependency, with the names that its statements declare. -/
theorem mem_warnings_iff {schedule : Schedule} {roots : Array NodeId} {warning : CycleWarning} :
    warning ∈ schedule.warnings arena roots ↔ ∃ i j, (i, j) ∈ schedule.broken.toList ∧
      roots[i]? = some warning.source ∧ roots[j]? = some warning.target ∧
      warning.sourceName = arena.declaredName warning.source ∧
      warning.targetName = arena.declaredName warning.target := by
  simp only [warnings, List.mem_filterMap, Prod.exists, warning_eq_some]

/-- Warnings are the broken dependencies between statements. -/
theorem exists_warning_iff {schedule : Schedule} {roots : Array NodeId} {source target : NodeId} :
    (∃ warning ∈ schedule.warnings arena roots, warning.source = source ∧ warning.target = target) ↔
      ∃ i j, (i, j) ∈ schedule.broken.toList ∧ roots[i]? = some source ∧
        roots[j]? = some target := by
  simp only [mem_warnings_iff]
  constructor
  · rintro ⟨warning, ⟨i, j, hbroken, hsource, htarget, _⟩, rfl, rfl⟩
    exact ⟨i, j, hbroken, hsource, htarget⟩
  · rintro ⟨i, j, hbroken, hsource, htarget⟩
    exact ⟨⟨source, target, arena.declaredName source, arena.declaredName target⟩,
      ⟨i, j, hbroken, hsource, htarget, rfl, rfl⟩, rfl, rfl⟩

/-- Different dependencies have different warnings, where no statement stands in two positions. -/
theorem warnings_nodup {schedule : Schedule} {roots : Array NodeId}
    (hbroken : schedule.broken.toList.Nodup) (hroots : roots.toList.Nodup) :
    ((schedule.warnings arena roots).map fun warning =>
      (warning.source, warning.target)).Nodup := by
  have hinj {i j : Nat} {root : NodeId} (hi : roots[i]? = some root) (hj : roots[j]? = some root) :
      i = j := by
    rw [← Array.getElem?_toList] at hi hj
    exact (List.getElem?_inj (List.getElem?_eq_some_iff.1 hi).1 hroots).1 (hi.trans hj.symm)
  rw [warnings, List.Nodup, List.pairwise_map, List.pairwise_filterMap]
  refine hbroken.imp fun {broken broken'} hne warning hwarning warning' hwarning' heq => hne ?_
  obtain ⟨i, j⟩ := broken
  obtain ⟨i', j'⟩ := broken'
  obtain ⟨hi, hj, _⟩ := warning_eq_some.1 hwarning
  obtain ⟨hi', hj', _⟩ := warning_eq_some.1 hwarning'
  obtain ⟨hsource, htarget⟩ := Prod.mk.inj heq
  rw [hinj hi (hsource ▸ hi'), hinj hj (htarget ▸ hj')]

end Schedule

/-- Warnings are the references that come before their declarations. -/
theorem lower_warnings {lowering : Lowering} (hclosed : arena.Closed roots)
    (h : arena.lower roots names = .ok lowering) :
    (∀ source ∈ lowering.program.body, ∀ target ∈ lowering.program.body, source ≠ target →
      arena.RefersTo lowering.program.arena source target →
      ([source, target].Sublist lowering.program.body ↔
        ∃ warning ∈ lowering.warnings, warning.source = source ∧ warning.target = target)) ∧
    (∀ warning ∈ lowering.warnings, warning.source ∈ lowering.program.body ∧
      warning.target ∈ lowering.program.body ∧ warning.source ≠ warning.target ∧
      arena.RefersTo lowering.program.arena warning.source warning.target) ∧
    (lowering.warnings.map fun warning => (warning.source, warning.target)).Nodup := by
  obtain ⟨hoist, done, hunfolded, hwalked, rfl⟩ := lower_eq_ok hclosed h
  have hperm := Schedule.order_perm hoist.deps hoist.roots.size
  have hnodup := (hunfolded.isForest hclosed).roots_nodup
  have hmem {i : Nat} {root : NodeId} (hi : hoist.roots[i]? = some root) :
      root ∈ (Program.ofOrder hoist.arena hoist.roots
        (Schedule.ofDeps hoist.roots.size hoist.deps).order.toList).body :=
    (Program.body_perm hperm).mem_iff.2 (Array.mem_toList_iff.2 (Array.mem_of_getElem? hi))
  have hposition {i j : Nat} {source target : NodeId} (hi : hoist.roots[i]? = some source)
      (hj : hoist.roots[j]? = some target) : source = target ↔ i = j := by
    constructor
    · rintro rfl
      rw [← Array.getElem?_toList] at hi hj
      exact (List.getElem?_inj (List.getElem?_eq_some_iff.1 hi).1 hnodup).1 (hi.trans hj.symm)
    · rintro rfl
      exact Option.some.inj (hi.symm.trans hj)
  refine ⟨?_, ?_, Schedule.warnings_nodup (Schedule.broken_nodup hwalked.deps_nodup) hnodup⟩
  · -- Positions stand for statements, so broken dependencies are compared by position.
    intro source _ target _ hne hrefers
    refine (Program.sublist_body_iff hperm).trans (.trans ?_ Schedule.exists_warning_iff.symm)
    refine exists_congr fun i => exists_congr fun j => ?_
    rw [Schedule.mem_broken_iff]
    constructor
    · rintro ⟨hi, hj, hsub⟩
      refine ⟨⟨fun heq => hne ((hposition hi hj).2 heq.symm), ?_, hsub⟩, hi, hj⟩
      exact (hunfolded.mem_deps_iff_refersTo hwalked hclosed hi hj).2 hrefers
    · rintro ⟨⟨_, _, hsub⟩, hi, hj⟩
      exact ⟨hi, hj, hsub⟩
  · intro warning hwarning
    obtain ⟨i, j, hbroken, hi, hj⟩ := Schedule.exists_warning_iff.1 ⟨warning, hwarning, rfl, rfl⟩
    obtain ⟨hne, hedge, _⟩ := Schedule.mem_broken_iff.1 hbroken
    refine ⟨hmem hi, hmem hj, fun heq => hne ((hposition hi hj).1 heq).symm, ?_⟩
    exact (hunfolded.mem_deps_iff_refersTo hwalked hclosed hi hj).1 hedge

/-- Two values that hold each other, each of them a statement too. -/
def mutualReference : Arena where
  nodes := #[.object #[⟨1⟩], .entry (.bare "peer") ⟨2⟩ .value, .object #[⟨3⟩],
    .entry (.bare "peer") ⟨0⟩ .value, .exprStmt ⟨0⟩, .exprStmt ⟨2⟩]
  hints := #[some "left", none, some "right", none, none, none]

/-- No id of the cycle is dangling. -/
theorem mutualReference_closed : mutualReference.Closed [⟨4⟩, ⟨5⟩] :=
  Arena.closed_of_children (by decide) (by decide)

/-- The values are declared by the new statements `⟨7⟩` and `⟨11⟩`, each of which refers to the other
    one. The given statements refer to one value each. -/
theorem mutualReference_run :
    ∃ lowering, mutualReference.lower [⟨4⟩, ⟨5⟩] ∅ = .ok lowering ∧
      lowering.program.body = [⟨11⟩, ⟨7⟩, ⟨4⟩, ⟨5⟩] ∧
      (mutualReference.DeclaresAnew lowering.program.arena ⟨7⟩ "left" ⟨0⟩ ∧
        mutualReference.DeclaresAnew lowering.program.arena ⟨11⟩ "right" ⟨2⟩) ∧
      (mutualReference.RefersTo lowering.program.arena ⟨4⟩ ⟨7⟩ ∧
        mutualReference.RefersTo lowering.program.arena ⟨5⟩ ⟨11⟩) ∧
      mutualReference.RefersTo lowering.program.arena ⟨7⟩ ⟨11⟩ ∧
      mutualReference.RefersTo lowering.program.arena ⟨11⟩ ⟨7⟩ := by
  have hrun : (mutualReference.lower [⟨4⟩, ⟨5⟩] ∅).toOption.any (fun lowering =>
      let arena := lowering.program.arena
      decide (lowering.program.body = [⟨11⟩, ⟨7⟩, ⟨4⟩, ⟨5⟩] ∧
        (arena.node? ⟨7⟩ = some (.varDecl #[⟨6⟩]) ∧
          arena.node? ⟨6⟩ = some (.declarator "left" (some ⟨0⟩))) ∧
        (arena.node? ⟨11⟩ = some (.varDecl #[⟨10⟩]) ∧
          arena.node? ⟨10⟩ = some (.declarator "right" (some ⟨2⟩))) ∧
        -- The references in the statements, and those in the declarations.
        (arena.child? ⟨4⟩ 0 = some ⟨8⟩ ∧ arena.node? ⟨8⟩ = some (.ident "left")) ∧
        (arena.child? ⟨5⟩ 0 = some ⟨13⟩ ∧ arena.node? ⟨13⟩ = some (.ident "right")) ∧
        ([0, 0, 0, 0].foldlM arena.child? ⟨7⟩ = some ⟨12⟩ ∧
          arena.node? ⟨12⟩ = some (.ident "right")) ∧
        [0, 0, 0, 0].foldlM arena.child? ⟨11⟩ = some ⟨9⟩ ∧
          arena.node? ⟨9⟩ = some (.ident "left"))) = true := by
    decide +kernel
  obtain ⟨lowering, hok, hrun⟩ := exists_of_any hrun
  obtain ⟨hbody, ⟨hleft, hleft'⟩, ⟨hright, hright'⟩, ⟨hslot, hident⟩, ⟨hslot', hident'⟩,
    ⟨hslots, hident₁⟩, hslots', hident₂⟩ := of_decide_eq_true hrun
  have hself (id : NodeId) : lowering.program.arena.Reaches [id] id :=
    .root (List.mem_singleton_self id)
  have hdecl : mutualReference.DeclaresAnew lowering.program.arena ⟨7⟩ "left" ⟨0⟩ :=
    ⟨⟨6⟩, by decide, by decide, hleft, hleft'⟩
  have hdecl' : mutualReference.DeclaresAnew lowering.program.arena ⟨11⟩ "right" ⟨2⟩ :=
    ⟨⟨10⟩, by decide, by decide, hright, hright'⟩
  refine ⟨lowering, hok, hbody, ⟨hdecl, hdecl'⟩, ⟨?_, ?_⟩, ?_, ?_⟩
  · exact ⟨"left", ⟨0⟩, ⟨8⟩, hdecl, (hself _).child hslot, by decide, hident⟩
  · exact ⟨"right", ⟨2⟩, ⟨13⟩, hdecl', (hself _).child hslot', by decide, hident'⟩
  · exact ⟨"right", ⟨2⟩, ⟨12⟩, hdecl', (hself _).descend hslots, by decide, hident₁⟩
  · exact ⟨"left", ⟨0⟩, ⟨9⟩, hdecl, (hself _).descend hslots', by decide, hident₂⟩

/-- Of the declarations of two values that hold each other, the one that comes first is blamed for
    referring to the other one, and this is the only warning for them. -/
theorem lower_warnings_mutualReference :
    mutualReference.Closed [⟨4⟩, ⟨5⟩] ∧
      ∃ lowering, mutualReference.lower [⟨4⟩, ⟨5⟩] ∅ = .ok lowering ∧
        (∃ warning ∈ lowering.warnings, warning.source = ⟨11⟩ ∧ warning.target = ⟨7⟩) ∧
        (¬ ∃ warning ∈ lowering.warnings, warning.source = ⟨7⟩ ∧ warning.target = ⟨11⟩) ∧
        (∀ warning ∈ lowering.warnings, warning.source ≠ warning.target ∧
          mutualReference.RefersTo lowering.program.arena warning.source warning.target) ∧
        (lowering.warnings.map fun warning => (warning.source, warning.target)).Nodup := by
  obtain ⟨lowering, hlower, hbody, _, _, hbackward, hforward⟩ := mutualReference_run
  obtain ⟨hreported, hwarnings, hnodup⟩ := lower_warnings mutualReference_closed hlower
  have hmem : ⟨7⟩ ∈ lowering.program.body := by simp [hbody]
  have hmem' : ⟨11⟩ ∈ lowering.program.body := by simp [hbody]
  refine ⟨mutualReference_closed, lowering, hlower, ?_, ?_,
    fun warning hmem => (hwarnings warning hmem).2.2, hnodup⟩
  · refine (hreported ⟨11⟩ hmem' ⟨7⟩ hmem (by decide) hforward).1 ?_
    rw [hbody]
    decide
  · refine mt (hreported ⟨7⟩ hmem ⟨11⟩ hmem' (by decide) hbackward).2 ?_
    rw [hbody]
    decide

end Semblance
