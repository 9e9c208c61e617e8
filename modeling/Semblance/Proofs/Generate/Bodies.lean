import Semblance.Proofs.Generate.Assembly

/-!
# How functions are put together

A function is remembered while its body is empty. Its body is then filled part by part, each part by
one statement at the end, and between two statements other shapes are asked for, which leave the body
alone. Properties of the function value are written at the top level meanwhile.

## Key results

- `Filling`: how far a function has been put together
- `filling_copyParam`, `filling_writeStatic`, `filling_writeToReceiver`, `filling_return`: steps
- `completes_function`: in the end its body does all parts
-/

namespace Semblance

namespace ShapeGraph

variable {settings : Settings} {graph : ShapeGraph} {id : ShapeId} {fn : FunctionShape}

/-- The shape of each part of the body is asked for. -/
theorem mem_requests_of_part (hid : graph.shape? id = some (.function fn)) {part : BodyPart}
    (hmem : part ∈ graph.bodyParts fn) : part.shape ∈ graph.requests settings id := by
  rw [requests_function hid]
  exact List.mem_append_left _ (List.mem_map_of_mem hmem)

/-- The value of each property of the function value that is written is asked for. -/
theorem mem_requests_of_static (hid : graph.shape? id = some (.function fn))
    {binding : String × ShapeId} (hmem : binding ∈ graph.statics settings fn) :
    binding.2 ∈ graph.requests settings id := by
  rw [requests_function hid]
  exact List.mem_append_right _ (List.mem_map_of_mem hmem)

end ShapeGraph

namespace Builder

variable {settings : Settings} {graph : ShapeGraph} {own : List NodeId} {builder : Builder}
  {node body stmt target value : NodeId} {parts : List BodyPart} {part : BodyPart}

/-- A statement in the body changes nothing else. -/
theorem carries_appendStmt {arena : Arena} (harena : builder.arena.Spares [] arena)
    (body stmt : NodeId) :
    builder.Carries [body] { builder with arena := arena.appendStmt body stmt } :=
  carries_arena ((harena.mono (List.nil_subset _)).trans
    (Arena.spares_appendStmt List.mem_cons_self stmt))

/-- A statement is put behind the others. -/
theorem Performs.append (h : builder.Performs body parts) {arena : Arena}
    (harena : builder.arena.Spares [] arena) (hdoes : Does { builder with arena } stmt part) :
    Performs { builder with arena := arena.appendStmt body stmt } body (parts ++ [part]) := by
  obtain ⟨statements, hblock, hdone⟩ := h
  have hblock := harena.node?_eq hblock (Eq.refl _) (.inl List.not_mem_nil)
  refine ⟨statements.push stmt, ?_, ?_⟩
  · show (arena.appendStmt body stmt).node? body = _
    rw [Arena.appendStmt, Arena.node?_modifyNode, if_pos (Eq.refl _), hblock]
    exact Eq.refl _
  · have hlast : Carries [body] { builder with arena }
        { builder with arena := arena.appendStmt body stmt } := carries_appendStmt .rfl body stmt
    rw [Array.toList_push]
    exact List.rel_append (hdone.imp fun _ _ hdone => hdone.mono (carries_appendStmt harena _ _))
      (.cons (hdoes.mono hlast) .nil)

end Builder

namespace Gen

variable {settings : Settings} {graph : ShapeGraph} {builder builder' start : Builder}
  {visit : Visit} {id : ShapeId} {fn : FunctionShape} {own : List NodeId} {node body : NodeId}
  {parts : List BodyPart} {written : List (String × ShapeId)}

/-- A function is being put together: its body does some parts, some properties of the function
    value are written unless they are left out, and nothing else is open. -/
structure Filling (settings : Settings) (graph : ShapeGraph) (id : ShapeId) (fn : FunctionShape)
    (start : Builder) (node body : NodeId) (parts : List BodyPart)
    (written : List (String × ShapeId)) (builder : Builder) : Prop where
  body_lt : body.index < start.arena.size
  completes : start.Completes settings graph (graph.Needs settings id) [body] builder
  performs : builder.Performs body parts
  writes : ∀ binding ∈ written, binding ∈ graph.statics settings fn →
    builder.WritesStatic node binding

/-- What leaves the body alone takes nothing back. -/
theorem Filling.next (h : Filling settings graph id fn start node body parts written builder)
    (hnext : builder.Completes settings graph (graph.Needs settings id) [] builder') :
    Filling settings graph id fn start node body parts written builder' where
  body_lt := h.body_lt
  completes := h.completes.trans (hnext.mono (fun _ h => h) (List.nil_subset _))
    fun _ hmem => List.mem_singleton.1 hmem ▸ h.body_lt
  performs := h.performs.mono hnext.toCarries List.not_mem_nil
  writes binding hmem hstatic := (h.writes binding hmem hstatic).mono hnext.toCarries

/-- A further statement in the body does a further part. -/
theorem Filling.append (h : Filling settings graph id fn start node body parts written builder)
    {arena : Arena} {stmt : NodeId} {part : BodyPart} (harena : builder.arena.Spares [] arena)
    (hdoes : Builder.Does { builder with arena } stmt part) :
    Filling settings graph id fn start node body (parts ++ [part]) written
      { builder with arena := arena.appendStmt body stmt } where
  body_lt := h.body_lt
  completes := h.completes.trans (Builder.Same.completes ⟨rfl, rfl, rfl, rfl, rfl⟩
    (Builder.carries_appendStmt harena body stmt).arena fun _ hmem => hmem)
    fun _ hmem => List.mem_singleton.1 hmem ▸ h.body_lt
  performs := h.performs.append harena hdoes
  writes binding hmem hstatic :=
    (h.writes binding hmem hstatic).mono (Builder.carries_appendStmt harena body stmt)

/-- An assignment in the body does a further part. -/
theorem Filling.assignIn (h : Filling settings graph id fn start node body parts written builder)
    {target value : NodeId} {part : BodyPart}
    (hrun : Gen.assignIn body target value builder = (.ok ⟨⟩, builder'))
    (hdoes : ∀ {builder₁ : Builder} {stmt}, builder.Carries [] builder₁ →
      builder₁.arena.Assigns stmt target value → builder₁.Does stmt part) :
    Filling settings graph id fn start node body (parts ++ [part]) written builder' := by
  obtain ⟨_, rfl⟩ := onArena_eq_ok hrun
  have hmade : builder.arena.Spares [] (Arena.assignStmt target value builder.arena).2 :=
    (Arena.allocates_assignStmt target value builder.arena).spares
  exact h.append hmade (hdoes (Builder.carries_arena hmade)
    (Arena.assigns_assignStmt target value builder.arena))

section

variable (hvisit : Completing settings graph visit)
  (h : Filling settings graph id fn start node body parts written builder)
include hvisit h

/-- A parameter is copied once its placeholder is there. -/
theorem filling_copyParam {used : Nat × ShapeId} (hasked : used.2 ∈ graph.requests settings id)
    (hrun : copyParam visit id body used builder = (.ok ⟨⟩, builder')) :
    Filling settings graph id fn start node body (parts ++ [.copy used.1 used.2]) written builder' := by
  obtain ⟨target, builder₁, htarget, hrun⟩ := run_bind_eq_ok hrun
  obtain ⟨source, builder₂, hsource, hrun⟩ := run_bind_eq_ok hrun
  have h := h.next (hvisit.within hasked htarget)
  have hleaf : builder₁.Completes settings graph (graph.Needs settings id) [] builder₂ :=
    completes_leaf hsource
  refine (h.next hleaf).assignIn hrun fun hcarries hassigns => ⟨target, source, hassigns,
    hcarries.visits _ (hleaf.visits _ (hvisit.noted htarget)), ?_⟩
  have hnode : builder₂.arena.node? source =
      some (if used.1 = 0 then .this else .ident (formalName used.1)) := by
    rw [node?_of_leaf hsource]
    split <;> rfl
  exact hcarries.arena.node?_eq hnode (by split <;> rfl) (.inl List.not_mem_nil)

/-- A property of the function value is written at the top level, unless it is left out. -/
theorem filling_writeStatic (hid : graph.shape? id = some (.function fn))
    {binding : String × ShapeId} (hmem : binding ∈ fn.properties.toList)
    (hrun : writeStatic settings graph visit node binding builder = (.ok ⟨⟩, builder')) :
    Filling settings graph id fn start node body parts (written ++ [binding]) builder' := by
  -- What remains to show is that the property is written if it is to be.
  have hfurther {later : Builder}
      (h : Filling settings graph id fn start node body parts written later)
      (hlast : binding ∈ graph.statics settings fn → later.WritesStatic node binding) :
      Filling settings graph id fn start node body parts (written ++ [binding]) later :=
    { h with
      writes := fun other hother => (List.mem_append.1 hother).elim (h.writes other)
        fun hmem => List.mem_singleton.1 hmem ▸ hlast }
  unfold writeStatic at hrun
  split at hrun
  · next hleft =>
    obtain ⟨_, rfl⟩ := pure_eq_ok hrun
    exact hfurther h fun hstatic =>
      absurd (List.mem_filter.1 hstatic).2 (by simp only [hleft]; simp)
  · next hleft =>
    have hstatic : binding ∈ graph.statics settings fn :=
      List.mem_filter.2 ⟨hmem, by simp only [Bool.eq_false_iff.2 hleft]; rfl⟩
    obtain ⟨value, builder₁, hvalue, hrun⟩ := run_bind_eq_ok hrun
    obtain ⟨target, builder₂, htarget, hemit⟩ := run_bind_eq_ok hrun
    have h := h.next (hvisit.within (ShapeGraph.mem_requests_of_static hid hstatic) hvalue)
    have hmember : builder₁.Completes settings graph (graph.Needs settings id) [] builder₂ :=
      completes_allocation (Arena.allocates_member node binding.1) htarget
    have hemitted : builder₂.Completes settings graph (graph.Needs settings id) [] builder' :=
      completes_emitAssign hemit
    refine hfurther ((h.next hmember).next hemitted) fun _ => ?_
    obtain ⟨stmt, hstmt, hassigns⟩ := assigns_of_emitAssign hemit
    refine ⟨stmt, hstmt, target, value, hassigns, ?_,
      hemitted.visits _ (hmember.visits _ (hvisit.noted hvalue))⟩
    obtain ⟨rfl, rfl⟩ := onArena_eq_ok htarget
    exact (Arena.isMember_member _ _ _).mono hemitted.arena

/-- A property of an instance is written to the receiver. -/
theorem filling_writeToReceiver {binding : String × ShapeId}
    (hasked : binding.2 ∈ graph.requests settings id)
    (hrun : writeToReceiver visit id body binding builder = (.ok ⟨⟩, builder')) :
    Filling settings graph id fn start node body (parts ++ [.write binding.1 binding.2]) written
      builder' := by
  obtain ⟨value, builder₁, hvalue, hrun⟩ := run_bind_eq_ok hrun
  obtain ⟨receiver, builder₂, hreceiver, hrun⟩ := run_bind_eq_ok hrun
  obtain ⟨target, builder₃, htarget, hrun⟩ := run_bind_eq_ok hrun
  have h := h.next (hvisit.within hasked hvalue)
  have hleaf : builder₁.Completes settings graph (graph.Needs settings id) [] builder₂ :=
    completes_leaf hreceiver
  have hmember : builder₂.Completes settings graph (graph.Needs settings id) [] builder₃ :=
    completes_allocation (Arena.allocates_member receiver binding.1) htarget
  refine ((h.next hleaf).next hmember).assignIn hrun fun hcarries hassigns =>
    ⟨target, receiver, value, hassigns, ?_, ?_, ?_⟩
  · -- The target, the receiver and the value are still there when the assignment is made.
    obtain ⟨rfl, rfl⟩ := onArena_eq_ok htarget
    exact (Arena.isMember_member _ _ _).mono hcarries.arena
  · exact (hmember.arena.trans hcarries.arena).node?_eq (node?_of_leaf hreceiver) rfl
      (.inl List.not_mem_nil)
  · exact hcarries.visits _ (hmember.visits _ (hleaf.visits _ (hvisit.noted hvalue)))

/-- What was returned is asked for last. -/
theorem filling_return {value : ShapeId} (hasked : value ∈ graph.requests settings id)
    (hrun : (do
      let returned ← visit value
      onArena do
        let stmt ← Arena.ret returned
        modify fun arena => arena.appendStmt body stmt : Gen PUnit) builder = (.ok ⟨⟩, builder')) :
    Filling settings graph id fn start node body (parts ++ [.ret value]) written builder' := by
  obtain ⟨returned, builder₁, hreturned, hrun⟩ := run_bind_eq_ok hrun
  have hnoted := hvisit.noted hreturned
  have h := h.next (hvisit.within hasked hreturned)
  obtain ⟨_, rfl⟩ := onArena_eq_ok hrun
  exact h.append (Arena.spares_push (.ret (some returned)) builder₁.arena)
    ⟨returned, Arena.node?_push_self _ _, hnoted⟩

end

/-- A loop that does a part for each item. -/
theorem filling_parts {action : α → Gen PUnit} (part : α → BodyPart) {items : List α}
    (hitem : ∀ item ∈ items, ∀ {parts builder builder'},
      Filling settings graph id fn start node body parts written builder →
      action item builder = (.ok ⟨⟩, builder') →
      Filling settings graph id fn start node body (parts ++ [part item]) written builder')
    (h : Filling settings graph id fn start node body parts written builder)
    (hrun : items.forM action builder = (.ok ⟨⟩, builder')) :
    Filling settings graph id fn start node body (parts ++ items.map part) written builder' := by
  have hstart : Filling settings graph id fn start node body (parts ++ [].map part) written
      builder := by rwa [List.map_nil, List.append_nil]
  refine forM_ok (fun done later =>
    Filling settings graph id fn start node body (parts ++ done.map part) written later)
    (fun item hmem {_ _ _} h hrun => ?_) hrun hstart
  rw [List.map_append, ← List.append_assoc]
  exact hitem item hmem h hrun

/-- The rule for a function goes through the parts in order, and through the properties of the
    function value before those of instances. -/
theorem filling_fillFunction (hvisit : Completing settings graph visit)
    (hid : graph.shape? id = some (.function fn))
    (h : Filling settings graph id fn start node body [] [] builder)
    (hrun : fillFunction settings graph visit id fn node body builder = (.ok ⟨⟩, builder')) :
    Filling settings graph id fn start node body (graph.bodyParts fn) fn.properties.toList
      builder' := by
  have hasked (part : BodyPart) (hmem : part ∈ graph.bodyParts fn) :
      part.shape ∈ graph.requests settings id := ShapeGraph.mem_requests_of_part hid hmem
  -- What follows the copies, whether there are any or not.
  have hrest {builder : Builder} {copies : List BodyPart}
      (hcopies : (if fn.accessor.isNone then
        fn.usedParams.map fun used => .copy used.1 used.2 else []) = copies)
      (h : Filling settings graph id fn start node body copies [] builder)
      (hrun : (do
        fn.properties.toList.forM (writeStatic settings graph visit node)
        (instanceProperties graph fn).toList.forM (writeToReceiver visit id body)
        unless ← checked (graph.isAbsent fn.returns) do
          let value ← visit fn.returns
          onArena do
            let stmt ← Arena.ret value
            modify fun arena => arena.appendStmt body stmt : Gen PUnit) builder =
          (.ok ⟨⟩, builder')) :
      Filling settings graph id fn start node body (graph.bodyParts fn) fn.properties.toList
        builder' := by
    obtain ⟨_, builder₁, hstatics, hrun⟩ := run_bind_eq_ok hrun
    obtain ⟨_, builder₂, hwrites, hreturn⟩ := run_bind_eq_ok hrun
    have h := forM_ok
      (fun done later => Filling settings graph id fn start node body copies done later)
      (fun binding hmem {_ _ _} h hrun => filling_writeStatic hvisit h hid hmem hrun) hstatics h
    have h := filling_parts (fun binding => .write binding.1 binding.2)
      (fun _ hmem {_ _ _} h hrun => filling_writeToReceiver hvisit h
        (hasked _ (ShapeGraph.write_mem_bodyParts hmem)) hrun) h hwrites
    obtain ⟨absent, habsent, hreturn⟩ := checked_bind_eq_ok hreturn
    cases absent with
    | true =>
      obtain ⟨_, rfl⟩ := pure_eq_ok hreturn
      rwa [ShapeGraph.bodyParts, ShapeGraph.returnParts, habsent, hcopies, List.append_nil]
    | false =>
      have hlast : .ret fn.returns ∈ graph.bodyParts fn := by
        rw [ShapeGraph.bodyParts, ShapeGraph.returnParts, habsent]
        exact List.mem_append_right _ List.mem_cons_self
      have h := filling_return hvisit h (hasked _ hlast) hreturn
      rwa [ShapeGraph.bodyParts, ShapeGraph.returnParts, habsent, hcopies]
  unfold fillFunction at hrun
  split at hrun
  · next hplain =>
    obtain ⟨_, builder₁, hcopies, hrun⟩ := run_bind_eq_ok hrun
    refine hrest (if_pos hplain) ?_ hrun
    have h := filling_parts (fun used : Nat × ShapeId => .copy used.1 used.2)
      (fun _ hmem {_ _ _} h hrun => filling_copyParam hvisit h
        (hasked _ (ShapeGraph.copy_mem_bodyParts hplain hmem)) hrun) h hcopies
    rwa [List.nil_append] at h
  · next hplain => exact hrest (if_neg hplain) h hrun

/-- A function is put together. -/
theorem completes_function (hvisit : Completing settings graph visit)
    (hid : graph.shape? id = some (.function fn))
    (h : function settings graph visit id fn builder = (.ok node, builder')) :
    builder.Completes settings graph (graph.Needs settings id) own builder' := by
  obtain ⟨label, _, h⟩ := checked_bind_eq_ok h
  have hbody : onArena (Arena.push (.block #[])) builder =
    (.ok builder.next, { builder with arena := (Arena.push (.block #[]) builder.arena).2 }) := rfl
  rw [run_bind hbody] at h
  have hown : ∀ container ∈ [builder.next], builder.arena.size ≤ container.index :=
    fun container hmem => List.mem_singleton.1 hmem ▸ Nat.le_refl _
  refine completes_made .refl (Arena.spares_push _ _) hown h
    fun {builder₂} hformer hmade hrest => ?_
  obtain ⟨_, builder₃, hfill, hanswer⟩ := run_bind_eq_ok hrest
  obtain ⟨rfl, rfl⟩ := pure_eq_ok hanswer
  -- The block was there before the function, and it is still empty when its rule starts.
  have hblock := hformer (Arena.node?_push_self (.block #[]) builder.arena)
  have hfilling := filling_fillFunction hvisit hid
    ⟨Arena.lt_size_of_node? hblock, .rfl, ⟨#[], hblock, .nil⟩, fun _ hmem => nomatch hmem⟩ hfill
  exact ⟨hfilling.completes, .function hid (Nat.le_refl _)
    (hfilling.completes.arena.node?_eq hmade rfl (.inr rfl)) hfilling.performs
    fun binding hmem => hfilling.writes binding (List.mem_filter.1 hmem).1 hmem⟩

end Gen

end Semblance
