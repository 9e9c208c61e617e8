import Semblance.Proofs.Shape.Contents

/-!
# Unions

Unions come about in three ways: they are asked for, a slot is widened, and what a function returns
grows in place. Each of them takes over the members of a union instead of the union, and that goes
one level deep only. It is enough because no union has a union among its members.

What a function returns grows with the returns that are observed, and with nothing else. A return of
the undefined value itself is dropped; the undefined value comes in as a member of a union that is
returned.

## Key results

- `union_members`: the members of a union are distinct, and none of them is a union
- `Observes.returned`: what an observation adds to the returns of a function
- `mem_returned_iff`: a member of what a function returns comes from an observed return
- `undefined_mem_returned_iff`: when the undefined value is such a member
-/

namespace Semblance

namespace ShapeGraph

variable {graph graph' : ShapeGraph} {id function value member : ShapeId}

/-! ### Members -/

/-- The members of a union are distinct, and none of them is a union. -/
theorem union_members (h : graph.Recorded) {members : List ShapeId}
    (hid : graph.shape? id = some (.union members)) :
    members.Nodup ∧ ∀ member ∈ members, ∃ shape, graph.shape? member = some shape ∧
      shape.isUnion = false :=
  ⟨h.distinct.nodup hid, (h.valid.fits hid).member⟩

/-- Two functions. What each of them returns was seen as a return of the second one, and so was a
    union of both with the first function. -/
def returnsUnions : ShapeGraph :=
  ((((empty.function none).2.function none).2.modify ⟨9⟩ (Shape.setMembers [primitive .number])).alloc
    (.union [primitive .number, ⟨7⟩])).2.modify ⟨12⟩ (Shape.setMembers [primitive .number, ⟨7⟩])

/-- The functions are what their operations record. -/
theorem returnsUnions_recorded : returnsUnions.Recorded := by
  have hnumber : ((empty.function none).2.function none).2.observeReturn ⟨7⟩ (primitive .number) =
    .ok (true, _) := rfl
  have hunion : (((empty.function none).2.function none).2.modify ⟨9⟩
    (Shape.setMembers [primitive .number])).union [⟨9⟩, ⟨12⟩, ⟨7⟩] = .ok (⟨13⟩, _) := rfl
  have hjoined : ((((empty.function none).2.function none).2.modify ⟨9⟩
    (Shape.setMembers [primitive .number])).alloc (.union [primitive .number, ⟨7⟩])).2.observeReturn
      ⟨10⟩ ⟨13⟩ = .ok (true, returnsUnions) := rfl
  -- Once the function has returned the union, its own returns and those of the other add nothing.
  have hother : returnsUnions.observeReturn ⟨10⟩ ⟨9⟩ = .ok (true, returnsUnions) := rfl
  have hown : returnsUnions.observeReturn ⟨10⟩ ⟨12⟩ = .ok (true, returnsUnions) := rfl
  have hfunctions : ((empty.function none).2.function none).2.Recorded :=
    .function none (.function none .empty)
  exact .observeReturn (.observeReturn (.observeReturn (.union (.observeReturn hfunctions hnumber)
    hunion) hjoined) hother) hown

/-- The second function returns numbers and the first function. -/
theorem union_members_returnsUnions :
    returnsUnions.Recorded ∧ returnsUnions.shape? ⟨12⟩ = some (.union [primitive .number, ⟨7⟩]) ∧
      [primitive .number, ⟨7⟩].Nodup ∧
      ∃ shape, returnsUnions.shape? ⟨7⟩ = some shape ∧ shape.isUnion = false := by
  have hunion : returnsUnions.shape? ⟨12⟩ = some (.union [primitive .number, ⟨7⟩]) := rfl
  obtain ⟨hnodup, hmembers⟩ := union_members returnsUnions_recorded hunion
  exact ⟨returnsUnions_recorded, hunion, hnodup, hmembers ⟨7⟩ (by simp)⟩

/-! ### What a function returns -/

/-- An observation leaves the returns of a function as they are, unless it is of a return of this
    function. -/
theorem Observes.returned (hobserves : graph.Observes graph') (h : graph.Registered)
    (function : ShapeId) : graph'.returned function = graph.returned function ∨
      ∃ value ids, graph.observeReturn function value = .ok (true, graph') ∧
        graph.flatten value = .ok ids ∧
        graph'.returned function = ids.foldl addMember (graph.returned function) := by
  cases hobserves with
  | object site => exact .inl ((sameContents_object h site).returned function)
  | array site => exact .inl ((sameContents_array h site).returned function)
  | function site => exact .inl ((sameContents_function h site).returned function)
  | builtin fullName constructible =>
    exact .inl ((sameContents_builtin h fullName constructible).returned function)
  | instanceOf hinstance => exact .inl ((sameContents_instanceOf h hinstance).returned function)
  | parameter _ => exact .inl ((sameContents_parameter h _).returned function)
  | union hunion => exact .inl ((sameContents_union h hunion).returned function)
  | addProperty _ hadd => exact .inl (returned_addProperty h hadd function)
  | addAccessor hadd => exact .inl ((sameContents_addAccessor hadd).returned function)
  | addInstanceProperty _ hadd =>
    obtain ⟨shape, _, hadd⟩ := bind_eq_ok.1 hadd
    split at hadd
    · exact .inl (returned_addProperty h hadd function)
    · cases hadd
      exact .inl rfl
  | @observeReturn _ other value added hreturn =>
    cases added with
    | false => exact .inl (observeReturn_refused hreturn ▸ rfl)
    | true =>
      -- The one operation that adds to what a function returns, and then only to the function it
      -- names.
      obtain ⟨_, _, _, ids, _, _, hids, _⟩ := observeReturn_eq_ok h hreturn
      have hreturned := returned_observeReturn h hreturn hids function
      split at hreturned
      · next heq =>
        subst heq
        exact .inr ⟨value, ids, hreturn, hids, hreturned⟩
      · exact .inl hreturned
  | useParam huse => exact .inl ((sameContents_useParam h huse).returned function)

/-! ### Sequences of observations -/

/-- A return of the function was observed that contributed the shape. -/
def ReturnSeen (graph : ShapeGraph) (function member : ShapeId) : Prop :=
  ∃ (earlier later : ShapeGraph) (value : ShapeId) (ids : List ShapeId), earlier.Recorded ∧
    earlier.observeReturn function value = .ok (true, later) ∧
    earlier.flatten value = .ok ids ∧ member ∈ ids ∧ Relation.ReflTransGen Observes later graph

/-- A member of what a function returns comes from an observed return. -/
theorem mem_returned_iff (h : graph.Recorded) :
    member ∈ graph.returned function ↔ graph.ReturnSeen function member := by
  constructor
  · have hobserved := recorded_iff.1 h
    clear h
    intro hmem
    induction hobserved with
    | refl =>
      -- There are no functions yet.
      rw [ShapeGraph.returned] at hmem
      cases hfn : empty.shape? function with
      | none => simp [hfn] at hmem
      | some shape => obtain ⟨_, rfl⟩ | rfl := empty_cases hfn <;> simp [hfn, Shape.returns?] at hmem
    | @tail graph graph' hformer hobserves ih =>
      have hrecorded := recorded_iff.2 hformer
      have hkept (hmem : member ∈ graph.returned function) : graph'.ReturnSeen function member := by
        obtain ⟨earlier, later, value, ids, hearlier, hreturn, hids, hmem, hmore⟩ := ih hmem
        exact ⟨earlier, later, value, ids, hearlier, hreturn, hids, hmem, hmore.tail hobserves⟩
      obtain heq | ⟨value, ids, hreturn, hids, heq⟩ :=
        hobserves.returned hrecorded.registered function
      · exact hkept (heq ▸ hmem)
      · rw [heq, mem_foldl_addMember] at hmem
        rcases hmem with hmem | hmem
        · exact hkept hmem
        · exact ⟨graph, graph', value, ids, hrecorded, hreturn, hids, hmem, .refl⟩
  · rintro ⟨earlier, later, value, ids, hearlier, hreturn, hids, hmem, hmore⟩
    have hlater := hearlier.observeReturn hreturn
    have hseen : member ∈ later.returned function := by
      rw [returned_observeReturn hearlier.registered hreturn hids, if_pos rfl, mem_foldl_addMember]
      exact .inr hmem
    -- What is observed later takes nothing back.
    induction hmore with
    | refl => exact hseen
    | tail hmore hobserves ih =>
      have hrecorded := recorded_iff.2 ((recorded_iff.1 hlater).trans hmore)
      obtain heq | ⟨_, _, _, _, heq⟩ := hobserves.returned hrecorded.registered function
      · rw [heq]
        exact ih hrecorded
      · rw [heq, mem_foldl_addMember]
        exact .inl (ih hrecorded)

/-- A union with these members was observed as a return of the function. -/
def UnionSeen (graph : ShapeGraph) (function : ShapeId) (members : List ShapeId) : Prop :=
  ∃ (earlier later : ShapeGraph) (union : ShapeId), earlier.Recorded ∧
    earlier.shape? union = some (.union members) ∧
    earlier.observeReturn function union = .ok (true, later) ∧
    Relation.ReflTransGen Observes later graph

/-- The undefined value is a member of what a function returns if a union with this member was
    returned, and only then. -/
theorem undefined_mem_returned_iff (h : graph.Recorded) :
    primitive .undefined ∈ graph.returned function ↔
      ∃ members, graph.UnionSeen function members ∧ primitive .undefined ∈ members := by
  rw [mem_returned_iff h]
  constructor
  · rintro ⟨earlier, later, value, ids, hearlier, hreturn, hids, hmem, hmore⟩
    obtain ⟨shape, hshape, rfl⟩ := flatten_eq_ok.1 hids
    cases shape with
    | union members =>
      exact ⟨members, ⟨earlier, later, value, hearlier, hshape, hreturn, hmore⟩, hmem⟩
    | _ =>
      -- The undefined value itself is dropped.
      exact absurd (List.mem_singleton.1 hmem).symm
        (observeReturn_eq_ok hearlier.registered hreturn).1
  · rintro ⟨members, ⟨earlier, later, union, hearlier, hunion, hreturn, hmore⟩, hmem⟩
    exact ⟨earlier, later, union, members, hearlier, hreturn,
      flatten_eq_ok.2 ⟨_, hunion, rfl⟩, hmem, hmore⟩

end ShapeGraph

end Semblance
