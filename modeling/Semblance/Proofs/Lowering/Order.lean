import Semblance.Proofs.Hoist.Dependencies
import Semblance.Proofs.Lowering.Names
import Semblance.Proofs.Lowering.Warnings

/-!
# Lowering keeps the given statements in order

No statement depends on a given one, and the given statements come first among the statements that
are scheduled. So they keep their order, and each of them comes after all that it needs, whatever
cycles there are among the declarations. A declaration holds a node of the graph, which belongs to
some given statement or to a declaration that such a statement needs.

## Key results

- `lower_dependsOn_iff`: a statement depends on the declarations that its tree refers to
- `lower_sublist_iff`: which statements come after a given one
- `lower_order`: the order of the given statements and of the declarations before them
-/

namespace Semblance

variable {arena : Arena} {roots : List NodeId} {names : NameSupply} {lowering : Lowering}

/-- A statement depends on another one, as lowering has found. -/
def Lowering.DependsOn (lowering : Lowering) (source target : NodeId) : Prop :=
  ∃ i j, lowering.hoisted.roots[i]? = some source ∧ lowering.hoisted.roots[j]? = some target ∧
    j ∈ Schedule.edges lowering.hoisted.deps i

/-- Dependencies between statements are those between their positions. -/
theorem transGen_dependsOn_iff {hoisted : Hoisted} {schedule : Schedule}
    (hnodup : ∀ {i j : Nat} {root : NodeId}, hoisted.roots[i]? = some root →
      hoisted.roots[j]? = some root → i = j) {source target : NodeId} :
    Relation.TransGen (Lowering.mk hoisted schedule).DependsOn source target ↔
      ∃ i j, hoisted.roots[i]? = some source ∧ hoisted.roots[j]? = some target ∧
        Schedule.Needs hoisted.deps hoisted.roots.size i j := by
  have hlt {i : Nat} {root : NodeId} (hi : hoisted.roots[i]? = some root) :
      i < hoisted.roots.size := (Array.getElem?_eq_some_iff.1 hi).1
  constructor
  · intro hneeds
    induction hneeds with
    | single hdepends =>
      obtain ⟨i, j, hi, hj, hedge⟩ := hdepends
      exact ⟨i, j, hi, hj, .single ⟨hlt hj, hedge⟩⟩
    | tail _ hdepends ih =>
      -- The statement in between has one position.
      obtain ⟨i, k, hi, hk, hneeds⟩ := ih
      obtain ⟨k', j, hk', hj, hedge⟩ := hdepends
      obtain rfl := hnodup hk hk'
      exact ⟨i, j, hi, hj, .tail hneeds ⟨hlt hj, hedge⟩⟩
  · rintro ⟨i, j, hi, hj, hneeds⟩
    induction hneeds generalizing target with
    | single hdepends => exact .single ⟨i, _, hi, hj, hdepends.2⟩
    | tail hneeds hdepends ih =>
      obtain ⟨_, _, hk, _⟩ := Relation.TransGen.tail'_iff.1 hneeds
      have hk := Array.getElem?_eq_getElem hk
      exact .tail (ih hk) ⟨_, _, hk, hj, hdepends.2⟩

namespace Hoist.Unfolded

variable {hoist : Hoist} {done : Agenda} (h : Unfolded arena roots names hoist)
  (hclosed : arena.Closed roots)
include h hclosed

/-- The given statements are those in the first positions. -/
theorem mem_roots_iff {position : Nat} {root : NodeId}
    (hposition : hoist.roots[position]? = some root) : root ∈ roots ↔ position < roots.length := by
  constructor
  · intro hmem
    obtain ⟨i, hi⟩ := List.getElem?_of_mem hmem
    rw [h.position_unique hclosed hposition (h.root_getElem? hi)]
    exact (List.getElem?_eq_some_iff.1 hi).1
  · intro hlt
    rw [h.roots_getElem? hlt] at hposition
    exact List.mem_of_getElem? hposition

/-- The given statements keep their order. -/
theorem filter_body (hw : Walked arena roots done [] hoist) :
    (Program.ofOrder hoist.arena hoist.roots
      (Schedule.ofDeps hoist.roots.size hoist.deps).order.toList).body.filter (· ∈ roots) =
      roots := by
  have hperm := Schedule.order_perm hoist.deps hoist.roots.size
  have hfirst := Schedule.filter_order (h.roots_size ▸ Nat.le_add_right ..)
    fun root hlt _ => h.not_depends_root hw hlt
  -- The positions that hold a given statement are the first ones.
  have hsame (position : Nat) : (hoist.roots[position]?).filter (· ∈ roots) =
      if decide (position < roots.length) then roots.toArray[position]? else none := by
    split
    · next hlt =>
      have hlt := of_decide_eq_true hlt
      rw [h.roots_getElem? hlt, List.getElem?_toArray, List.getElem?_eq_getElem hlt,
        Option.filter_some, if_pos]
      exact decide_eq_true (List.getElem_mem hlt)
    · next hge =>
      refine Option.filter_eq_none_iff.2 fun root hroot hmem => hge (decide_eq_true ?_)
      exact (h.mem_roots_iff hclosed hroot).1 (of_decide_eq_true hmem)
  rw [Program.body_of_perm hperm, List.filter_filterMap, funext hsame, ← List.filterMap_filter,
    hfirst]
  exact Program.filterMap_range roots.toArray

/-- A given statement comes before those in later positions that neither it nor an earlier one
    needs. -/
theorem root_sublist_iff (hw : Walked arena roots done [] hoist) {position other : Nat}
    {root stmt : NodeId} (hlt : position < roots.length)
    (hroot : hoist.roots[position]? = some root) (hstmt : hoist.roots[other]? = some stmt) :
    [root, stmt].Sublist (Program.ofOrder hoist.arena hoist.roots
      (Schedule.ofDeps hoist.roots.size hoist.deps).order.toList).body ↔
      position < other ∧ ∀ earlier ≤ position, ¬ hoist.Needs earlier other := by
  rw [← Schedule.root_sublist_iff (Array.getElem?_eq_some_iff.1 hroot).1
    (Array.getElem?_eq_some_iff.1 hstmt).1 fun _ => h.not_depends_root hw hlt]
  refine (Program.sublist_body_iff (Schedule.order_perm hoist.deps hoist.roots.size)).trans ?_
  constructor
  · rintro ⟨i, j, hi, hj, hsub⟩
    rwa [h.position_unique hclosed hi hroot, h.position_unique hclosed hj hstmt] at hsub
  · exact fun hsub => ⟨_, _, hroot, hstmt, hsub⟩

omit hclosed in
/-- The given statements up to one of them are those in the positions up to its own. -/
theorem mem_upTo_iff {before after : List NodeId} {root early : NodeId}
    (hroots : roots = before ++ root :: after) :
    early ∈ before ++ [root] ↔ ∃ i ≤ before.length, hoist.roots[i]? = some early := by
  -- Up to the statement the positions are those of the given list.
  have hearly {i : Nat} (hle : i ≤ before.length) :
      hoist.roots[i]? = (before ++ [root])[i]? := by
    have hlt : i < (before ++ [root]).length := by simpa using Nat.lt_succ_of_le hle
    rw [h.roots_getElem? (by simp [hroots]; omega), hroots, List.append_cons,
      List.getElem?_append_left hlt]
  constructor
  · intro hmem
    obtain ⟨i, hi⟩ := List.getElem?_of_mem hmem
    have hle : i ≤ before.length := by
      have hlt := (List.getElem?_eq_some_iff.1 hi).1
      rw [List.length_append, List.length_singleton] at hlt
      exact Nat.le_of_lt_succ hlt
    exact ⟨i, hle, (hearly hle).trans hi⟩
  · rintro ⟨i, hle, hi⟩
    exact List.mem_of_getElem? ((hearly hle).symm.trans hi)

end Hoist.Unfolded

/-- A statement depends on the declarations that its tree refers to. -/
theorem lower_dependsOn_iff (hclosed : arena.Closed roots)
    (h : arena.lower roots names = .ok lowering) {source target : NodeId} :
    lowering.DependsOn source target ↔ source ∈ lowering.program.body ∧
      target ∈ lowering.program.body ∧
      arena.RefersTo lowering.program.arena source target := by
  obtain ⟨hoist, done, hunfolded, hwalked, rfl⟩ := lower_eq_ok hclosed h
  constructor
  · rintro ⟨i, j, hi, hj, hedge⟩
    exact ⟨(mem_program_body ..).2 ⟨i, hi⟩, (mem_program_body ..).2 ⟨j, hj⟩,
      (hunfolded.mem_deps_iff_refersTo hwalked hclosed hi hj).1 hedge⟩
  · rintro ⟨hsource, htarget, hrefers⟩
    obtain ⟨i, hi⟩ := (mem_program_body ..).1 hsource
    obtain ⟨j, hj⟩ := (mem_program_body ..).1 htarget
    exact ⟨i, j, hi, hj, (hunfolded.mem_deps_iff_refersTo hwalked hclosed hi hj).2 hrefers⟩

/-- A given statement comes before those that are neither given nor needed earlier. -/
theorem lower_sublist_iff (hclosed : arena.Closed roots) (h : arena.lower roots names = .ok lowering)
    {before after : List NodeId} {root stmt : NodeId} (hroots : roots = before ++ root :: after)
    (hstmt : stmt ∈ lowering.program.body) : [root, stmt].Sublist lowering.program.body ↔
      ∀ early ∈ before ++ [root],
        early ≠ stmt ∧ ¬ Relation.TransGen lowering.DependsOn early stmt := by
  obtain ⟨hoist, done, hunfolded, hwalked, rfl⟩ := lower_eq_ok hclosed h
  have hunique {i j : Nat} {root : NodeId} (hi : hoist.roots[i]? = some root)
      (hj : hoist.roots[j]? = some root) : i = j := hunfolded.position_unique hclosed hi hj
  -- A statement has one position, so what is needed can be said of statements or of positions.
  have hneeds_iff := @transGen_dependsOn_iff hoist.result
    (Schedule.ofDeps hoist.roots.size hoist.deps) hunique
  obtain ⟨k, hk⟩ := (mem_program_body ..).1 hstmt
  have hlength : before.length < roots.length := by simp [hroots]
  have hroot : hoist.roots[before.length]? = some root := by
    rw [hunfolded.roots_getElem? hlength]
    simp [hroots]
  refine (hunfolded.root_sublist_iff hclosed hwalked hlength hroot hk).trans ⟨?_, fun hall => ?_⟩
  · rintro ⟨hlt, hnot⟩ early hmem
    obtain ⟨i, hle, hi⟩ := (hunfolded.mem_upTo_iff hroots).1 hmem
    constructor
    · rintro rfl
      rw [hunique hk hi] at hlt
      omega
    · intro hneeds
      obtain ⟨i', k', hi', hk', hneeds⟩ := hneeds_iff.1 hneeds
      rw [hunique hi' hi, hunique hk' hk] at hneeds
      exact hnot i hle hneeds
  · constructor
    · refine Nat.lt_of_not_le fun hle => ?_
      exact (hall stmt ((hunfolded.mem_upTo_iff hroots).2 ⟨k, hle, hk⟩)).1 rfl
    · intro i hle hneeds
      have hi := Array.getElem?_eq_getElem
        (Nat.lt_of_le_of_lt hle (Array.getElem?_eq_some_iff.1 hroot).1)
      exact (hall _ ((hunfolded.mem_upTo_iff hroots).2 ⟨i, hle, hi⟩)).2
        (hneeds_iff.2 ⟨i, k, hi, hk, hneeds⟩)

/-- A statement whose tree has no references needs nothing. -/
theorem lower_not_needs (hclosed : arena.Closed roots) (h : arena.lower roots names = .ok lowering)
    {decl : NodeId} (hdecl : ∀ id name, lowering.program.arena.Reaches [decl] id →
      lowering.program.arena.node? id ≠ some (.ident name)) (stmt : NodeId) :
    ¬ Relation.TransGen lowering.DependsOn decl stmt := by
  intro hneeds
  obtain ⟨_, hdepends, _⟩ := Relation.TransGen.head'_iff.1 hneeds
  obtain ⟨_, _, _, _, ident, _, hident, _, hnode⟩ := (lower_dependsOn_iff hclosed h).1 hdepends
  exact hdecl ident _ hident hnode

/-- If the first of the given statements needs nothing, then it is the first one of all. -/
theorem lower_head (hclosed : arena.Closed roots) (h : arena.lower roots names = .ok lowering)
    {root : NodeId} {rest : List NodeId} (hroots : roots = root :: rest)
    (hneeds : ∀ stmt, ¬ Relation.TransGen lowering.DependsOn root stmt) :
    lowering.program.body.head? = some root := by
  have hnodup := (lower_forest hclosed h).roots_nodup
  have hmem := lower_mem_body hclosed h (hroots ▸ List.mem_cons_self)
  cases hbody : lowering.program.body with
  | nil =>
    rw [hbody] at hmem
    cases hmem
  | cons first body =>
    by_cases heq : root = first
    · rw [List.head?_cons, heq]
    · -- The root comes before all others, so it would come before the first one.
      have hsub := (lower_sublist_iff hclosed h (List.nil_append (root :: rest) ▸ hroots)
        (hbody ▸ List.mem_cons_self)).2 fun early hearly => by
          rw [List.mem_singleton.1 hearly]
          exact ⟨heq, hneeds first⟩
      rw [hbody] at hsub hnodup
      cases hsub with
      | cons _ hsub =>
        exact absurd (hsub.subset (List.mem_cons_of_mem _ List.mem_cons_self))
          (List.nodup_cons.1 hnodup).1
      | cons_cons => exact absurd rfl heq

/-- Lowering keeps the given statements in order, each after all that it needs, and each declaration
    comes before some of them. -/
theorem lower_order (hclosed : arena.Closed roots) (h : arena.lower roots names = .ok lowering) :
    lowering.program.body.filter (· ∈ roots) = roots ∧
    (∀ root ∈ roots, ∀ decl, Relation.TransGen lowering.DependsOn root decl →
      decl ∉ roots ∧ [decl, root].Sublist lowering.program.body) ∧
    ∀ decl ∈ lowering.program.body, decl ∉ roots →
      (∃ name node, arena.DeclaresAnew lowering.program.arena decl name node) ∧
      ∃ root ∈ roots, Relation.TransGen lowering.DependsOn root decl ∧
        [decl, root].Sublist lowering.program.body := by
  obtain ⟨hoist, done, hunfolded, hwalked, rfl⟩ := lower_eq_ok hclosed h
  have hperm := Schedule.order_perm hoist.deps hoist.roots.size
  have hneeds_iff := @transGen_dependsOn_iff hoist.result
    (Schedule.ofDeps hoist.roots.size hoist.deps) (hunfolded.position_unique hclosed)
  -- What a given statement needs comes before it.
  have hbefore {i j : Nat} {root decl : NodeId} (hlt : i < roots.length)
      (hi : hoist.roots[i]? = some root) (hj : hoist.roots[j]? = some decl)
      (hneeds : hoist.Needs i j) : [decl, root].Sublist
        (Program.ofOrder hoist.arena hoist.roots
          (Schedule.ofDeps hoist.roots.size hoist.deps).order.toList).body := by
    refine (Program.sublist_body_iff hperm).2 ⟨j, i, hj, hi, ?_⟩
    refine (Schedule.sublist_root_iff (Array.getElem?_eq_some_iff.1 hi).1
      fun _ => hunfolded.not_depends_root hwalked hlt).2 ?_
    exact .inr ⟨i, Nat.le_refl i, hneeds⟩
  refine ⟨hunfolded.filter_body hclosed hwalked, ?_, ?_⟩
  · intro root hmem decl hneeds
    obtain ⟨i, j, hi, hj, hneeds⟩ := hneeds_iff.1 hneeds
    have hlt := (hunfolded.mem_roots_iff hclosed hi).1 hmem
    refine ⟨fun hdecl => ?_, hbefore hlt hi hj hneeds⟩
    obtain ⟨_, _, hlast⟩ := Relation.TransGen.tail'_iff.1 hneeds
    exact hunfolded.not_depends_root hwalked ((hunfolded.mem_roots_iff hclosed hj).1 hdecl) hlast
  · intro decl hmem hnew
    -- The declaration is that of a hoisted node.
    obtain ⟨j, hj⟩ := (mem_program_body ..).1 hmem
    cases hunfolded.site_of_root hj with
    | kept hoccurs _ => exact absurd (List.mem_of_getElem? hoccurs) hnew
    | @decl promotion _ declarator hdecl =>
      obtain ⟨i, hlt, hneeds⟩ := hunfolded.needs_of_promotion hwalked hdecl.mem
      have hi := hunfolded.roots_getElem? hlt
      rw [List.getElem?_eq_getElem hlt] at hi
      refine ⟨⟨_, _, hdecl.declaresAnew⟩, _, List.getElem_mem hlt, ?_, ?_⟩
      · exact hneeds_iff.2 ⟨i, _, hi, hj, hneeds⟩
      · exact hbefore hlt hi hj hneeds

/-- Two values that hold each other are declared by two new statements. Each of the given statements
    needs both of them, so they come before it, and the given statements keep their order. -/
theorem lower_order_mutualReference :
    mutualReference.Closed [⟨4⟩, ⟨5⟩] ∧
      ∃ lowering, mutualReference.lower [⟨4⟩, ⟨5⟩] ∅ = .ok lowering ∧
        lowering.program.body.filter (· ∈ ([⟨4⟩, ⟨5⟩] : List NodeId)) = [⟨4⟩, ⟨5⟩] ∧
        mutualReference.DeclaresAnew lowering.program.arena ⟨7⟩ "left" ⟨0⟩ ∧
        mutualReference.DeclaresAnew lowering.program.arena ⟨11⟩ "right" ⟨2⟩ ∧
        (∀ root ∈ ([⟨4⟩, ⟨5⟩] : List NodeId), ∀ decl ∈ ([⟨7⟩, ⟨11⟩] : List NodeId),
          Relation.TransGen lowering.DependsOn root decl ∧
            [decl, root].Sublist lowering.program.body) ∧
        ∀ decl ∈ lowering.program.body, decl ∉ ([⟨4⟩, ⟨5⟩] : List NodeId) →
          ∃ root ∈ ([⟨4⟩, ⟨5⟩] : List NodeId), [decl, root].Sublist lowering.program.body := by
  obtain ⟨lowering, hlower, hbody, ⟨hleft, hright⟩, ⟨hrefers, hrefers'⟩, hcycle, hcycle'⟩ :=
    mutualReference_run
  obtain ⟨hfilter, hneeded, hbefore⟩ := lower_order mutualReference_closed hlower
  have hdepends {source target : NodeId} (hsource : source ∈ lowering.program.body)
      (htarget : target ∈ lowering.program.body)
      (hrefers : mutualReference.RefersTo lowering.program.arena source target) :
      lowering.DependsOn source target :=
    (lower_dependsOn_iff mutualReference_closed hlower).2 ⟨hsource, htarget, hrefers⟩
  have hmem {stmt : NodeId} (h : stmt ∈ ([⟨11⟩, ⟨7⟩, ⟨4⟩, ⟨5⟩] : List NodeId)) :
      stmt ∈ lowering.program.body := hbody ▸ h
  -- Each statement refers to one of the values, and this one to the other.
  have hfirst := hdepends (hmem (by decide)) (hmem (by decide)) hrefers
  have hsecond := hdepends (hmem (by decide)) (hmem (by decide)) hrefers'
  have hbetween := hdepends (hmem (by decide)) (hmem (by decide)) hcycle
  have hbetween' := hdepends (hmem (by decide)) (hmem (by decide)) hcycle'
  refine ⟨mutualReference_closed, lowering, hlower, hfilter, hleft, hright, ?_,
    fun decl hmem hnew => ?_⟩
  · suffices hneeds : ∀ root ∈ ([⟨4⟩, ⟨5⟩] : List NodeId), ∀ decl ∈ ([⟨7⟩, ⟨11⟩] : List NodeId),
        Relation.TransGen lowering.DependsOn root decl from fun root hroot decl hdecl =>
      ⟨hneeds root hroot decl hdecl, (hneeded root hroot decl (hneeds root hroot decl hdecl)).2⟩
    simp only [List.forall_mem_cons, List.not_mem_nil, false_implies, implies_true, and_true]
    exact ⟨⟨.single hfirst, .tail (.single hfirst) hbetween⟩,
      .tail (.single hsecond) hbetween', .single hsecond⟩
  · obtain ⟨_, root, hroot, _, hsub⟩ := hbefore decl hmem hnew
    exact ⟨root, hroot, hsub⟩

end Semblance
