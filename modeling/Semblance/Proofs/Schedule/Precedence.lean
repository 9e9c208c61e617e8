import Mathlib.Logic.Relation
import Semblance.Proofs.Schedule.Search

/-!
# What comes before a statement

All statements on the path of a search need the one at its head, so that a dependency of the head on
a statement of the path lies on a cycle. When nothing is on the path, all that placed statements
depend on is placed. A statement that none depends on is entered when its turn comes, and by then
the statements before it are placed, with all that they need. It is placed right after all that it
needs itself.

## Key results

- `needs_of_broken`: a broken dependency lies on a cycle
- `sublist_root_iff`: what comes before a statement that none depends on
- `filter_order`: the first statements keep their order if none depends on them
-/

namespace Semblance.Schedule

/-- A statement depends on another one. -/
def Depends (deps : Array (Array Nat)) (count position target : Nat) : Prop :=
  target < count ∧ target ∈ edges deps position

/-- A statement depends on another one, directly or through others. -/
abbrev Needs (deps : Array (Array Nat)) (count : Nat) : Nat → Nat → Prop :=
  Relation.TransGen (Depends deps count)

/-- A search on whose path each statement is needed by those further down. -/
structure Traced (deps : Array (Array Nat)) (count : Nat) (path : List (Nat × List Nat))
    (marks : Array Mark) (schedule : Schedule) : Prop
    extends Searched deps count path marks schedule where
  path_needs : (path.map (·.1)).Pairwise fun position below => Needs deps count below position
  /-- What is reported lies on a cycle. -/
  broken_needs : ∀ {position target}, (position, target) ∈ schedule.broken.toList →
    Depends deps count position target ∧ Needs deps count target position ∧
      marks[target]? ≠ some .waiting

variable {deps : Array (Array Nat)} {count : Nat} {path rest : List (Nat × List Nat)}
  {marks : Array Mark} {schedule : Schedule} {position target : Nat} {targets : List Nat}

/-! ### The steps of a search -/

/-- What is left to look at for the head of a path are dependencies of it. -/
theorem Searched.depends
    (h : Searched deps count ((position, target :: targets) :: rest) marks schedule) {mark : Mark}
    (hmark : marks[target]? = some mark) : Depends deps count position target := by
  obtain ⟨⟨seen, hedges, _⟩, _⟩ := h.on_path
  exact ⟨h.size_eq ▸ (Array.getElem?_eq_some_iff.1 hmark).1, by simp [hedges]⟩

namespace Traced

/-- When the head of the path is done, it is placed and taken off the path. -/
theorem finish (h : Traced deps count ((position, []) :: rest) marks schedule) :
    Traced deps count rest (marks.setIfInBounds position .placed)
      { schedule with order := schedule.order.push position } where
  toSearched := h.toSearched.finish
  path_needs := (List.pairwise_cons.1 h.path_needs).2
  broken_needs hmem := by
    obtain ⟨hdepends, hneeds, hseen⟩ := h.broken_needs hmem
    exact ⟨hdepends, hneeds, not_waiting_set nofun hseen⟩

/-- A statement that was not seen is entered. Those on the path are to need it. -/
theorem enter (h : Traced deps count path marks schedule)
    (hwaiting : marks[target]? = some .waiting) {path' : List (Nat × List Nat)}
    (hsame : path'.map (·.1) = path.map (·.1))
    (hon_path : OnPath deps count schedule [target] path')
    (hneeds : ∀ below ∈ path.map (·.1), Needs deps count below target) :
    Traced deps count ((target, edges deps target) :: path')
      (marks.setIfInBounds target .active) schedule where
  toSearched := h.toSearched.enter hwaiting hsame hon_path
  path_needs := List.pairwise_cons.2 ⟨hsame ▸ hneeds, hsame ▸ h.path_needs⟩
  broken_needs hmem := by
    obtain ⟨hdepends, hneeds, hseen⟩ := h.broken_needs hmem
    exact ⟨hdepends, hneeds, not_waiting_set nofun hseen⟩

/-- A dependency on a statement that was not seen is entered, since all that need the head of the
    path need what the head depends on. -/
theorem descend (h : Traced deps count ((position, target :: targets) :: rest) marks schedule)
    (hwaiting : marks[target]? = some .waiting) :
    Traced deps count ((target, edges deps target) :: (position, targets) :: rest)
      (marks.setIfInBounds target .active) schedule := by
  have hdepends := h.toSearched.depends hwaiting
  refine h.enter hwaiting rfl (h.toSearched.descend hwaiting).on_path.2 fun below hmem => ?_
  rcases List.mem_cons.1 hmem with rfl | hmem
  · exact .single hdepends
  · exact .tail ((List.pairwise_cons.1 h.path_needs).1 below hmem) hdepends

/-- A dependency on a placed statement needs nothing. -/
theorem skip_placed
    (h : Traced deps count ((position, target :: targets) :: rest) marks schedule)
    (hnot_waiting : marks[target]? ≠ some .waiting)
    (hnot_active : marks[target]? ≠ some .active) :
    Traced deps count ((position, targets) :: rest) marks schedule where
  toSearched := h.toSearched.skip_placed hnot_waiting hnot_active
  path_needs := h.path_needs
  broken_needs := h.broken_needs

/-- The statement at the head of a path depends on itself or on one further down, and only the
    latter is reported. -/
theorem meet_active
    (h : Traced deps count ((position, target :: targets) :: rest) marks schedule)
    (hactive : marks[target]? = some .active) :
    Traced deps count ((position, targets) :: rest) marks
      (if target = position then schedule
        else { schedule with broken := schedule.broken.push (position, target) }) := by
  split
  case isTrue heq =>
    exact ⟨h.toSearched.skip fun _ hne => absurd heq hne, h.path_needs, h.broken_needs⟩
  case isFalse hne =>
    refine ⟨h.toSearched.close hactive hne, h.path_needs, fun {source other} hmem => ?_⟩
    rw [Array.toList_push, List.mem_append, List.mem_singleton] at hmem
    rcases hmem with hold | hnew
    · exact h.broken_needs hold
    · -- The target is further down the path, so it needs the head.
      obtain ⟨rfl, rfl⟩ := Prod.mk.inj hnew
      have hbelow := (List.mem_cons.1 (h.active_iff.1 hactive)).resolve_left hne
      refine ⟨h.toSearched.depends hactive, (List.pairwise_cons.1 h.path_needs).1 _ hbelow, ?_⟩
      rw [hactive]
      exact nofun

/-- When nothing is on the path, a placed statement has placed all that it depends on. -/
theorem placed_depends (h : Traced deps count [] marks schedule)
    (hplaced : position ∈ schedule.order.toList) (hdepends : Depends deps count position target) :
    target ∈ schedule.order.toList := by
  obtain ⟨hlt, hedge⟩ := hdepends
  by_cases hne : target = position
  · exact hne ▸ hplaced
  · rcases h.placed hplaced hlt hne with ⟨hcount, _⟩ | ⟨_, hbefore⟩
    · -- The dependency is reported, so its target was looked at.
      have hbroken := List.count_pos_iff.1 (hcount ▸ List.count_pos_iff.2 hedge)
      exact h.placed_of_not_waiting hlt (h.broken_needs hbroken).2.2
    · exact (hbefore hedge).subset (List.mem_cons_self ..)

/-- When nothing is on the path, all that a placed statement needs is placed. -/
theorem placed_needs (h : Traced deps count [] marks schedule)
    (hplaced : position ∈ schedule.order.toList) (hneeds : Needs deps count position target) :
    target ∈ schedule.order.toList := by
  induction hneeds with
  | single hdepends => exact h.placed_depends hplaced hdepends
  | tail _ hdepends ih => exact h.placed_depends ih hdepends

end Traced

/-! ### Searches -/

/-- Every step keeps the invariant, so it holds when nothing is on the path. -/
theorem explore_traced (h : Traced deps count path marks schedule) :
    Traced deps count [] (explore deps path marks schedule).1
      (explore deps path marks schedule).2 := by
  fun_induction explore deps path marks schedule with
  | case1 => exact h
  | case2 marks schedule position rest ih => exact ih h.finish
  | case3 marks schedule position target targets rest hwaiting ih => exact ih (h.descend hwaiting)
  | case4 marks schedule position target targets rest hactive ih =>
    exact ih (h.meet_active hactive)
  | case5 marks schedule position target targets rest hnot_waiting hnot_active ih =>
    exact ih (h.skip_placed hnot_waiting hnot_active)

/-- A search looks at nothing that the statements on its path do not need. -/
theorem needs_of_explore (h : Traced deps count path marks schedule) {other : Nat}
    (hother : (explore deps path marks schedule).1[other]? ≠ some .waiting) :
    marks[other]? ≠ some .waiting ∨ ∃ root ∈ path.map (·.1), Needs deps count root other := by
  fun_induction explore deps path marks schedule with
  | case1 => exact .inl hother
  | case2 marks schedule position rest ih =>
    -- The head was entered before, so it was not waiting.
    have hself := h.active_iff.2 (List.mem_cons_self ..)
    rcases ih h.finish hother with hseen | ⟨root, hroot, hneeds⟩
    · refine .inl fun hwaiting => hseen ?_
      rwa [Array.getElem?_setIfInBounds_ne]
      rintro rfl
      cases hself.symm.trans hwaiting
    · exact .inr ⟨root, List.mem_cons_of_mem _ hroot, hneeds⟩
  | case3 marks schedule position target targets rest hwaiting ih =>
    -- What the target needs is needed by the statement that depends on it.
    have hdepends := h.toSearched.depends hwaiting
    rcases ih (h.descend hwaiting) hother with hseen | ⟨root, hroot, hneeds⟩
    · by_cases hne : target = other
      · exact .inr ⟨position, List.mem_cons_self .., hne ▸ .single hdepends⟩
      · rw [Array.getElem?_setIfInBounds_ne hne] at hseen
        exact .inl hseen
    · rcases List.mem_cons.1 hroot with rfl | hroot
      · exact .inr ⟨position, List.mem_cons_self .., .head hdepends hneeds⟩
      · exact .inr ⟨root, hroot, hneeds⟩
  | case4 marks schedule position target targets rest hactive ih =>
    exact ih (h.meet_active hactive) hother
  | case5 marks schedule position target targets rest hnot_waiting hnot_active ih =>
    exact ih (h.skip_placed hnot_waiting hnot_active) hother

/-- A search adds to the order, last of all the statement that its path starts with. -/
theorem explore_order (deps : Array (Array Nat)) (path : List (Nat × List Nat))
    (marks : Array Mark) (schedule : Schedule) :
    ∃ added, (explore deps path marks schedule).2.order.toList = schedule.order.toList ++ added ∧
      added.getLast? = (path.map (·.1)).getLast? := by
  fun_induction explore deps path marks schedule with
  | case1 => exact ⟨[], (List.append_nil _).symm, rfl⟩
  | case2 marks schedule position rest ih =>
    obtain ⟨added, horder, hlast⟩ := ih
    -- The statement at the end of the path is placed last.
    refine ⟨position :: added, ?_, ?_⟩
    · rw [horder, Array.toList_push, List.append_assoc, List.singleton_append]
    · rw [List.map_cons, List.getLast?_cons, List.getLast?_cons, hlast]
  | case3 marks schedule position target targets rest hwaiting ih =>
    obtain ⟨added, horder, hlast⟩ := ih
    exact ⟨added, horder, hlast⟩
  | case4 marks schedule position target targets rest hactive ih =>
    obtain ⟨added, horder, hlast⟩ := ih
    refine ⟨added, horder.trans ?_, hlast⟩
    split <;> rfl
  | case5 marks schedule position target targets rest hnot_waiting hnot_active ih =>
    exact ih

/-! ### Schedules -/

/-- The turn of a statement keeps the invariant, and what is seen then is the statement or something
    it needs. -/
theorem start_traced {state : Array Mark × Schedule} (h : Traced deps count [] state.1 state.2)
    (position : Nat) :
    Traced deps count [] (start deps state position).1 (start deps state position).2 ∧
      ∀ other : Nat, (start deps state position).1[other]? ≠ some .waiting →
        state.1[other]? ≠ some .waiting ∨ other = position ∨ Needs deps count position other := by
  unfold start
  split
  · next hwaiting =>
    have hentered := h.enter hwaiting rfl trivial (fun _ hmem => nomatch hmem)
    refine ⟨explore_traced hentered, fun other hother => ?_⟩
    rcases needs_of_explore hentered hother with hseen | ⟨root, hroot, hneeds⟩
    · by_cases hne : position = other
      · exact .inr (.inl hne.symm)
      · rw [Array.getElem?_setIfInBounds_ne hne] at hseen
        exact .inl hseen
    · obtain rfl := List.mem_singleton.1 hroot
      exact .inr (.inr hneeds)
  · exact ⟨h, fun _ hother => .inl hother⟩

/-- The turns of some statements keep the invariant, and what is seen then is one of them or
    something that one needs. -/
theorem foldl_start_traced {state : Array Mark × Schedule} (positions : List Nat)
    (h : Traced deps count [] state.1 state.2) :
    Traced deps count [] (positions.foldl (start deps) state).1
        (positions.foldl (start deps) state).2 ∧
      ∀ other : Nat, (positions.foldl (start deps) state).1[other]? ≠ some .waiting →
        state.1[other]? ≠ some .waiting ∨
          ∃ root ∈ positions, other = root ∨ Needs deps count root other := by
  induction positions generalizing state with
  | nil => exact ⟨h, fun _ hother => .inl hother⟩
  | cons position positions ih =>
    obtain ⟨hdone, hhere⟩ := start_traced h position
    obtain ⟨hall, hreached⟩ := ih hdone
    refine ⟨hall, fun other hother => ?_⟩
    rcases hreached other hother with hseen | ⟨root, hroot, hneeds⟩
    · exact (hhere other hseen).imp_right fun hneeds => ⟨position, List.mem_cons_self .., hneeds⟩
    · exact .inr ⟨root, List.mem_cons_of_mem _ hroot, hneeds⟩

/-- Looking at more statements only adds to the order. -/
theorem foldl_start_order (deps : Array (Array Nat)) (positions : List Nat) (state : Array Mark × Schedule) :
    state.2.order.toList <+: (positions.foldl (start deps) state).2.order.toList := by
  induction positions generalizing state with
  | nil => exact List.prefix_rfl
  | cons position positions ih =>
    refine List.IsPrefix.trans ?_ (ih (start deps state position))
    unfold start
    split
    · obtain ⟨added, horder, _⟩ := explore_order deps [(position, edges deps position)]
        (state.1.setIfInBounds position .active) state.2
      exact ⟨added, horder.symm⟩
    · exact List.prefix_rfl

/-- At the start nothing is on the path. -/
theorem traced_empty (deps : Array (Array Nat)) (count : Nat) :
    Traced deps count [] (Array.replicate count .waiting) {} where
  toSearched := searched_empty deps count
  path_needs := .nil
  broken_needs hmem := nomatch hmem

/-- The search of a schedule, when only the first statements had their turn. -/
def turns (deps : Array (Array Nat)) (count bound : Nat) : Array Mark × Schedule :=
  (List.range bound).foldl (start deps) (Array.replicate count .waiting, {})

/-- The turn of a statement comes after those of the statements before it. -/
theorem turns_succ (deps : Array (Array Nat)) (count bound : Nat) :
    turns deps count (bound + 1) = start deps (turns deps count bound) bound := by
  rw [turns, List.range_succ, List.foldl_append, List.foldl_cons, List.foldl_nil, turns]

/-- By the turn of a statement those before it are placed, with all that they need, and nothing
    else. -/
theorem turns_traced (deps : Array (Array Nat)) {bound : Nat} (hbound : bound ≤ count) :
    Traced deps count [] (turns deps count bound).1 (turns deps count bound).2 ∧
      ∀ position, position ∈ (turns deps count bound).2.order.toList ↔
        position < bound ∨ ∃ earlier < bound, Needs deps count earlier position := by
  obtain ⟨htraced, hreached⟩ :=
    @foldl_start_traced deps count (Array.replicate count .waiting, {}) (List.range bound)
      (traced_empty deps count)
  obtain ⟨_, hseen⟩ :=
    @foldl_start_searched deps count (Array.replicate count .waiting, {}) (List.range bound)
      (searched_empty deps count)
  have hplaced {position : Nat} (hlt : position < bound) :
      position ∈ (turns deps count bound).2.order.toList :=
    htraced.placed_of_not_waiting (Nat.lt_of_lt_of_le hlt hbound)
      (hseen position (.inl (List.mem_range.2 hlt)))
  refine ⟨htraced, fun position => ⟨fun hmem => ?_, ?_⟩⟩
  · have hmark := htraced.placed_iff.2 hmem
    rcases hreached position (by rw [hmark]; exact nofun) with hseen | ⟨root, hroot, rfl | hneeds⟩
    · -- Before the first turn all statements are waiting.
      refine absurd ?_ hseen
      rw [Array.getElem?_replicate, if_pos]
      exact htraced.size_eq ▸ (Array.getElem?_eq_some_iff.1 hmark).1
    · exact .inl (List.mem_range.1 hroot)
    · exact .inr ⟨root, List.mem_range.1 hroot, hneeds⟩
  · rintro (hlt | ⟨earlier, hlt, hneeds⟩)
    · exact hplaced hlt
    · exact htraced.placed_needs (hplaced hlt) hneeds

/-- A broken dependency lies on a cycle of dependencies. -/
theorem needs_of_broken (h : (position, target) ∈ (ofDeps count deps).broken.toList) :
    Depends deps count position target ∧ Needs deps count target position := by
  obtain ⟨htraced, _⟩ := turns_traced deps (Nat.le_refl count)
  obtain ⟨hdepends, hneeds, _⟩ := htraced.broken_needs h
  exact ⟨hdepends, hneeds⟩

/-- Before a statement that none depends on, a schedule has the statements that are listed before it
    and those that it or one of these needs, and nothing else. -/
theorem exists_split {root : Nat} (hroot : root < count)
    (hfree : ∀ position, ¬ Depends deps count position root) :
    ∃ before after, (ofDeps count deps).order.toList = before ++ root :: after ∧
      ∀ position, position ∈ before ↔ position < root ∨
        ∃ earlier ≤ root, Needs deps count earlier position := by
  have hnot_needs (position : Nat) : ¬ Needs deps count position root := fun hneeds =>
    (Relation.TransGen.tail'_iff.1 hneeds).elim fun _ hlast => hfree _ hlast.2
  obtain ⟨htraced, hmem⟩ := turns_traced deps (Nat.le_of_lt hroot)
  obtain ⟨hnext, hmem_next⟩ := turns_traced deps (Nat.succ_le_of_lt hroot)
  -- The statement is waiting until its turn, and then it is placed last.
  have hwaiting : (turns deps count root).1[root]? = some .waiting := by
    refine Classical.not_not.1 fun hseen => ?_
    rcases (hmem root).1 (htraced.placed_of_not_waiting hroot hseen) with hlt | ⟨_, _, hneeds⟩
    · exact absurd hlt (Nat.lt_irrefl root)
    · exact hnot_needs _ hneeds
  obtain ⟨added, horder, hlast⟩ := explore_order deps [(root, edges deps root)]
    ((turns deps count root).1.setIfInBounds root .active) (turns deps count root).2
  obtain ⟨first, rfl⟩ : ∃ first, added = first ++ [root] := List.getLast?_eq_some_iff.1 hlast
  have hhere : (turns deps count (root + 1)).2.order.toList =
      ((turns deps count root).2.order.toList ++ first) ++ [root] := by
    rw [turns_succ, start, if_pos hwaiting, horder, List.append_assoc]
  -- The later turns add to that.
  obtain ⟨after, hafter⟩ : ∃ after, (ofDeps count deps).order.toList =
      (turns deps count (root + 1)).2.order.toList ++ after := by
    obtain ⟨more, rfl⟩ := Nat.exists_eq_add_of_le hroot
    obtain ⟨after, hafter⟩ := foldl_start_order deps
      ((List.range more).map (root + 1 + ·)) (turns deps (root + 1 + more) (root + 1))
    refine ⟨after, ?_⟩
    rw [hafter, ofDeps, turns, List.range_add, List.foldl_append]
  refine ⟨(turns deps count root).2.order.toList ++ first, after, ?_, fun position => ?_⟩
  · rw [hafter, hhere, List.append_assoc, List.singleton_append]
  · have hnot_before : root ∉ (turns deps count root).2.order.toList ++ first := by
      have hnodup := hnext.order_nodup
      rw [hhere, List.nodup_append] at hnodup
      exact fun hbefore => hnodup.2.2 root hbefore root (List.mem_singleton_self root) rfl
    have hposition := hmem_next position
    rw [hhere, List.mem_append, List.mem_singleton] at hposition
    constructor
    · intro hbefore
      have hne : position ≠ root := fun heq => hnot_before (heq ▸ hbefore)
      rcases hposition.1 (.inl hbefore) with hlt | ⟨earlier, hlt, hneeds⟩
      · exact .inl (Nat.lt_of_le_of_ne (Nat.le_of_lt_succ hlt) hne)
      · exact .inr ⟨earlier, Nat.le_of_lt_succ hlt, hneeds⟩
    · rintro (hlt | ⟨earlier, hle, hneeds⟩)
      · exact (hposition.2 (.inl (Nat.lt_succ_of_lt hlt))).resolve_right (Nat.ne_of_lt hlt)
      · refine (hposition.2 (.inr ⟨earlier, Nat.lt_succ_of_le hle, hneeds⟩)).resolve_right ?_
        rintro rfl
        exact hnot_needs _ hneeds

/-- A statement that none depends on comes after those that are listed before it and those that it or
    one of these needs, and before all others. -/
theorem sublist_root_iff {root : Nat} (hroot : root < count)
    (hfree : ∀ position, ¬ Depends deps count position root) :
    [position, root].Sublist (ofDeps count deps).order.toList ↔
      position < root ∨ ∃ earlier ≤ root, Needs deps count earlier position := by
  obtain ⟨before, after, horder, hmem⟩ := exists_split hroot hfree
  have hnodup := (order_perm deps count).nodup_iff.2 List.nodup_range
  rw [← hmem]
  constructor
  · intro hsub
    have hposition := hsub.subset (List.mem_cons_self ..)
    rw [horder, List.mem_append] at hposition
    refine hposition.resolve_right fun hlater => ?_
    -- Otherwise it would be the statement itself, or come after it as well.
    rcases List.mem_cons.1 hlater with rfl | hafter
    · exact absurd (hsub.nodup hnodup) (by simp)
    · refine sublist_asymm hnodup hsub ?_
      rw [horder]
      exact ((List.singleton_sublist.2 hafter).cons_cons root).trans (List.sublist_append_right ..)
  · intro hbefore
    rw [horder]
    exact (List.singleton_sublist.2 hbefore).append ((List.nil_sublist after).cons_cons root)

/-- A statement that none depends on comes before those that are listed after it and that neither it
    nor one listed before it needs. -/
theorem root_sublist_iff {root : Nat} (hroot : root < count) (hposition : position < count)
    (hfree : ∀ position, ¬ Depends deps count position root) :
    [root, position].Sublist (ofDeps count deps).order.toList ↔
      root < position ∧ ∀ earlier ≤ root, ¬ Needs deps count earlier position := by
  have hperm := order_perm deps count
  have hnodup := hperm.nodup_iff.2 List.nodup_range
  have hbefore := @sublist_root_iff _ _ position _ hroot hfree
  constructor
  · intro hsub
    have hnot := fun hfirst => sublist_asymm hnodup hsub (hbefore.2 hfirst)
    refine ⟨?_, fun earlier hle hneeds => hnot (.inr ⟨earlier, hle, hneeds⟩)⟩
    refine Nat.lt_of_le_of_ne (Nat.le_of_not_lt fun hlt => hnot (.inl hlt)) ?_
    rintro rfl
    exact absurd (hsub.nodup hnodup) (by simp)
  · rintro ⟨hlt, hnot⟩
    obtain ⟨before, after, horder⟩ :=
      List.append_of_mem (hperm.mem_iff.2 (List.mem_range.2 hposition))
    have hmem := hperm.mem_iff.2 (List.mem_range.2 hroot)
    rw [horder, List.mem_append, List.mem_cons] at hmem
    rw [horder] at hbefore ⊢
    rcases hmem with hfirst | rfl | hlater
    · exact (List.singleton_sublist.2 hfirst).append ((List.nil_sublist after).cons_cons position)
    · exact absurd hlt (Nat.lt_irrefl _)
    · -- Otherwise it would be listed or needed before.
      have hsub := ((List.singleton_sublist.2 hlater).cons_cons position).trans
        (List.sublist_append_right before _)
      rcases hbefore.1 hsub with hgt | ⟨earlier, hle, hneeds⟩
      · exact absurd hgt (Nat.lt_asymm hlt)
      · exact absurd hneeds (hnot earlier hle)

/-- The first statements keep their order if none depends on them. -/
theorem filter_order {bound : Nat} (hbound : bound ≤ count)
    (hfree : ∀ root < bound, ∀ position, ¬ Depends deps count position root) :
    (ofDeps count deps).order.toList.filter (· < bound) = List.range bound := by
  have hperm := order_perm deps count
  have hnodup := hperm.nodup_iff.2 List.nodup_range
  refine List.Perm.eq_of_pairwise (fun i j _ _ hlt hgt => absurd hgt (Nat.lt_asymm hlt)) ?_
    List.pairwise_lt_range ?_
  · -- None depends on a first statement, so one with a smaller position comes before it.
    refine List.pairwise_iff_forall_sublist.2 fun {i j} hsub => ?_
    have hi : i < bound := by
      simpa using (List.mem_filter.1 (hsub.subset (List.mem_cons_self ..))).2
    have horder := hsub.trans List.filter_sublist
    refine Nat.lt_of_not_le fun hle => ?_
    rcases Nat.eq_or_lt_of_le hle with rfl | hlt
    · exact absurd (horder.nodup hnodup) (by simp)
    · exact sublist_asymm hnodup horder
        ((sublist_root_iff (Nat.lt_of_lt_of_le hi hbound) (hfree i hi)).2 (.inl hlt))
  · refine (List.perm_ext_iff_of_nodup (hnodup.filter _) List.nodup_range).2 fun position => ?_
    rw [List.mem_filter, hperm.mem_iff, List.mem_range, List.mem_range, decide_eq_true_iff]
    exact ⟨fun hor => hor.2, fun hlt => ⟨Nat.lt_of_lt_of_le hlt hbound, hlt⟩⟩

end Semblance.Schedule
