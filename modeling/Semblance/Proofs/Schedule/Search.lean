import Semblance.Schedule

/-!
# What a schedule respects

A search keeps its path, and the marks tell which statements are on the path and which are in the
schedule. Of the dependencies of a statement on the path, those that were looked at are accounted
for: the target is in the schedule, or it is the next statement on the path, or it waits further
down the path and the dependency is reported as broken. When the statement is placed, the targets of
the first kind come before it and those of the last kind will come after it.

## Key results

- `explore_searched`: a search keeps the invariant
- `order_perm`: a schedule has every statement once
- `count_broken`: how often a dependency is reported as broken
- `mem_broken_iff`: the broken dependencies are those on later statements
-/

namespace Semblance.Schedule

/-- The dependencies `seen` of a statement are accounted for, where the statements `above` were
    entered from it and the statements `below` wait for it. -/
structure Accounted (count : Nat) (schedule : Schedule) (above below : List Nat) (position : Nat)
    (seen : List Nat) : Prop where
  waits : ∀ target ∈ below, target < count → target ≠ position →
    schedule.broken.toList.count (position, target) = seen.count target
  settled : ∀ target ∉ below, target < count → target ≠ position →
    (position, target) ∉ schedule.broken.toList ∧
      (target ∈ seen → target ∈ schedule.order.toList ∨ target ∈ above)

/-- The statements on a path have accounted for all but the dependencies that are left. -/
def OnPath (deps : Array (Array Nat)) (count : Nat) (schedule : Schedule) :
    List Nat → List (Nat × List Nat) → Prop
  | _, [] => True
  | above, (position, left) :: rest =>
    (∃ seen, edges deps position = seen ++ left ∧
      Accounted count schedule above (rest.map (·.1)) position seen) ∧
    OnPath deps count schedule (position :: above) rest

/-- A search is on a path, with marks and a schedule that fit. -/
structure Searched (deps : Array (Array Nat)) (count : Nat) (path : List (Nat × List Nat))
    (marks : Array Mark) (schedule : Schedule) : Prop where
  size_eq : marks.size = count
  active_iff : ∀ {position}, marks[position]? = some .active ↔ position ∈ path.map (·.1)
  placed_iff : ∀ {position}, marks[position]? = some .placed ↔ position ∈ schedule.order.toList
  path_nodup : (path.map (·.1)).Nodup
  order_nodup : schedule.order.toList.Nodup
  broken_apart : ∀ {position target}, (position, target) ∈ schedule.broken.toList →
    position ≠ target ∧ position < count ∧ target < count ∧ marks[position]? ≠ some .waiting
  on_path : OnPath deps count schedule [] path
  /-- The dependencies of a placed statement are on earlier ones, or broken and not on earlier
      ones. -/
  placed : ∀ {position target}, position ∈ schedule.order.toList → target < count →
    target ≠ position →
    (schedule.broken.toList.count (position, target) = (edges deps position).count target ∧
      (target ∈ schedule.order.toList → [position, target].Sublist schedule.order.toList)) ∨
    ((position, target) ∉ schedule.broken.toList ∧
      (target ∈ edges deps position → [target, position].Sublist schedule.order.toList))

variable {deps : Array (Array Nat)} {count : Nat} {path rest : List (Nat × List Nat)}
  {marks : Array Mark} {schedule schedule' : Schedule}

/-- The statements of a path stay accounted for while no dependency of theirs is reported and no
    statement gets lost. -/
theorem OnPath.mono {above above' : List Nat} (h : OnPath deps count schedule above path)
    (hbroken : ∀ position ∈ path.map (·.1), ∀ target,
      schedule'.broken.toList.count (position, target) =
        schedule.broken.toList.count (position, target))
    (hkept : ∀ target, target ∈ schedule.order.toList ∨ target ∈ above →
      target ∈ schedule'.order.toList ∨ target ∈ above') :
    OnPath deps count schedule' above' path := by
  induction path generalizing above above' with
  | nil => trivial
  | cons entry rest ih =>
    obtain ⟨position, left⟩ := entry
    obtain ⟨⟨seen, hedges, haccounted⟩, hrest⟩ := h
    refine ⟨⟨seen, hedges, ?_, ?_⟩, ih hrest ?_ ?_⟩
    · intro target hbelow hlt hne
      rw [hbroken position (List.mem_cons_self ..), haccounted.waits target hbelow hlt hne]
    · intro target hbelow hlt hne
      obtain ⟨hnot, hseen⟩ := haccounted.settled target hbelow hlt hne
      rw [← List.count_eq_zero, hbroken position (List.mem_cons_self ..), List.count_eq_zero]
      exact ⟨hnot, fun hmem => hkept target (hseen hmem)⟩
    · exact fun position hmem => hbroken position (List.mem_cons_of_mem _ hmem)
    · intro target
      rw [List.mem_cons, List.mem_cons]
      -- A statement above this entry was above it before, or it is the entry itself.
      rintro (horder | rfl | habove)
      · exact (hkept target (.inl horder)).imp_right .inr
      · exact .inr (.inl rfl)
      · exact (hkept target (.inr habove)).imp_right .inr

/-! ### The steps of a search -/

namespace Searched

variable {position target : Nat} {targets : List Nat}

/-- The statement at the head of a path is placed when no dependency is left. -/
theorem finish (h : Searched deps count ((position, []) :: rest) marks schedule) :
    Searched deps count rest (marks.setIfInBounds position .placed)
      { schedule with order := schedule.order.push position } := by
  have hmark : marks[position]? = some .active := h.active_iff.2 (List.mem_cons_self ..)
  have hlt := (Array.getElem?_eq_some_iff.1 hmark).1
  have hnot_placed : position ∉ schedule.order.toList := by
    rw [← h.placed_iff, hmark]
    exact nofun
  have hnot_rest : position ∉ rest.map (·.1) := (List.nodup_cons.1 h.path_nodup).1
  have hmarks (other : Nat) : (marks.setIfInBounds position .placed)[other]? =
      if position = other then some .placed else marks[other]? := by
    rw [Array.getElem?_setIfInBounds, if_pos hlt]
  obtain ⟨⟨seen, hedges, haccounted⟩, hon_path⟩ := h.on_path
  rw [List.append_nil] at hedges
  constructor
  case size_eq => rw [Array.size_setIfInBounds, h.size_eq]
  case active_iff =>
    intro other
    rw [hmarks]
    split
    · next heq => simpa [← heq] using hnot_rest
    · next hne =>
      rw [h.active_iff, List.map_cons, List.mem_cons]
      exact ⟨fun hor => hor.resolve_left (Ne.symm hne), .inr⟩
  case placed_iff =>
    intro other
    rw [hmarks, Array.toList_push, List.mem_append, List.mem_singleton]
    split
    · next heq => simp [heq]
    · next hne =>
      rw [h.placed_iff]
      exact ⟨.inl, fun hor => hor.resolve_right (Ne.symm hne)⟩
  case path_nodup => exact (List.nodup_cons.1 h.path_nodup).2
  case order_nodup =>
    rw [Array.toList_push, List.nodup_append]
    refine ⟨h.order_nodup, by simp, ?_⟩
    rintro other hother _ hmem rfl
    exact hnot_placed (List.mem_singleton.1 hmem ▸ hother)
  case broken_apart =>
    intro source other hmem
    obtain ⟨hne, hlt', hlt'', hseen⟩ := h.broken_apart hmem
    refine ⟨hne, hlt', hlt'', ?_⟩
    rw [hmarks]
    split
    · exact nofun
    · exact hseen
  case on_path =>
    -- What was expected above the path is in the schedule now.
    refine hon_path.mono (fun _ _ _ => rfl) fun other hother => ?_
    rw [Array.toList_push, List.mem_append]
    exact .inl (hother.imp_right fun hmem => hmem)
  case placed =>
    intro source other hsource hlt' hne
    simp only [Array.toList_push] at hsource ⊢
    have hgrow : schedule.order.toList.Sublist (schedule.order.toList ++ [position]) :=
      List.sublist_append_left ..
    rcases List.mem_append.1 hsource with hold | hself
    · -- A statement that was placed before comes before the new one.
      refine (h.placed hold hlt' hne).imp ?_ ?_
      · rintro ⟨hcount, hbefore⟩
        refine ⟨hcount, fun hother => ?_⟩
        rcases List.mem_append.1 hother with hplaced | hlast
        · exact (hbefore hplaced).trans hgrow
        · obtain rfl := List.mem_singleton.1 hlast
          exact (List.singleton_sublist.2 hold).append (List.Sublist.refl _)
      · rintro ⟨hnot, hbefore⟩
        exact ⟨hnot, fun hmem => (hbefore hmem).trans hgrow⟩
    · -- For the new statement all dependencies were looked at.
      obtain rfl := List.mem_singleton.1 hself
      rw [hedges]
      by_cases hbelow : other ∈ rest.map (·.1)
      · refine .inl ⟨haccounted.waits other hbelow hlt' hne, fun hother => ?_⟩
        -- What is further down the path is not placed yet.
        have hactive := h.active_iff.2 (List.mem_cons_of_mem _ hbelow)
        rcases List.mem_append.1 hother with hplaced | hlast
        · exact nomatch hactive.symm.trans (h.placed_iff.2 hplaced)
        · exact absurd (List.mem_singleton.1 hlast) hne
      · obtain ⟨hnot, hseen⟩ := haccounted.settled other hbelow hlt' hne
        refine .inr ⟨hnot, fun hmem => ?_⟩
        have hplaced := (hseen hmem).resolve_right List.not_mem_nil
        exact (List.singleton_sublist.2 hplaced).append (List.Sublist.refl _)

/-- A statement that was not looked at is entered from a path that expects it. -/
theorem enter (h : Searched deps count path marks schedule)
    (hwaiting : marks[target]? = some .waiting) {path' : List (Nat × List Nat)}
    (hsame : path'.map (·.1) = path.map (·.1))
    (hon_path : OnPath deps count schedule [target] path') :
    Searched deps count ((target, edges deps target) :: path')
      (marks.setIfInBounds target .active) schedule := by
  have hlt := (Array.getElem?_eq_some_iff.1 hwaiting).1
  have hnot_path : target ∉ path.map (·.1) := by
    rw [← h.active_iff, hwaiting]
    exact nofun
  have hnot_broken (other : Nat) : (target, other) ∉ schedule.broken.toList :=
    fun hmem => (h.broken_apart hmem).2.2.2 hwaiting
  have hmarks (other : Nat) : (marks.setIfInBounds target .active)[other]? =
      if target = other then some .active else marks[other]? := by
    rw [Array.getElem?_setIfInBounds, if_pos hlt]
  constructor
  case size_eq => rw [Array.size_setIfInBounds, h.size_eq]
  case active_iff =>
    intro other
    rw [hmarks, List.map_cons, List.mem_cons, hsame]
    split
    · next heq => simp [heq]
    · next hne =>
      rw [h.active_iff]
      exact ⟨.inr, fun hor => hor.resolve_left (Ne.symm hne)⟩
  case placed_iff =>
    intro other
    rw [hmarks]
    split
    · next heq =>
      rw [← h.placed_iff, ← heq, hwaiting]
      exact ⟨nofun, nofun⟩
    · exact h.placed_iff
  case path_nodup => exact List.nodup_cons.2 ⟨hsame ▸ hnot_path, hsame ▸ h.path_nodup⟩
  case order_nodup => exact h.order_nodup
  case broken_apart =>
    intro source other hmem
    obtain ⟨hne, hlt', hlt'', hseen⟩ := h.broken_apart hmem
    refine ⟨hne, hlt', hlt'', ?_⟩
    rw [hmarks]
    split
    · exact nofun
    · exact hseen
  case on_path =>
    -- No dependency of the new statement was looked at, and none is reported.
    refine ⟨⟨[], rfl, ?_, ?_⟩, hon_path⟩
    · intro other _ _ _
      rw [List.count_eq_zero.2 (hnot_broken other), List.count_nil]
    · exact fun other _ _ _ => ⟨hnot_broken other, nofun⟩
  case placed => exact h.placed

/-- The statement at the head of a path leads to one that was not looked at. -/
theorem descend (h : Searched deps count ((position, target :: targets) :: rest) marks schedule)
    (hwaiting : marks[target]? = some .waiting) :
    Searched deps count ((target, edges deps target) :: (position, targets) :: rest)
      (marks.setIfInBounds target .active) schedule := by
  -- The target was not entered, so it is not on the path.
  have hnot_path : target ∉ position :: rest.map (·.1) := by
    intro hmem
    exact nomatch hwaiting.symm.trans (h.active_iff.2 hmem)
  obtain ⟨⟨seen, hedges, haccounted⟩, hon_path⟩ := h.on_path
  refine h.enter hwaiting rfl ⟨⟨seen ++ [target], ?_, ?_, ?_⟩, ?_⟩
  · rw [hedges, List.append_assoc, List.singleton_append]
  · intro other hbelow hlt hne
    rw [haccounted.waits other hbelow hlt hne, List.count_append, List.count_singleton, if_neg,
      Nat.add_zero]
    intro heq
    exact hnot_path (List.mem_cons_of_mem _ (eq_of_beq heq ▸ hbelow))
  · intro other hbelow hlt hne
    obtain ⟨hnot, hseen⟩ := haccounted.settled other hbelow hlt hne
    refine ⟨hnot, fun hmem => ?_⟩
    rcases List.mem_append.1 hmem with hold | hnew
    · exact (hseen hold).imp_right fun hmem => nomatch hmem
    · exact .inr hnew
  · refine hon_path.mono (fun _ _ _ => rfl) fun other hother => hother.imp_right ?_
    rw [List.mem_singleton, List.mem_cons]
    exact .inl

/-- The statement at the head of a path depends on itself, on a statement that is placed, or on none
    that exists. -/
theorem skip (h : Searched deps count ((position, target :: targets) :: rest) marks schedule)
    (hsettled : target < count → target ≠ position →
      target ∉ rest.map (·.1) ∧ target ∈ schedule.order.toList) :
    Searched deps count ((position, targets) :: rest) marks schedule := by
  obtain ⟨⟨seen, hedges, haccounted⟩, hon_path⟩ := h.on_path
  refine { h with on_path := ⟨⟨seen ++ [target], ?_, ?_, ?_⟩, hon_path⟩ }
  · rw [hedges, List.append_assoc, List.singleton_append]
  · intro other hbelow hlt hne
    rw [haccounted.waits other hbelow hlt hne, List.count_append, List.count_singleton, if_neg,
      Nat.add_zero]
    intro heq
    obtain rfl := eq_of_beq heq
    -- A target further down would not be settled.
    exact (hsettled hlt hne).1 hbelow
  · intro other hbelow hlt hne
    obtain ⟨hnot, hseen⟩ := haccounted.settled other hbelow hlt hne
    refine ⟨hnot, fun hmem => ?_⟩
    rcases List.mem_append.1 hmem with hold | hnew
    · exact hseen hold
    · obtain rfl := List.mem_singleton.1 hnew
      exact .inl (hsettled hlt hne).2

/-- The only mark that is left is that of a placed statement. -/
theorem placed_of_not_active (h : Searched deps count path marks schedule) (hlt : target < count)
    (hnot_waiting : marks[target]? ≠ some .waiting)
    (hnot_active : marks[target]? ≠ some .active) : target ∈ schedule.order.toList := by
  rw [← h.size_eq] at hlt
  refine h.placed_iff.1 ?_
  rw [Array.getElem?_eq_getElem hlt] at hnot_waiting hnot_active ⊢
  cases hmark : marks[target] <;> simp_all

/-- When nothing is on the path, all that is not waiting is placed. -/
theorem placed_of_not_waiting (h : Searched deps count [] marks schedule) (hlt : target < count)
    (hnot_waiting : marks[target]? ≠ some .waiting) : target ∈ schedule.order.toList :=
  h.placed_of_not_active hlt hnot_waiting fun hactive => nomatch h.active_iff.1 hactive

/-- The statement at the head of a path depends on one that is neither waiting nor on the path. -/
theorem skip_placed
    (h : Searched deps count ((position, target :: targets) :: rest) marks schedule)
    (hnot_waiting : marks[target]? ≠ some .waiting)
    (hnot_active : marks[target]? ≠ some .active) :
    Searched deps count ((position, targets) :: rest) marks schedule :=
  h.skip fun hlt _ =>
    ⟨fun hmem => hnot_active (h.active_iff.2 (List.mem_cons_of_mem _ hmem)),
      h.placed_of_not_active hlt hnot_waiting hnot_active⟩

/-- The statement at the head of a path depends on one further down. -/
theorem close (h : Searched deps count ((position, target :: targets) :: rest) marks schedule)
    (hactive : marks[target]? = some .active) (hne : target ≠ position) :
    Searched deps count ((position, targets) :: rest) marks
      { schedule with broken := schedule.broken.push (position, target) } := by
  have hlt : target < count := h.size_eq ▸ (Array.getElem?_eq_some_iff.1 hactive).1
  have hbelow : target ∈ rest.map (·.1) :=
    (List.mem_cons.1 (h.active_iff.1 hactive)).resolve_left hne
  have hself : marks[position]? = some .active := h.active_iff.2 (List.mem_cons_self ..)
  have hnot_rest : position ∉ rest.map (·.1) := (List.nodup_cons.1 h.path_nodup).1
  have hcount {source : Nat} (other : Nat) (hsource : source ≠ position) :
      (schedule.broken.push (position, target)).toList.count (source, other) =
        schedule.broken.toList.count (source, other) := by
    rw [Array.toList_push, List.count_append, List.count_singleton, if_neg, Nat.add_zero]
    intro heq
    exact hsource (Prod.mk.inj (eq_of_beq heq)).1.symm
  obtain ⟨⟨seen, hedges, haccounted⟩, hon_path⟩ := h.on_path
  refine { h with
    broken_apart := ?_, on_path := ⟨⟨seen ++ [target], ?_, ?_, ?_⟩, ?_⟩, placed := ?_ }
  · intro source other hmem
    rw [Array.toList_push, List.mem_append, List.mem_singleton] at hmem
    rcases hmem with hold | hnew
    · exact h.broken_apart hold
    · obtain ⟨rfl, rfl⟩ := Prod.mk.inj hnew
      refine ⟨Ne.symm hne, h.size_eq ▸ (Array.getElem?_eq_some_iff.1 hself).1, hlt, ?_⟩
      rw [hself]
      exact nofun
  · rw [hedges, List.append_assoc, List.singleton_append]
  · -- The dependency is seen once more and reported once more.
    intro other hother hlt' hne'
    rw [Array.toList_push, List.count_append, List.count_append,
      haccounted.waits other hother hlt' hne', List.count_singleton, List.count_singleton]
    simp
  · intro other hother hlt' hne'
    obtain ⟨hnot, hseen⟩ := haccounted.settled other hother hlt' hne'
    have hother_ne : other ≠ target := fun heq => hother (heq ▸ hbelow)
    refine ⟨?_, fun hmem => ?_⟩
    · rw [Array.toList_push, List.mem_append, List.mem_singleton]
      rintro (hold | hnew)
      · exact hnot hold
      · exact hother_ne (Prod.mk.inj hnew).2
    · refine hseen ((List.mem_append.1 hmem).resolve_right fun hnew => ?_)
      exact hother_ne (List.mem_singleton.1 hnew)
  · exact hon_path.mono (fun source hmem other => hcount other fun heq => hnot_rest (heq ▸ hmem))
      fun _ hother => hother
  · intro source other hsource hlt' hne'
    -- The head of the path is not placed, so no dependency of a placed statement is reported.
    have hsource_ne : source ≠ position := by
      rintro rfl
      exact nomatch hself.symm.trans (h.placed_iff.2 hsource)
    have hplaced := h.placed hsource hlt' hne'
    rw [← List.count_eq_zero] at hplaced ⊢
    rw [hcount other hsource_ne]
    exact hplaced

end Searched

/-! ### Searches and schedules -/

/-- Marking a statement as active or placed leaves none waiting that was not. -/
theorem not_waiting_set {position other : Nat} {mark : Mark} (hmark : mark ≠ .waiting)
    (h : marks[other]? ≠ some .waiting) :
    (marks.setIfInBounds position mark)[other]? ≠ some .waiting := by
  rw [Array.getElem?_setIfInBounds]
  split
  · split
    · exact fun heq => hmark (Option.some.inj heq)
    · exact nofun
  · exact h

/-- A search keeps the invariant, and ends with nothing on its path. -/
theorem explore_searched (h : Searched deps count path marks schedule) :
    Searched deps count [] (explore deps path marks schedule).1
        (explore deps path marks schedule).2 ∧
      ∀ position : Nat, marks[position]? ≠ some .waiting →
        (explore deps path marks schedule).1[position]? ≠ some .waiting := by
  -- The cases are the steps: nothing is left, the head is finished, or its next target is waiting,
  -- active or neither.
  fun_induction explore deps path marks schedule with
  | case1 => exact ⟨h, fun _ hseen => hseen⟩
  | case2 marks schedule position rest ih =>
    obtain ⟨hdone, hkept⟩ := ih h.finish
    exact ⟨hdone, fun other hseen => hkept other (not_waiting_set nofun hseen)⟩
  | case3 marks schedule position target targets rest hwaiting ih =>
    obtain ⟨hdone, hkept⟩ := ih (h.descend hwaiting)
    exact ⟨hdone, fun other hseen => hkept other (not_waiting_set nofun hseen)⟩
  | case4 marks schedule position target targets rest hactive ih =>
    refine ih ?_
    split
    · next heq => exact h.skip fun _ hne => absurd heq hne
    · next hne => exact h.close hactive hne
  | case5 marks schedule position target targets rest hnot_waiting hnot_active ih =>
    exact ih (h.skip_placed hnot_waiting hnot_active)

/-- Looking at one more statement keeps the invariant, and the statement is not waiting after it. -/
theorem start_searched {state : Array Mark × Schedule}
    (h : Searched deps count [] state.1 state.2) (position : Nat) :
    Searched deps count [] (start deps state position).1 (start deps state position).2 ∧
      (start deps state position).1[position]? ≠ some .waiting ∧
      ∀ other : Nat, state.1[other]? ≠ some .waiting →
        (start deps state position).1[other]? ≠ some .waiting := by
  unfold start
  split
  · next hwaiting =>
    have hlt := (Array.getElem?_eq_some_iff.1 hwaiting).1
    obtain ⟨hdone, hkept⟩ := explore_searched (h.enter hwaiting rfl trivial)
    refine ⟨hdone, hkept position ?_, fun other hseen => hkept other (not_waiting_set nofun hseen)⟩
    rw [Array.getElem?_setIfInBounds_self_of_lt hlt]
    exact nofun
  · next hseen => exact ⟨h, hseen, fun _ hother => hother⟩

/-- Looking at some statements keeps the invariant, and none of them is waiting after it. -/
theorem foldl_start_searched {state : Array Mark × Schedule} (positions : List Nat)
    (h : Searched deps count [] state.1 state.2) :
    Searched deps count [] (positions.foldl (start deps) state).1
        (positions.foldl (start deps) state).2 ∧
      ∀ position : Nat, position ∈ positions ∨ state.1[position]? ≠ some .waiting →
        (positions.foldl (start deps) state).1[position]? ≠ some .waiting := by
  induction positions generalizing state with
  | nil => exact ⟨h, fun _ hseen => hseen.resolve_left List.not_mem_nil⟩
  | cons position positions ih =>
    obtain ⟨hdone, hhere, hkept⟩ := start_searched h position
    obtain ⟨hall, hseen⟩ := ih hdone
    refine ⟨hall, fun other hother => hseen other ?_⟩
    rw [List.mem_cons] at hother
    rcases hother with (rfl | hmem) | hold
    · exact .inr hhere
    · exact .inl hmem
    · exact .inr (hkept other hold)

/-- A search starts with every statement waiting. -/
theorem searched_empty (deps : Array (Array Nat)) (count : Nat) :
    Searched deps count [] (Array.replicate count .waiting) {} where
  size_eq := Array.size_replicate
  active_iff := by simp [Array.getElem?_replicate]
  placed_iff := by simp [Array.getElem?_replicate]
  path_nodup := List.nodup_nil
  order_nodup := List.nodup_nil
  broken_apart hmem := nomatch hmem
  on_path := trivial
  placed hmem := nomatch hmem

/-- What is left of the searches of a schedule: nothing is waiting. -/
theorem ofDeps_searched (deps : Array (Array Nat)) (count : Nat) :
    ∃ marks, Searched deps count [] marks (ofDeps count deps) ∧
      ∀ position, position ∈ (ofDeps count deps).order.toList ↔ position < count := by
  obtain ⟨hdone, hseen⟩ := @foldl_start_searched deps count (Array.replicate count .waiting, {})
    (List.range count) (searched_empty deps count)
  rw [ofDeps]
  -- From here on only what holds of the final state matters.
  generalize (List.range count).foldl (start deps) (Array.replicate count .waiting, {}) = state
    at hdone hseen ⊢
  refine ⟨state.1, hdone, fun position => ?_⟩
  rw [← hdone.placed_iff]
  constructor
  · intro hplaced
    rw [← hdone.size_eq]
    exact (Array.getElem?_eq_some_iff.1 hplaced).1
  · intro hlt
    exact hdone.placed_iff.2 (hdone.placed_of_not_waiting hlt
      (hseen position (.inl (List.mem_range.2 hlt))))

/-- A schedule has every statement once. -/
theorem order_perm (deps : Array (Array Nat)) (count : Nat) :
    (ofDeps count deps).order.toList.Perm (List.range count) := by
  obtain ⟨marks, hdone, hmem⟩ := ofDeps_searched deps count
  refine (List.perm_ext_iff_of_nodup hdone.order_nodup List.nodup_range).2 fun position => ?_
  rw [hmem, List.mem_range]

/-- In a list without duplicates an entry does not come both before and after another. -/
theorem sublist_asymm {order : List Nat} (hnodup : order.Nodup) {a b : Nat}
    (h : [a, b].Sublist order) : ¬ [b, a].Sublist order := by
  induction order with
  | nil => exact nomatch h
  | cons head order ih =>
    obtain ⟨hhead, htail⟩ := List.nodup_cons.1 hnodup
    intro h'
    -- If the head is one of the two, it would come a second time.
    cases h with
    | cons _ h =>
      cases h' with
      | cons _ h' => exact ih htail h h'
      | cons_cons _ _ => exact hhead (h.subset (List.mem_cons_of_mem _ (List.mem_cons_self ..)))
    | cons_cons _ h =>
      cases h' with
      | cons _ h' => exact hhead (h'.subset (List.mem_cons_of_mem _ (List.mem_cons_self ..)))
      | cons_cons _ _ => exact hhead (h.subset (List.mem_cons_self ..))

/-- A dependency on another statement is broken as often as it is listed if that comes later, and
    never if it comes earlier. -/
theorem count_broken {deps : Array (Array Nat)} {count position target : Nat}
    (hposition : position < count) (htarget : target < count) (hne : target ≠ position) :
    (ofDeps count deps).broken.toList.count (position, target) =
      if [position, target].Sublist (ofDeps count deps).order.toList then
        (edges deps position).count target
      else 0 := by
  obtain ⟨marks, hdone, hmem⟩ := ofDeps_searched deps count
  rcases hdone.placed ((hmem position).2 hposition) htarget hne with ⟨hcount, hbefore⟩ |
    ⟨hnot, hbefore⟩
  · rw [if_pos (hbefore ((hmem target).2 htarget)), hcount]
  · rw [List.count_eq_zero.2 hnot]
    split
    · next hlater =>
      refine (List.count_eq_zero.2 fun hedge => ?_).symm
      exact sublist_asymm hdone.order_nodup hlater (hbefore hedge)
    · rfl

/-- The broken dependencies are those on statements that come later. -/
theorem mem_broken_iff {deps : Array (Array Nat)} {count position target : Nat} :
    (position, target) ∈ (ofDeps count deps).broken.toList ↔ target ≠ position ∧
      target ∈ edges deps position ∧
      [position, target].Sublist (ofDeps count deps).order.toList := by
  obtain ⟨marks, hdone, hmem⟩ := ofDeps_searched deps count
  constructor
  · intro hbroken
    obtain ⟨hne, hposition, htarget, _⟩ := hdone.broken_apart hbroken
    have hpos := List.count_pos_iff.2 hbroken
    -- A dependency is reported as often as it occurs if it points forward, and otherwise never.
    rw [count_broken hposition htarget hne.symm] at hpos
    split at hpos
    · next hlater => exact ⟨hne.symm, List.count_pos_iff.1 hpos, hlater⟩
    · exact absurd hpos (Nat.lt_irrefl 0)
  · rintro ⟨hne, hedge, hlater⟩
    have hposition := (hmem position).1 (hlater.subset (List.mem_cons_self ..))
    have htarget := (hmem target).1
      (hlater.subset (List.mem_cons_of_mem _ (List.mem_cons_self ..)))
    rw [← List.count_pos_iff, count_broken hposition htarget hne, if_pos hlater]
    exact List.count_pos_iff.2 hedge

/-- No dependency is reported twice that is not listed twice. -/
theorem broken_nodup {deps : Array (Array Nat)} {count : Nat}
    (h : ∀ position, (edges deps position).Nodup) : (ofDeps count deps).broken.toList.Nodup := by
  obtain ⟨marks, hdone, _⟩ := ofDeps_searched deps count
  rw [List.nodup_iff_count]
  rintro ⟨position, target⟩
  by_cases hbroken : (position, target) ∈ (ofDeps count deps).broken.toList
  · obtain ⟨hne, hposition, htarget, _⟩ := hdone.broken_apart hbroken
    rw [count_broken hposition htarget hne.symm]
    split
    · exact List.nodup_iff_count.1 (h position) target
    · exact Nat.zero_le 1
  · rw [List.count_eq_zero.2 hbroken]
    exact Nat.zero_le 1

end Semblance.Schedule
