import Mathlib.Data.List.Forall2
import Semblance.Proofs.Schedule.Precedence

/-!
# What a schedule reports

The dependencies that a schedule breaks are reported as warnings, one for each of them. They are
what keeps a list of dependencies from being satisfied in full: a dependency is broken as often as
it is listed if its target comes later, and otherwise not at all. A broken dependency closes a cycle
of dependencies between different statements, and where there is no such cycle, every statement
comes after all that it depends on.

This holds of all lists of dependencies, whether they fit the statements or not: they may repeat
entries, lead from a statement to itself, and name statements that do not exist.

## Key results

- `warnings_reports`: there is one warning for each broken dependency
- `needs_another_of_broken`: a broken dependency closes a cycle between different statements
- `ofDeps_reports`: what a schedule orders, breaks and reports
-/

namespace Semblance

/-- A warning is for a dependency of the statement in one position on that in another: it has their
    ids and the names that they declare. -/
structure CycleWarning.Reports (warning : CycleWarning) (arena : Arena) (roots : Array NodeId)
    (position target : Nat) : Prop where
  source : roots[position]? = some warning.source
  target : roots[target]? = some warning.target
  sourceName : warning.sourceName = arena.declaredName warning.source
  targetName : warning.targetName = arena.declaredName warning.target

namespace Schedule

/-- A statement depends on a different one. -/
def DependsOnAnother (deps : Array (Array Nat)) (count position target : Nat) : Prop :=
  target ≠ position ∧ Depends deps count position target

variable {deps : Array (Array Nat)} {count position target : Nat}

/-- What is mapped to a value throughout stays in its place when it is filtered. -/
theorem forall₂_filterMap {f : α → Option β} {relation : α → β → Prop} {entries : List α}
    (h : ∀ entry ∈ entries, ∃ value, f entry = some value ∧ relation entry value) :
    List.Forall₂ relation entries (entries.filterMap f) := by
  induction entries with
  | nil => exact .nil
  | cons entry entries ih =>
    obtain ⟨value, hvalue, hrelation⟩ := h entry (List.mem_cons_self ..)
    rw [List.filterMap_cons_some hvalue]
    exact .cons hrelation (ih fun other hmem => h other (List.mem_cons_of_mem _ hmem))

/-- There is one warning for each broken dependency between statements, in the same order. -/
theorem warnings_reports (arena : Arena) {roots : Array NodeId} {schedule : Schedule}
    (h : ∀ position target, (position, target) ∈ schedule.broken.toList →
      position < roots.size ∧ target < roots.size) :
    List.Forall₂ (fun edge warning => warning.Reports arena roots edge.1 edge.2)
      schedule.broken.toList (schedule.warnings arena roots) := by
  refine forall₂_filterMap fun edge hmem => ?_
  obtain ⟨position, target⟩ := edge
  obtain ⟨hposition, htarget⟩ := h position target hmem
  have hsource := Array.getElem?_eq_getElem hposition
  have hother := Array.getElem?_eq_getElem htarget
  refine ⟨⟨roots[position], roots[target], arena.declaredName roots[position],
    arena.declaredName roots[target]⟩, ?_, hsource, hother, rfl, rfl⟩
  simp only [hsource, hother]
  rfl

/-- What is needed of another statement is needed through different statements. -/
theorem Needs.another (h : Needs deps count position target) (hne : target ≠ position) :
    Relation.TransGen (DependsOnAnother deps count) position target := by
  induction h with
  | single hdepends => exact .single ⟨hne, hdepends⟩
  | @tail between target _ hdepends ih =>
    -- Neither a step from a statement to itself nor what leads back to the start counts.
    by_cases hself : target = between
    · subst hself
      exact ih hne
    · by_cases hback : between = position
      · subst hback
        exact .single ⟨hself, hdepends⟩
      · exact .tail (ih hback) ⟨hself, hdepends⟩

/-- A broken dependency is one between different statements, and it closes a cycle of these. -/
theorem needs_another_of_broken (h : (position, target) ∈ (ofDeps count deps).broken.toList) :
    DependsOnAnother deps count position target ∧
      Relation.TransGen (DependsOnAnother deps count) target position := by
  obtain ⟨hdepends, hneeds⟩ := needs_of_broken h
  obtain ⟨hne, _⟩ := mem_broken_iff.1 h
  exact ⟨⟨hne, hdepends⟩, Needs.another hneeds hne.symm⟩

/-- A broken dependency is one between statements. -/
theorem broken_lt (h : (position, target) ∈ (ofDeps count deps).broken.toList) :
    position < count ∧ target < count := by
  obtain ⟨_, _, hlater⟩ := mem_broken_iff.1 h
  have hmem (other : Nat) (hother : other ∈ [position, target]) : other < count :=
    List.mem_range.1 ((order_perm deps count).mem_iff.1 (hlater.subset hother))
  exact ⟨hmem position (by simp), hmem target (by simp)⟩

/-- Two different statements come one after the other. -/
theorem sublist_or_sublist (hposition : position < count) (htarget : target < count)
    (hne : target ≠ position) :
    [position, target].Sublist (ofDeps count deps).order.toList ∨
      [target, position].Sublist (ofDeps count deps).order.toList := by
  have hperm := order_perm deps count
  obtain ⟨before, after, horder⟩ :=
    List.append_of_mem (hperm.mem_iff.2 (List.mem_range.2 hposition))
  have hmem := hperm.mem_iff.2 (List.mem_range.2 htarget)
  rw [horder, List.mem_append, List.mem_cons] at hmem
  rw [horder]
  rcases hmem with hbefore | rfl | hafter
  · exact .inr ((List.singleton_sublist.2 hbefore).append ((List.nil_sublist after).cons_cons _))
  · exact absurd rfl hne
  · exact .inl (((List.singleton_sublist.2 hafter).cons_cons position).trans
      (List.sublist_append_right before _))

/-- A schedule has every statement once. It breaks a dependency on another statement if and only if
    that comes later, as often as it is listed, and there is one warning for each broken dependency.
    Each of them closes a cycle of dependencies between different statements. So without such a
    cycle there is no warning, and every statement comes after those that it depends on. -/
theorem ofDeps_reports (arena : Arena) (roots : Array NodeId) (deps : Array (Array Nat)) :
    (ofDeps roots.size deps).order.toList.Perm (List.range roots.size) ∧
    (∀ position target, position < roots.size → target < roots.size → target ≠ position →
      target ∈ edges deps position →
      ([position, target].Sublist (ofDeps roots.size deps).order.toList ↔
        (position, target) ∈ (ofDeps roots.size deps).broken.toList)) ∧
    List.Forall₂ (fun edge warning => warning.Reports arena roots edge.1 edge.2)
      (ofDeps roots.size deps).broken.toList
      ((ofDeps roots.size deps).warnings arena roots) ∧
    (∀ position target, (ofDeps roots.size deps).broken.toList.count (position, target) =
      if position < roots.size ∧ target < roots.size ∧ target ≠ position ∧
          [position, target].Sublist (ofDeps roots.size deps).order.toList then
        (edges deps position).count target
      else 0) ∧
    (∀ position target, (position, target) ∈ (ofDeps roots.size deps).broken.toList →
      DependsOnAnother deps roots.size position target ∧
        Relation.TransGen (DependsOnAnother deps roots.size) target position) ∧
    ((∀ position, ¬ Relation.TransGen (DependsOnAnother deps roots.size) position position) →
      (ofDeps roots.size deps).warnings arena roots = [] ∧
      ∀ position target, position < roots.size → DependsOnAnother deps roots.size position target →
        [target, position].Sublist (ofDeps roots.size deps).order.toList) := by
  have hreports := warnings_reports arena fun _ _ => @broken_lt deps roots.size _ _
  refine ⟨order_perm deps roots.size, ?_, hreports, ?_, fun _ _ => needs_another_of_broken, ?_⟩
  · intro position target _ _ hne hedge
    rw [mem_broken_iff]
    exact ⟨fun hlater => ⟨hne, hedge, hlater⟩, fun hbroken => hbroken.2.2⟩
  · intro position target
    split
    · next hlater =>
      obtain ⟨hposition, htarget, hne, hlater⟩ := hlater
      rw [count_broken hposition htarget hne, if_pos hlater]
    · next hnot =>
      refine List.count_eq_zero.2 fun hbroken => hnot ?_
      obtain ⟨hposition, htarget⟩ := broken_lt hbroken
      obtain ⟨hne, _, hlater⟩ := mem_broken_iff.1 hbroken
      exact ⟨hposition, htarget, hne, hlater⟩
  · intro hacyclic
    -- A broken dependency would close a cycle.
    have hnone (position target : Nat) :
        (position, target) ∉ (ofDeps roots.size deps).broken.toList := by
      intro hbroken
      obtain ⟨hdepends, hneeds⟩ := needs_another_of_broken hbroken
      exact hacyclic position (.head hdepends hneeds)
    constructor
    · have hempty : (ofDeps roots.size deps).broken.toList = [] :=
        List.eq_nil_iff_forall_not_mem.2 fun ⟨position, target⟩ => hnone position target
      rw [hempty] at hreports
      exact List.forall₂_nil_left_iff.1 hreports
    · rintro position target hposition ⟨hne, htarget, hedge⟩
      refine (sublist_or_sublist hposition htarget hne).resolve_left fun hlater => ?_
      exact hnone position target (mem_broken_iff.2 ⟨hne, hedge, hlater⟩)

/-- Two statements that depend on a third one are in order without a warning, although one of them
    depends on itself as well and the other on a statement that is not there. -/
theorem ofDeps_reports_acyclic :
    (ofDeps 3 #[#[2, 1, 7], #[2, 1], #[]]).warnings ∅ #[⟨0⟩, ⟨1⟩, ⟨2⟩] = [] ∧
      [1, 0].Sublist (ofDeps 3 #[#[2, 1, 7], #[2, 1], #[]]).order.toList ∧
      [2, 1].Sublist (ofDeps 3 #[#[2, 1, 7], #[2, 1], #[]]).order.toList := by
  obtain ⟨_, _, _, _, _, hacyclic⟩ :=
    ofDeps_reports ∅ #[⟨0⟩, ⟨1⟩, ⟨2⟩] #[#[2, 1, 7], #[2, 1], #[]]
  -- Each statement depends on later ones, apart from itself.
  have hlater {position target : Nat}
      (h : DependsOnAnother #[#[2, 1, 7], #[2, 1], #[]] 3 position target) : position < target := by
    obtain ⟨hne, _, hedge⟩ := h
    rcases position with _ | _ | _ | position <;> simp [edges] at hedge <;> omega
  obtain ⟨hnone, horder⟩ := hacyclic fun position hcycle => by
    have hlt := Relation.TransGen.mono (fun _ _ => hlater) _ _ hcycle
    rw [Relation.transGen_eq_self] at hlt
    exact Nat.lt_irrefl _ hlt
  have hdepends (position target : Nat) (hne : target ≠ position) (hlt : target < 3)
      (hedge : target ∈ edges #[#[2, 1, 7], #[2, 1], #[]] position) :
      DependsOnAnother #[#[2, 1, 7], #[2, 1], #[]] 3 position target := ⟨hne, hlt, hedge⟩
  exact ⟨hnone, horder 0 1 (by decide) (hdepends 0 1 (by decide) (by decide) (by decide)),
    horder 1 2 (by decide) (hdepends 1 2 (by decide) (by decide) (by decide))⟩

end Schedule

end Semblance
