import Semblance.Program
import Semblance.Proofs.List
import Semblance.Proofs.Schedule.Search

/-!
# Layouts

A layout has every position once: first those that an order mentions, each at its first mention, and
then the others as they are. What an order mentions twice counts once, and what is no position does
not count. So an order that has every position once is its own layout, and a program that is laid
out by it has all statements once, in the order of their positions.

## Key results

- `layout_eq`: what a layout consists of
- `layout_perm`: a layout has every position once
- `layout_of_perm`: a complete order is its own layout
- `body_perm`: the program has all statements
- `sublist_body_iff`: its statements come in the order of their positions
- `layout_body`: how any order lays out a program
-/

namespace Semblance.Program

/-! ### Layouts -/

/-- What there is of a layout after some mentions: a mark for each position that was mentioned, and
    these positions at their first mention. -/
structure Mentioned (count : Nat) (mentions : List Nat) (state : Array Bool × Array Nat) :
    Prop where
  marks : ∀ position : Nat, state.1[position]? =
    if position < count then some (decide (position ∈ mentions)) else none
  front : state.2.toList = (mentions.filter (· < count)).eraseDups

/-- Nothing is marked before the first mention. -/
theorem mentioned_nil (count : Nat) : Mentioned count [] (Array.replicate count false, #[]) where
  marks position := by simp [Array.getElem?_replicate]
  front := rfl

/-- One more mention. -/
theorem Mentioned.mention {count : Nat} {mentions : List Nat} {state : Array Bool × Array Nat}
    (h : Mentioned count mentions state) (position : Nat) :
    Mentioned count (mentions ++ [position]) (place state position) := by
  by_cases hfalse : state.1[position]? = some false
  · -- The position is mentioned for the first time.
    have hunmarked := hfalse
    rw [h.marks, Option.ite_none_right_eq_some, Option.some.injEq, decide_eq_false_iff_not]
      at hunmarked
    obtain ⟨hlt, hnew⟩ := hunmarked
    have hsize := (Array.getElem?_eq_some_iff.1 hfalse).1
    rw [place_new hfalse]
    refine ⟨fun other => ?_, ?_⟩
    · rw [Array.getElem?_setIfInBounds, h.marks]
      by_cases heq : position = other
      · subst heq
        simp [hsize, hlt]
      · simp [heq, Ne.symm heq]
    · rw [Array.toList_push, h.front, List.filter_append, List.filter_cons, if_pos (by simpa),
        List.filter_nil, List.eraseDups_concat, if_neg (by simp [hnew])]
  · have hknown (hlt : position < count) : position ∈ mentions := by
      by_contra hnew
      exact hfalse (by rw [h.marks, if_pos hlt, decide_eq_false hnew])
    rw [place_known hfalse]
    refine ⟨fun other => ?_, ?_⟩
    · rw [h.marks]
      by_cases heq : other = position
      · subst heq
        split
        · next hlt => simp [hknown hlt]
        · rfl
      · simp [heq]
    · rw [h.front, List.filter_append, List.filter_cons, List.filter_nil]
      split
      · next hlt =>
        have hmem := hknown (of_decide_eq_true hlt)
        rw [List.eraseDups_concat, if_pos (List.mem_filter.2 ⟨hmem, hlt⟩)]
      · rw [List.append_nil]

/-- Mentions are made one after the other. -/
theorem Mentioned.foldl {count : Nat} {mentions : List Nat} {state : Array Bool × Array Nat}
    (h : Mentioned count mentions state) (order : List Nat) :
    Mentioned count (mentions ++ order) (order.foldl place state) := by
  induction order generalizing mentions state with
  | nil => rwa [List.append_nil]
  | cons position order ih =>
    rw [List.foldl_cons, List.append_cons]
    exact ih (h.mention position)

/-- A layout consists of the positions that are mentioned, each at its first mention, and of the
    others as they are. -/
theorem layout_eq (count : Nat) (order : List Nat) : layout count order =
    (order.filter (· < count)).eraseDups ++ (List.range count).filter (· ∉ order) := by
  have hplaced := (mentioned_nil count).foldl order
  rw [List.nil_append] at hplaced
  rw [layout]
  simp only
  rw [hplaced.front]
  refine congrArg _ (List.filter_congr fun position hmem => ?_)
  rw [hplaced.marks, if_pos (List.mem_range.1 hmem)]
  simp

/-- A layout has every position once. -/
theorem layout_perm (count : Nat) (order : List Nat) :
    (layout count order).Perm (List.range count) := by
  rw [layout_eq]
  refine (List.perm_ext_iff_of_nodup ?_ List.nodup_range).2 fun position => ?_
  · -- What is left was not mentioned.
    refine List.nodup_append.2 ⟨List.nodup_eraseDups _, List.nodup_range.filter _, ?_⟩
    rintro position hfront _ hrest rfl
    have hmem := (List.mem_filter.1 (List.mem_eraseDups.1 hfront)).1
    simp [hmem] at hrest
  · simp only [List.mem_append, List.mem_eraseDups, List.mem_filter, List.mem_range]
    by_cases hmem : position ∈ order <;> simp [hmem]

/-- A complete order is its own layout. -/
theorem layout_of_perm {count : Nat} {order : List Nat} (h : order.Perm (List.range count)) :
    layout count order = order := by
  have hmem {position : Nat} : position ∈ order ↔ position < count :=
    h.mem_iff.trans List.mem_range
  have hall : order.filter (· < count) = order :=
    List.filter_eq_self.2 fun position hposition => decide_eq_true (hmem.1 hposition)
  have hnone : (List.range count).filter (· ∉ order) = [] :=
    List.filter_eq_nil_iff.2 fun position hposition => by
      simpa using hmem.2 (List.mem_range.1 hposition)
  rw [layout_eq, hall, hnone, List.eraseDups_of_nodup (h.nodup_iff.2 List.nodup_range),
    List.append_nil]

/-! ### Programs -/

variable {arena : Arena} {roots : Array NodeId} {order : List Nat}

/-- Every position of a layout is that of a statement. -/
theorem body_map_some (arena : Arena) (roots : Array NodeId) (order : List Nat) :
    (ofOrder arena roots order).body.map some = (layout roots.size order).map (roots[·]?) := by
  refine List.map_some_filterMap fun position hmem => ?_
  have hlt := List.mem_range.1 ((layout_perm roots.size order).mem_iff.1 hmem)
  rw [Array.getElem?_eq_getElem hlt, Option.isSome_some]

/-- An order in which each position stands once is laid out as it is. -/
theorem body_of_perm (h : order.Perm (List.range roots.size)) :
    (ofOrder arena roots order).body = order.filterMap (roots[·]?) := by
  rw [ofOrder, layout_of_perm h]

/-- The statements in all positions in order are all statements. -/
theorem filterMap_range (roots : Array NodeId) :
    (List.range roots.size).filterMap (roots[·]?) = roots.toList := by
  have hsome : (List.range roots.size).map (roots[·]?) = roots.toList.map some :=
    List.ext_getElem (by simp) (by simp)
  have hmap := congrArg (List.filterMap id) hsome
  rwa [List.filterMap_map, List.filterMap_map, Function.id_comp, Function.id_comp,
    List.filterMap_some] at hmap

/-- The program has all statements. -/
theorem body_perm (h : order.Perm (List.range roots.size)) :
    (ofOrder arena roots order).body.Perm roots.toList := by
  rw [body_of_perm h, ← filterMap_range roots]
  exact h.filterMap _

/-- One statement comes before another if its position does. -/
theorem sublist_body_iff (h : order.Perm (List.range roots.size)) {a b : NodeId} :
    [a, b].Sublist (ofOrder arena roots order).body ↔
      ∃ i j, roots[i]? = some a ∧ roots[j]? = some b ∧ [i, j].Sublist order := by
  rw [body_of_perm h, List.sublist_filterMap_iff]
  constructor
  · rintro ⟨positions, hsub, heq⟩
    have hsome (position : Nat) (hmem : position ∈ positions) :
        roots[position]? = some (roots[position]?.getD default) := by
      have hlt := List.mem_range.1 (h.mem_iff.1 (hsub.subset hmem))
      rw [Array.getElem?_eq_getElem hlt, Option.getD_some]
    -- Every position has a statement, so there are two positions at least.
    rcases positions with _ | ⟨i, _ | ⟨j, positions⟩⟩
    · exact nomatch heq
    · rw [List.filterMap_cons_some (hsome i (by simp))] at heq
      exact nomatch (List.cons.inj heq).2
    · have hi := hsome i (by simp)
      have hj := hsome j (by simp)
      rw [List.filterMap_cons_some hi, List.filterMap_cons_some hj] at heq
      obtain ⟨ha, heq⟩ := List.cons.inj heq
      obtain ⟨hb, _⟩ := List.cons.inj heq
      refine ⟨i, j, ha ▸ hi, hb ▸ hj, .trans ?_ hsub⟩
      exact ((List.nil_sublist positions).cons_cons j).cons_cons i
  · rintro ⟨i, j, hi, hj, hsub⟩
    exact ⟨[i, j], hsub, by simp [hi, hj]⟩

/-- Whatever an order mentions, the body has the statement in every position once, and it has them in
the order of the layout: first the positions that are mentioned, each at its first mention, and then
the others as they were. The order that a schedule of the statements gives is the order of the body.
-/
theorem layout_body (arena : Arena) (roots : Array NodeId) (order : List Nat) :
    (ofOrder arena roots order).body.map some = (layout roots.size order).map (roots[·]?) ∧
      (layout roots.size order).Perm (List.range roots.size) ∧
      layout roots.size order = (order.filter (· < roots.size)).eraseDups ++
        (List.range roots.size).filter (· ∉ order) ∧
      ∀ deps, (ofOrder arena roots (Schedule.ofDeps roots.size deps).order.toList).body.map some =
        (Schedule.ofDeps roots.size deps).order.toList.map (roots[·]?) := by
  refine ⟨body_map_some arena roots order, layout_perm .., layout_eq .., fun deps => ?_⟩
  rw [body_map_some, layout_of_perm (Schedule.order_perm deps roots.size)]

end Semblance.Program
