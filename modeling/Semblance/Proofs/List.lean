import Mathlib.Data.List.Forall2
import Mathlib.Data.List.Induction
import Mathlib.Data.List.Nodup

/-!
# Lists and arrays

`List.eraseDups` keeps each entry of a list at its first mention. Seen from the end of the list, an
entry counts if it was not mentioned before. `List.Forall₂` says that one list stands for another
one, entry by entry.

## Key results

- `eraseDups_concat`: what one more entry adds
- `nodup_eraseDups`: no entry is kept twice
- `eraseDups_of_nodup`, `eraseDups_append_of_subset`: what is left out, and what is not
- `idxOf?_eq_some_iff_of_nodup`, `lookup_eq_some_iff_of_nodup`: what is there once is found
- `Array.modify_eq_self`: a change without an effect
- `forall₂_of_mapM_eq_some`, `exists_of_mapM_eq_none`: what becomes of the entries, and when nothing
  does
- `forall₂_filter_filterMap`: what is picked out of two lists, one of which stands for the other
-/

namespace List

variable {α : Type u} {β : Type v}

section
variable [DecidableEq α]

/-- One more entry counts if it is new. -/
theorem eraseDups_concat (entries : List α) (entry : α) :
    (entries ++ [entry]).eraseDups =
      if entry ∈ entries then entries.eraseDups else entries.eraseDups ++ [entry] := by
  rw [eraseDups_append]
  split
  · next hmem => simp [removeAll, hmem]
  · next hnew => simp [removeAll, hnew, eraseDups_cons]

/-- No entry is left twice. -/
theorem nodup_eraseDups (entries : List α) : entries.eraseDups.Nodup := by
  induction entries using List.reverseRecOn with
  | nil => exact nodup_nil
  | append_singleton entries entry ih =>
    rw [eraseDups_concat]
    split
    · exact ih
    · next hnew =>
      rw [← concat_eq_append, nodup_concat]
      exact ⟨fun hmem => hnew (mem_eraseDups.1 hmem), ih⟩

/-- Where there are no duplicates, none are erased. -/
theorem eraseDups_of_nodup {entries : List α} (h : entries.Nodup) :
    entries.eraseDups = entries := by
  induction entries using List.reverseRecOn with
  | nil => rfl
  | append_singleton entries entry ih =>
    rw [← concat_eq_append, nodup_concat] at h
    obtain ⟨hnew, hnodup⟩ := h
    rw [eraseDups_concat, if_neg hnew, ih hnodup]

/-- Erasing duplicates again changes nothing. -/
theorem eraseDups_eraseDups (entries : List α) : entries.eraseDups.eraseDups = entries.eraseDups :=
  eraseDups_of_nodup (nodup_eraseDups entries)

/-- Entries that were all mentioned before do not count. -/
theorem eraseDups_append_of_subset {entries more : List α} (h : more ⊆ entries) :
    (entries ++ more).eraseDups = entries.eraseDups := by
  have hnone : more.removeAll entries = [] := by
    rw [removeAll, filter_eq_nil_iff]
    intro entry hmem
    simpa using h hmem
  rw [eraseDups_append, hnone, eraseDups_nil, append_nil]

/-- What was left out before does not count. -/
theorem eraseDups_eraseDups_append (entries more : List α) :
    (entries.eraseDups ++ more).eraseDups = (entries ++ more).eraseDups := by
  have hsame : more.removeAll entries.eraseDups = more.removeAll entries := by simp [removeAll]
  rw [eraseDups_append, eraseDups_eraseDups, hsame, eraseDups_append]

/-- An entry that is there once is found where it is. -/
theorem idxOf?_eq_some_iff_of_nodup {entries : List α} (h : entries.Nodup) {entry : α}
    {position : Nat} : entries.idxOf? entry = some position ↔ entries[position]? = some entry := by
  rw [idxOf?_eq_some_iff, getElem?_eq_some_iff]
  constructor
  · rintro ⟨hlt, heq, _⟩
    exact ⟨hlt, heq⟩
  · rintro ⟨hlt, heq⟩
    refine ⟨hlt, heq, fun other hother hsame => ?_⟩
    have hposition := (h.getElem_inj_iff).1 (hsame.trans heq.symm)
    omega

/-- A key that is there once is found with its value. -/
theorem lookup_eq_some_iff_of_nodup {entries : List (α × β)} (h : (entries.map (·.1)).Nodup) {key : α}
    {value : β} : entries.lookup key = some value ↔ (key, value) ∈ entries := by
  have hmem {value : β} (h : entries.lookup key = some value) : (key, value) ∈ entries := by
    obtain ⟨front, back, rfl, _⟩ := lookup_eq_some_iff.1 h
    exact mem_append_right _ mem_cons_self
  refine ⟨hmem, fun hentry => ?_⟩
  have hsome : (entries.lookup key).isSome := lookup_isSome_iff.2 ⟨_, hentry, beq_self_eq_true key⟩
  obtain ⟨found, hfound⟩ := Option.isSome_iff_exists.1 hsome
  cases inj_on_of_nodup_map h (hmem hfound) hentry rfl
  exact hfound

end

/-- The result for one more entry comes last, if there is one. -/
theorem filterMap_concat (f : α → Option β) (entries : List α) (entry : α) :
    (entries ++ [entry]).filterMap f = entries.filterMap f ++ (f entry).toList := by
  rw [filterMap_append]
  cases hentry : f entry with
  | none => rw [filterMap_cons_none hentry, filterMap_nil, Option.toList_none]
  | some value => rw [filterMap_cons_some hentry, filterMap_nil, Option.toList_some]

/-- Entries that are all mapped stay in their places. -/
theorem map_some_filterMap {f : α → Option β} {entries : List α}
    (h : ∀ entry ∈ entries, (f entry).isSome) : (entries.filterMap f).map some = entries.map f := by
  induction entries with
  | nil => rfl
  | cons entry entries ih =>
    obtain ⟨value, hvalue⟩ := Option.isSome_iff_exists.1 (h entry mem_cons_self)
    rw [filterMap_cons_some hvalue, map_cons, map_cons, hvalue,
      ih fun other hmem => h other (mem_cons_of_mem _ hmem)]

end List

/-- A change that leaves an entry as it is leaves the array as it is. -/
theorem Array.modify_eq_self {α : Type u} {entries : Array α} {position : Nat} {change : α → α}
    (h : ∀ entry, entries[position]? = some entry → change entry = entry) :
    entries.modify position change = entries := by
  refine Array.ext_getElem? fun index => ?_
  rw [Array.getElem?_modify]
  split
  · next heq =>
    subst heq
    cases hentry : entries[position]? with
    | none => rfl
    | some entry => rw [Option.map_some, h entry hentry]
  · rfl

namespace Semblance

/-! ### Lists that stand for each other -/

/-- What one list has stands for what the other one has. -/
theorem exists_of_forall₂ {r : α → β → Prop} {as : List α} {bs : List β} (h : List.Forall₂ r as bs)
    {b : β} (hmem : b ∈ bs) : ∃ a ∈ as, r a b := by
  induction h with
  | nil => cases hmem
  | cons hr _ ih =>
    rcases List.mem_cons.1 hmem with rfl | hmem
    · exact ⟨_, List.mem_cons_self, hr⟩
    · obtain ⟨a, ha, hr⟩ := ih hmem
      exact ⟨a, List.mem_cons_of_mem _ ha, hr⟩

/-- If there is a result for all items, it is that of each item in its place. -/
theorem forall₂_of_mapM_eq_some {f : α → Option β} {items : List α} {results : List β}
    (h : items.mapM f = some results) :
    List.Forall₂ (fun item result => f item = some result) items results := by
  induction items generalizing results with
  | nil =>
    obtain rfl : [] = results := Option.some.inj h
    exact .nil
  | cons item items ih =>
    rw [List.mapM_cons] at h
    obtain ⟨first, hfirst, h⟩ := Option.bind_eq_some_iff.1 h
    obtain ⟨rest, hrest, h⟩ := Option.bind_eq_some_iff.1 h
    obtain rfl : first :: rest = results := Option.some.inj h
    exact .cons hfirst (ih hrest)

/-- If there is no result, some item has none. -/
theorem exists_of_mapM_eq_none {f : α → Option β} {items : List α} (h : items.mapM f = none) :
    ∃ item ∈ items, f item = none := by
  induction items with
  | nil => cases h
  | cons item items ih =>
    cases hitem : f item with
    | none => exact ⟨item, List.mem_cons_self, hitem⟩
    | some first =>
      rw [List.mapM_cons, hitem] at h
      cases hrest : items.mapM f with
      | none =>
        -- The first item has a result, so one of the others has none.
        obtain ⟨other, hmem, hother⟩ := ih hrest
        exact ⟨other, List.mem_cons_of_mem _ hmem, hother⟩
      | some rest =>
        rw [hrest] at h
        cases h

open scoped Classical in
/-- Where one list stands for the other one, what is picked out of the first one stands for what is
    picked out of the second one. -/
theorem forall₂_filter_filterMap {r : α → β → Prop} {p : α → Prop} {f : β → Option γ} {as : List α}
    {bs : List β} (h : List.Forall₂ r as bs) (hpick : ∀ a b, r a b → (p a ↔ (f b).isSome)) :
    List.Forall₂ (fun a c => ∃ b, r a b ∧ f b = some c) (as.filter fun a => p a)
      (bs.filterMap f) := by
  induction h with
  | nil => exact .nil
  | @cons a b as bs hr _ ih =>
    cases hb : f b with
    | none =>
      have hnot : ¬ p a := by rw [hpick a b hr, hb]; exact Bool.false_ne_true
      rwa [List.filterMap_cons_none hb, List.filter_cons_of_neg (by simpa using hnot)]
    | some c =>
      have hp : p a := by rw [hpick a b hr, hb]; rfl
      rw [List.filterMap_cons_some hb, List.filter_cons_of_pos (by simpa using hp)]
      exact .cons ⟨b, hr, hb⟩ ih

end Semblance
