import Std.Data.String.ToNat
import Semblance.Name.Supply

/-!
# Freshness of drawn names

A name that is drawn from a supply was free before. The search for a free variant stops after as
many attempts as there are names in use, and it cannot have met a taken variant each time: the
variants of a name are distinct, so that one of the first `taken.size + 1` of them is free. So what
the search ends at is the first variant that is free.

## Key results

- `variant_injective`: different numbers give different variants
- `length_le_taken`: no more names are taken than there are names in use
- `pick_closest`: the picked name is the hint or its first free variant
- `isTaken_pick`: the picked name is free
- `fresh_follows`: a drawn name is its hint or a variant of it
- `isTaken_fresh`, `fresh_isTaken_iff`: what drawing a name does to a supply
-/

namespace Semblance.NameSupply

/-- The variants of a name are told apart by their numbers. -/
theorem variant_injective {base : String} {m n : Nat} (h : variant base m = variant base n) :
    m = n := by
  simp only [variant] at h
  exact Nat.repr_injective ((String.append_right_inj _).1 h)

/-- No more names are taken than there are names in use. -/
theorem length_le_taken {names : NameSupply} {taken : List String} (hnodup : taken.Nodup)
    (h : ∀ name ∈ taken, names.isTaken name = true) : taken.length ≤ names.taken.size := by
  rw [← Std.TreeSet.length_toList]
  refine hnodup.length_le_of_subset fun name hname => ?_
  rw [Std.TreeSet.mem_toList, Std.TreeSet.mem_iff_contains]
  exact h name hname

/-- The search ends at a variant with only taken ones before it. That is a free variant, unless the
    attempts are used up. -/
theorem firstFreeVariant_search (names : NameSupply) (base : String) (attempts n : Nat) :
    ∃ m, names.firstFreeVariant base attempts n = variant base m ∧ n ≤ m ∧
      (∀ i, n ≤ i → i < m → names.isTaken (variant base i) = true) ∧
      (names.isTaken (variant base m) = true → m = n + attempts) := by
  induction attempts generalizing n with
  | zero =>
    exact ⟨n, rfl, Nat.le_refl n, fun i hle hlt => absurd hle (Nat.not_le.2 hlt), fun _ => rfl⟩
  | succ attempts ih =>
    rw [firstFreeVariant]
    split
    · next htaken =>
      obtain ⟨m, heq, hle, hbefore, hlast⟩ := ih (n + 1)
      refine ⟨m, heq, by omega, fun i hi hlt => ?_, fun h => by rw [hlast h]; omega⟩
      -- The variant that was just tried is taken, and so are those tried later.
      rcases Nat.eq_or_lt_of_le hi with rfl | hi
      · exact htaken
      · exact hbefore i hi hlt
    · next hfree =>
      exact ⟨n, rfl, Nat.le_refl n, fun i hle hlt => absurd hle (Nat.not_le.2 hlt),
        fun htaken => absurd htaken hfree⟩

/-- One of the first `taken.size + 1` variants is free, and the search ends at the first one. -/
theorem firstFreeVariant_closest (names : NameSupply) (base : String) :
    ∃ n, names.firstFreeVariant base names.taken.size 1 = variant base n ∧ 1 ≤ n ∧
      names.isTaken (variant base n) = false ∧
      ∀ m, 1 ≤ m → m < n → names.isTaken (variant base m) = true := by
  obtain ⟨n, heq, hle, hbefore, hlast⟩ := names.firstFreeVariant_search base names.taken.size 1
  refine ⟨n, heq, hle, Bool.eq_false_iff.2 fun htaken => ?_, hbefore⟩
  -- All these variants are names in use, and there are more of them than names in use.
  have hcount := hlast htaken
  have hnodup : ((List.range n).map fun i => variant base (1 + i)).Nodup :=
    List.Pairwise.map _ (fun i j hij hne => hij (Nat.add_left_cancel (variant_injective hne)))
      List.nodup_range
  have hlength := length_le_taken hnodup fun name hname => by
    obtain ⟨i, hi, rfl⟩ := List.mem_map.1 hname
    rw [List.mem_range] at hi
    rcases Nat.eq_or_lt_of_le (show 1 + i ≤ n by omega) with rfl | hlt
    · exact htaken
    · exact hbefore (1 + i) (by omega) hlt
  rw [List.length_map, List.length_range] at hlength
  omega

/-- The name closest to a hint is the hint itself if it is free, and otherwise the first variant of
    it that is free. -/
inductive Closest (names : NameSupply) (base : String) : String → Prop where
  | hint : names.isTaken base = false → Closest names base base
  | variant {n : Nat} : names.isTaken base = true → 1 ≤ n →
      names.isTaken (variant base n) = false →
      (∀ m, 1 ≤ m → m < n → names.isTaken (NameSupply.variant base m) = true) →
      Closest names base (variant base n)

/-- The search for a free name gives the closest one. -/
theorem pick_closest (names : NameSupply) (hint : String) :
    names.Closest hint (names.pick hint) := by
  unfold pick
  split
  · next htaken =>
    obtain ⟨n, heq, hle, hfree, hbefore⟩ := names.firstFreeVariant_closest hint
    rw [heq]
    exact .variant htaken hle hfree hbefore
  · next hfree => exact .hint (Bool.eq_false_iff.2 hfree)

/-- The closest name is free. -/
theorem Closest.isTaken {names : NameSupply} {base name : String} (h : names.Closest base name) :
    names.isTaken name = false := by
  cases h with
  | hint hfree => exact hfree
  | variant _ _ hfree _ => exact hfree

/-- The picked name is free. -/
theorem isTaken_pick (names : NameSupply) (hint : String) :
    names.isTaken (names.pick hint) = false :=
  (names.pick_closest hint).isTaken

/-- The name is the hint or a variant of it. -/
def Follows (name hint : String) : Prop :=
  name = hint ∨ ∃ n, name = variant hint n

/-- The closest name is the hint or a variant of it. -/
theorem Closest.follows {names : NameSupply} {base name : String} (h : names.Closest base name) :
    Follows name base := by
  cases h with
  | hint _ => exact .inl rfl
  | @variant n _ _ _ _ => exact .inr ⟨n, rfl⟩

/-- The name that is picked is the hint or a variant of it. -/
theorem pick_follows (names : NameSupply) (hint : String) : Follows (names.pick hint) hint :=
  (names.pick_closest hint).follows

/-- A drawn name follows its hint. -/
theorem fresh_follows {names names' : NameSupply} {hint : Option String} {name : String}
    (h : names.fresh? hint = some (name, names')) :
    ∃ base, hint = some base ∧ Follows name base := by
  obtain ⟨base, hbase, _, rfl, _⟩ := fresh?_eq_some h
  exact ⟨base, hbase, pick_follows names base⟩

/-- A drawn name was free. -/
theorem isTaken_fresh {names names' : NameSupply} {hint : Option String} {name : String}
    (h : names.fresh? hint = some (name, names')) : names.isTaken name = false := by
  obtain ⟨base, _, _, rfl, _⟩ := fresh?_eq_some h
  exact isTaken_pick names base

/-- Drawing a name takes it and nothing else. -/
theorem fresh_isTaken_iff {names names' : NameSupply} {hint : Option String} {name : String}
    (h : names.fresh? hint = some (name, names')) (other : String) :
    names'.isTaken other = true ↔ other = name ∨ names.isTaken other = true := by
  obtain ⟨_, _, _, _, rfl⟩ := fresh?_eq_some h
  rw [isTaken_reserve, Bool.or_eq_true, beq_iff_eq, eq_comm]

end Semblance.NameSupply
