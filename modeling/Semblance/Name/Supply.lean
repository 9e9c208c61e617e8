import Std.Data.TreeSet

/-! # The supply of binding names

All bindings that a program declares draw their names from one `NameSupply`, so that no two of them
collide and none shadows a name reserved beforehand.  A name is asked for with a hint: the hint
itself when it is free, and otherwise the hint followed by an underscore and the least positive
number that makes it free.

* `isTaken_reserve`      reserving a name takes it and nothing else
* `fresh?_eq_none_iff`   a name is refused exactly when the hint is absent or empty -/

namespace Semblance

/-- The names already in use. -/
structure NameSupply where
  taken : Std.TreeSet String := ∅

namespace NameSupply

/-- A supply with every name free. -/
def empty : NameSupply := {}

instance : EmptyCollection NameSupply := ⟨empty⟩
instance : Inhabited NameSupply := ⟨empty⟩

/-- Whether the name is in use. -/
def isTaken (names : NameSupply) (name : String) : Bool :=
  names.taken.contains name

/-- Take a name out of the supply without asking whether it was free. -/
def reserve (names : NameSupply) (name : String) : NameSupply :=
  ⟨names.taken.insert name⟩

/-- At first every name is free. -/
@[simp] theorem isTaken_empty (name : String) : empty.isTaken name = false := by
  simp [empty, isTaken]

/-- A name that is taken out is in use, and what was in use stays so. -/
@[simp] theorem isTaken_reserve (names : NameSupply) (name other : String) :
    (names.reserve name).isTaken other = (name == other || names.isTaken other) := by
  rw [Bool.eq_iff_iff]
  simp [isTaken, reserve, Std.TreeSet.contains_insert]

/-- The `n`-th variant of a name. -/
def variant (base : String) (n : Nat) : String :=
  base ++ "_" ++ toString n

/-- The first free variant of `base` from number `n` on, looking at no more than `attempts` of them
    before settling for the next. -/
def firstFreeVariant (names : NameSupply) (base : String) : (attempts n : Nat) → String
  | 0, n => variant base n
  | attempts + 1, n =>
    if names.isTaken (variant base n) then firstFreeVariant names base attempts (n + 1)
    else variant base n

/-- The free name closest to a non-empty hint.  Different numbers give different variants, so one of
    the first `taken.size + 1` variants is free. -/
def pick (names : NameSupply) (hint : String) : String :=
  if names.isTaken hint then names.firstFreeVariant hint names.taken.size 1 else hint

/-- A name for a new binding, and the supply without it.  An absent or empty hint yields none. -/
def fresh? (names : NameSupply) (hint : Option String) : Option (String × NameSupply) :=
  match hint with
  | none => none
  | some hint =>
    if hint.isEmpty then none
    else
      -- Only the name that is handed out becomes taken, not the ones tried before it.
      let name := names.pick hint
      some (name, names.reserve name)

/-- A request is refused for want of a hint, and for no other reason. -/
theorem fresh?_eq_none_iff {names : NameSupply} {hint : Option String} :
    names.fresh? hint = none ↔ hint = none ∨ hint = some "" := by
  cases hint <;> simp [fresh?, String.isEmpty_iff]

/-- What a successful request hands out, and what it leaves. -/
theorem fresh?_eq_some {names names' : NameSupply} {hint : Option String} {name : String}
    (h : names.fresh? hint = some (name, names')) :
    ∃ base, hint = some base ∧ base ≠ "" ∧ name = names.pick base ∧
      names' = names.reserve name := by
  cases hint with
  | none => simp [fresh?] at h
  | some base =>
    simp only [fresh?, String.isEmpty_iff, Option.ite_none_left_eq_some, Option.some.injEq,
      Prod.mk.injEq] at h
    obtain ⟨hne, rfl, rfl⟩ := h
    exact ⟨base, rfl, by simpa using hne, rfl, rfl⟩

end NameSupply

end Semblance
