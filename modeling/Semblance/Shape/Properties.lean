import Std.Data.TreeMap

/-! # Property maps

A property map binds names to shapes and lists them in the order in which the names first came up.
Binding a name again changes its shape and leaves its place.  The entries are an array; `positions`
leads from a name to its entry, and the field `coherent` says that it leads nowhere else.

* `get?_insert`          looking up after an insertion
* `names_insert`         a new name goes to the end, a known one stays where it is
* `names_nodup`          no name is listed twice
* `get?_eq_some`         the bindings that are found are those that are listed -/

namespace Semblance

/-- The identity of a shape: its position in the graph that recorded it. -/
structure ShapeId where
  index : Nat
deriving DecidableEq, Repr, Inhabited

/-- Names bound to shapes, in the order of their first binding. -/
structure Properties where
  entries : Array (String × ShapeId) := #[]
  positions : Std.TreeMap String Nat := ∅
  /-- The positions are those of the entries by name. -/
  coherent : ∀ (name : String) (position : Nat), positions[name]? = some position ↔
    entries[position]?.map (·.1) = some name := by simp

namespace Properties

/-- The map that binds no name. -/
def empty : Properties := {}

instance : EmptyCollection Properties := ⟨empty⟩
instance : Inhabited Properties := ⟨empty⟩

/-- The bindings in order. -/
def toList (properties : Properties) : List (String × ShapeId) :=
  properties.entries.toList

/-- The bound names in order. -/
def names (properties : Properties) : List String :=
  properties.toList.map (·.1)

/-- The number of bindings. -/
def size (properties : Properties) : Nat :=
  properties.entries.size

/-- Whether no name is bound. -/
def isEmpty (properties : Properties) : Bool :=
  properties.entries.isEmpty

/-- The shape bound to a name. -/
def get? (properties : Properties) (name : String) : Option ShapeId :=
  properties.positions[name]?.bind fun position =>
    properties.entries[position]?.map (·.2)

/-- Changing the shape of an entry leaves the names where they are. -/
theorem map_fst_modify (entries : Array (String × ShapeId)) (position : Nat) (shape : ShapeId)
    (index : Nat) :
    (entries.modify position fun entry => (entry.1, shape))[index]?.map (·.1) =
      entries[index]?.map (·.1) := by
  rw [Array.getElem?_modify]
  split <;> simp [Function.comp_def]

/-- Bind a name to a shape, in the place of its former binding if there is one and at the end if
    not. -/
def insert (properties : Properties) (name : String) (shape : ShapeId) : Properties :=
  match hfound : properties.positions[name]? with
  | some position =>
    { properties with
      entries := properties.entries.modify position fun entry => (entry.1, shape)
      coherent := fun other index => by rw [map_fst_modify]; exact properties.coherent other index }
  | none =>
    { entries := properties.entries.push (name, shape)
      positions := properties.positions.insert name properties.entries.size
      coherent := fun other index => by
        have hknown := properties.coherent other index
        simp only [Std.TreeMap.getElem?_insert, Std.LawfulEqCmp.compare_eq_iff_eq,
          Array.getElem?_push]
        by_cases hlast : index = properties.entries.size
        · have hne : properties.positions[other]? ≠ some index := by
            rw [Ne, hknown, hlast]
            simp
          by_cases heq : name = other
          · simp [heq, hlast]
          · simpa [heq, hlast] using hlast ▸ hne
        · by_cases heq : name = other
          · subst heq
            simp [hlast, ← hknown, hfound, Ne.symm hlast]
          · simpa [heq, hlast] using hknown }

/-- A known name keeps its position, and a new one is given the position after the others. -/
theorem positions_insert (properties : Properties) (name : String) (shape : ShapeId)
    (other : String) :
    (properties.insert name shape).positions[other]? =
      if name = other then some (properties.positions[name]?.getD properties.entries.size)
      else properties.positions[other]? := by
  unfold insert
  split
  · next position hfound => by_cases heq : name = other <;> simp_all
  · next hnone => simp [Std.TreeMap.getElem?_insert, hnone]

/-- The name is bound to the shape, and the other names are bound as before. -/
theorem get?_insert (properties : Properties) (name other : String) (shape : ShapeId) :
    (properties.insert name shape).get? other =
      if name = other then some shape else properties.get? other := by
  unfold get?
  rw [positions_insert]
  by_cases heq : name = other
  · subst heq
    simp only [if_true]
    unfold insert
    split
    · next position hfound =>
      obtain ⟨entry, hentry, _⟩ :=
        Option.map_eq_some_iff.1 ((properties.coherent name position).1 hfound)
      simp [hfound, Array.getElem?_modify, hentry]
    · next hnone => simp [hnone]
  · simp only [heq, if_false]
    cases hplace : properties.positions[other]? with
    | none => rfl
    | some index =>
      have hlisted := (properties.coherent other index).1 hplace
      unfold insert
      split
      · next position hfound =>
        have hindex : position ≠ index := by
          rintro rfl
          rw [(properties.coherent name position).1 hfound] at hlisted
          exact heq (Option.some.inj hlisted)
        simp [Array.getElem?_modify, hindex]
      · next hnone =>
        have hindex : index ≠ properties.entries.size := by
          rintro rfl
          simp at hlisted
        simp [Array.getElem?_push, hindex]

/-- A new name goes to the end, and a known one stays where it is. -/
theorem names_insert (properties : Properties) (name : String) (shape : ShapeId) :
    (properties.insert name shape).names =
      if (properties.get? name).isSome then properties.names else properties.names ++ [name] := by
  have hplace := properties.coherent name
  unfold names toList get? insert
  split
  · next position hfound =>
    have hbound := (hplace position).1 hfound
    have hsome : properties.entries[position]?.isSome = true := by
      obtain ⟨entry, hentry, _⟩ := Option.map_eq_some_iff.1 hbound
      simp [hentry]
    simp only [hfound, Option.bind_some, Option.isSome_map, hsome, if_true]
    apply List.ext_getElem?
    intro index
    simp only [List.getElem?_map, Array.getElem?_toList]
    exact map_fst_modify properties.entries position shape index
  · next hnone => simp [hnone]

/-- The bindings that are found are those that are listed. -/
theorem get?_eq_some {properties : Properties} {name : String} {shape : ShapeId} :
    properties.get? name = some shape ↔ (name, shape) ∈ properties.toList := by
  have hplace := properties.coherent name
  simp only [get?, toList, Option.bind_eq_some_iff, Option.map_eq_some_iff, Array.mem_toList_iff,
    Array.mem_iff_getElem?]
  constructor
  · rintro ⟨position, hfound, ⟨other, _⟩, hentry, rfl⟩
    have hname := (hplace position).1 hfound
    exact ⟨position, by simp_all⟩
  · rintro ⟨position, hentry⟩
    exact ⟨position, (hplace position).2 (by simp [hentry]), _, hentry, rfl⟩

/-- A name is listed where its position says. -/
theorem names_getElem? (properties : Properties) (position : Nat) :
    properties.names[position]? = properties.entries[position]?.map (·.1) := by
  simp [names, toList]

/-- No name is listed twice, since a name has one position. -/
theorem names_nodup (properties : Properties) : properties.names.Nodup := by
  refine List.pairwise_iff_getElem.2 fun first second hfirst hsecond hlt heq => ?_
  have hplaced (index : Nat) (hindex : index < properties.names.length) :
      properties.positions[properties.names[index]]? = some index :=
    (properties.coherent _ index).2 (by rw [← names_getElem?, List.getElem?_eq_getElem hindex])
  have hsame := hplaced first hfirst
  rw [heq, hplaced second hsecond] at hsame
  simp only [Option.some.injEq] at hsame
  omega

end Properties

end Semblance
