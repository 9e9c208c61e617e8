import Semblance.Proofs.List
import Semblance.Shape.Properties

/-!
# Property maps as lists of bindings

A property map keeps its entries in an array and the positions of their names in a tree. Whatever was
inserted, the two of them agree, and what can be seen of the map is a list of bindings in which each
name stands once, at the place of its first insertion, with the shape of its last one.

## Key results

- `positions_eq_idxOf?`, `get?_eq_lookup`: a position is a place in the list of names, and looking up a
  name finds what the list of bindings has for it
- `mem_names_insert`, `prefix_names_insert`, `insert_insert`: what one insertion adds
- `names_ofList`, `get?_ofList`: the names in order after a sequence of insertions, and their shapes
- `ofList_refines`: the list, the positions and the look-ups after any sequence of insertions
-/

namespace Semblance.Properties

variable {properties : Properties} {name : String} {shape : ShapeId}

/-! ### A map and its list -/

/-- The position of a name is its place in the list of names. -/
theorem positions_eq_idxOf? (properties : Properties) (name : String) :
    properties.positions[name]? = properties.names.idxOf? name := by
  ext position
  rw [properties.coherent, List.idxOf?_eq_some_iff_of_nodup properties.names_nodup, names_getElem?]

/-- A position is one of an entry. -/
theorem lt_size_of_positions {position : Nat} (h : properties.positions[name]? = some position) :
    position < properties.entries.size := by
  rw [properties.coherent, Option.map_eq_some_iff] at h
  obtain ⟨entry, hentry, _⟩ := h
  exact (Array.getElem?_eq_some_iff.1 hentry).1

/-- Looking up a name finds what the list has for it. -/
theorem get?_eq_lookup (properties : Properties) (name : String) :
    properties.get? name = properties.toList.lookup name := by
  ext shape
  rw [get?_eq_some, List.lookup_eq_some_iff_of_nodup properties.names_nodup]

/-- A name is bound if it is one of the names. -/
theorem isSome_get?_iff : (properties.get? name).isSome ↔ name ∈ properties.names := by
  simp [Option.isSome_iff_exists, get?_eq_some, names]

/-- Each entry holds what is found for its name. -/
theorem toList_map_some (properties : Properties) :
    properties.toList.map (fun binding => (binding.1, some binding.2)) =
      properties.names.map fun name => (name, properties.get? name) := by
  rw [names, List.map_map]
  refine List.map_congr_left fun binding hmem => ?_
  rw [Function.comp_apply, get?_eq_some.2 hmem]

/-! ### One insertion -/

/-- A binding is the new one or was there before. -/
theorem mem_toList_insert {binding : String × ShapeId}
    (h : binding ∈ (properties.insert name shape).toList) :
    binding.2 = shape ∨ binding ∈ properties.toList := by
  obtain ⟨other, held⟩ := binding
  rw [← get?_eq_some, get?_insert] at h
  split at h
  · exact .inl (Option.some.inj h).symm
  · exact .inr (get?_eq_some.1 h)

/-- Binding a name adds this name and no other. -/
theorem mem_names_insert {other : String} :
    other ∈ (properties.insert name shape).names ↔ other = name ∨ other ∈ properties.names := by
  rw [← isSome_get?_iff, get?_insert, ← isSome_get?_iff]
  by_cases hname : name = other
  · simp [hname]
  · simp [hname, Ne.symm hname]

/-- There is a name once one is bound. -/
theorem names_insert_ne_nil (properties : Properties) (name : String) (shape : ShapeId) :
    (properties.insert name shape).names ≠ [] :=
  List.ne_nil_of_mem (mem_names_insert.2 (.inl rfl))

/-- A new name comes after the others, and a name that was bound stays where it is. -/
theorem prefix_names_insert (properties : Properties) (name : String) (shape : ShapeId) :
    properties.names <+: (properties.insert name shape).names := by
  rw [names_insert]
  split
  · exact List.prefix_refl _
  · exact List.prefix_append _ _

/-- A binding that is there already is left alone. -/
theorem insert_of_get? (h : properties.get? name = some shape) :
    properties.insert name shape = properties := by
  obtain ⟨position, hposition, hshape⟩ := Option.bind_eq_some_iff.1 h
  obtain ⟨bound, hbound, rfl⟩ := Option.map_eq_some_iff.1 hshape
  have hsame : properties.entries.modify position (fun entry => (entry.1, bound.2)) =
      properties.entries := by
    refine Array.modify_eq_self fun entry hentry => ?_
    rw [Option.some.inj (hbound.symm.trans hentry)]
  unfold insert
  split
  · next other hother =>
    obtain rfl := Option.some.inj (hposition.symm.trans hother)
    cases properties
    simp only [hsame]
  · next hnone => exact nomatch hnone.symm.trans hposition

/-- Binding a name to what it is bound to changes nothing. -/
theorem insert_insert (properties : Properties) (name : String) (shape : ShapeId) :
    (properties.insert name shape).insert name shape = properties.insert name shape :=
  insert_of_get? (by rw [get?_insert, if_pos rfl])

/-! ### Sequences of insertions -/

/-- The map after a sequence of insertions. -/
def ofList (bindings : List (String × ShapeId)) : Properties :=
  bindings.foldl (fun properties binding => properties.insert binding.1 binding.2) ∅

/-- The last of a list of bindings is bound last. -/
theorem ofList_concat (bindings : List (String × ShapeId)) (binding : String × ShapeId) :
    ofList (bindings ++ [binding]) = (ofList bindings).insert binding.1 binding.2 := by
  rw [ofList, List.foldl_append]
  rfl

/-- Names are listed in the order of their first insertion. -/
theorem names_ofList (bindings : List (String × ShapeId)) :
    (ofList bindings).names = (bindings.map (·.1)).eraseDups := by
  induction bindings using List.reverseRecOn with
  | nil => rfl
  | append_singleton bindings binding ih =>
    have hknown : ((ofList bindings).get? binding.1).isSome ↔ binding.1 ∈ bindings.map (·.1) := by
      rw [isSome_get?_iff, ih, List.mem_eraseDups]
    rw [ofList_concat, names_insert, List.map_append, List.map_singleton, List.eraseDups_concat, ih]
    simp only [hknown]

/-- A name has the shape of its last insertion. -/
theorem get?_ofList (bindings : List (String × ShapeId)) (name : String) :
    (ofList bindings).get? name = bindings.reverse.lookup name := by
  induction bindings using List.reverseRecOn with
  | nil => rfl
  | append_singleton bindings binding ih =>
    rw [ofList_concat, get?_insert, ih, List.reverse_concat, List.lookup_cons]
    by_cases hname : binding.1 = name
    · rw [if_pos hname, beq_iff_eq.2 hname.symm]
    · rw [if_neg hname, beq_false_of_ne (Ne.symm hname)]

/-- **Property maps are lists of bindings.** After any sequence of insertions the list has each name
that was inserted, once, in the order of the first insertions and with the shape of its last one. The
position of a name is its place in the list, and a name that was not inserted has none. Looking up a
name is looking it up in the list, and each position that is found on the way is that of an entry.
-/
theorem ofList_refines (bindings : List (String × ShapeId)) :
    let properties := ofList bindings
    properties.toList.map (fun binding => (binding.1, some binding.2)) =
      (bindings.map (·.1)).eraseDups.map (fun name => (name, bindings.reverse.lookup name)) ∧
    properties.names.Nodup ∧
    ∀ name, properties.positions[name]? = properties.names.idxOf? name ∧
      properties.get? name = properties.toList.lookup name ∧
      ∀ position, properties.positions[name]? = some position → position < properties.entries.size := by
  refine ⟨?_, names_nodup _, fun name =>
    ⟨positions_eq_idxOf? .., get?_eq_lookup .., fun _ => lt_size_of_positions⟩⟩
  rw [toList_map_some, names_ofList]
  exact List.map_congr_left fun name _ => by rw [get?_ofList]

example : (ofList [("b", ⟨1⟩), ("a", ⟨2⟩), ("b", ⟨3⟩)]).toList = [("b", ⟨3⟩), ("a", ⟨2⟩)] := by
  decide +kernel

end Semblance.Properties
