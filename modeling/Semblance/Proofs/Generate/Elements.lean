import Semblance.Generate.Aggregate
import Semblance.Proofs.List
import Semblance.Proofs.Name.Index

/-!
# The elements of arrays

An array that is rebuilt as a literal has an element for each of its properties, in the place that the
name of the property is the numeral of. So the properties can be read off the elements, and no two of
them are in one place.

## Key results

- `forall₂_elements?`: there is one element for each property
- `properties_of_elements?`: the properties are found from the elements
- `nodup_of_elements?`, `nodup_indices`: no two elements have one index
- `elements_numbered`: which names have an index, and what this means for the elements
-/

namespace Semblance.Gen

variable {entries : Aggregate} {elements : List (Nat × ShapeId)}

/-- There is one element for each property, and none lies too far out. -/
theorem forall₂_elements? (h : entries.elements? = some elements) :
    List.Forall₂ (fun binding element => arrayIndex? binding.1 = some element.1 ∧
      element.1 ≤ maxDenseIndex ∧ element.2 = binding.2) entries.properties.toList elements := by
  refine (forall₂_of_mapM_eq_some h).imp ?_
  rintro ⟨name, shape⟩ element helement
  obtain ⟨index, hname, hindex⟩ := Option.bind_eq_some_iff.1 helement
  rw [Option.ite_none_right_eq_some] at hindex
  obtain rfl := Option.some.inj hindex.2
  exact ⟨hname, hindex.1, rfl⟩

/-- The name of each element is the numeral of its index. -/
theorem properties_of_elements? (h : entries.elements? = some elements) :
    entries.properties.toList = elements.map fun element => (toString element.1, element.2) := by
  rw [← List.forall₂_eq_eq_eq, List.forall₂_map_right_iff]
  refine (forall₂_elements? h).imp fun binding element hbinding => ?_
  obtain ⟨hname, _, hshape⟩ := hbinding
  exact Prod.ext (arrayIndex?_eq_some_iff.1 hname).2 hshape.symm

/-- No two elements have one index. -/
theorem nodup_of_elements? (h : entries.elements? = some elements) : (elements.map (·.1)).Nodup := by
  -- Elements with one index would have one name.
  have hnames : (elements.map fun element => toString element.1).Nodup := by
    have hnodup := entries.properties.names_nodup
    rwa [Properties.names, properties_of_elements? h, List.map_map] at hnodup
  apply List.Nodup.of_map toString
  rwa [List.map_map]

/-- An array has one element for an index. -/
theorem eq_of_elements? (h : entries.elements? = some elements) {element other : Nat × ShapeId}
    (hmem : element ∈ elements) (hother : other ∈ elements) (heq : other.1 = element.1) :
    other = element :=
  List.inj_on_of_nodup_map (nodup_of_elements? h) hother hmem heq

/-- The indices of properties are told apart, whatever other properties there are. -/
theorem nodup_indices (properties : Properties) : (properties.names.filterMap arrayIndex?).Nodup :=
  properties.names_nodup.filterMap fun _ _ _ => arrayIndex?_inj

/-- **Array indices are printed numbers.** A name has an index if it is the decimal numeral of a
    number below 2³², and the number is the index then. So no two properties of an array have one
    index. An array that is rebuilt as a literal has an element for each property, in a place of its
    own, from which the name can be read off. -/
theorem elements_numbered (name : String) (index : Nat) (entries : Aggregate) :
    (arrayIndex? name = some index ↔ index < 4294967296 ∧ name = toString index) ∧
      (entries.properties.names.filterMap arrayIndex?).Nodup ∧
      ∀ elements, entries.elements? = some elements →
        entries.properties.toList = elements.map (fun element => (toString element.1, element.2)) ∧
          (elements.map (·.1)).Nodup :=
  ⟨arrayIndex?_eq_some_iff, nodup_indices _,
    fun _ h => ⟨properties_of_elements? h, nodup_of_elements? h⟩⟩

end Semblance.Gen
