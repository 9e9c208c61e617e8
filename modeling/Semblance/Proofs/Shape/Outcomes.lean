import Semblance.Proofs.Shape.Properties
import Semblance.Shape.Record

/-!
# What observations come to

A slot holds one shape or a union of several, and what a shape contributes to a union is the shape
itself or its members. When a slot is widened, the contributions of what it holds and of what is
observed are put together, each shape at its first mention. What the slot holds is kept if it covers
this already.

## Key results

- `foldl_addMember_eraseDups`: members are added as they are first mentioned
- `widen_eq_ok`, `widen_of_covers`, `widen_of_not_covers`: what comes of widening
- `fill_eq_ok`: what a slot holds once a value is observed in it
- `addProperty_eq_ok`: what comes of an observed property
-/

namespace Semblance

namespace ShapeGraph

variable {graph graph' : ShapeGraph} {id existing incoming held : ShapeId}

/-! ### Contributions -/

/-- What a shape contributes to a union: the members of a union, and otherwise the shape itself. -/
def contribution (graph : ShapeGraph) (id : ShapeId) : List ShapeId :=
  match graph.shape? id with
  | some (.union members) => members
  | _ => [id]

/-- A known shape is flattened to what it contributes. -/
theorem flatten_eq_ok_iff {ids : List ShapeId} :
    graph.flatten id = .ok ids ↔ (graph.shape? id).isSome ∧ ids = graph.contribution id := by
  rw [flatten, bind_eq_ok, contribution]
  constructor
  · rintro ⟨shape, hshape, hids⟩
    rw [shape_eq_ok.1 hshape]
    cases shape <;> exact ⟨rfl, (Except.ok.inj hids).symm⟩
  · rintro ⟨hknown, rfl⟩
    obtain ⟨shape, hshape⟩ := Option.isSome_iff_exists.1 hknown
    refine ⟨shape, shape_eq_ok.2 hshape, ?_⟩
    rw [hshape]
    cases shape <;> rfl

/-- A known shape adds what it contributes to the members, each once. -/
theorem absorb_eq_ok {members members' : List ShapeId} :
    graph.absorb members id = .ok members' ↔
      (graph.shape? id).isSome ∧ members' = (graph.contribution id).foldl addMember members := by
  rw [absorb, bind_eq_ok]
  constructor
  · rintro ⟨ids, hids, hmembers⟩
    obtain ⟨hknown, rfl⟩ := flatten_eq_ok_iff.1 hids
    exact ⟨hknown, (Except.ok.inj hmembers).symm⟩
  · rintro ⟨hknown, rfl⟩
    exact ⟨_, flatten_eq_ok_iff.2 ⟨hknown, rfl⟩, rfl⟩

/-- Members are added as they are first mentioned. -/
theorem foldl_addMember_eraseDups (members ids : List ShapeId) :
    ids.foldl addMember members.eraseDups = (members ++ ids).eraseDups := by
  induction ids generalizing members with
  | nil => rw [List.foldl_nil, List.append_nil]
  | cons id ids ih =>
    have hadd : addMember members.eraseDups id = (members ++ [id]).eraseDups := by
      rw [List.eraseDups_concat, addMember]
      simp [List.mem_eraseDups]
    rw [List.foldl_cons, hadd, ih, ← List.append_cons]

/-- Adding shapes one by one keeps each at its first mention. -/
theorem foldl_addMember_nil (ids : List ShapeId) : ids.foldl addMember [] = ids.eraseDups :=
  foldl_addMember_eraseDups [] ids

/-! ### Widening -/

/-- What two shapes contribute, each shape at its first mention. -/
def joined (graph : ShapeGraph) (existing incoming : ShapeId) : List ShapeId :=
  (graph.contribution existing ++ graph.contribution incoming).eraseDups

/-- A shape needs no widening: it is the other one, or a union of all that both contribute. -/
def Covers (graph : ShapeGraph) (existing incoming : ShapeId) : Prop :=
  existing = incoming ∨ graph.shape? existing = some (.union (graph.joined existing incoming))

/-- Widening looks at both shapes, unless they are the same. -/
theorem widen_of_ne (hne : existing ≠ incoming) {shape : Shape}
    (hexisting : graph.shape? existing = some shape) (hincoming : (graph.shape? incoming).isSome) :
    graph.widen existing incoming =
      match shape with
      | .union former =>
        if former = graph.joined existing incoming then .ok (existing, graph)
        else .ok (graph.alloc (.union (graph.joined existing incoming)))
      | _ => .ok (graph.alloc (.union (graph.joined existing incoming))) := by
  have hfirst : graph.absorb [] existing = .ok (graph.contribution existing).eraseDups :=
    absorb_eq_ok.2 ⟨by rw [hexisting, Option.isSome_some], (foldl_addMember_nil _).symm⟩
  have hsecond : graph.absorb (graph.contribution existing).eraseDups incoming =
      .ok (graph.joined existing incoming) :=
    absorb_eq_ok.2 ⟨hincoming, (foldl_addMember_eraseDups _ _).symm⟩
  rw [widen, if_neg hne, hfirst]
  simp only [bind, Except.bind, hsecond, shape_eq_ok.2 hexisting]
  cases shape <;> rfl

/-- A shape that covers what is observed is kept. -/
theorem widen_of_covers (h : graph.Covers existing incoming)
    (hincoming : (graph.shape? incoming).isSome) :
    graph.widen existing incoming = .ok (existing, graph) := by
  by_cases heq : existing = incoming
  · rw [widen, if_pos heq]
    rfl
  · rw [widen_of_ne heq (h.resolve_left heq) hincoming]
    exact if_pos rfl

/-- Any other shape gives way to a new union. -/
theorem widen_of_not_covers (h : ¬ graph.Covers existing incoming)
    (hexisting : (graph.shape? existing).isSome) (hincoming : (graph.shape? incoming).isSome) :
    graph.widen existing incoming =
      .ok (graph.alloc (.union (graph.joined existing incoming))) := by
  obtain ⟨hne, hunion⟩ := not_or.1 h
  obtain ⟨shape, hshape⟩ := Option.isSome_iff_exists.1 hexisting
  rw [widen_of_ne hne hshape hincoming]
  cases shape with
  | union former =>
    refine if_neg fun heq => hunion ?_
    rw [hshape, heq]
  | _ => rfl

/-- A slot that holds enough stays as it is, and otherwise it gets a new union of all that both
    shapes contribute. -/
theorem widen_eq_ok (h : graph.widen existing incoming = .ok (held, graph')) :
    (graph.Covers existing incoming ∧ held = existing ∧ graph' = graph) ∨
      ((graph.shape? existing).isSome ∧ (graph.shape? incoming).isSome ∧
        held = (graph.alloc (.union (graph.joined existing incoming))).1 ∧
        graph' = (graph.alloc (.union (graph.joined existing incoming))).2) := by
  by_cases heq : existing = incoming
  · rw [widen, if_pos heq] at h
    cases h
    exact .inl ⟨.inl heq, rfl, rfl⟩
  · -- The shapes were looked up, so they are known.
    have hlooked := h
    rw [widen, if_neg heq] at hlooked
    obtain ⟨members, hfirst, hlooked⟩ := bind_eq_ok.1 hlooked
    obtain ⟨_, hsecond, _⟩ := bind_eq_ok.1 hlooked
    obtain ⟨hexisting, _⟩ := absorb_eq_ok.1 hfirst
    obtain ⟨hincoming, _⟩ := absorb_eq_ok.1 hsecond
    by_cases hcovers : graph.Covers existing incoming
    · rw [widen_of_covers hcovers hincoming] at h
      cases h
      exact .inl ⟨hcovers, rfl, rfl⟩
    · rw [widen_of_not_covers hcovers hexisting hincoming] at h
      have hnew := (Except.ok.inj h).symm
      exact .inr ⟨hexisting, hincoming, congrArg Prod.fst hnew, congrArg Prod.snd hnew⟩

/-! ### Properties -/

/-- What a slot holds once a value is observed in it. -/
def fill (graph : ShapeGraph) (slot : Option ShapeId) (value : ShapeId) :
    Except OutOfRange (ShapeId × ShapeGraph) :=
  match slot with
  | some existing => graph.widen existing value
  | none => pure (value, graph)

/-- An empty slot takes the value, a slot that covers it is left alone, and any other slot is
    widened. -/
theorem fill_eq_ok {slot : Option ShapeId} {value : ShapeId}
    (h : graph.fill slot value = .ok (held, graph')) :
    (slot = none ∧ held = value ∧ graph' = graph) ∨
      (slot = some held ∧ graph.Covers held value ∧ graph' = graph) ∨
      ∃ existing, slot = some existing ∧ (graph.shape? existing).isSome ∧
        (graph.shape? value).isSome ∧
        held = (graph.alloc (.union (graph.joined existing value))).1 ∧
        graph' = (graph.alloc (.union (graph.joined existing value))).2 := by
  cases slot with
  | none =>
    cases h
    exact .inl ⟨rfl, rfl, rfl⟩
  | some existing =>
    obtain ⟨hcovers, rfl, rfl⟩ | ⟨hexisting, hvalue, hnew⟩ := widen_eq_ok h
    · exact .inr (.inl ⟨rfl, hcovers, rfl⟩)
    · exact .inr (.inr ⟨existing, rfl, hexisting, hvalue, hnew⟩)

variable {owner value : ShapeId} {name : String} {shape : Shape} {properties : Properties}

/-- A shape without properties takes none, and the graph stays as it is. -/
theorem addProperty_of_none (hshape : graph.shape? owner = some shape)
    (hnone : shape.properties? = none) :
    graph.addProperty owner name value = .ok (false, graph) := by
  rw [addProperty, shape_eq_ok.2 hshape]
  simp only [bind, Except.bind, hnone]
  rfl

/-- The slot is filled first, and then it is bound. -/
theorem addProperty_of_some (hshape : graph.shape? owner = some shape)
    (hproperties : shape.properties? = some properties) :
    graph.addProperty owner name value =
      graph.fill (properties.get? (shape.slotName name)) value >>= fun filled =>
        .ok (true, filled.2.modify owner fun former =>
          (if shape.degradesUnder name then former.degrade else former).modifyProperties
            (·.insert (shape.slotName name) filled.1)) := by
  rw [addProperty, shape_eq_ok.2 hshape]
  simp only [bind, Except.bind, hproperties]
  cases properties.get? (shape.slotName name) <;> rfl

/-- A property is recorded if its owner has properties. -/
theorem addProperty_eq_ok {added : Bool}
    (h : graph.addProperty owner name value = .ok (added, graph')) :
    ∃ shape, graph.shape? owner = some shape ∧
      ((shape.properties? = none ∧ added = false ∧ graph' = graph) ∨
        ∃ properties held graph₁, shape.properties? = some properties ∧
          graph.fill (properties.get? (shape.slotName name)) value = .ok (held, graph₁) ∧
          added = true ∧ graph' = graph₁.modify owner fun former =>
            (if shape.degradesUnder name then former.degrade else former).modifyProperties
              (·.insert (shape.slotName name) held)) := by
  obtain ⟨shape, hshape, _⟩ := bind_eq_ok.1 h
  rw [shape_eq_ok] at hshape
  refine ⟨shape, hshape, ?_⟩
  cases hproperties : shape.properties? with
  | none =>
    rw [addProperty_of_none hshape hproperties] at h
    cases h
    exact .inl ⟨rfl, rfl, rfl⟩
  | some properties =>
    rw [addProperty_of_some hshape hproperties] at h
    obtain ⟨⟨held, graph₁⟩, hfill, h⟩ := bind_eq_ok.1 h
    cases h
    exact .inr ⟨properties, held, graph₁, rfl, hfill, rfl, rfl⟩

end ShapeGraph

end Semblance
