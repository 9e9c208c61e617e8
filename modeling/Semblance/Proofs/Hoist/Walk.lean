import Semblance.Proofs.Hoist.Rewriting

/-!
# What a walk has seen

`Walked` ties the sightings of a walk to the occurrences of the graph that it started from. The
occurrences that were visited are kept as a list beside the state; together with the agenda they are
all occurrences whose holder was met. A node is hoisted if two of its occurrences were visited, and
exactly the visited occurrences of hoisted nodes hold references.

One step moves the head of the agenda to the visited occurrences and adds the occurrences below it
where it is the first of its node.

## Key results

- `visit_walked`: one step keeps `Rewrites` and `Walked`
- `walk_keeps`: what every step keeps is kept by a walk, after which no occurrence is left
- `walk_walked`: so a whole walk keeps the invariant
-/

namespace Semblance.Hoist

/-- The holder of a place was met. -/
def Opened (hoist : Hoist) : Occurrence → Prop
  | .root _ => True
  | .slot parent _ => (hoist.sighting? parent).isSome

/-- A walk from `roots` in `arena` has visited the occurrences `done` and is to visit those of
    `agenda`. -/
structure Walked (arena : Arena) (roots : List NodeId) (done agenda : Agenda) (hoist : Hoist) :
    Prop where
  occurs_iff : ∀ {id place}, (id, place) ∈ done ∨ (id, place) ∈ agenda ↔
    arena.Occurs roots id place ∧ hoist.Opened place
  places_nodup : ((done ++ agenda).map (·.2)).Nodup
  met_iff : ∀ {id}, (hoist.sighting? id).isSome ↔ ∃ place, (id, place) ∈ done
  first_mem : ∀ {id first promotion?}, hoist.sighting? id = some ⟨first, promotion?⟩ →
    (id, first) ∈ done
  /-- A node that is not hoisted was met once. -/
  alone : ∀ {id first place}, hoist.sighting? id = some ⟨first, none⟩ → (id, place) ∈ done →
    place = first
  /-- A node that is hoisted was met again. -/
  again : ∀ {id first promotion}, hoist.sighting? id = some ⟨first, some promotion⟩ →
    promotion ∈ hoist.promotions ∧ promotion.node = id ∧ ∃ place, place ≠ first ∧ (id, place) ∈ done
  hoisted : ∀ {promotion}, promotion ∈ hoist.promotions →
    ∃ first, hoist.sighting? promotion.node = some ⟨first, some promotion⟩
  links : ∀ {child parent slot first promotion}, (child, .slot parent slot) ∈ done →
    hoist.sighting? child = some ⟨first, some promotion⟩ →
    arena.Links hoist.arena parent slot promotion.name
  unlinked : ∀ {child parent slot}, arena.Occurs roots child (.slot parent slot) →
    ¬ ((child, .slot parent slot) ∈ done ∧
      ∃ first promotion, hoist.sighting? child = some ⟨first, some promotion⟩) →
    hoist.arena.child? parent slot = some child
  /-- A statement is not hoisted. -/
  not_root : ∀ {child position first promotion}, (child, .root position) ∈ done →
    hoist.sighting? child ≠ some ⟨first, some promotion⟩
  mem_trail : ∀ {id}, id ∈ hoist.trail ↔ (hoist.sighting? id).isSome
  /-- A node comes later on the trail than the one below which it was met. -/
  earlier : ∀ {k : Nat} {id parent slot promotion?}, hoist.trail[k]? = some id →
    hoist.sighting? id = some ⟨.slot parent slot, promotion?⟩ →
    ∃ k' < k, hoist.trail[k']? = some parent

variable {arena : Arena} {roots : List NodeId} {names : NameSupply} {hoist hoist' : Hoist}
  {done rest : Agenda} {id : NodeId} {place : Occurrence}

/-- The slots of a node that was not met are not opened. -/
theorem not_opened_slot (h : hoist.sighting? id = none) (slot : Nat) :
    ¬ hoist.Opened (.slot id slot) := by
  simp [Opened, h]

namespace Walked

/-- The next occurrence is one of the graph, and it was not visited. -/
theorem head (h : Walked arena roots done ((id, place) :: rest) hoist) :
    arena.Occurs roots id place ∧ hoist.Opened place ∧ ∀ other, (other, place) ∉ done := by
  obtain ⟨hoccurs, hopened⟩ := h.occurs_iff.1 (.inr (List.mem_cons_self ..))
  refine ⟨hoccurs, hopened, fun other hmem => ?_⟩
  have hnodup := h.places_nodup
  rw [List.map_append, List.nodup_append] at hnodup
  exact hnodup.2.2 place (List.mem_map.2 ⟨_, hmem, rfl⟩) place
    (List.mem_map.2 ⟨_, List.mem_cons_self .., rfl⟩) rfl

/-- What was visited occurs in the given graph. -/
theorem occurs_of_done {agenda : Agenda} (h : Walked arena roots done agenda hoist)
    (hmem : (id, place) ∈ done) : arena.Occurs roots id place :=
  (h.occurs_iff.1 (.inl hmem)).1

/-- Moving the head of the agenda to the visited occurrences changes neither their number nor their
    places. -/
theorem places_nodup_step (h : Walked arena roots done ((id, place) :: rest) hoist) :
    ((((id, place) :: done) ++ rest).map (·.2)).Nodup :=
  (List.perm_middle.map _).nodup_iff.1 h.places_nodup

/-- An occurrence that is visited, or still on the agenda, is one in a place that can be
    rewritten. -/
theorem occurs_iff_step (h : Walked arena roots done ((id, place) :: rest) hoist) {other : NodeId}
    {place' : Occurrence} :
    (other, place') ∈ (id, place) :: done ∨ (other, place') ∈ rest ↔
      arena.Occurs roots other place' ∧ hoist.Opened place' := by
  rw [← h.occurs_iff, List.mem_cons, List.mem_cons, or_assoc, or_left_comm]

end Walked

/-- Only the head of the agenda is visited by a step. -/
theorem mem_done_of_ne {other : NodeId} {place' : Occurrence} (hne : other ≠ id)
    (hmem : (other, place') ∈ (id, place) :: done) : (other, place') ∈ done :=
  (List.mem_cons.1 hmem).resolve_left fun heq => hne (Prod.mk.inj heq).1

/-! ### The second and any further occurrence of a node

Both kinds of steps end with references in all visited occurrences of the node, and leave other
slots alone. `Walked.refer` derives the invariant from that. -/

section Refer

variable {first : Occurrence} {promotion : Promotion}

/-- A visit to a node that was met before. The node has a promotion after it, if it had none, and
    the slots visited so far that held the node are linked to the name of the promotion. The other
    slots are as they were. -/
theorem Walked.refer (h : Walked arena roots done ((id, place) :: rest) hoist)
    {promotion? : Option Promotion} (hsighting : hoist.sighting? id = some ⟨first, promotion?⟩)
    (hold : ∀ former ∈ promotion?, former = promotion) (hnode : promotion.node = id)
    (hsightings : ∀ other, hoist'.sighting? other =
      if other = id then some ⟨first, some promotion⟩ else hoist.sighting? other)
    (hpromotions : ∀ other, other ∈ hoist'.promotions ↔
      other ∈ hoist.promotions ∨ other = promotion)
    (hlinks : ∀ {parent slot}, (id, .slot parent slot) ∈ (id, place) :: done →
      arena.Links hoist'.arena parent slot promotion.name)
    (hlinks_other : ∀ {parent slot} (name), arena.Reaches roots parent →
      (id, .slot parent slot) ∉ (id, place) :: done →
      (arena.Links hoist'.arena parent slot name ↔ arena.Links hoist.arena parent slot name))
    (hslot_other : ∀ {parent slot}, arena.Reaches roots parent →
      (id, .slot parent slot) ∉ (id, place) :: done →
      hoist'.arena.child? parent slot = hoist.arena.child? parent slot)
    (hnot_root : ∀ position, (id, .root position) ∉ (id, place) :: done)
    (htrail : hoist'.trail = hoist.trail) :
    Walked arena roots ((id, place) :: done) rest hoist' := by
  obtain ⟨hhead, _, hnew⟩ := h.head
  have hfirst := h.first_mem hsighting
  have hself : hoist'.sighting? id = some ⟨first, some promotion⟩ := by
    rw [hsightings, if_pos rfl]
  have hsightings_ne {other : NodeId} (hne : other ≠ id) :
      hoist'.sighting? other = hoist.sighting? other := by
    rw [hsightings, if_neg hne]
  -- The places of other nodes are none of this one.
  have hnot_mem {other parent : NodeId} {slot : Nat} (hne : other ≠ id)
      (hoccurs : arena.Occurs roots other (.slot parent slot)) :
      (id, .slot parent slot) ∉ (id, place) :: done := by
    intro hmem
    rcases List.mem_cons.1 hmem with heq | hdone
    · rw [← (Prod.mk.inj heq).2] at hhead
      exact hne (Arena.occurs_unique hoccurs hhead)
    · exact hne (Arena.occurs_unique hoccurs (h.occurs_of_done hdone))
  have hopened_iff (place : Occurrence) : hoist'.Opened place ↔ hoist.Opened place := by
    cases place with
    | root => exact Iff.rfl
    | slot other slot =>
      by_cases hother : other = id
      · subst hother
        simp only [Opened, hself, hsighting, Option.isSome_some]
      · simp only [Opened, hsightings_ne hother]
  constructor
  case occurs_iff =>
    intro other place'
    rw [h.occurs_iff_step, hopened_iff]
  case places_nodup => exact h.places_nodup_step
  case met_iff =>
    intro other
    by_cases hother : other = id
    · subst hother
      rw [hself]
      exact ⟨fun _ => ⟨_, List.mem_cons_self ..⟩, fun _ => rfl⟩
    · rw [hsightings_ne hother, h.met_iff]
      exact exists_congr fun place' => ⟨List.mem_cons_of_mem _, mem_done_of_ne hother⟩
  case first_mem =>
    intro other first' promotion?' hsome
    refine List.mem_cons_of_mem _ ?_
    by_cases hother : other = id
    · subst hother
      obtain ⟨rfl, _⟩ := Sighting.mk.inj (Option.some.inj (hself.symm.trans hsome))
      exact hfirst
    · rw [hsightings_ne hother] at hsome
      exact h.first_mem hsome
  case alone =>
    intro other first' place' hsome hmem
    by_cases hother : other = id
    · subst hother
      exact nomatch hself.symm.trans hsome
    · rw [hsightings_ne hother] at hsome
      exact h.alone hsome (mem_done_of_ne hother hmem)
  case again =>
    intro other first' promotion' hsome
    by_cases hother : other = id
    · -- The occurrence of this step is another than the first, which was visited before.
      subst hother
      obtain ⟨rfl, heq⟩ := Sighting.mk.inj (Option.some.inj (hself.symm.trans hsome))
      obtain rfl := Option.some.inj heq
      refine ⟨(hpromotions _).2 (.inr rfl), hnode, place, ?_, List.mem_cons_self ..⟩
      rintro rfl
      exact hnew other hfirst
    · rw [hsightings_ne hother] at hsome
      obtain ⟨hmem, hnode', place', hne, hdone⟩ := h.again hsome
      exact ⟨(hpromotions _).2 (.inl hmem), hnode', place', hne, List.mem_cons_of_mem _ hdone⟩
  case hoisted =>
    intro promotion' hmem
    rcases (hpromotions _).1 hmem with hmem | rfl
    · obtain ⟨first', hsome⟩ := h.hoisted hmem
      by_cases hother : promotion'.node = id
      · -- The node was hoisted before, and it keeps its declaration.
        rw [hother, hsighting] at hsome
        obtain ⟨_, rfl⟩ := Sighting.mk.inj (Option.some.inj hsome)
        exact ⟨first, by rw [hother, hself, hold promotion' rfl]⟩
      · exact ⟨first', by rw [hsightings_ne hother, hsome]⟩
    · exact ⟨first, by rw [hnode, hself]⟩
  case links =>
    intro child parent slot first' promotion' hmem hsome
    by_cases hother : child = id
    · subst hother
      obtain ⟨_, heq⟩ := Sighting.mk.inj (Option.some.inj (hself.symm.trans hsome))
      obtain rfl := Option.some.inj heq
      exact hlinks hmem
    · rw [hsightings_ne hother] at hsome
      have hdone := mem_done_of_ne hother hmem
      have hoccurs := h.occurs_of_done hdone
      exact (hlinks_other _ hoccurs.1 (hnot_mem hother hoccurs)).2 (h.links hdone hsome)
  case unlinked =>
    intro child parent slot hoccurs hnot
    by_cases hother : child = id
    · subst hother
      -- A slot with the node in it is one that was not visited.
      have hmem : (child, .slot parent slot) ∉ (child, place) :: done :=
        fun hmem => hnot ⟨hmem, first, promotion, hself⟩
      rw [hslot_other hoccurs.1 hmem]
      exact h.unlinked hoccurs fun ⟨hdone, _⟩ => hmem (List.mem_cons_of_mem _ hdone)
    · rw [hslot_other hoccurs.1 (hnot_mem hother hoccurs)]
      refine h.unlinked hoccurs fun ⟨hdone, hpromoted⟩ => hnot ⟨List.mem_cons_of_mem _ hdone, ?_⟩
      rwa [hsightings_ne hother]
  case not_root =>
    intro other position first' promotion' hmem
    by_cases hother : other = id
    · subst hother
      exact absurd hmem (hnot_root position)
    · rw [hsightings_ne hother]
      exact h.not_root (mem_done_of_ne hother hmem)
  case mem_trail =>
    intro other
    rw [htrail, h.mem_trail]
    by_cases hother : other = id
    · subst hother
      rw [hself, hsighting, Option.isSome_some, Option.isSome_some]
    · rw [hsightings_ne hother]
  case earlier =>
    intro k other parent slot promotion?' hk hsome
    rw [htrail] at hk ⊢
    by_cases hother : other = id
    · subst hother
      obtain ⟨rfl, _⟩ := Sighting.mk.inj (Option.some.inj (hself.symm.trans hsome))
      exact h.earlier hk hsighting
    · rw [hsightings_ne hother] at hsome
      exact h.earlier hk hsome

/-- A further occurrence of a node that was hoisted. -/
theorem Walked.further (hr : Rewrites arena roots names hoist)
    (h : Walked arena roots done ((id, place) :: rest) hoist) (hclosed : arena.Closed roots)
    {parent : NodeId} {slot : Nat}
    (hsighting : hoist.sighting? id = some ⟨first, some promotion⟩)
    (hplace : place = .slot parent slot) (hlink : hoist.Linked promotion parent slot hoist') :
    Rewrites arena roots names hoist' ∧ Walked arena roots ((id, place) :: done) rest hoist' := by
  subst hplace
  obtain ⟨⟨hparent, hchild⟩, _, hnew⟩ := h.head
  obtain ⟨hmem, hnode, _⟩ := h.again hsighting
  have hne {other : NodeId} {slot' : Nat}
      (hnot : (id, .slot other slot') ∉ (id, Occurrence.slot parent slot) :: done) :
      ¬ (other = parent ∧ slot' = slot) := by
    rintro ⟨rfl, rfl⟩
    exact hnot (List.mem_cons_self ..)
  refine ⟨hr.linked hclosed hlink hmem hparent (by rw [hnode, hchild]),
    h.refer hsighting (fun former heq => (Option.some.inj heq).symm) hnode ?_ ?_ ?_ ?_ ?_ ?_
      hlink.trail_eq⟩
  · -- What is known of the nodes stays.
    intro other
    rw [hlink.sighting?_eq]
    split
    · next heq => rw [heq, hsighting]
    · rfl
  · intro other
    rw [hlink.promotions_eq]
    exact ⟨.inl, fun hor => hor.elim (fun hmem => hmem) fun heq => heq ▸ hmem⟩
  · -- The slot of this step is linked now, and the others were linked before.
    intro other slot' hvisited
    rcases List.mem_cons.1 hvisited with heq | hdone
    · obtain ⟨rfl, rfl⟩ := Occurrence.slot.inj (Prod.mk.inj heq).2
      exact hlink.links_self hr.size_le
    · refine (links_linked hr hclosed hlink hparent (h.occurs_of_done hdone).1 ?_).2
        (h.links hdone hsighting)
      rintro ⟨rfl, rfl⟩
      exact hnew id hdone
  · intro other slot' name hother hnot
    exact links_linked hr hclosed hlink hparent hother (hne hnot)
  · intro other slot' hother hnot
    exact hlink.child?_of_ne (Nat.lt_of_lt_of_le (hclosed.lt_size hother) hr.size_le) (hne hnot)
  · intro position hvisited
    rcases List.mem_cons.1 hvisited with heq | hdone
    · exact nomatch (Prod.mk.inj heq).2
    · exact h.not_root hdone hsighting

/-- The second occurrence of a node, which hoists it. -/
theorem Walked.second (hr : Rewrites arena roots names hoist)
    (h : Walked arena roots done ((id, place) :: rest) hoist) (hclosed : arena.Closed roots)
    {node : Node} {hoist₁ hoist₂ : Hoist} {parent parent' : NodeId} {slot slot' : Nat}
    (hsighting : hoist.sighting? id = some ⟨.slot parent slot, none⟩)
    (hplace : place = .slot parent' slot')
    (hstep : hoist.promote id node (.slot parent slot) = .ok (promotion, hoist₁))
    (hlink : hoist₁.Linked promotion parent slot hoist₂)
    (hlink' : hoist₂.Linked promotion parent' slot' hoist') :
    Rewrites arena roots names hoist' ∧ Walked arena roots ((id, place) :: done) rest hoist' := by
  subst hplace
  obtain ⟨⟨hparent', hchild'⟩, _, hnew⟩ := h.head
  have hfirst := h.first_mem hsighting
  obtain ⟨hparent, hchild⟩ := h.occurs_of_done hfirst
  have hfirst_ne : ¬ (parent = parent' ∧ slot = slot') := by
    rintro ⟨rfl, rfl⟩
    exact hnew id hfirst
  have hpromotions : hoist₁.promotions = hoist.promotions.push promotion := by
    obtain ⟨_, _, _, _, _, _, rfl⟩ := promote_eq_ok.1 hstep
    rfl
  have hnode : promotion.node = id := by
    obtain ⟨_, _, _, _, _, rfl, _⟩ := promote_eq_ok.1 hstep
    rfl
  have htrail : hoist'.trail = hoist.trail := by
    rw [hlink'.trail_eq, hlink.trail_eq]
    obtain ⟨_, _, _, _, _, _, rfl⟩ := promote_eq_ok.1 hstep
    rfl
  -- The three operations keep the relation of the arenas one after the other.
  have hr₁ : Rewrites arena roots names hoist₁ := by
    refine hr.promoted hclosed hstep (.child hparent' hchild') fun promotion' hmem hid => ?_
    obtain ⟨first, hhoisted⟩ := h.hoisted hmem
    rw [hid, hsighting] at hhoisted
    exact nomatch hhoisted
  have hmem₁ : promotion ∈ hoist₁.promotions := by
    rw [hpromotions]
    exact Array.mem_push_self
  have hr₂ : Rewrites arena roots names hoist₂ :=
    hr₁.linked hclosed hlink hmem₁ hparent (by rw [hnode, hchild])
  have hmem₂ : promotion ∈ hoist₂.promotions := by rwa [hlink.promotions_eq]
  have hne {other : NodeId} {slot₀ : Nat}
      (hnot : (id, .slot other slot₀) ∉ (id, Occurrence.slot parent' slot') :: done) :
      ¬ (other = parent ∧ slot₀ = slot) ∧ ¬ (other = parent' ∧ slot₀ = slot') := by
    constructor
    · rintro ⟨rfl, rfl⟩
      exact hnot (List.mem_cons_of_mem _ hfirst)
    · rintro ⟨rfl, rfl⟩
      exact hnot (List.mem_cons_self ..)
  refine ⟨hr₂.linked hclosed hlink' hmem₂ hparent' (by rw [hnode, hchild']),
    h.refer hsighting (fun _ heq => nomatch heq) hnode ?_ ?_ ?_ ?_ ?_ ?_ htrail⟩
  · intro other
    rw [hlink'.sighting?_eq, hlink.sighting?_eq, sighting?_promote hstep]
  · intro other
    rw [hlink'.promotions_eq, hlink.promotions_eq, hpromotions, Array.mem_push]
  · intro other slot₀ hmem
    rcases List.mem_cons.1 hmem with heq | hdone
    · obtain ⟨rfl, rfl⟩ := Occurrence.slot.inj (Prod.mk.inj heq).2
      exact hlink'.links_self hr₂.size_le
    · -- Of the former occurrences only the first was visited.
      obtain ⟨rfl, rfl⟩ := Occurrence.slot.inj (h.alone hsighting hdone)
      exact (links_linked hr₂ hclosed hlink' hparent' hparent hfirst_ne).2
        (hlink.links_self hr₁.size_le)
  · intro other slot₀ name hother hnot
    rw [links_linked hr₂ hclosed hlink' hparent' hother (hne hnot).2,
      links_linked hr₁ hclosed hlink hparent hother (hne hnot).1,
      links_promoted hr hclosed hstep hother]
  · intro other slot₀ hother hnot
    have hlt := hclosed.lt_size hother
    rw [hlink'.child?_of_ne (Nat.lt_of_lt_of_le hlt hr₂.size_le) (hne hnot).2,
      hlink.child?_of_ne (Nat.lt_of_lt_of_le hlt hr₁.size_le) (hne hnot).1,
      child?_promote hstep (Nat.lt_of_lt_of_le hlt hr.size_le)]
  · intro position hmem
    rcases List.mem_cons.1 hmem with heq | hdone
    · exact nomatch (Prod.mk.inj heq).2
    · exact nomatch h.alone hsighting hdone

end Refer

/-! ### The first occurrence of a node -/

/-- A visit to a node that was not met. Nothing is rewritten, and the slots of the node are put on
    the agenda. -/
theorem Walked.meet (hr : Rewrites arena roots names hoist)
    (h : Walked arena roots done ((id, place) :: rest) hoist) (hclosed : arena.Closed roots)
    {node : Node} (hsighting : hoist.sighting? id = none)
    (hnode : hoist.arena.node? id = some node) :
    Walked arena roots ((id, place) :: done) (below id node ++ rest) (hoist.meet id place) := by
  have hsightings := sighting?_meet hoist id place
  have hself : (hoist.meet id place).sighting? id = some ⟨place, none⟩ := by
    rw [hsightings, if_pos rfl]
  have hsightings_ne {other : NodeId} (hne : other ≠ id) :
      (hoist.meet id place).sighting? other = hoist.sighting? other := by
    rw [hsightings, if_neg hne]
  have hunmet (place' : Occurrence) : (id, place') ∉ done := fun hmem => by
    have hsome := h.met_iff.2 ⟨place', hmem⟩
    rw [hsighting] at hsome
    exact nomatch hsome
  have hclosed_slot := not_opened_slot hsighting
  have hopened_iff (place' : Occurrence) : (hoist.meet id place).Opened place' ↔
      hoist.Opened place' ∨ ∃ slot, place' = .slot id slot := by
    cases place' with
    | root => exact ⟨.inl, fun _ => trivial⟩
    | slot other slot =>
      by_cases hother : other = id
      · subst hother
        simp [Opened, hself]
      · simp [Opened, hsightings_ne hother, hother]
  have htrail : (hoist.meet id place).trail = hoist.trail.push id := rfl
  have hreached := h.head.1.reaches
  -- The slots of a node that was not met hold what they held at the start.
  have hslot {child : NodeId} {slot : Nat} (hchild : arena.child? id slot = some child) :
      node.child? slot = some child := by
    rw [← Arena.child?_of_node? hnode]
    refine h.unlinked ⟨hreached, hchild⟩ fun ⟨hmem, _⟩ => ?_
    exact hclosed_slot slot (h.occurs_iff.1 (.inl hmem)).2
  have hslot_iff {child : NodeId} {slot : Nat} :
      node.child? slot = some child ↔ arena.child? id slot = some child := by
    refine ⟨fun hchild => ?_, hslot⟩
    have hsome := hr.child?_isSome (hclosed.lt_size hreached) slot
    rw [Arena.child?_of_node? hnode, hchild, Option.isSome_some] at hsome
    obtain ⟨former, hformer⟩ := Option.isSome_iff_exists.1 hsome.symm
    rw [hformer, ← hslot hformer, hchild]
  constructor
  case occurs_iff =>
    intro other place'
    -- The places that were opened are those below the node.
    rw [List.mem_append, or_left_comm, h.occurs_iff_step, hopened_iff, mem_below, and_or_left,
      or_comm]
    refine or_congr_right ⟨?_, ?_⟩
    · rintro ⟨slot, rfl, hchild⟩
      exact ⟨⟨hreached, hslot_iff.1 hchild⟩, slot, rfl⟩
    · rintro ⟨hoccurs, slot, rfl⟩
      exact ⟨slot, rfl, hslot_iff.2 hoccurs.2⟩
  case places_nodup =>
    refine ((List.perm_append_comm_assoc _ _ _).map _).nodup_iff.1 ?_
    rw [List.map_append, List.nodup_append]
    refine ⟨places_below_nodup id node, h.places_nodup_step, ?_⟩
    -- A place below the node was on no list, since its holder was not met before.
    rintro place' hbelow _ hmem rfl
    obtain ⟨⟨child, _⟩, hmem', rfl⟩ := List.mem_map.1 hbelow
    obtain ⟨slot, rfl, _⟩ := mem_below.1 hmem'
    obtain ⟨⟨other, _⟩, hmem, hplace⟩ := List.mem_map.1 hmem
    simp only at hplace
    subst hplace
    exact hclosed_slot slot (h.occurs_iff_step.1 (List.mem_append.1 hmem)).2
  case met_iff =>
    intro other
    by_cases hother : other = id
    · subst hother
      rw [hself]
      exact ⟨fun _ => ⟨_, List.mem_cons_self ..⟩, fun _ => rfl⟩
    · rw [hsightings_ne hother, h.met_iff]
      exact exists_congr fun place' => ⟨List.mem_cons_of_mem _, mem_done_of_ne hother⟩
  case first_mem =>
    intro other first promotion? hsome
    by_cases hother : other = id
    · subst hother
      obtain ⟨rfl, _⟩ := Sighting.mk.inj (Option.some.inj (hself.symm.trans hsome))
      exact List.mem_cons_self ..
    · rw [hsightings_ne hother] at hsome
      exact List.mem_cons_of_mem _ (h.first_mem hsome)
  case alone =>
    intro other first place' hsome hmem
    by_cases hother : other = id
    · subst hother
      obtain ⟨rfl, _⟩ := Sighting.mk.inj (Option.some.inj (hself.symm.trans hsome))
      exact (Prod.mk.inj ((List.mem_cons.1 hmem).resolve_right (hunmet place'))).2
    · rw [hsightings_ne hother] at hsome
      exact h.alone hsome (mem_done_of_ne hother hmem)
  case again =>
    intro other first promotion hsome
    by_cases hother : other = id
    · subst hother
      exact nomatch hself.symm.trans hsome
    · rw [hsightings_ne hother] at hsome
      obtain ⟨hmem, hnode', place', hne, hdone⟩ := h.again hsome
      exact ⟨hmem, hnode', place', hne, List.mem_cons_of_mem _ hdone⟩
  case hoisted =>
    intro promotion hmem
    obtain ⟨first, hsome⟩ := h.hoisted hmem
    refine ⟨first, ?_⟩
    rw [hsightings_ne, hsome]
    intro hother
    rw [hother, hsighting] at hsome
    exact nomatch hsome
  case links =>
    intro child parent slot first promotion hmem hsome
    by_cases hother : child = id
    · subst hother
      exact nomatch hself.symm.trans hsome
    · rw [hsightings_ne hother] at hsome
      exact h.links (mem_done_of_ne hother hmem) hsome
  case unlinked =>
    intro child parent slot hoccurs hnot
    refine h.unlinked hoccurs fun ⟨hdone, hpromoted⟩ => hnot ⟨List.mem_cons_of_mem _ hdone, ?_⟩
    rwa [hsightings_ne]
    rintro rfl
    exact hunmet _ hdone
  case not_root =>
    intro other position first promotion hmem hsome
    by_cases hother : other = id
    · subst hother
      exact nomatch hself.symm.trans hsome
    · rw [hsightings_ne hother] at hsome
      exact h.not_root (mem_done_of_ne hother hmem) hsome
  case mem_trail =>
    intro other
    rw [htrail, Array.mem_push, h.mem_trail]
    by_cases hother : other = id
    · subst hother
      simp [hself]
    · simp [hsightings_ne hother, hother]
  case earlier =>
    intro k other parent slot promotion? hk hsome
    rw [htrail, Array.getElem?_push] at hk
    -- The holder of the new occurrence is on the trail, since the occurrence is on the agenda.
    have hpushed {k' : Nat} (hk' : hoist.trail[k']? = some parent) :
        (hoist.meet id place).trail[k']? = some parent := by
      have hlt := (Array.getElem?_eq_some_iff.1 hk').1
      rw [htrail, Array.getElem?_push, if_neg (Nat.ne_of_lt hlt), hk']
    split at hk
    · next hlast =>
      -- The node is the last on the trail, and its holder was met before.
      obtain rfl := Option.some.inj hk
      obtain ⟨rfl, _⟩ := Sighting.mk.inj (Option.some.inj (hself.symm.trans hsome))
      obtain ⟨k', hk'⟩ := Array.getElem?_of_mem (h.mem_trail.2 h.head.2.1)
      exact ⟨k', hlast ▸ (Array.getElem?_eq_some_iff.1 hk').1, hpushed hk'⟩
    · have hother : other ≠ id := by
        rintro rfl
        have hmet := h.mem_trail.1 (Array.mem_of_getElem? hk)
        rw [hsighting] at hmet
        exact nomatch hmet
      rw [hsightings_ne hother] at hsome
      obtain ⟨k', hlt, hk'⟩ := h.earlier hk hsome
      exact ⟨k', hlt, hpushed hk'⟩

/-! ### Steps and walks -/

/-- One step moves the head of the agenda to the visited occurrences. -/
theorem visit_walked (hclosed : arena.Closed roots) (hr : Rewrites arena roots names hoist)
    (h : Walked arena roots done ((id, place) :: rest) hoist) {next : Agenda}
    (hstep : hoist.visit id place = .ok (next, hoist')) :
    Rewrites arena roots names hoist' ∧
      Walked arena roots ((id, place) :: done) (next ++ rest) hoist' := by
  obtain ⟨node, hnode, _, hcases⟩ := visit_eq_ok.1 hstep
  rcases hcases with ⟨first, promotion, hsighting, rfl, hrefer⟩ |
    ⟨first, promotion, hoist₁, hoist₂, hsighting, rfl, hpromote, hrefer, hrefer'⟩ |
    ⟨hsighting, rfl, rfl⟩
  · -- A further occurrence of a node that was hoisted.
    obtain ⟨parent, slot, hplace, hsome, rfl⟩ := refer_eq_ok.1 hrefer
    exact h.further hr hclosed hsighting hplace (linked_link hsome)
  · -- The second occurrence, which is referred to after the first.
    obtain ⟨parent, slot, rfl, hsome, rfl⟩ := refer_eq_ok.1 hrefer
    obtain ⟨parent', slot', hplace', hsome', rfl⟩ := refer_eq_ok.1 hrefer'
    exact h.second hr hclosed hsighting hplace' hpromote (linked_link hsome) (linked_link hsome')
  · exact ⟨hr.meet id place, h.meet hr hclosed hsighting hnode⟩

/-- What every step keeps is kept by a walk, after which all occurrences were visited. -/
theorem walk_keeps (hclosed : arena.Closed roots) (invariant : Agenda → Hoist → Prop)
    (hvisit : ∀ {done rest id place next hoist hoist'}, Rewrites arena roots names hoist →
      Walked arena roots done ((id, place) :: rest) hoist → invariant done hoist →
      hoist.visit id place = .ok (next, hoist') → invariant ((id, place) :: done) hoist')
    (hr : Rewrites arena roots names hoist) {steps : Nat} {agenda : Agenda}
    (hw : Walked arena roots done agenda hoist) (h : invariant done hoist)
    (hwalk : walk steps agenda hoist = .ok hoist') :
    Rewrites arena roots names hoist' ∧
      ∃ done', Walked arena roots done' [] hoist' ∧ invariant done' hoist' := by
  -- Induction on the steps, each of which keeps all invariants.
  induction steps generalizing done agenda hoist with
  | zero =>
    cases agenda with
    | nil =>
      cases hwalk
      exact ⟨hr, done, hw, h⟩
    | cons => exact nomatch hwalk
  | succ steps ih =>
    cases agenda with
    | nil =>
      cases hwalk
      exact ⟨hr, done, hw, h⟩
    | cons head rest =>
      obtain ⟨id, place⟩ := head
      rw [walk_cons] at hwalk
      obtain ⟨⟨next, hoist₁⟩, hstep, hwalk⟩ := bind_eq_ok.1 hwalk
      obtain ⟨hr₁, hw₁⟩ := visit_walked hclosed hr hw hstep
      exact ih hr₁ hw₁ (hvisit hr hw h hstep) hwalk

/-- After a walk all occurrences were visited. -/
theorem walk_walked (hclosed : arena.Closed roots) (hr : Rewrites arena roots names hoist)
    {steps : Nat} {agenda : Agenda} (h : Walked arena roots done agenda hoist)
    (hwalk : walk steps agenda hoist = .ok hoist') :
    Rewrites arena roots names hoist' ∧ ∃ done', Walked arena roots done' [] hoist' := by
  obtain ⟨hr', done', h', _⟩ :=
    walk_keeps hclosed (fun _ _ => True) (fun _ _ _ _ => trivial) hr h trivial hwalk
  exact ⟨hr', done', h'⟩

/-- At the start nothing was met. -/
theorem sighting?_start (arena : Arena) (roots : List NodeId) (names : NameSupply) (id : NodeId) :
    ({ arena, roots := roots.toArray, names } : Hoist).sighting? id = none :=
  Std.TreeMap.getElem?_emptyc

/-- A walk starts with the statements on its agenda. -/
theorem Walked.start (arena : Arena) (roots : List NodeId) (names : NameSupply) :
    Walked arena roots [] (agenda roots) { arena, roots := roots.toArray, names } := by
  have hunmet := sighting?_start arena roots names
  constructor
  case occurs_iff =>
    intro id place
    simp only [agenda, List.not_mem_nil, false_or, List.mem_map, Prod.exists, Prod.mk.injEq,
      List.mem_zipIdx_iff_getElem?]
    constructor
    · rintro ⟨_, position, hroot, rfl, rfl⟩
      exact ⟨hroot, trivial⟩
    · rintro ⟨hoccurs, hopened⟩
      cases place with
      | root position => exact ⟨id, position, hoccurs, rfl, rfl⟩
      | slot parent slot =>
        simp only [Opened, hunmet, Option.isSome_none, Bool.false_eq_true] at hopened
  case places_nodup =>
    have hpositions : (agenda roots).map (·.2) =
        (roots.zipIdx.map (·.2)).map Occurrence.root := by
      rw [agenda, List.map_map, List.map_map]
      rfl
    rw [List.nil_append, hpositions, List.zipIdx_map_snd, List.Nodup, List.pairwise_map]
    -- The positions of the statements are different, so their places are.
    exact List.Pairwise.imp (fun hne heq => hne (Occurrence.root.inj heq)) List.nodup_range'
  case unlinked => exact fun hoccurs _ => hoccurs.2
  case met_iff =>
    intro id
    simp [hunmet]
  case links => exact fun h => nomatch h
  case hoisted => exact fun h => by simp at h
  -- Nothing was met, so the other claims are about nothing.
  all_goals
    intros
    simp_all

end Semblance.Hoist
