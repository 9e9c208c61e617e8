import Semblance.Proofs.Name.Fresh

/-!
# Requests for names

A supply of names serves requests of two kinds: a name is taken out of it, or a new name is asked
for with a hint. The names that it hands out are free when they are handed out and taken from then
on, so no name is handed out that was handed out or taken out before.

## Key results

- `serve_fresh`: what is handed out for a hint, and what is left
- `serveAll_free`: what a sequence of requests hands out was free at the start
- `serveAll_distinct`: it is handed out once, and not after it was taken out
- `serves_fresh`: both together
-/

namespace Semblance

/-- What is asked of a supply of names. -/
inductive NameRequest where
  /-- Take a name out of the supply. -/
  | reserve (name : String)
  /-- Hand out a new name. -/
  | fresh (hint : Option String)
deriving DecidableEq, Repr

namespace NameSupply

variable {names names' : NameSupply} {name : String}

/-- Serve a request: the name that is handed out, if one is, and the supply that is left. -/
def serve (names : NameSupply) : NameRequest → Option String × NameSupply
  | .reserve name => (none, names.reserve name)
  | .fresh hint =>
    match names.fresh? hint with
    | some (name, names) => (some name, names)
    | none => (none, names)

/-- Serve requests one after the other: each of them with what is handed out for it, and the supply
    that is left in the end. -/
def serveAll (names : NameSupply) :
    List NameRequest → List (NameRequest × Option String) × NameSupply
  | [] => ([], names)
  | request :: requests =>
    let (answer, names) := names.serve request
    let (served, names) := names.serveAll requests
    ((request, answer) :: served, names)

/-! ### One request -/

/-- The closest name to a hint is handed out, and nothing else is taken. Without a hint nothing
    changes. -/
theorem serve_fresh (names : NameSupply) (hint : Option String) :
    (hint = none ∨ hint = some "") ∧ names.serve (.fresh hint) = (none, names) ∨
      ∃ base name names', hint = some base ∧ base ≠ "" ∧
        names.serve (.fresh hint) = (some name, names') ∧ names.Closest base name ∧
        ∀ other, names'.isTaken other = true ↔ other = name ∨ names.isTaken other = true := by
  cases hfresh : names.fresh? hint with
  | none =>
    refine .inl ⟨fresh?_eq_none_iff.1 hfresh, ?_⟩
    rw [serve, hfresh]
  | some drawn =>
    obtain ⟨name, names'⟩ := drawn
    obtain ⟨base, hbase, hnonempty, hname, _⟩ := fresh?_eq_some hfresh
    refine .inr ⟨base, name, names', hbase, hnonempty, ?_, hname ▸ names.pick_closest base,
      fresh_isTaken_iff hfresh⟩
    rw [serve, hfresh]

/-- No request makes a taken name free. -/
theorem isTaken_serve (request : NameRequest) (h : names.isTaken name = true) :
    (names.serve request).2.isTaken name = true := by
  cases request with
  | reserve other => simp [serve, h]
  | fresh hint =>
    rcases names.serve_fresh hint with ⟨_, heq⟩ | ⟨_, _, _, _, _, heq, _, htaken⟩
    · rw [heq]
      exact h
    · rw [heq]
      exact (htaken name).2 (.inr h)

/-- What is handed out is free before and taken afterwards. -/
theorem serve_eq_some {request : NameRequest} (h : (names.serve request).1 = some name) :
    names.isTaken name = false ∧ (names.serve request).2.isTaken name = true := by
  cases request with
  | reserve other => cases h
  | fresh hint =>
    rcases names.serve_fresh hint with ⟨_, heq⟩ | ⟨_, drawn, _, _, _, heq, hclosest, htaken⟩
    · rw [heq] at h
      cases h
    · rw [heq] at h ⊢
      obtain rfl := Option.some.inj h
      exact ⟨hclosest.isTaken, (htaken drawn).2 (.inl rfl)⟩

/-! ### Sequences of requests -/

/-- What is handed out was free at the start. -/
theorem serveAll_free {requests : List NameRequest} {entry : NameRequest × Option String}
    (hmem : entry ∈ (names.serveAll requests).1) (h : entry.2 = some name) :
    names.isTaken name = false := by
  induction requests generalizing names with
  | nil => cases hmem
  | cons request requests ih =>
    rcases List.mem_cons.1 hmem with rfl | hmem
    · exact (serve_eq_some h).1
    · exact Bool.eq_false_iff.2 fun htaken =>
        Bool.eq_false_iff.1 (ih hmem) (isTaken_serve request htaken)

/-- What is handed out was neither handed out nor taken out by an earlier request. -/
theorem serveAll_distinct (names : NameSupply) (requests : List NameRequest) :
    (names.serveAll requests).1.Pairwise fun earlier later => ∀ name, later.2 = some name →
      earlier.2 ≠ some name ∧ earlier.1 ≠ .reserve name := by
  induction requests generalizing names with
  | nil => exact .nil
  | cons request requests ih =>
    refine List.pairwise_cons.2 ⟨fun later hmem name hlater => ?_, ih _⟩
    -- What comes later is free once the first request is served.
    have hfree := Bool.eq_false_iff.1 (serveAll_free hmem hlater)
    refine ⟨fun hanswer => hfree (serve_eq_some hanswer).2, fun hreserve => hfree ?_⟩
    obtain rfl : request = .reserve name := hreserve
    simp

/-- A supply refuses a new name only for want of a hint, and nothing changes then. With a hint it
hands out the hint itself or its first free variant, and takes this name and no other. In a sequence
of requests no name is handed out twice, or after it was taken out, or if it was taken at the start.
-/
theorem serves_fresh (names : NameSupply) (requests : List NameRequest) :
    (∀ hint, (hint = none ∨ hint = some "") ∧ names.serve (.fresh hint) = (none, names) ∨
      ∃ base name names', hint = some base ∧ base ≠ "" ∧
        names.serve (.fresh hint) = (some name, names') ∧ names.Closest base name ∧
        ∀ other, names'.isTaken other = true ↔ other = name ∨ names.isTaken other = true) ∧
    ((names.serveAll requests).1.Pairwise fun earlier later => ∀ name, later.2 = some name →
      earlier.2 ≠ some name ∧ earlier.1 ≠ .reserve name) ∧
    ∀ entry ∈ (names.serveAll requests).1, ∀ name, entry.2 = some name →
      names.isTaken name = false :=
  ⟨names.serve_fresh, names.serveAll_distinct requests, fun _ hmem _ => serveAll_free hmem⟩

end NameSupply

end Semblance
