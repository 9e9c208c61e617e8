import Semblance.Syntax.Node
import Semblance.Text.Quoted

/-! # Faults

`OutOfRange` is the answer of a checked access to an id that was never allocated.  `Fault` is the
reason why a generation or a hoisting pass gave up; there is no partial result.  The wording of both
is in their `message` functions. -/

namespace Semblance

/-- An access at `index` to a list that has `size` entries. -/
structure OutOfRange where
  size : Nat
  index : Nat
deriving DecidableEq, Repr

/-- The wording of a failed access. -/
def OutOfRange.message (access : OutOfRange) : String :=
  "index out of bounds: the len is " ++ toString access.size ++ " but the index is " ++
    toString access.index

/-- Look up an entry by position, and report the access if there is none. -/
def lookup (entries : Array α) (index : Nat) : Except OutOfRange α :=
  match entries[index]? with
  | some entry => .ok entry
  | none => .error ⟨entries.size, index⟩

/-- An entry is found where it stands. -/
theorem lookup_eq_ok {entries : Array α} {index : Nat} {entry : α} :
    lookup entries index = .ok entry ↔ entries[index]? = some entry := by
  unfold lookup
  split <;> simp_all

/-- A computation in two parts succeeds if both parts do. -/
theorem bind_eq_ok {first : Except ε α} {second : α → Except ε β} {result : β} :
    (first >>= second) = .ok result ↔ ∃ value, first = .ok value ∧ second value = .ok result := by
  cases first with
  | error fault =>
    constructor
    · intro h
      exact nomatch h
    · rintro ⟨_, h, _⟩
      exact nomatch h
  | ok value =>
    constructor
    · intro h
      exact ⟨value, rfl, h⟩
    · rintro ⟨_, h, h'⟩
      cases h
      exact h'

/-- A computation in two parts fails if the first part does, or the second after it. -/
theorem bind_eq_error {first : Except ε α} {second : α → Except ε β} {fault : ε} :
    (first >>= second) = .error fault ↔
      first = .error fault ∨ ∃ value, first = .ok value ∧ second value = .error fault := by
  cases first with
  | error other =>
    constructor
    · intro h
      exact .inl (congrArg Except.error (Except.error.inj h))
    · rintro (h | ⟨_, h, _⟩)
      · exact congrArg Except.error (Except.error.inj h)
      · exact nomatch h
  | ok value =>
    constructor
    · intro h
      exact .inr ⟨value, rfl, h⟩
    · rintro (h | ⟨_, h, h'⟩)
      · exact nomatch h
      · cases h
        exact h'

/-- An outcome is a success if it has a result. -/
theorem isOk_iff {outcome : Except ε α} : outcome.isOk = true ↔ ∃ result, outcome = .ok result := by
  cases outcome with
  | error fault => exact ⟨nofun, nofun⟩
  | ok result => exact ⟨fun _ => ⟨result, rfl⟩, fun _ => rfl⟩

/-- What is checked of a success holds of its result. -/
theorem exists_of_any {outcome : Except ε α} {check : α → Bool}
    (h : outcome.toOption.any check = true) : ∃ result, outcome = .ok result ∧ check result = true := by
  cases outcome with
  | error fault => exact nomatch h
  | ok result => exact ⟨result, rfl, h⟩

/-- Why a pass gave up. -/
inductive Fault where
  /-- A node that the pass has no rule for: an id without a node, an entry or a declarator outside
      its container, or a statement that occurs twice. -/
  | unsupportedNode (node : NodeId) (kind : String)
  /-- A binding name was asked for with an empty or absent hint. -/
  | invalidName (hint : Option String)
  /-- A shape id without a shape. -/
  | outOfRange (access : OutOfRange)
  /-- A traversal used up the number of steps it was granted. -/
  | unfinished
deriving DecidableEq, Repr

/-- The wording of a fault. -/
def Fault.message : Fault → String
  | unsupportedNode node kind => "cannot lower " ++ kind ++ " node " ++ toString node
  | invalidName (some hint) => "cannot synthesize a binding name from hint " ++ Text.quote hint
  | invalidName none => "cannot synthesize a binding name from a node without a name hint"
  | outOfRange access => access.message
  | unfinished => "the traversal did not finish"

end Semblance
