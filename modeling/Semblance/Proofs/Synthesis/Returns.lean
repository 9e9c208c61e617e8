import Semblance.Proofs.Shape.Unions
import Semblance.Proofs.Synthesis.Bodies

/-!
# Returns in a synthesized program

The body of a function ends with a return if the union of what it returns has a member. A return of
the undefined value itself is dropped when it is observed, but a union keeps this member, so a
function that was seen to return nothing else may still be given a return.

## Key results

- `exists_return_iff`: when the body of a function has a return
- `synthesize_returns`: what a synthesized function returns
- `synthesize_returns_union`: a function that returns the undefined value
-/

namespace Semblance

/-- The returns in a body are the statements that are there for a return. -/
theorem Program.Does.return_iff {program : Program} {builder : Builder} {stmt : NodeId}
    {part : BodyPart} (h : program.Does builder stmt part) :
    (∃ value, program.arena.node? stmt = some (.ret value)) ↔ ∃ value, part = .ret value := by
  cases part with
  | copy =>
    obtain ⟨_, _, _, ⟨_, hnode, _⟩, _⟩ := h
    exact ⟨fun ⟨_, hret⟩ => (nomatch hnode.symm.trans hret), nofun⟩
  | write =>
    obtain ⟨_, _, _, _, ⟨_, hnode, _⟩, _⟩ := h
    exact ⟨fun ⟨_, hret⟩ => (nomatch hnode.symm.trans hret), nofun⟩
  | ret value =>
    obtain ⟨_, _, hnode, _⟩ := h
    exact ⟨fun _ => ⟨value, rfl⟩, fun _ => ⟨_, hnode⟩⟩

namespace ShapeGraph

variable {graph : ShapeGraph} {config : Config} {function : ShapeId} {fn : FunctionShape}

/-- A body has a return if there is something that the function returns. -/
theorem exists_return_iff (h : graph.Registered)
    (hid : graph.shape? function = some (.function fn)) :
    (∃ value, .ret value ∈ graph.bodyParts fn) ↔ graph.returned function ≠ [] := by
  obtain ⟨members, hreturns⟩ := h.returned_union hid
  -- The other parts of a body are no returns.
  have hlast {value : ShapeId} :
      .ret value ∈ graph.bodyParts fn ↔ .ret value ∈ graph.returnParts fn := by
    unfold bodyParts
    split <;> simp
  simp only [hlast, returnParts_eq hreturns, returned_eq hid hreturns]
  cases members with
  | nil => simp [Shape.members]
  | cons member members => simp [Shape.members]

/-- A return of the undefined value itself is dropped, and a union with this member that is returned
    makes it a member of what the function returns, as nothing else does. The function stands in the
    program with a return in its body if what it returns has any member at all, and only then. -/
theorem synthesize_returns (h : graph.Recorded) (hname : config.globalName ≠ "") :
    ∃ synthesis, graph.synthesize config = .ok synthesis ∧
      ∀ function fn, graph.shape? function = some (.function fn) →
        (primitive .undefined ∈ graph.returned function ↔
          ∃ members, graph.UnionSeen function members ∧ primitive .undefined ∈ members) ∧
        ∀ node, synthesis.generated.nodes[function.index]? = some node →
          synthesis.program.arena.Reaches synthesis.program.body node ∧ ∃ body statements,
            synthesis.program.arena.node? node = some (.function fn.formals body) ∧
            synthesis.program.arena.node? body = some (.block statements) ∧
            ((∃ stmt ∈ statements, ∃ value,
                synthesis.program.arena.node? stmt = some (.ret value)) ↔
              graph.returned function ≠ []) := by
  obtain ⟨builder, lowering, hsynthesize, hgenerates, hsound, hlower⟩ :=
    synthesize_generates h hname
  refine ⟨_, hsynthesize, fun function fn hid => ⟨undefined_mem_returned_iff h,
    fun node hnode => ?_⟩⟩
  obtain ⟨hreached, body, statements, hfunction, hblock, hdone⟩ :=
    hgenerates.performs h hsound hlower hid hnode
  refine ⟨hreached, body, statements, hfunction, hblock, ?_⟩
  -- There is a return in the body if a part of it is one.
  rw [← exists_return_iff h.registered hid]
  constructor
  · rintro ⟨stmt, hstmt, hret⟩
    obtain ⟨part, hpart, hdoes⟩ := exists_of_forall₂ hdone.flip (Array.mem_toList_iff.2 hstmt)
    obtain ⟨value, rfl⟩ := (Program.Does.return_iff hdoes).1 hret
    exact ⟨value, hpart⟩
  · rintro ⟨value, hpart⟩
    obtain ⟨stmt, hstmt, hdoes⟩ := exists_of_forall₂ hdone hpart
    exact ⟨stmt, Array.mem_toList_iff.1 hstmt, hdoes.return_iff.2 ⟨value, rfl⟩⟩

/-- A function was seen to return the undefined value, as the one member of a union. -/
def undefinedUnion : ShapeGraph :=
  (((empty.function none).2.alloc (.union [primitive .undefined])).2.modify ⟨9⟩
    (Shape.setMembers [primitive .undefined])).hold global "p" ⟨7⟩

/-- The function is what its operations record. -/
theorem undefinedUnion_recorded : undefinedUnion.Recorded := by
  have hunion : (empty.function none).2.union [primitive .undefined] = .ok (⟨10⟩, _) := rfl
  have hreturn : ((empty.function none).2.alloc (.union [primitive .undefined])).2.observeReturn
    ⟨7⟩ ⟨10⟩ = .ok (true, _) := rfl
  exact (Recorded.observeReturn (.union (.function none .empty) hunion) hreturn).hold global "p" ⟨7⟩
    rfl rfl

/-- The program is `p = function () { return void 0; }`. -/
theorem undefinedUnion_run :
    ∃ synthesis, undefinedUnion.synthesize {} = .ok synthesis ∧
      synthesis.generated.nodes[7]? = some ⟨1⟩ ∧
      synthesis.program.body = [⟨7⟩] ∧ synthesis.program.arena.Assigns ⟨7⟩ ⟨5⟩ ⟨1⟩ ∧
      synthesis.program.arena.node? ⟨5⟩ = some (.ident "p") ∧
      synthesis.program.arena.node? ⟨1⟩ = some (.function #[] ⟨0⟩) ∧
      synthesis.program.arena.node? ⟨0⟩ = some (.block #[⟨4⟩]) ∧
      synthesis.program.arena.node? ⟨4⟩ = some (.ret (some ⟨3⟩)) ∧
      synthesis.program.arena.node? ⟨3⟩ = some (.unary .void ⟨2⟩) := by
  have hrun : (undefinedUnion.synthesize {}).toOption.any (fun synthesis =>
      let arena := synthesis.program.arena
      decide (synthesis.generated.nodes[7]? = some ⟨1⟩ ∧ synthesis.program.body = [⟨7⟩] ∧
        arena.node? ⟨7⟩ = some (.exprStmt ⟨6⟩) ∧ arena.node? ⟨6⟩ = some (.assign ⟨5⟩ ⟨1⟩) ∧
        arena.node? ⟨5⟩ = some (.ident "p") ∧ arena.node? ⟨1⟩ = some (.function #[] ⟨0⟩) ∧
        arena.node? ⟨0⟩ = some (.block #[⟨4⟩]) ∧ arena.node? ⟨4⟩ = some (.ret (some ⟨3⟩)) ∧
        arena.node? ⟨3⟩ = some (.unary .void ⟨2⟩))) = true := by
    decide +kernel
  obtain ⟨synthesis, hok, hrun⟩ := exists_of_any hrun
  obtain ⟨hnode, hbody, hstmt, hexpr, hprogram⟩ := of_decide_eq_true hrun
  exact ⟨synthesis, hok, hnode, hbody, ⟨_, hstmt, hexpr⟩, hprogram⟩

/-- The function stands in the program with a return. -/
theorem synthesize_returns_undefinedUnion :
    undefinedUnion.Recorded ∧ ({} : Config).globalName ≠ "" ∧
      ∃ synthesis, undefinedUnion.synthesize {} = .ok synthesis ∧
        (∃ members, undefinedUnion.UnionSeen ⟨7⟩ members ∧ primitive .undefined ∈ members) ∧
        ∃ node params body statements,
          synthesis.program.arena.node? node = some (.function params body) ∧
          synthesis.program.arena.node? body = some (.block statements) ∧
          ∃ stmt ∈ statements, ∃ value,
            synthesis.program.arena.node? stmt = some (.ret value) := by
  obtain ⟨synthesis, hok, hreturns⟩ := @synthesize_returns undefinedUnion {}
    undefinedUnion_recorded (by decide)
  obtain ⟨_, hok', hnode, _⟩ := undefinedUnion_run
  obtain rfl := Except.ok.inj (hok.symm.trans hok')
  obtain ⟨hseen, hbody⟩ := hreturns ⟨7⟩ _ rfl
  obtain ⟨_, body, statements, hfunction, hblock, hreturn⟩ := hbody _ hnode
  exact ⟨undefinedUnion_recorded, by decide, synthesis, hok, hseen.1 List.mem_cons_self, ⟨1⟩, _,
    body, statements, hfunction, hblock, hreturn.2 (List.cons_ne_nil _ _)⟩

/-- A function was seen to return nothing but the undefined value. It is a member of what the function
    returns, and the function has a return. -/
theorem synthesize_returns_union :
    undefinedUnion.Recorded ∧ undefinedUnion.returned ⟨7⟩ = [primitive .undefined] ∧
      ∃ synthesis, undefinedUnion.synthesize {} = .ok synthesis ∧
        synthesis.program.body = [⟨7⟩] ∧ synthesis.program.arena.Assigns ⟨7⟩ ⟨5⟩ ⟨1⟩ ∧
        synthesis.program.arena.node? ⟨5⟩ = some (.ident "p") ∧
        synthesis.program.arena.node? ⟨1⟩ = some (.function #[] ⟨0⟩) ∧
        synthesis.program.arena.node? ⟨0⟩ = some (.block #[⟨4⟩]) ∧
        synthesis.program.arena.node? ⟨4⟩ = some (.ret (some ⟨3⟩)) ∧
        synthesis.program.arena.node? ⟨3⟩ = some (.unary .void ⟨2⟩) := by
  obtain ⟨synthesis, hok, _, hprogram⟩ := undefinedUnion_run
  exact ⟨undefinedUnion_recorded, rfl, synthesis, hok, hprogram⟩

end ShapeGraph

end Semblance
