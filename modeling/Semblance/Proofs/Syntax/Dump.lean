import Semblance.Proofs.Syntax.Forest
import Semblance.Proofs.Syntax.Written

/-!
# A dump determines the tree

The dump of a node is the text of a nested list, from which the list is known, and from the list the
node can be read back, and so can all nodes below it. This needs names that are identifiers, entries
and declarators in their containers only, and no reference that looks like another leaf.

## Key results

- `dump?_eq_some`: a dump is the text of a nested list
- `Readable.sameTree`: nodes that are written as the same list are the same tree
- `dump?_determines_tree`: so are nodes with the same dump
-/

namespace Semblance

namespace Node

/-- Nothing but a declarator is written like a hole. -/
theorem form_ne_hole {f : NodeId → Form} {node : Node} (h : node.IsLexical)
    (hrole : node.role ≠ .declarator) : node.form f ≠ .hole := by
  fun_cases form f node with
  | case1 name =>
    rintro ⟨⟩
    exact absurd h.2 (by decide)
  | case2 value =>
    cases value with
    | int value =>
      intro heq
      -- A number is no identifier, but the word for a hole is one.
      have hnot := not_isIdentifier_toString value
      rw [Token.word.inj (Form.atom.inj heq)] at hnot
      exact absurd hnot (by decide)
    | null => exact fun heq => absurd (Token.word.inj (Form.atom.inj heq)) (by decide)
    | str value => rintro ⟨⟩
  | case3 => exact fun heq => absurd (Token.word.inj (Form.atom.inj heq)) (by decide)
  | case20 name => exact absurd rfl hrole
  | _ => rintro ⟨⟩

/-- Nodes of a role that are written alike have the same kind and the same data, and their children
    are written alike. -/
theorem eq_of_form_eq {f f' : NodeId → Form} {node node' : Node} (h : node.IsLexical)
    (h' : node'.IsLexical) (hrole : node.role = node'.role)
    (hholes : ∀ elements, node = array elements → ∀ element, some element ∈ elements.toList →
      f element ≠ .hole)
    (hholes' : ∀ elements, node' = array elements → ∀ element, some element ∈ elements.toList →
      f' element ≠ .hole)
    (hform : node.form f = node'.form f') :
    node.skeleton = node'.skeleton ∧ ∀ slot child child', node.child? slot = some child →
      node'.child? slot = some child' → f child = f' child' := by
  have hread := read_form h hholes
  rw [hform, hrole, read_form h' hholes'] at hread
  obtain ⟨hskeleton, hoperands⟩ := Prod.mk.inj (Option.some.inj hread)
  refine ⟨hskeleton.symm, fun slot child child' hchild hchild' => ?_⟩
  rw [child?_eq, Option.join_eq_some_iff] at hchild hchild'
  have hslot := congrArg (·[slot]?) hoperands
  simp only [List.getElem?_map, hchild, hchild', Option.map_some, Option.some.injEq] at hslot
  exact hslot.symm

/-- Nodes with the same skeleton have children of the same role. -/
theorem childRole_of_skeleton_eq {node node' : Node} (h : node.skeleton = node'.skeleton) :
    node.childRole = node'.childRole := by
  have hkeep (node : Node) : node.skeleton.childRole = node.childRole := by
    fun_cases mapChildren (fun _ => ⟨0⟩) node <;> rfl
  rw [← hkeep, h, hkeep]

end Node

namespace Arena

/-! ### Dumps as nested lists -/

/-- The node with an id as a nested list, so many levels deep. -/
def form (arena : Arena) : (levels : Nat) → NodeId → Form
  | 0, _ => .list []
  | levels + 1, id =>
    match arena.node? id with
    | some node => node.form (arena.form levels)
    | none => .atom (.word ("<dangling " ++ toString id ++ ">"))

variable {arena arena' : Arena} {id id' : NodeId} {levels levels' : Nat}

/-- The pieces of a node make up its text. -/
theorem chars_pieces (arena : Arena) (levels : Nat) (id : NodeId) :
    (arena.pieces id).flatMap (Piece.chars (arena.form levels)) =
      (arena.form (levels + 1) id).text := by
  cases hnode : arena.node? id with
  | some node => simp only [pieces, form, hnode, Node.chars_pieces]
  | none => simp [pieces, form, hnode, Piece.chars, Form.text, Token.text]

/-- A node is written with its children written one level less deep. -/
theorem form_of_node? {node : Node} (h : arena.node? id = some node) :
    arena.form (levels + 1) id = node.form (arena.form levels) := by
  rw [form, h]

/-- What is written for pending pieces. -/
theorem write_eq_some {pending : List (Nat × Piece)} {out : String}
    (hfits : ∀ levels id, (levels, .node id) ∈ pending → arena.Fits levels id) :
    arena.write pending out = some (out ++
      String.ofList (pending.flatMap fun (levels, piece) => piece.chars (arena.form levels))) := by
  fun_induction write arena pending out with
  | case1 out => simp
  | case2 out levels text rest ih =>
    rw [ih fun levels' id hmem => hfits levels' id (List.mem_cons_of_mem _ hmem)]
    simp [Piece.chars, String.append_assoc]
  | case3 out id rest => exact (hfits 0 id (List.mem_cons_self ..)).elim
  | case4 out levels id rest ih =>
    rw [ih fun _ _ => fits_pieces hfits, List.flatMap_append, List.flatMap_map, List.flatMap_cons,
      chars_pieces]
    rfl

/-- A dump is the text of a nested list. -/
theorem dump?_eq_some (h : arena.Fits (arena.size + 1) id) :
    arena.dump? id = some (String.ofList (arena.form (arena.size + 1) id).text) := by
  rw [dump?, write_eq_some]
  · simp [Piece.chars]
  · intro levels id' hmem
    obtain ⟨rfl, heq⟩ := Prod.mk.inj (List.mem_singleton.1 hmem)
    rwa [Piece.node.inj heq]

/-! ### Trees -/

/-- Below a node there is a finite tree of allocated nodes, in which entries are below objects only
    and nothing else is, declarators are below declarations only and nothing else is, and all names
    are as `IsLexical` says. The node itself has the given role. -/
inductive Readable (arena : Arena) : Role → NodeId → Prop where
  | node {role : Role} {id : NodeId} {node : Node} : arena.node? id = some node →
      node.role = role → node.IsLexical →
      (∀ slot child, node.child? slot = some child → Readable arena node.childRole child) →
      Readable arena role id

/-- The trees below two nodes are the same up to ids: they have the same kind and the same data, and
    the trees in each slot are the same. -/
inductive SameTree (arena arena' : Arena) : NodeId → NodeId → Prop where
  | node {id id' : NodeId} {node node' : Node} : arena.node? id = some node →
      arena'.node? id' = some node' → node.skeleton = node'.skeleton →
      (∀ slot child child', node.child? slot = some child → node'.child? slot = some child' →
        SameTree arena arena' child child') →
      SameTree arena arena' id id'

namespace Readable

variable {role : Role}

/-- Whatever is below a readable node is readable. -/
theorem of_reaches (h : arena.Readable role id) (hid : arena.Reaches [id] id') :
    ∃ role', arena.Readable role' id' := by
  induction hid with
  | root hmem => exact ⟨role, List.mem_singleton.1 hmem ▸ h⟩
  | child _ hchild ih =>
    obtain ⟨_, ⟨hnode, _, _, hchildren⟩⟩ := ih
    exact ⟨_, hchildren _ _ ((child?_of_node? hnode _).symm.trans hchild)⟩

/-- What can be read has no dangling ids. -/
theorem closed (h : arena.Readable role id) : arena.Closed [id] := by
  intro id' hid
  obtain ⟨_, ⟨hnode, _, _, _⟩⟩ := h.of_reaches hid
  rw [hnode, Option.isSome_some]

/-- What can be read has no cycles, since it is a finite tree. -/
theorem not_beneath_self (h : arena.Readable role id) : ¬ arena.Beneath id id := by
  induction h with
  | @node _ id node hnode _ _ _ ih =>
    intro hbeneath
    obtain ⟨slot, child, hchild, rfl | hback⟩ := hbeneath.exists_child
    · exact ih slot _ ((child?_of_node? hnode slot).symm.trans hchild) hbeneath
    · exact ih slot child ((child?_of_node? hnode slot).symm.trans hchild) (.step hback hchild)

/-- No way down from a readable node is longer than there are nodes. -/
theorem fits (h : arena.Readable role id) : arena.Fits (arena.size + 1) id :=
  fits_of_acyclic h.closed (fun _ hid => (h.of_reaches hid).elim fun _ => not_beneath_self)
    (.root (List.mem_singleton_self id))

/-- A child of a readable node fits into one level less. -/
theorem fits_child {node : Node} (hfits : arena.Fits (levels + 1) id)
    (hnode : arena.node? id = some node) {slot : Nat} {child : NodeId}
    (hchild : node.child? slot = some child) : arena.Fits levels child :=
  hfits slot child ((child?_of_node? hnode slot).trans hchild)

/-- What can be read is written in proper words. -/
theorem form_isProper (h : arena.Readable role id) (hfits : arena.Fits levels id) :
    (arena.form levels id).IsProper := by
  induction levels generalizing role id with
  | zero => exact hfits.elim
  | succ levels ih =>
    cases h with
    | @node _ _ node hnode hrole hlexical hchildren =>
      rw [form_of_node? hnode]
      refine Node.form_isProper hlexical fun child hmem => ?_
      obtain ⟨slot, hslot⟩ := List.getElem?_of_mem hmem
      have hchild : node.child? slot = some child := by rw [Node.child?_eq, hslot, Option.join_some]
      exact ih (hchildren slot child hchild) (fits_child hfits hnode hchild)

/-- No element of an array is written like a hole. -/
theorem form_element_ne {node : Node} (hnode : arena.node? id = some node)
    (hchildren : ∀ slot child, node.child? slot = some child →
      arena.Readable node.childRole child) (hfits : arena.Fits (levels + 1) id)
    (elements : Array (Option NodeId)) (harray : node = .array elements) (element : NodeId)
    (hmem : some element ∈ elements.toList) : arena.form levels element ≠ .hole := by
  subst harray
  obtain ⟨slot, hslot⟩ := List.getElem?_of_mem hmem
  have hchild : (Node.array elements).child? slot = some element := by
    rw [Node.child?_eq, Node.operands, hslot, Option.join_some]
  cases levels with
  | zero => exact (fits_child hfits hnode hchild).elim
  | succ levels =>
    cases hchildren slot element hchild with
    | node hnode' hrole hlexical _ =>
      rw [form_of_node? hnode']
      exact Node.form_ne_hole hlexical (by rw [hrole]; rintro ⟨⟩)

/-- Nodes of one role that are written as the same list are the same tree. -/
theorem sameTree (h : arena.Readable role id) (h' : arena'.Readable role id')
    (hfits : arena.Fits levels id) (hfits' : arena'.Fits levels' id')
    (hform : arena.form levels id = arena'.form levels' id') : arena.SameTree arena' id id' := by
  -- Induction on the levels, with the children one level below.
  induction levels generalizing role id id' levels' with
  | zero => exact hfits.elim
  | succ levels ih =>
    cases levels' with
    | zero => exact hfits'.elim
    | succ levels' =>
      cases h with
      | @node _ _ node hnode hrole hlexical hchildren =>
        cases h' with
        | @node _ _ node' hnode' hrole' hlexical' hchildren' =>
          rw [form_of_node? hnode, form_of_node? hnode'] at hform
          obtain ⟨hskeleton, hforms⟩ := Node.eq_of_form_eq hlexical hlexical'
            (hrole.trans hrole'.symm) (form_element_ne hnode hchildren hfits)
            (form_element_ne hnode' hchildren' hfits') hform
          refine .node hnode hnode' hskeleton fun slot child child' hchild hchild' => ?_
          have hreadable' := hchildren' slot child' hchild'
          rw [← Node.childRole_of_skeleton_eq hskeleton] at hreadable'
          exact ih (hchildren slot child hchild) hreadable' (fits_child hfits hnode hchild)
            (fits_child hfits' hnode' hchild') (hforms slot child child' hchild hchild')

end Readable

/-- The dump of a readable node comes to an end, and it determines the tree below the node. -/
theorem dump?_determines_tree (h : arena.Readable .plain id) (h' : arena'.Readable .plain id') :
    (arena.dump? id).isSome ∧ (arena'.dump? id').isSome ∧
      (arena.dump? id = arena'.dump? id' → arena.SameTree arena' id id') := by
  have hdump := dump?_eq_some h.fits
  have hdump' := dump?_eq_some h'.fits
  refine ⟨by rw [hdump, Option.isSome_some], by rw [hdump', Option.isSome_some], fun heq => ?_⟩
  rw [hdump, hdump'] at heq
  have htext := String.ofList_injective (Option.some.inj heq)
  exact h.sameTree h' h.fits h'.fits
    (Form.text_inj (h.form_isProper h.fits) (h'.form_isProper h'.fits) htext)

/-- The declaration `var x = this`. -/
def bottomUp : Arena where
  nodes := #[.this, .declarator "x" (some ⟨0⟩), .varDecl #[⟨1⟩]]

/-- The same declaration, allocated in another order. -/
def topDown : Arena where
  nodes := #[.varDecl #[⟨2⟩], .this, .declarator "x" (some ⟨1⟩)]

/-- The declaration can be read wherever its nodes are. -/
theorem readable_declaration {arena : Arena} {decl declarator init : NodeId}
    (hdecl : arena.node? decl = some (.varDecl #[declarator]))
    (hdeclarator : arena.node? declarator = some (.declarator "x" (some init)))
    (hinit : arena.node? init = some .this) : arena.Readable .plain decl := by
  refine .node hdecl rfl trivial fun slot child hchild => ?_
  obtain ⟨rfl, rfl⟩ : slot = 0 ∧ declarator = child := by
    cases slot with
    | zero => exact ⟨rfl, Option.some.inj hchild⟩
    | succ => exact nomatch hchild
  refine .node hdeclarator rfl (show isIdentifier "x" = true by decide) fun slot child hchild => ?_
  obtain ⟨rfl, rfl⟩ : slot = 0 ∧ init = child := by
    cases slot with
    | zero => exact ⟨rfl, Option.some.inj hchild⟩
    | succ => exact nomatch hchild
  exact .node hinit rfl trivial fun slot child hchild => nomatch hchild

/-- The order of allocation does not show in a dump. -/
theorem dump?_determines_tree_declaration :
    bottomUp.Readable .plain ⟨2⟩ ∧ topDown.Readable .plain ⟨0⟩ ∧
      bottomUp.dump? ⟨2⟩ = topDown.dump? ⟨0⟩ ∧ bottomUp.SameTree topDown ⟨2⟩ ⟨0⟩ := by
  have hreadable : bottomUp.Readable .plain ⟨2⟩ := readable_declaration rfl rfl rfl
  have hreadable' : topDown.Readable .plain ⟨0⟩ := readable_declaration rfl rfl rfl
  have hdump : bottomUp.dump? ⟨2⟩ = topDown.dump? ⟨0⟩ := by decide +kernel
  exact ⟨hreadable, hreadable', hdump, (dump?_determines_tree hreadable hreadable').2.2 hdump⟩

end Arena

end Semblance
