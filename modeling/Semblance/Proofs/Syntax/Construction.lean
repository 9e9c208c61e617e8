import Semblance.Proofs.Syntax.Linear

/-!
# Building sound arenas

The constructors of an arena keep it sound. Each takes the parts of a new node out of what the
builder holds and gives it the new node, which is an expression or a statement; those that append to
a node take out what they append. `Makes` says this of a constructor of a node.

## Key results

- `makes_expression`, `makes_hinted`, `makes_statement`: a new node
- `Sound.appendEntry`, `Sound.appendStmt`, `Sound.appendDeclarator`: a child appended to a node
- `Sound.setElements`: the elements of an array
-/

namespace Semblance.Arena

/-- A later arena that is sound for what the builder holds then. -/
structure Becomes (arena arena' : Arena) (used : List NodeId) : Prop where
  grows : arena.Grows arena'
  sound : arena'.Sound used

/-- A constructor gives the builder a new node of some kind. -/
structure Makes (arena : Arena) (kind : Arena → NodeId → Prop) (used : List NodeId)
    (result : NodeId × Arena) : Prop extends arena.Becomes result.2 (result.1 :: used) where
  kind : kind result.2 result.1

variable {arena arena' : Arena} {used used' : List NodeId} {id : NodeId} {node : Node}
  {kind : Arena → NodeId → Prop} {result : NodeId × Arena}

/-- What is made in a grown arena is made. -/
theorem Makes.after (h : arena.Grows arena') (h' : arena'.Makes kind used result) :
    arena.Makes kind used result :=
  ⟨⟨h.trans h'.grows, h'.sound⟩, h'.kind⟩

/-- A held node may be let go. -/
theorem Becomes.drop (h : arena.Becomes arena' (id :: used)) : arena.Becomes arena' used :=
  ⟨h.grows, h.sound.mono fun _ => List.count_le_count_cons⟩

/-! ### New nodes -/

/-- A child that needs no container may stand anywhere. -/
theorem Standalone.accepted (h : arena.Standalone id) (parent : Node) :
    ∃ node, arena.node? id = some node ∧ parent.acceptsChild node = true := by
  obtain ⟨node, hnode, hcontainer⟩ := h
  exact ⟨node, hnode, Node.acceptsChild_of_needsContainer hcontainer parent⟩

/-- An expression with children that may stand anywhere is made by adding its node. -/
theorem makes_expression (h : arena.Sound (node.childIds ++ used))
    (hexpression : node.isExpression = true)
    (hchildren : ∀ child ∈ node.childIds, arena.Standalone child) :
    arena.Makes IsExpression used (push node arena) where
  grows := grows_push node arena
  sound := h.push fun child hmem => (hchildren child hmem).accepted node
  kind := ⟨node, node?_push_self node arena, hexpression⟩

/-- A statement with children that may stand anywhere is made by adding its node. -/
theorem makes_statement (h : arena.Sound (node.childIds ++ used))
    (hexpression : node.isExpression = false) (hcontainer : node.needsContainer = false)
    (hchildren : ∀ child ∈ node.childIds, arena.Standalone child) :
    arena.Makes IsStatement used (push node arena) where
  grows := grows_push node arena
  sound := h.push fun child hmem => (hchildren child hmem).accepted node
  kind := ⟨node, node?_push_self node arena, hexpression, hcontainer⟩

/-- An expression with a hint can be shared. -/
theorem makes_hinted (h : arena.Sound (node.childIds ++ used))
    (hexpression : node.isExpression = true)
    (hchildren : ∀ child ∈ node.childIds, arena.Standalone child) {hint : String}
    (hhint : hint ≠ "") :
    arena.Makes Shareable used (pushHinted node hint arena) := by
  have hmakes := makes_expression h hexpression hchildren
  obtain ⟨hsound, hgrows, hnamed⟩ := hmakes.sound.setHint
    (by rw [node?_push_self, Option.isSome_some]) hhint
  exact ⟨⟨hmakes.grows.trans hgrows, hsound⟩, hgrows.isExpression hmakes.kind, hnamed⟩

/-- One expression may stand anywhere. -/
theorem standalone_singleton (h : arena.IsExpression id) :
    ∀ child ∈ [id], arena.Standalone child := by
  simpa using h.standalone

/-- Two expressions may stand anywhere. -/
theorem standalone_pair {id' : NodeId} (h : arena.IsExpression id) (h' : arena.IsExpression id') :
    ∀ child ∈ [id, id'], arena.Standalone child := by
  simpa using ⟨h.standalone, h'.standalone⟩

/-- An expression without children is made from nothing. -/
theorem makes_leaf (h : arena.Sound used) (hexpression : node.isExpression = true)
    (hleaf : node.childIds = []) : arena.Makes IsExpression used (push node arena) := by
  rw [← List.nil_append used, ← hleaf] at h
  exact makes_expression h hexpression (by simp [hleaf])

/-- A leaf, or a list without entries as yet. -/
theorem makes_hintedLeaf (h : arena.Sound used) (hexpression : node.isExpression = true)
    (hleaf : node.childIds = []) {hint : String} (hhint : hint ≠ "") :
    arena.Makes Shareable used (pushHinted node hint arena) := by
  rw [← List.nil_append used, ← hleaf] at h
  exact makes_hinted h hexpression (by simp [hleaf]) hhint

/-- A name is a leaf. -/
theorem makes_ident (h : arena.Sound used) (name : String) :
    arena.Makes IsExpression used (ident name arena) :=
  makes_leaf h rfl rfl

/-- The receiver is a leaf. -/
theorem makes_this (h : arena.Sound used) : arena.Makes IsExpression used (this arena) :=
  makes_leaf h rfl rfl

/-- A literal is a leaf. -/
theorem makes_literal (h : arena.Sound used) (value : Literal) :
    arena.Makes IsExpression used (literal value arena) :=
  makes_leaf h rfl rfl

/-- The undefined value is made from a number. -/
theorem makes_undefined (h : arena.Sound used) :
    arena.Makes IsExpression used (undefined arena) := by
  have hzero := makes_literal h (.int 0)
  exact .after hzero.grows
    (makes_expression hzero.sound rfl (standalone_singleton hzero.kind))

/-- A member is made from its owner, and from a string if its name is no identifier. -/
theorem makes_member {owner : NodeId} (h : arena.Sound (owner :: used))
    (howner : arena.IsExpression owner) (name : String) :
    arena.Makes IsExpression used (member owner name arena) := by
  unfold member
  split
  · -- The name is written after a dot.
    exact makes_expression h rfl (standalone_singleton howner)
  · -- The name is written as a string between brackets.
    have hkey := makes_literal h (.str name)
    have hsound := hkey.sound.perm (.swap owner _ used)
    exact .after hkey.grows (makes_expression hsound rfl
      (standalone_pair (hkey.grows.isExpression howner) hkey.kind))

/-- A chain of members is built from its root. -/
theorem makes_members {owner : NodeId} (h : arena.Sound (owner :: used))
    (howner : arena.IsExpression owner) (names : List String) :
    arena.Makes IsExpression used (names.foldlM member owner arena) := by
  induction names generalizing arena owner with
  | nil => exact ⟨⟨.rfl, h⟩, howner⟩
  | cons name names ih =>
    have hmember := makes_member h howner name
    exact .after hmember.grows (ih hmember.sound hmember.kind)

/-- The operands of a chain of alternatives are taken one after the other. -/
theorem makes_alternatives {operands : List NodeId} {head : NodeId}
    (h : arena.Sound (head :: operands ++ used)) (hhead : arena.IsExpression head)
    (hoperands : ∀ operand ∈ operands, arena.IsExpression operand) :
    arena.Makes IsExpression used (operands.foldlM Arena.or head arena) := by
  induction operands generalizing arena head with
  | nil => exact ⟨⟨.rfl, h⟩, hhead⟩
  | cons operand operands ih =>
    have hfirst := hoperands operand List.mem_cons_self
    have hor : arena.Makes IsExpression (operands ++ used) (Arena.or head operand arena) :=
      makes_expression h rfl (standalone_pair hhead hfirst)
    exact .after hor.grows (ih hor.sound hor.kind fun other hmem =>
      hor.grows.isExpression (hoperands other (List.mem_cons_of_mem _ hmem)))

/-- A statement that assigns is made from both sides. -/
theorem makes_assignStmt {target value : NodeId} (h : arena.Sound (target :: value :: used))
    (htarget : arena.IsExpression target) (hvalue : arena.IsExpression value) :
    arena.Makes IsStatement used (assignStmt target value arena) := by
  have hassign : arena.Makes IsExpression used (push (.assign target value) arena) :=
    makes_expression h rfl (standalone_pair htarget hvalue)
  exact .after hassign.grows (makes_statement hassign.sound rfl rfl
    (standalone_singleton hassign.kind))

/-- A return is made from its value. -/
theorem makes_ret {value : NodeId} (h : arena.Sound (value :: used))
    (hvalue : arena.IsExpression value) : arena.Makes IsStatement used (ret value arena) :=
  makes_statement h rfl rfl (standalone_singleton hvalue)

/-! ### Nodes that need a container -/

/-- The id of an entry of an object. -/
def IsEntry (arena : Arena) (id : NodeId) : Prop :=
  ∃ key value kind, arena.node? id = some (.entry key value kind)

/-- The id of a declarator. -/
def IsDeclarator (arena : Arena) (id : NodeId) : Prop :=
  ∃ name init, arena.node? id = some (.declarator name init)

/-- An entry is made from its value. -/
theorem makes_entry {value : NodeId} (h : arena.Sound (value :: used))
    (hvalue : arena.IsExpression value) (name : String) (entryKind : EntryKind) :
    arena.Makes IsEntry used (entry name value entryKind arena) where
  grows := grows_push _ arena
  sound := h.push fun child hmem =>
    (standalone_singleton hvalue child hmem).accepted _
  kind := ⟨_, _, _, node?_push_self _ arena⟩

/-- A declarator is made from its initializer, if it has one. -/
theorem makes_declarator {init : Option NodeId} (h : arena.Sound (init.toList ++ used))
    (hinit : ∀ value ∈ init.toList, arena.IsExpression value) (name : String) :
    arena.Makes IsDeclarator used (push (.declarator name init) arena) where
  grows := grows_push _ arena
  sound := by
    have hids : (Node.declarator name init).childIds = init.toList := by cases init <;> rfl
    rw [← hids] at h
    exact h.push fun child hmem => (hinit child (hids ▸ hmem)).standalone.accepted _
  kind := ⟨_, _, node?_push_self _ arena⟩

/-- A declaration is made from a declarator. -/
theorem makes_varDecl {declarator : NodeId} (h : arena.Sound (declarator :: used))
    (hdeclarator : arena.IsDeclarator declarator) :
    arena.Makes IsStatement used (push (.varDecl #[declarator]) arena) where
  grows := grows_push _ arena
  sound := h.push fun child hmem => by
    obtain rfl := List.mem_singleton.1 hmem
    obtain ⟨name, init, hnode⟩ := hdeclarator
    exact ⟨_, hnode, rfl⟩
  kind := ⟨_, node?_push_self _ arena, rfl, rfl⟩

/-- A declaration is made from the value that is declared. -/
theorem makes_declaration {value : NodeId} (h : arena.Sound (value :: used))
    (hvalue : arena.IsExpression value) (name : String) :
    arena.Makes IsStatement used (varDecl name (some value) arena) := by
  have hdeclarator := @makes_declarator _ _ (some value) h (by simpa using hvalue) name
  exact .after hdeclarator.grows (makes_varDecl hdeclarator.sound hdeclarator.kind)

/-! ### Appended children -/

/-- A change that appends a child where it is accepted, and that leaves other nodes alone. -/
structure Appends (child : Node) (id : NodeId) (change : Node → Node) (node : Node) : Prop where
  kind : node.SameKind (change node)
  childIds : (change node).childIds = node.childIds ++ [id]
  acceptsChild : ∀ other, (change node).acceptsChild other = node.acceptsChild other
  accepts : (change node).acceptsChild child = true

/-- A held node is let go by being appended where it is accepted. -/
theorem Sound.append {child : NodeId} (h : arena.Sound (child :: used)) {change : Node → Node}
    (hnode : arena.node? child = some node)
    (hchange : ∀ holder, change holder = holder ∨ Appends node child change holder) :
    arena.Becomes (arena.modifyNode id change) used where
  grows := grows_modifyNode fun holder _ => by
    rcases hchange holder with heq | happends
    · rw [heq]
      exact .rfl
    · exact happends.kind
  sound := by
    refine h.modifyNode (fun holder _ => ?_) (fun holder hholder other hmem => ?_)
      fun holder other => ?_
    · rcases hchange holder with heq | happends
      · rw [heq]
        exact .rfl
      · exact happends.kind
    · -- The former children are accepted as before, and the new one by assumption.
      rcases hchange holder with heq | happends
      · rw [heq] at hmem ⊢
        exact h.accepts hholder hmem
      · rw [happends.childIds, List.mem_append] at hmem
        rcases hmem with hmem | hmem
        · obtain ⟨node', hnode', haccepts⟩ := h.accepts hholder hmem
          exact ⟨node', hnode', (happends.acceptsChild node').trans haccepts⟩
        · obtain rfl := List.mem_singleton.1 hmem
          exact ⟨node, hnode, happends.accepts⟩
    · rcases hchange holder with heq | happends
      · rw [heq, List.count_cons]
        omega
      · rw [happends.childIds, List.count_append, List.count_cons, List.count_cons, List.count_nil]
        omega

/-- An entry is appended to an object. -/
theorem Sound.appendEntry {entry : NodeId} (h : arena.Sound (entry :: used))
    (hentry : arena.IsEntry entry) (object : NodeId) :
    arena.Becomes (arena.appendEntry object entry) used := by
  obtain ⟨key, value, kind, hnode⟩ := hentry
  refine h.append hnode fun holder => ?_
  cases holder with
  | object entries =>
    refine .inr ⟨⟨rfl, rfl, fun _ => rfl⟩, ?_, fun other => ?_, rfl⟩
    · simp [Node.childIds, Node.operands]
    · cases other <;> rfl
  | _ => exact .inl rfl

/-- A statement is appended to a block. -/
theorem Sound.appendStmt {stmt : NodeId} (h : arena.Sound (stmt :: used))
    (hstmt : arena.IsStatement stmt) (block : NodeId) :
    arena.Becomes (arena.appendStmt block stmt) used := by
  obtain ⟨node, hnode, _, hcontainer⟩ := hstmt
  refine h.append hnode fun holder => ?_
  cases holder with
  | block statements =>
    refine .inr ⟨⟨rfl, rfl, fun _ => rfl⟩, ?_, fun other => ?_,
      Node.acceptsChild_of_needsContainer hcontainer _⟩
    · simp [Node.childIds, Node.operands]
    · cases other <;> rfl
  | _ => exact .inl rfl

/-- A declarator is appended to a declaration. -/
theorem Sound.appendDeclarator {declarator : NodeId} (h : arena.Sound (declarator :: used))
    (hdeclarator : arena.IsDeclarator declarator) (decl : NodeId) :
    arena.Becomes (arena.appendDeclarator decl declarator) used := by
  obtain ⟨name, init, hnode⟩ := hdeclarator
  refine h.append hnode fun holder => ?_
  cases holder with
  | varDecl declarators =>
    refine .inr ⟨⟨rfl, rfl, fun _ => rfl⟩, ?_, fun other => ?_, rfl⟩
    · simp [Node.childIds, Node.operands]
    · cases other <;> rfl
  | _ => exact .inl rfl

/-- Any expression can be turned into an array. -/
theorem Sound.setElements {elements : Array (Option NodeId)}
    (h : arena.Sound ((Node.array elements).childIds ++ used)) (hid : arena.IsExpression id)
    (helements : ∀ element ∈ (Node.array elements).childIds, arena.IsExpression element) :
    arena.Becomes (arena.modifyNode id fun _ => .array elements) used := by
  have hkind (node : Node) (hnode : arena.node? id = some node) :
      node.SameKind (.array elements) := by
    obtain ⟨node', hnode', hexpression⟩ := hid
    obtain rfl := Option.some.inj (hnode.symm.trans hnode')
    have hcontainer := Node.needsContainer_of_isExpression hexpression
    refine ⟨hexpression.symm, hcontainer.symm, fun parent => ?_⟩
    rw [Node.acceptsChild_of_needsContainer hcontainer,
      @Node.acceptsChild_of_needsContainer (.array elements) rfl]
  refine ⟨grows_modifyNode hkind, h.modifyNode hkind (fun _ _ element hmem => ?_) fun _ other => ?_⟩
  · exact (helements element hmem).standalone.accepted _
  · rw [List.count_append]
    omega

end Semblance.Arena
