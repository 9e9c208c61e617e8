import Std.Data.String.ToInt
import Semblance.Proofs.Name.Numeral
import Semblance.Proofs.Syntax.Form
import Semblance.Proofs.Syntax.Skeleton
import Semblance.Syntax.Dump

/-!
# Nodes as nested lists

A node is written as the text of a nested list. From this list and from the role of the node, the
node can be read back, except that in the place of its children there are only the lists that these
are written as.

## Key results

- `text_form`: the pieces of a node are the text of a nested list
- `form_isProper`: the words of this list are proper
- `parts_form`: the node can be read back
-/

namespace Semblance

/-- How a node is read: entries and declarators are written in ways of their own. -/
inductive Role where
  | plain
  | entry
  | declarator
deriving DecidableEq, Repr

namespace Form

/-- A list with a word at its head. -/
def headed (head : String) (items : List Form) : Form :=
  list (atom (.word head) :: items)

/-- How a hole of an array is written. -/
def hole : Form :=
  atom (.word "_")

end Form

namespace Node

/-! ### Written nodes -/

/-- The key of an entry as a token. -/
def keyToken : EntryKey → Token
  | .bare name => .word name
  | .quoted name => .quoted name

/-- A literal as a token. -/
def literalToken : Literal → Token
  | .null => .word "null"
  | .int value => .word (toString value)
  | .str value => .quoted value

/-- A node as a nested list, if its children are written as given. -/
def form (f : NodeId → Form) : Node → Form
  | ident name => .atom (.word name)
  | literal value => .atom (literalToken value)
  | this => .atom (.word "this")
  | unary op operand => .headed op.symbol [f operand]
  | or left right => .headed "||" [f left, f right]
  | assign target value => .headed "=" [f target, f value]
  | call callee args => .headed "call" (f callee :: args.toList.map f)
  | new callee args => .headed "new" (f callee :: args.toList.map f)
  | member owner (.named name) => .headed "." [f owner, .atom (.word name)]
  | member owner (.computed key) => .headed ".[]" [f owner, f key]
  | function params body =>
    .headed "function" [.list (params.toList.map fun param => .atom (.word param)), f body]
  | object entries => .headed "object" (entries.toList.map f)
  | entry key value kind => .headed kind.word [.atom (keyToken key), f value]
  | array elements =>
    .headed "array" (elements.toList.map fun
      | some element => f element
      | none => .hole)
  | block statements => .headed "block" (statements.toList.map f)
  | exprStmt expr => .headed "stmt" [f expr]
  | ret value => .headed "return" (value.toList.map f)
  | varDecl declarators => .headed "var" (declarators.toList.map f)
  | declarator name (some init) => .headed name [f init]
  | declarator name none => .atom (.word name)

end Node

/-- The characters of a piece, if nodes are written as given. -/
def Piece.chars (f : NodeId → Form) : Piece → List Char
  | .text written => written.toList
  | .node id => (f id).text

/-- A key is written as the token for it. -/
theorem text_keyToken (key : EntryKey) : (Node.keyToken key).text = key.written.toList := by
  cases key <;> rfl

/-- A literal is written as the token for it. -/
theorem text_literalToken (value : Literal) :
    (Node.literalToken value).text = value.written.toList := by
  cases value <;> rfl

/-- The pieces of a list with a head are its text, if its items are. -/
theorem chars_listed {f : NodeId → Form} {head : String} {items : List Piece} {forms : List Form}
    (h : items.map (Piece.chars f) = forms.map Form.text) :
    (Node.listed head items).flatMap (Piece.chars f) = (Form.headed head forms).text := by
  -- The items after the head.
  have htail : (items.flatMap fun item => [.text " ", item]).flatMap (Piece.chars f) ++ [')'] =
      Form.tailText forms := by
    clear head
    induction items generalizing forms with
    | nil =>
      cases forms with
      | nil => rfl
      | cons form forms => simp at h
    | cons item items ih =>
      cases forms with
      | nil => simp at h
      | cons form forms =>
        obtain ⟨hitem, hitems⟩ := List.cons.inj h
        rw [Form.tailText, ← ih hitems, ← hitem]
        simp [Piece.chars]
  rw [Form.headed, Form.text, ← htail]
  simp [Node.listed, Piece.chars, Form.text, Token.text]

/-- The names of parameters are the text of a list without a head. -/
theorem text_params (params : List String) :
    ("(" ++ " ".intercalate params ++ ")").toList =
      (Form.list (params.map fun param => .atom (.word param))).text := by
  -- `intercalate` puts the space before the next word, `tailText` before each item: they meet at
  -- the closing bracket.
  have htail (param : String) (params : List String) :
      " ".toList.intercalate (param.toList :: params.map String.toList) ++ [')'] =
        param.toList ++ Form.tailText (params.map fun param => .atom (.word param)) := by
    induction params generalizing param with
    | nil => simp [Form.tailText]
    | cons next params ih =>
      rw [List.map_cons, List.intercalate_cons_cons, List.append_assoc, ih]
      simp [Form.tailText, Form.text, Token.text]
  rw [String.toList_append, String.toList_append, String.toList_intercalate]
  cases params with
  | nil => rfl
  | cons param params =>
    rw [List.append_assoc, List.map_cons, show ")".toList = [')'] from rfl, htail]
    rfl

/-- The pieces of a node are the text of a nested list. -/
theorem Node.chars_pieces (f : NodeId → Form) (node : Node) :
    node.pieces.flatMap (Piece.chars f) = (node.form f).text := by
  fun_cases Node.form f node with
  | case1 name | case3 | case20 name => exact List.append_nil _
  | case2 value => exact (List.append_nil _).trans (text_literalToken value).symm
  | case11 params body =>
    exact chars_listed (congrArg (· :: [(f body).text]) (text_params params.toList))
  | case13 key value kind =>
    exact chars_listed (congrArg (· :: [(f value).text]) (text_keyToken key).symm)
  | case14 elements =>
    -- An array writes a hole as a word of its own, so its elements are compared one by one.
    refine chars_listed ?_
    rw [List.map_map, List.map_map]
    refine List.map_congr_left fun element _ => ?_
    cases element <;> rfl
  | _ =>
    -- Every other kind is a list of a fixed number of items.
    refine chars_listed ?_
    simp [Piece.chars, Form.text, Token.text]

/-! ### Proper words -/

/-- The names in a node are identifiers, and those of references are no other leaves. -/
def Node.IsLexical : Node → Prop
  | ident name => isIdentifier name = true ∧ name ∉ ["this", "null", "_"]
  | member _ (.named name) => isIdentifier name = true
  | function params _ => ∀ param ∈ params, isIdentifier param = true
  | entry (.bare name) _ _ => isIdentifier name = true
  | declarator name _ => isIdentifier name = true
  | _ => True

/-- An identifier is a proper word. -/
theorem Token.isProper_of_isIdentifier {name : String} (h : isIdentifier name = true) :
    (word name).IsProper := by
  refine ⟨isIdentifier.ne_empty h, fun c hc hmem => ?_⟩
  have hcontinues := List.all_eq_true.1 (isIdentifier.all_continues h) c hc
  simp only [delimiters, List.mem_cons, List.not_mem_nil, or_false] at hmem
  rcases hmem with rfl | rfl | rfl | rfl <;> exact absurd hcontinues (by decide)

/-- A number is a proper word. -/
theorem Token.isProper_toString (value : Int) : (word (toString value)).IsProper := by
  refine ⟨toString_int_ne_empty value, fun c hc hmem => ?_⟩
  have hdigit := sign_or_isDigit_of_mem_toString hc
  simp only [delimiters, List.mem_cons, List.not_mem_nil, or_false] at hmem
  rcases hmem with rfl | rfl | rfl | rfl <;> exact absurd hdigit (by decide)

/-- A literal is a proper token, as a word or quoted. -/
theorem Token.isProper_literalToken (value : Literal) : (Node.literalToken value).IsProper := by
  cases value with
  | null => exact isProper_word (by decide) rfl
  | int value => exact isProper_toString value
  | str value => trivial

/-- A list is proper if its head and its items are. -/
theorem Form.isProper_headed {head : String} {items : List Form} (hhead : (Token.word head).IsProper)
    (hitems : ∀ item ∈ items, item.IsProper) : (headed head items).IsProper := by
  refine .list fun item hmem => ?_
  rcases List.mem_cons.1 hmem with rfl | hmem
  · exact .atom hhead
  · exact hitems item hmem

/-- The words of a written node are proper if its names are, and so for its children. -/
theorem Node.form_isProper {f : NodeId → Form} {node : Node} (h : node.IsLexical)
    (hchildren : ∀ child, some child ∈ node.operands → (f child).IsProper) :
    (node.form f).IsProper := by
  fun_cases form f node with
  | case1 name => exact .atom (Token.isProper_of_isIdentifier h.1)
  | case2 value => exact .atom (Token.isProper_literalToken value)
  | case3 => exact .atom (Token.isProper_word (by decide) rfl)
  | case4 op operand =>
    refine Form.isProper_headed (by cases op <;> exact Token.isProper_word (by decide) rfl) ?_
    simpa [operands] using hchildren
  | case9 owner name =>
    refine Form.isProper_headed (Token.isProper_word (by decide) rfl) ?_
    have hname := Token.isProper_of_isIdentifier h
    simpa using ⟨hchildren owner (List.mem_cons_self ..), Form.IsProper.atom hname⟩
  | case11 params body =>
    refine Form.isProper_headed (Token.isProper_word (by decide) rfl) ?_
    have hparams : (Form.list (params.toList.map fun param => .atom (.word param))).IsProper := by
      refine .list fun item hmem => ?_
      obtain ⟨param, hparam, rfl⟩ := List.mem_map.1 hmem
      exact .atom (Token.isProper_of_isIdentifier (h param (Array.mem_toList_iff.1 hparam)))
    simpa using ⟨hparams, hchildren body (List.mem_cons_self ..)⟩
  | case13 key value kind =>
    refine Form.isProper_headed (by cases kind <;> exact Token.isProper_word (by decide) rfl) ?_
    have hkey : (keyToken key).IsProper := by
      cases key with
      | bare name => exact Token.isProper_of_isIdentifier h
      | quoted name => trivial
    simpa using ⟨Form.IsProper.atom hkey, hchildren value (List.mem_cons_self ..)⟩
  | case14 elements =>
    refine Form.isProper_headed (Token.isProper_word (by decide) rfl) fun item hmem => ?_
    obtain ⟨_ | element, helement, rfl⟩ := List.mem_map.1 hmem
    · exact .atom (Token.isProper_word (by decide) rfl)
    · exact hchildren element helement
  | case17 value =>
    refine Form.isProper_headed (Token.isProper_word (by decide) rfl) ?_
    cases value with
    | none => simp
    | some value => simpa using hchildren value (List.mem_cons_self ..)
  | case19 name init =>
    refine Form.isProper_headed (Token.isProper_of_isIdentifier h) ?_
    simpa [operands] using hchildren
  | case20 name => exact .atom (Token.isProper_of_isIdentifier h)
  | _ =>
    -- What is left has a word of its own and children only.
    refine Form.isProper_headed (Token.isProper_word (by decide) rfl) ?_
    simpa [operands] using hchildren

/-! ### Reading a node back -/

/-- The role of a node. -/
def Node.role : Node → Role
  | entry _ _ _ => .entry
  | declarator _ _ => .declarator
  | _ => .plain

/-- The role of what stands below a node. -/
def Node.childRole : Node → Role
  | object _ => .entry
  | varDecl _ => .declarator
  | _ => .plain

namespace Form

/-- The children that are written as given. -/
def slots (items : List Form) : Array NodeId :=
  (items.map fun _ => ⟨0⟩).toArray

/-- The word that a list consists of. -/
def word? : Form → Option String
  | atom (.word word) => some word
  | _ => none

/-- An element of an array, or a hole. -/
def element? : Form → Option Form
  | atom (.word "_") => none
  | form => some form

/-- A word that stands for a node without children. -/
def readWord (word : String) : Option Node :=
  if word = "this" then some .this
  else if word = "null" then some (.literal .null)
  else if isIdentifier word then some (.ident word)
  else word.toInt?.map fun value => .literal (.int value)

/-- A list that stands for a node with children: the node with all children made equal, and what is
    written in the places of its children. -/
def readList (head : String) (items : List Form) : Option (Node × List (Option Form)) :=
  match head, items with
  | "!", [operand] => some (.unary .not ⟨0⟩, [some operand])
  | "void", [operand] => some (.unary .void ⟨0⟩, [some operand])
  | "||", [left, right] => some (.or ⟨0⟩ ⟨0⟩, [some left, some right])
  | "=", [target, value] => some (.assign ⟨0⟩ ⟨0⟩, [some target, some value])
  | "call", callee :: args => some (.call ⟨0⟩ (slots args), some callee :: args.map some)
  | "new", callee :: args => some (.new ⟨0⟩ (slots args), some callee :: args.map some)
  | ".", [owner, atom (.word name)] => some (.member ⟨0⟩ (.named name), [some owner])
  | ".[]", [owner, key] => some (.member ⟨0⟩ (.computed ⟨0⟩), [some owner, some key])
  | "function", [list params, body] =>
    some (.function (params.filterMap word?).toArray ⟨0⟩, [some body])
  | "object", entries => some (.object (slots entries), entries.map some)
  | "array", elements =>
    some (.array ((elements.map element?).map (Option.map fun _ => ⟨0⟩)).toArray,
      elements.map element?)
  | "block", statements => some (.block (slots statements), statements.map some)
  | "stmt", [expr] => some (.exprStmt ⟨0⟩, [some expr])
  | "return", [] => some (.ret none, [none])
  | "return", [value] => some (.ret (some ⟨0⟩), [some value])
  | "var", declarators => some (.varDecl (slots declarators), declarators.map some)
  | _, _ => none

/-- What an entry is written with. -/
def readEntry (head : String) (key : Token) : Option Node :=
  let key := match key with
    | .word name => EntryKey.bare name
    | .quoted name => .quoted name
  match head with
  | "prop" => some (.entry key ⟨0⟩ .value)
  | "get" => some (.entry key ⟨0⟩ .getter)
  | "set" => some (.entry key ⟨0⟩ .setter)
  | _ => none

/-- The node of a role that is written as a nested list. -/
def read : Role → Form → Option (Node × List (Option Form))
  | .plain, atom (.quoted text) => some (.literal (.str text), [])
  | .plain, atom (.word word) => (readWord word).map (·, [])
  | .plain, list (atom (.word head) :: items) => readList head items
  | .entry, list [atom (.word head), atom key, value] => (readEntry head key).map (·, [some value])
  | .declarator, atom (.word name) => some (.declarator name none, [none])
  | .declarator, list [atom (.word name), init] =>
    some (.declarator name (some ⟨0⟩), [some init])
  | _, _ => none

/-- As many slots are written as there are children. -/
theorem slots_map (f : NodeId → Form) (ids : Array NodeId) :
    slots (ids.toList.map f) = ids.map fun _ => ⟨0⟩ := by
  rw [slots, List.map_map, ← Array.toList_inj, Array.toList_map]
  rfl

/-- Words are read back one by one. -/
theorem filterMap_word? (words : List String) :
    (words.map fun word => atom (.word word)).filterMap word? = words := by
  rw [List.filterMap_map]
  exact List.filterMap_some

/-- What is no hole is an element. -/
theorem element?_of_ne {form : Form} (h : form ≠ hole) : element? form = some form := by
  unfold element?
  split
  · exact absurd rfl h
  · rfl

/-- A number is read back as a literal. -/
theorem readWord_toString (value : Int) :
    readWord (toString value) = some (.literal (.int value)) := by
  have hnot := not_isIdentifier_toString value
  have hne {word : String} (hword : isIdentifier word = true) : toString value ≠ word := by
    rintro rfl
    exact nomatch hnot.symm.trans hword
  rw [readWord, if_neg (hne (by decide)), if_neg (hne (by decide)), if_neg (Bool.eq_false_iff.1 hnot),
    Int.toString_eq_repr, Int.toInt?_repr, Option.map_some]

end Form

/-- From a written node of a known role the node can be read back, up to its children. -/
theorem Node.read_form {f : NodeId → Form} {node : Node} (h : node.IsLexical)
    (hholes : ∀ elements, node = array elements → ∀ element, some element ∈ elements.toList →
      f element ≠ .hole) :
    (node.form f).read node.role = some (node.skeleton, node.operands.map (Option.map f)) := by
  fun_cases form f node with
  | case1 name =>
    obtain ⟨hname, hne⟩ := h
    simp only [List.mem_cons, List.not_mem_nil, or_false, not_or] at hne
    simp [Form.read, role, Form.readWord, hname, hne, skeleton, mapChildren, operands]
  | case3 => rfl
  | case2 value =>
    cases value with
    | null => rfl
    | int value =>
      simp only [literalToken, Form.read, role, Form.readWord_toString]
      rfl
    | str value => rfl
  | case4 op operand => cases op <;> rfl
  | case11 params body =>
    simp only [Form.headed, Form.read, role, Form.readList, Form.filterMap_word?]
    rfl
  | case13 key value kind => cases key <;> cases kind <;> rfl
  | case14 elements =>
    -- No element is written like a hole.
    have hread : (elements.toList.map fun
        | some element => f element
        | none => .hole).map Form.element? = elements.toList.map (Option.map f) := by
      rw [List.map_map]
      refine List.map_congr_left fun element hmem => ?_
      cases element with
      | none => rfl
      | some element => exact Form.element?_of_ne (hholes elements rfl element hmem)
    have hslots : ((elements.toList.map (Option.map f)).map (Option.map fun _ => ⟨0⟩)).toArray =
        elements.map (Option.map fun _ => (⟨0⟩ : NodeId)) := by
      rw [List.map_map, ← Array.toList_inj, Array.toList_map]
      exact List.map_congr_left fun element _ => by cases element <;> rfl
    simp only [Form.headed, Form.read, role, Form.readList, hread, hslots]
    rfl
  | case17 value => cases value <;> rfl
  | _ =>
    -- What is left has a word of its own and children only.
    simp [Form.headed, Form.read, Form.readList, role, skeleton, mapChildren, operands, Form.slots_map]

end Semblance
