import Semblance.Generate.Builder

/-! # Rules for names

The global scope, builtins and the parameters of functions are referred to by name.  Each reference
is a new leaf; what it relies on is declared or written out at its first use. -/

namespace Semblance.Gen

/-- A reference to the global scope, which the first use declares. -/
def global (settings : Settings) : Gen NodeId := do
  match (← get).globalName with
  | some name => refer name .scope
  | none =>
    let name ← freshName settings.globalName
    let scope ← onArena Arena.this
    emit (← onArena (Arena.varDecl name scope))
    modify fun builder => { builder with globalName := name }
    refer name .scope

/-- Whether a property of a builtin is the builtin of that dotted name, and so nothing added. -/
def isOwnMember (graph : ShapeGraph) (fullName : String) (binding : String × ShapeId) : Bool :=
  match graph.shape? binding.2 with
  | some (.builtin memberName _ _) => memberName == fullName ++ "." ++ binding.1
  | _ => false

/-- Write out a property that was added to a builtin. -/
def patch (graph : ShapeGraph) (visit : Visit) (fullName : String) (binding : String × ShapeId) :
    Gen Unit := do
  -- The value is generated even if it is not written: it may have properties to write out itself.
  let value ← visit binding.2
  unless isOwnMember graph fullName binding do
    let owner ← platform fullName
    let target ← onArena (Arena.member owner binding.1)
    emitAssign target value

/-- The member chain of a builtin's dotted name.  The first use writes out the added properties. -/
def builtin (graph : ShapeGraph) (visit : Visit) (id : ShapeId) (fullName : String)
    (properties : Properties) : Gen NodeId := do
  unless (← get).patched.contains id.index do
    -- Marked first, since a property may lead back to the builtin.
    modify fun builder => { builder with patched := builder.patched.insert id.index }
    properties.toList.forM (patch graph visit fullName)
  platform fullName

/-- Add a name to the declaration of the placeholders, which the first name makes. -/
def declarePlaceholder (name : String) : Gen Unit := do
  let declarator ← onArena (Arena.push (.declarator name none))
  match (← get).placeholderDecl with
  | some decl => onArena (modify fun arena => arena.appendDeclarator decl declarator)
  | none =>
    let decl ← onArena (Arena.push (.varDecl #[declarator]))
    modify fun builder => { builder with placeholderDecl := decl }

/-- A reference to the placeholder of a parameter, which the first use declares. -/
def parameter (graph : ShapeGraph) (id : ShapeId) (parameter : Parameter) : Gen NodeId := do
  match (← get).placeholders[id.index]? with
  | some name => refer name (.parameter id)
  | none =>
    let label ← checked (graph.label parameter.function)
    let name ← freshName ("function_" ++ toString label ++ "_" ++ toString parameter.index)
    declarePlaceholder name
    modify fun builder =>
      { builder with placeholders := builder.placeholders.insert id.index name }
    refer name (.parameter id)

end Semblance.Gen
