import XQueryScope.Scope.Defaults

/-!
# Expanding names

A name is expanded at a node by finding its namespace there.  A name `Q{uri}local` has it already; a
prefix is looked up; a name without either takes the default for the role it plays, and the names of
variables, attributes and the like have no default.
-/

namespace XQueryScope

/-- What a name is for. -/
inductive NameRole where
  | function
  | elementOrType
  /-- A name that is in no namespace when it has no prefix. -/
  | plain
deriving DecidableEq, Repr

/-- How a role is written. -/
def NameRole.text : NameRole → String
  | function => "Function"
  | elementOrType => "ElementOrType"
  | plain => "NoDefault"

/-- The default namespace that serves a role. -/
def NameRole.defaultKind? : NameRole → Option DefaultKind
  | function => some .function
  | elementOrType => some .elementOrType
  | plain => none

/-- The role of a name that stands directly below a node of this kind. -/
def NameRole.below : Kind → NameRole
  | .functionCall | .namedFunctionRef | .arrowFunctionSpecifier | .functionDecl => function
  | .dirElemConstructor | .sequenceType | .typeDeclaration => elementOrType
  | _ => plain

namespace Tree

/-- The role of a name token, told by its parent. -/
def roleOf (t : Tree) (token : NodeId) : NameRole :=
  ((t.parent? token).bind t.kind?).elim .plain NameRole.below

/-- The expanded form of a name written at a node; `none` when its prefix is not bound there. -/
def expand? (t : Tree) (d : Dialect) (i : NodeId) (name : Name) (role : NameRole) : Option Name :=
  if name.isUriQualified then some name
  else
    match name.nsPrefix with
    | some p => (t.resolvePrefix? d i p).map fun b => name.inNamespace b.uri
    | none =>
      match role.defaultKind? with
      | some kind => some (name.inNamespace (t.defaultUri kind i))
      | none => some name

/-- The expanded form of the name that a token spells, in a given role. -/
def expandTokenAs? (t : Tree) (d : Dialect) (role : NameRole) (token : NodeId) : Option Name := do
  let s ← t.text? token
  let name ← Name.parse? s
  t.expand? d token name role

/-- The expanded form of the name that a token spells. -/
def expandToken? (t : Tree) (d : Dialect) (token : NodeId) : Option Name :=
  t.expandTokenAs? d (t.roleOf token) token

end Tree

end XQueryScope
