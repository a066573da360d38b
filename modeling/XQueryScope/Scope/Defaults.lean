import XQueryScope.Scope.Namespaces

/-!
# Default namespaces

Names without a prefix fall into a default namespace.  There are two: one for elements and types,
set by `xmlns` attributes, by default declarations and by schema imports, and one for functions, set
by default declarations only.  The defaults in force at a node form a stack, innermost first, that
ends with what holds when nothing is declared.
-/

namespace XQueryScope

/-- The names that a default namespace is for. -/
inductive DefaultKind where
  | elementOrType
  | function
deriving DecidableEq, Repr

/-- A default namespace. -/
structure DefaultNamespace where
  kind : DefaultKind
  uri : String
  /-- The node that declares it, if one does. -/
  declaredAt : Option NodeId
deriving DecidableEq, Repr

/-- What holds when nothing is declared: no namespace for elements and types, the standard
functions for functions. -/
def DefaultKind.fallback : DefaultKind → DefaultNamespace
  | elementOrType => ⟨elementOrType, "", none⟩
  | function => ⟨function, Uri.functions, none⟩

namespace Tree

/-- The default that a declaration in a prolog is about. -/
def declaredDefaultKind? (t : Tree) (decl : NodeId) : Option DefaultKind :=
  match t.kind? decl with
  | some .defaultNamespaceDecl =>
    match t.childText? .defaultNamespaceKind decl with
    | some "element" => some .elementOrType
    | some "function" => some .function
    | _ => none
  | some .schemaImport =>
    match (t.child? .schemaPrefix decl).bind (t.childText? .defaultNamespaceKind) with
    | some "element" => some .elementOrType
    | _ => none
  | _ => none

/-- The default that a declaration in a prolog sets, if it has a URI. -/
def declaredDefault? (t : Tree) (decl : NodeId) : Option DefaultNamespace := do
  let kind ← t.declaredDefaultKind? decl
  let uri ← t.childText? .uriLiteral decl
  some ⟨kind, uri, some decl⟩

/-- The default that an attribute `xmlns` with a value sets. -/
def defaultAttribute? (t : Tree) (attr : NodeId) : Option DefaultNamespace := do
  let name ← t.attributeName? attr
  let uri ← t.childText? .dirAttributeValue attr
  if name.nsPrefix.isNone && name.localName == "xmlns" then
    some ⟨.elementOrType, uri, some attr⟩
  else none

/-- The defaults of either kind that a construct declares, the one that counts first. -/
def defaultsDeclaredBy (t : Tree) (scope : NodeId) : List DefaultNamespace :=
  match t.kind? scope with
  | some .dirElemConstructor => (t.attributes scope).filterMap t.defaultAttribute?
  | some .mainModule | some .libraryModule =>
    (t.declarations scope).reverse.filterMap t.declaredDefault?
  | _ => []

/-- The defaults of a kind in force at a node, innermost first. -/
def defaults (t : Tree) (kind : DefaultKind) (i : NodeId) : List DefaultNamespace :=
  ((t.lineage i).flatMap t.defaultsDeclaredBy).filter (·.kind == kind) ++ [kind.fallback]

/-- The default of a kind at a node. -/
def defaultUri (t : Tree) (kind : DefaultKind) (i : NodeId) : String :=
  ((t.defaults kind i).head?.getD kind.fallback).uri

end Tree

end XQueryScope
