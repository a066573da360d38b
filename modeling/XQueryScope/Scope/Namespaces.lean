import XQueryScope.Dialect.Predefined
import XQueryScope.Name
import XQueryScope.Tree.Basic

/-!
# Statically known namespaces

Two constructs declare prefixes: a direct element constructor, by its `xmlns:p` attributes, and a
module, by the declarations of its first prolog and by its own module declaration.  At a node, the
declarations of the node itself and of its ancestors are in scope, innermost first, and behind them
the namespaces that the processor binds from the start.  Shadowed bindings stay in the list: the
first one for a prefix is the one that counts.
-/

namespace XQueryScope

/-- A prefix bound to a namespace. -/
structure NamespaceBinding where
  nsPrefix : String
  uri : String
  /-- The node that declares it, if one does. -/
  declaredAt : Option NodeId
deriving DecidableEq, Repr

namespace Tree

/-! ## 1. Declarations in a prolog -/

/-- The declarations of a module: the children of its first prolog. -/
def declarations (t : Tree) (m : NodeId) : List NodeId :=
  (t.child? .prolog m).elim [] t.children

/-- The prefix that a declaration binds. -/
def declaredPrefix? (t : Tree) (decl : NodeId) : Option String :=
  match t.kind? decl with
  | some .namespaceDecl | some .moduleImport | some .moduleDecl => t.childText? .ncName decl
  | some .schemaImport => (t.child? .schemaPrefix decl).bind (t.childText? .ncName)
  | _ => none

/-- The binding of a declaration that has both a prefix and a URI. -/
def declaredNamespace? (t : Tree) (decl : NodeId) : Option NamespaceBinding := do
  let p ← t.declaredPrefix? decl
  let uri ← t.childText? .uriLiteral decl
  some ⟨p, uri, some decl⟩

/-! ## 2. Attributes of a constructor -/

/-- The attributes of a direct element constructor, in document order. -/
def attributes (t : Tree) (element : NodeId) : List NodeId :=
  (t.childrenOf .dirAttributeList element).flatMap (t.childrenOf .dirAttribute)

/-- The name of an attribute. -/
def attributeName? (t : Tree) (attr : NodeId) : Option Name :=
  (t.childText? .attributeName attr).bind Name.parse?

/-- The binding of an attribute `xmlns:p` with a value.  What it binds is cut from the name as it is
written. -/
def prefixAttribute? (t : Tree) (attr : NodeId) : Option NamespaceBinding := do
  let name ← t.attributeName? attr
  let uri ← t.childText? .dirAttributeValue attr
  if name.nsPrefix == some "xmlns" then
    let p ← (t.childText? .attributeName attr).bind Name.afterColon?
    some ⟨p, uri, some attr⟩
  else none

/-! ## 3. What is in scope -/

/-- The prefixes that a construct declares, the one that counts first. -/
def namespacesDeclaredBy (t : Tree) (scope : NodeId) : List NamespaceBinding :=
  match t.kind? scope with
  | some .dirElemConstructor => (t.attributes scope).filterMap t.prefixAttribute?
  | some .mainModule | some .libraryModule =>
    ((t.declarations scope).reverse ++ (t.child? .moduleDecl scope).toList).filterMap
      t.declaredNamespace?
  | _ => []

/-- The prefixes declared around a node, innermost first. -/
def declaredNamespaces (t : Tree) (i : NodeId) : List NamespaceBinding :=
  (t.lineage i).flatMap t.namespacesDeclaredBy

end Tree

/-- The bindings that a processor starts with. -/
def Vendor.bindings (v : Vendor) : List NamespaceBinding :=
  v.predefined.map fun b => ⟨b.1, b.2, none⟩

namespace Tree

/-- Every prefix binding that is visible at a node, innermost first. -/
def namespaces (t : Tree) (d : Dialect) (i : NodeId) : List NamespaceBinding :=
  t.declaredNamespaces i ++ d.vendor.bindings

/-- The binding that a prefix has at a node. -/
def resolvePrefix? (t : Tree) (d : Dialect) (i : NodeId) (p : String) : Option NamespaceBinding :=
  (t.namespaces d i).find? (·.nsPrefix == p)

end Tree

end XQueryScope
