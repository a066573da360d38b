import XQueryScope.Catalog
import XQueryScope.Library
import XQueryScope.Scope.Expansion
import XQueryScope.Scope.Variables

/-!
# Statically known functions

A function call, a named function reference and an arrow step each name a function.  The candidates
for such a site are the declarations with the same expanded name: first those of the module around
it, then those of the libraries that the module imports, then the built-in ones.  All arities are
candidates; `Arity.accepts` tells which of them fit.
-/

namespace XQueryScope

/-- Where a declaration comes from. -/
inductive Provenance where
  | userDeclared
  | moduleImported
  | builtIn
deriving DecidableEq, Repr

/-- How a provenance is written. -/
def Provenance.text : Provenance → String
  | userDeclared => "UserDeclared"
  | moduleImported => "ModuleImported"
  | builtIn => "BuiltIn"

/-- A function declared in a prolog. -/
structure DeclaredFunction where
  /-- The name, expanded where it is declared. -/
  name : Name
  arity : Arity
  node : NodeId
deriving DecidableEq, Repr

/-- A candidate for a call. -/
structure FunctionDeclaration where
  name : Name
  arity : Arity
  provenance : Provenance
  /-- The declaring node, in the tree of the module that declares it. -/
  declaredAt : Option NodeId
  /-- The location of the library it is imported from. -/
  location : Option String
deriving DecidableEq, Repr

namespace Tree

/-! ## 1. Call sites -/

/-- The call-like construct that a node is, or whose name it is. -/
def callSite? (t : Tree) (i : NodeId) : Option NodeId :=
  if t.kindIs Kind.isCallSite i then some i
  else if t.is .eqName i then (t.parent? i).filter (t.kindIs Kind.isCallSite)
  else none

/-- The number of arguments in an argument list, none if there is no list. -/
def argumentCount (t : Tree) (list : Option NodeId) : Nat :=
  list.elim 0 fun l => (t.children l).length

/-- The arity that a reference `f#n` asks for: a numeral of 32 bits, else 0. -/
def referenceArity (t : Tree) (site : NodeId) : Nat :=
  ((t.childText? .numericLiteral site).bind fun s =>
    Text.readBelow? (Text.twoTo 32) (Text.trim s.toList)).getD 0

/-- The number of arguments at a call site.  Placeholders count, and so does the operand to the
left of an arrow. -/
def callArity? (t : Tree) (i : NodeId) : Option Nat := do
  let site ← t.callSite? i
  match t.kind? site with
  | some .functionCall => some (t.argumentCount (t.child? .argumentList site))
  | some .namedFunctionRef => some (t.referenceArity site)
  | some .arrowFunctionSpecifier =>
    some (t.argumentCount ((t.next? site).filter (t.is .argumentList)) + 1)
  | _ => none

/-- The expanded name of the function at a call site. -/
def callName? (t : Tree) (d : Dialect) (i : NodeId) : Option Name := do
  let site ← t.callSite? i
  let token ← t.child? .eqName site
  t.expandTokenAs? d .function token

/-! ## 2. Declared functions -/

/-- Whether a caller must give a parameter: it has no default value. -/
def isRequired (t : Tree) (param : NodeId) : Bool :=
  (t.children param).all fun c => t.is .varName c || t.is .typeDeclaration c

/-- The arity of a declared function. -/
def declaredArity (t : Tree) (decl : NodeId) : Arity :=
  let params := t.parameters decl
  ⟨(params.filter t.isRequired).length, some params.length⟩

/-- The function that a declaration declares, if its name can be expanded. -/
def declaredFunction? (t : Tree) (d : Dialect) (decl : NodeId) : Option DeclaredFunction := do
  let token ← t.child? .eqName decl
  let name ← t.expandTokenAs? d .function token
  some ⟨name, t.declaredArity decl, decl⟩

/-- The functions that a module declares, in document order. -/
def declaredFunctions (t : Tree) (d : Dialect) (m : NodeId) : List DeclaredFunction :=
  ((t.declarations m).filter (t.is .functionDecl)).filterMap (t.declaredFunction? d)

/-! ## 3. Candidates -/

/-- The candidates that a module itself declares. -/
def userFunctions (t : Tree) (d : Dialect) (m : NodeId) (name : Name) :
    List FunctionDeclaration :=
  ((t.declaredFunctions d m).filter (·.name.sameExpanded name)).map fun f =>
    ⟨f.name, f.arity, .userDeclared, some f.node, none⟩

/-- The imports of a namespace in a module. -/
def importsOf (t : Tree) (m : NodeId) (uri : String) : List NodeId :=
  ((t.declarations m).filter (t.is .moduleImport)).filter fun i =>
    t.childText? .uriLiteral i == some uri

/-- The location hints of an import. -/
def hints (t : Tree) (i : NodeId) : List String :=
  (t.childrenOf .locationHint i).filterMap t.text?

end Tree

/-- The candidates that a library declares. -/
def LibraryModule.functions (l : LibraryModule) (d : Dialect) (name : Name) :
    List FunctionDeclaration :=
  ((l.tree.declaredFunctions d l.tree.root).filter (·.name.sameExpanded name)).map fun f =>
    ⟨f.name, f.arity, .moduleImported, some f.node, l.location⟩

/-- The candidates that a module imports: those of every library of every import. -/
def Tree.importedFunctions (t : Tree) (d : Dialect) (r : Registry) (m : NodeId) (name : Name) :
    List FunctionDeclaration :=
  (t.importsOf m name.space).flatMap fun i =>
    (r.modulesFor name.space (t.hints i)).flatMap fun l => l.functions d name

/-- The first prefix that a processor binds to a namespace. -/
def Vendor.prefixOf? (v : Vendor) (uri : String) : Option String :=
  (v.predefined.find? (·.2 == uri)).map (·.1)

/-- The built-in candidates.  They carry the prefix that the processor binds to their namespace, and
the caller's only if it binds none. -/
def Dialect.builtInFunctions (d : Dialect) (name : Name) : List FunctionDeclaration :=
  (d.builtIns name.space name.localName).map fun o =>
    ⟨⟨(d.vendor.prefixOf? name.space).or name.nsPrefix, o.localName, some name.space⟩, o.arity,
      .builtIn, none, none⟩

namespace Tree

/-- The candidates for the call site at a node. -/
def functions (t : Tree) (d : Dialect) (r : Option Registry) (i : NodeId) :
    List FunctionDeclaration :=
  match t.callName? d i with
  | none => []
  | some name =>
    let user := (t.module? i).elim [] fun m => t.userFunctions d m name
    let imported :=
      (t.module? i).elim [] fun m => r.elim [] fun r => t.importedFunctions d r m name
    user ++ imported ++ d.builtInFunctions name

/-- The candidates that accept the number of arguments at a call site. -/
def applicableFunctions (t : Tree) (d : Dialect) (r : Option Registry) (i : NodeId) :
    List FunctionDeclaration :=
  match t.callArity? i with
  | some n => (t.functions d r i).filter (·.arity.accepts n)
  | none => []

end Tree

end XQueryScope
