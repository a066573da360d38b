import XQueryScope.Failure
import XQueryScope.Text.Blank
import XQueryScope.Tree.Basic

/-!
# Library modules

A registry holds the library modules that a query may import, in one bucket for each namespace.
What is imported is named by a namespace, and location hints may narrow it down: a hint picks a
module when it is the end of the module's location.  If no hint picks any, the import gets all
modules of the namespace.
-/

namespace XQueryScope

/-- A library with the namespace it is for. -/
structure LibraryModule where
  uri : String
  location : Option String
  tree : Tree
deriving DecidableEq, Repr

/-- Why a tree is not a library. -/
inductive LibraryError where
  | notLibrary (location : Option String) (kind : Kind)
  | noTarget
deriving DecidableEq, Repr

/-- What is said about a tree that is not a library. -/
def LibraryError.chain : LibraryError → Chain
  | notLibrary location kind =>
    [.note ("Expected a library module" ++ location.elim "" (" at " ++ ·) ++ ", found " ++
      kind.text)]
  | noTarget => [.note "Library module has no target namespace"]

/-- The namespace that a library is for: the URI of its first module declaration. -/
def Tree.targetUri? (t : Tree) : Option String :=
  (t.child? .moduleDecl t.root).bind (t.childText? .uriLiteral)

/-- Drops every `./` at the start of a location. -/
def dropHere : List Char → List Char
  | '.' :: '/' :: cs => dropHere cs
  | cs => cs

namespace LibraryModule

/-- The library that a tree holds. -/
def ofTree (t : Tree) (location : Option String) : Except LibraryError LibraryModule :=
  if t.is .libraryModule t.root then
    match t.targetUri? with
    | some uri => .ok ⟨uri, location, t⟩
    | none => .error .noTarget
  else .error (.notLibrary location ((t.kind? t.root).getD .error))

/-- Whether a location hint picks a module. -/
def matchesHint (m : LibraryModule) (hint : String) : Bool :=
  let h := Text.trim hint.toList
  m.location.any fun l => !h.isEmpty && (dropHere h).isSuffixOf l.toList

end LibraryModule

/-- The modules of one namespace, in the order in which they were registered. -/
structure Bucket where
  uri : String
  modules : List LibraryModule
deriving DecidableEq, Repr

/-- Puts a module into the bucket of its namespace; a new bucket goes to the end. -/
def Bucket.put (m : LibraryModule) : List Bucket → List Bucket
  | [] => [⟨m.uri, [m]⟩]
  | b :: bs => if b.uri = m.uri then ⟨b.uri, b.modules ++ [m]⟩ :: bs else b :: put m bs

/-- Library modules by namespace. -/
structure Registry where
  /-- The buckets, in the order in which the namespaces got their first module. -/
  buckets : List Bucket := []
deriving DecidableEq, Repr

namespace Registry

/-- Adds the library that a tree holds. -/
def register (r : Registry) (t : Tree) (location : Option String) :
    Except LibraryError Registry := do
  let m ← LibraryModule.ofTree t location
  pure ⟨Bucket.put m r.buckets⟩

/-- The modules for a namespace. -/
def modulesOf (r : Registry) (uri : String) : List LibraryModule :=
  (r.buckets.find? fun b => b.uri = uri).elim [] (·.modules)

/-- The modules that an import of a namespace gets. -/
def modulesFor (r : Registry) (uri : String) (hints : List String) : List LibraryModule :=
  let picked := (r.modulesOf uri).filter fun m => hints.any m.matchesHint
  if picked.isEmpty then r.modulesOf uri else picked

/-- The namespaces that have a bucket. -/
def namespaces (r : Registry) : List String := r.buckets.map (·.uri)

/-- How many modules there are in all buckets. -/
def size (r : Registry) : Nat := r.buckets.foldr (fun b n => b.modules.length + n) 0

/-- Whether there is no bucket. -/
def isEmpty (r : Registry) : Bool := r.buckets.isEmpty

end Registry

end XQueryScope
