import XQueryScope.Cache.Recent
import XQueryScope.Scope.Namespaces
import XQueryScope.Scope.Variables

/-!
# Cached resolution

The namespaces and the variables at a node depend on the tree, the node and the dialect alone, so
their lists are kept under these three.  Trees are told apart by their generation: no two trees that
were built have the same.  Function candidates depend on the registry as well and are not kept.
-/

namespace XQueryScope

/-- What a cached list was computed for. -/
structure CacheKey where
  generation : Nat
  node : NodeId
  dialect : Dialect
deriving DecidableEq, Repr

/-- The two caches. -/
structure ResolutionCache where
  namespaces : Recent CacheKey (List NamespaceBinding)
  inScopeVariables : Recent CacheKey (List VariableBinding)
deriving DecidableEq, Repr

namespace ResolutionCache

/-- Two empty caches of one capacity. -/
def empty (capacity : Nat) : ResolutionCache :=
  ⟨.empty capacity, .empty capacity⟩

/-- Drops what was computed for one tree, and counts it. -/
def dropGeneration (c : ResolutionCache) (generation : Nat) : Nat × ResolutionCache :=
  let (n, namespaces) := c.namespaces.drop (·.generation == generation)
  let (m, inScopeVariables) := c.inScopeVariables.drop (·.generation == generation)
  (n + m, ⟨namespaces, inScopeVariables⟩)

/-- Drops everything. -/
def clear (c : ResolutionCache) : ResolutionCache :=
  ⟨c.namespaces.clear, c.inScopeVariables.clear⟩

end ResolutionCache

end XQueryScope
