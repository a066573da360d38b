import XQueryScope.Arity
import XQueryScope.Dialect

/-!
# Overloads

The entries of a function catalog: a local name, the argument counts it is called with, and the
language version that brought it.
-/

namespace XQueryScope

/-- One overload of a built-in function. -/
structure Overload where
  localName : String
  arity : Arity
  /-- The first version that has it. -/
  since : Version
deriving DecidableEq, Repr

namespace Catalog

/-- One overload for each argument count, all there since version 1.0. -/
def since10 (localName : String) (counts : List Nat) : List Overload :=
  counts.map fun n => ⟨localName, .exactly n, .v10⟩

/-- One overload for each argument count, all there since version 3.0. -/
def since30 (localName : String) (counts : List Nat) : List Overload :=
  counts.map fun n => ⟨localName, .exactly n, .v30⟩

/-- One overload for each argument count, all there since version 3.1. -/
def since31 (localName : String) (counts : List Nat) : List Overload :=
  counts.map fun n => ⟨localName, .exactly n, .v31⟩

end Catalog

end XQueryScope
