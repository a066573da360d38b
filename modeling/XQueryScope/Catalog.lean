import XQueryScope.Catalog.Standard
import XQueryScope.Catalog.Marklogic
import XQueryScope.Dialect.Predefined

/-!
# Function catalogs

Each processor has a catalog of built-in functions: tables by namespace, read in order.  MarkLogic
replaces the standard `math` and `map` tables by its own and has no `array` table; the other
processors add tables to the standard ones.
-/

namespace XQueryScope

/-- The built-in functions of one namespace. -/
structure FunctionTable where
  namespaceUri : String
  overloads : List Overload

namespace Catalog

/-- The tables every processor but MarkLogic has. -/
def standardTables : List FunctionTable :=
  [⟨Uri.functions, functions⟩, ⟨Uri.math, mathFunctions⟩, ⟨Uri.map, mapFunctions⟩,
   ⟨Uri.array, arrayFunctions⟩, ⟨Uri.schema, typeConstructors⟩]

/-- MarkLogic's tables. -/
def marklogicTables : List FunctionTable :=
  [⟨Uri.functions, functions⟩, ⟨Uri.schema, typeConstructors⟩,
   ⟨Uri.marklogicMath, marklogicMath⟩, ⟨Uri.marklogicMap, marklogicMap⟩,
   ⟨Uri.marklogicJson, marklogicJson⟩, ⟨Uri.xdmp, xdmpFunctions⟩, ⟨Uri.cts, ctsFunctions⟩]

/-- What BaseX adds. -/
def basexTables : List FunctionTable :=
  [⟨"http://basex.org/modules/db", since10 "list" [2, 1, 0] ++ since10 "open" [2, 1]⟩,
   ⟨"http://expath.org/ns/file", since10 "exists" [1] ++ since10 "read-text" [2, 1]⟩,
   ⟨"http://basex.org/modules/xquery", since10 "eval" [3, 2, 1]⟩]

/-- What Saxon adds. -/
def saxonTables : List FunctionTable :=
  [⟨"http://saxon.sf.net/",
    since10 "evaluate" [1] ++ since10 "parse" [1] ++ since10 "serialize" [2]⟩]

/-- What eXist-db adds. -/
def existDbTables : List FunctionTable :=
  [⟨"http://exist-db.org/xquery/util", since10 "log" [2]⟩,
   ⟨"http://exist-db.org/xquery/xmldb", since10 "store" [4, 3]⟩,
   ⟨"http://exist-db.org/xquery/request", since10 "get-parameter" [3, 2]⟩]

end Catalog

/-- The catalog of a processor.  MarkLogic's does not depend on the release. -/
def Vendor.catalog : Vendor → List FunctionTable
  | .w3c => Catalog.standardTables
  | .marklogic _ => Catalog.marklogicTables
  | .basex => Catalog.standardTables ++ Catalog.basexTables
  | .saxon => Catalog.standardTables ++ Catalog.saxonTables
  | .existDb => Catalog.standardTables ++ Catalog.existDbTables

/-- The overloads of a built-in function that a dialect has, in catalog order. -/
def Dialect.builtIns (d : Dialect) (uri localName : String) : List Overload :=
  (d.vendor.catalog.filter (·.namespaceUri == uri)).flatMap fun table =>
    table.overloads.filter fun o => o.localName == localName && d.version.supports o.since

end XQueryScope
