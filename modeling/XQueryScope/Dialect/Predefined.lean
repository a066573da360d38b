import XQueryScope.Dialect

/-!
# Predefined namespaces

The prefixes that a processor binds before the query says anything.  Every table is sorted by
prefix, and so is what a processor has in all: the standard table merged with its own additions.
-/

namespace XQueryScope

namespace Uri

/-- The standard array functions. -/
def array : String := "http://www.w3.org/2005/xpath-functions/array"

/-- Error codes. -/
def errors : String := "http://www.w3.org/2005/xqt-error"

/-- The standard functions, also the default function namespace. -/
def functions : String := "http://www.w3.org/2005/xpath-functions"

/-- Functions that a main module declares for itself. -/
def localFunctions : String := "http://www.w3.org/2005/xquery-local-functions"

/-- The standard map functions. -/
def map : String := "http://www.w3.org/2005/xpath-functions/map"

/-- The standard mathematical functions. -/
def math : String := "http://www.w3.org/2005/xpath-functions/math"

/-- The namespace of `xml:` attributes. -/
def xml : String := "http://www.w3.org/XML/1998/namespace"

/-- The schema types. -/
def schema : String := "http://www.w3.org/2001/XMLSchema"

/-- Attributes of schema instances. -/
def schemaInstance : String := "http://www.w3.org/2001/XMLSchema-instance"

/-- MarkLogic's JSON functions. -/
def marklogicJson : String := "http://marklogic.com/xdmp/json"

/-- MarkLogic's map functions. -/
def marklogicMap : String := "http://marklogic.com/xdmp/map"

/-- MarkLogic's mathematical functions. -/
def marklogicMath : String := "http://marklogic.com/xdmp/math"

/-- MarkLogic's server functions. -/
def xdmp : String := "http://marklogic.com/xdmp"

/-- MarkLogic's search functions. -/
def cts : String := "http://marklogic.com/cts"

end Uri

namespace Predefined

/-- The prefixes of the standard. -/
def standard : List (String × String) :=
  [("array", Uri.array), ("fn", Uri.functions), ("local", Uri.localFunctions), ("map", Uri.map),
   ("math", Uri.math), ("xml", Uri.xml), ("xs", Uri.schema), ("xsi", Uri.schemaInstance)]

/-- The prefixes of every MarkLogic release.  `map` and `math` are MarkLogic's own, and there is no
`array`. -/
def marklogicBase : List (String × String) :=
  [("cts", Uri.cts), ("dav", "DAV:"), ("dbg", "http://marklogic.com/xdmp/dbg"),
   ("dir", "http://marklogic.com/xdmp/directory"), ("err", Uri.errors),
   ("error", "http://marklogic.com/xdmp/error"), ("fn", Uri.functions),
   ("local", Uri.localFunctions), ("lock", "http://marklogic.com/xdmp/lock"),
   ("map", Uri.marklogicMap), ("math", Uri.marklogicMath),
   ("prof", "http://marklogic.com/xdmp/profile"), ("prop", "http://marklogic.com/xdmp/property"),
   ("sec", "http://marklogic.com/security"), ("spell", "http://marklogic.com/xdmp/spell"),
   ("xdmp", Uri.xdmp), ("xml", Uri.xml), ("xqe", "http://marklogic.com/xqe"),
   ("xqterr", Uri.errors), ("xs", Uri.schema), ("xsi", Uri.schemaInstance)]

/-- The prefixes that later MarkLogic releases brought. -/
def marklogicAdditions : List (String × String) :=
  [("geo", "http://marklogic.com/geospatial"), ("json", Uri.marklogicJson),
   ("rdf", "http://www.w3.org/1999/02/22-rdf-syntax-ns#"),
   ("sc", "http://marklogic.com/xdmp/schema-components"),
   ("sem", "http://marklogic.com/xdmp/semantics"), ("sql", "http://marklogic.com/xdmp/sql"),
   ("tde", "http://marklogic.com/xdmp/tde"), ("temporal", "http://marklogic.com/xdmp/temporal")]

/-- The prefixes that BaseX adds to the standard. -/
def basexAdditions : List (String × String) :=
  [("admin", "http://basex.org/modules/admin"), ("archive", "http://basex.org/modules/archive"),
   ("bxerr", "http://basex.org/errors"), ("client", "http://basex.org/modules/client"),
   ("convert", "http://basex.org/modules/convert"), ("csv", "http://basex.org/modules/csv"),
   ("db", "http://basex.org/modules/db"), ("fetch", "http://basex.org/modules/fetch"),
   ("file", "http://expath.org/ns/file"), ("ft", "http://basex.org/modules/ft"),
   ("hash", "http://basex.org/modules/hash"), ("hof", "http://basex.org/modules/hof"),
   ("html", "http://basex.org/modules/html"), ("index", "http://basex.org/modules/index"),
   ("inspect", "http://basex.org/modules/inspect"), ("json", "http://basex.org/modules/json"),
   ("out", "http://basex.org/modules/out"), ("proc", "http://basex.org/modules/proc"),
   ("prof", "http://basex.org/modules/prof"), ("random", "http://basex.org/modules/random"),
   ("repo", "http://basex.org/modules/repo"), ("sql", "http://basex.org/modules/sql"),
   ("strings", "http://basex.org/modules/strings"), ("update", "http://basex.org/modules/update"),
   ("user", "http://basex.org/modules/user"), ("validate", "http://basex.org/modules/validate"),
   ("web", "http://basex.org/modules/web"), ("xquery", "http://basex.org/modules/xquery"),
   ("xslt", "http://basex.org/modules/xslt"), ("zip", "http://expath.org/ns/zip")]

/-- The prefixes that Saxon adds to the standard. -/
def saxonAdditions : List (String × String) :=
  [("saxon", "http://saxon.sf.net/")]

/-- The prefixes that eXist-db adds to the standard. -/
def existDbAdditions : List (String × String) :=
  [("exist", "http://exist.sourceforge.net/NS/exist"),
   ("request", "http://exist-db.org/xquery/request"),
   ("response", "http://exist-db.org/xquery/response"),
   ("session", "http://exist-db.org/xquery/session"),
   ("system", "http://exist-db.org/xquery/system"),
   ("transform", "http://exist-db.org/xquery/transform"),
   ("util", "http://exist-db.org/xquery/util"), ("xmldb", "http://exist-db.org/xquery/xmldb")]

/-- Merges two tables sorted by prefix. -/
def merge (a b : List (String × String)) : List (String × String) :=
  List.merge a b fun x y => x.1 ≤ y.1

end Predefined

/-- The namespaces a processor binds from the start, sorted by prefix.  MarkLogic has the prefixes
of all releases, so that a query written for a newer server still resolves. -/
def Vendor.predefined : Vendor → List (String × String)
  | .w3c => Predefined.standard
  | .marklogic _ => Predefined.merge Predefined.marklogicBase Predefined.marklogicAdditions
  | .basex => Predefined.merge Predefined.standard Predefined.basexAdditions
  | .saxon => Predefined.merge Predefined.standard Predefined.saxonAdditions
  | .existDb => Predefined.merge Predefined.standard Predefined.existDbAdditions

end XQueryScope
