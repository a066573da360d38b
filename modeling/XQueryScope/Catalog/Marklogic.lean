import XQueryScope.Catalog.Overload

/-!
# MarkLogic functions

The functions of the namespaces that MarkLogic adds to the standard ones.
-/

namespace XQueryScope.Catalog

/-- The functions of MarkLogic's `math` namespace. -/
def marklogicMath : List Overload :=
  [since10 "acos" [1], since10 "asin" [1], since10 "atan" [1], since10 "atan2" [2],
   since10 "cos" [1], since10 "exp" [1], since10 "log" [1], since10 "log10" [1],
   since10 "median" [1], since10 "pi" [0], since10 "pow" [2], since10 "sin" [1],
   since10 "sqrt" [1], since10 "stddev" [1], since10 "tan" [1], since10 "trunc" [2, 1],
   since10 "variance" [1]].flatten

/-- The functions of MarkLogic's `map` namespace. -/
def marklogicMap : List Overload :=
  [since10 "clear" [1], since10 "contains" [2], since10 "count" [1], since10 "delete" [2],
   since10 "entry" [2], since10 "get" [2], since10 "keys" [1], since10 "map" [1, 0],
   since10 "new" [1, 0], since10 "put" [3]].flatten

/-- The functions of MarkLogic's `json` namespace. -/
def marklogicJson : List Overload :=
  [since10 "array" [1, 0], since10 "array-pop" [1], since10 "array-push" [2],
   since10 "array-resize" [3, 2], since10 "array-size" [1], since10 "array-values" [2, 1],
   since10 "null" [0], since10 "object" [1, 0], since10 "object-define" [1, 0],
   since10 "set-item-at" [3], since10 "subarray" [3, 2], since10 "to-array" [3, 2, 1, 0]].flatten

/-- The functions of the `xdmp` namespace. -/
def xdmpFunctions : List Overload :=
  [since10 "document-insert" [4, 3, 2], since10 "eval" [3, 2, 1],
   since10 "get-request-field" [2, 1], since10 "invoke" [3, 2, 1], since10 "log" [2, 1],
   since10 "node-uri" [1], since10 "quote" [2, 1], since10 "random" [1, 0], since10 "set" [2],
   since10 "sleep" [1], since10 "unquote" [3, 2, 1], since10 "version" [0]].flatten

/-- The functions of the `cts` namespace. -/
def ctsFunctions : List Overload :=
  [since10 "and-query" [2, 1], since10 "collection-query" [1], since10 "directory-query" [2, 1],
   since10 "element-value-query" [4, 3, 2], since10 "estimate" [3, 2, 1], since10 "not-query" [1],
   since10 "or-query" [2, 1], since10 "search" [5, 4, 3, 2], since10 "uris" [5, 4, 3, 2, 1, 0],
   since10 "word-query" [3, 2, 1]].flatten

end XQueryScope.Catalog
