import XQueryScope.Catalog.Overload

/-!
# The standard function library

The functions of the five standard namespaces.  The overloads of a name stand together, from the
most arguments down.
-/

namespace XQueryScope.Catalog

/-- The functions of the `fn` namespace. -/
def functions : List Overload :=
  [since10 "abs" [1], since10 "adjust-date-to-timezone" [2, 1],
   since10 "adjust-dateTime-to-timezone" [2, 1], since10 "adjust-time-to-timezone" [2, 1],
   since30 "analyze-string" [3, 2], since31 "apply" [2],
   since30 "available-environment-variables" [0], since10 "avg" [1], since10 "base-uri" [1, 0],
   since10 "boolean" [1], since10 "ceiling" [1], since10 "codepoint-equal" [2],
   since10 "codepoints-to-string" [1], since10 "collection" [1, 0], since10 "compare" [3, 2],
   [⟨"concat", .atLeast 2, .v10⟩], since10 "concat" [1, 0], since10 "contains" [3, 2],
   since31 "contains-token" [3, 2], since10 "count" [1], since10 "current-date" [0],
   since10 "current-dateTime" [0], since10 "current-time" [0], since10 "data" [1],
   since30 "data" [0], since10 "dateTime" [2], since10 "day-from-date" [1],
   since10 "day-from-dateTime" [1], since10 "days-from-duration" [1], since10 "deep-equal" [3, 2],
   since10 "default-collation" [0], since31 "default-language" [0],
   since10 "distinct-values" [2, 1], since10 "doc" [1], since10 "doc-available" [1],
   since10 "document-uri" [1], since30 "document-uri" [0], since30 "element-with-id" [2, 1],
   since10 "empty" [1], since10 "encode-for-uri" [1], since10 "ends-with" [3, 2],
   since30 "environment-variable" [1], since10 "error" [3, 2, 1, 0],
   since10 "escape-html-uri" [1], since10 "exactly-one" [1], since10 "exists" [1],
   since10 "false" [0], since30 "filter" [2], since10 "floor" [1], since30 "fold-left" [3],
   since30 "fold-right" [3], since30 "for-each" [2], since30 "for-each-pair" [3],
   since30 "format-date" [5, 2], since30 "format-dateTime" [5, 2],
   since30 "format-integer" [3, 2], since30 "format-number" [3, 2], since30 "format-time" [5, 2],
   since30 "function-arity" [1], since30 "function-lookup" [2], since30 "function-name" [1],
   since30 "generate-id" [1, 0], since30 "has-children" [1, 0], since30 "head" [1],
   since10 "hours-from-dateTime" [1], since10 "hours-from-duration" [1],
   since10 "hours-from-time" [1], since10 "id" [2, 1], since10 "idref" [2, 1],
   since10 "implicit-timezone" [0], since10 "in-scope-prefixes" [1], since10 "index-of" [3, 2],
   since30 "innermost" [1], since10 "insert-before" [3], since10 "iri-to-uri" [1],
   since31 "json-doc" [2, 1], since31 "json-to-xml" [2, 1], since10 "lang" [2, 1],
   since10 "last" [0], since31 "load-xquery-module" [2, 1], since10 "local-name" [1, 0],
   since10 "lower-case" [1], since10 "matches" [3, 2], since10 "max" [2, 1], since10 "min" [2, 1],
   since10 "minutes-from-dateTime" [1], since10 "month-from-date" [1], since10 "name" [1, 0],
   since10 "namespace-uri" [1, 0], since10 "namespace-uri-for-prefix" [2],
   since10 "node-name" [1], since30 "node-name" [0], since10 "normalize-space" [1, 0],
   since10 "normalize-unicode" [2, 1], since10 "not" [1], since10 "number" [1, 0],
   since10 "one-or-more" [1], since30 "outermost" [1], since31 "parse-ietf-date" [1],
   since31 "parse-json" [2, 1], since30 "parse-xml" [1], since30 "parse-xml-fragment" [1],
   since30 "path" [1, 0], since10 "position" [0], since31 "random-number-generator" [1, 0],
   since10 "remove" [2], since10 "replace" [4, 3], since10 "resolve-QName" [2],
   since10 "resolve-uri" [2, 1], since10 "reverse" [1], since10 "root" [1, 0],
   since30 "round" [2], since10 "round" [1], since10 "round-half-to-even" [2, 1],
   since30 "serialize" [2, 1], since31 "sort" [3, 2, 1], since10 "starts-with" [3, 2],
   since10 "static-base-uri" [0], since10 "string" [1, 0], since10 "string-join" [2],
   since30 "string-join" [1], since10 "string-length" [1, 0], since10 "string-to-codepoints" [1],
   since10 "subsequence" [3, 2], since10 "substring" [3, 2], since10 "substring-after" [3, 2],
   since10 "substring-before" [3, 2], since10 "sum" [2, 1], since30 "tail" [1],
   since10 "tokenize" [3, 2], since31 "tokenize" [1], since10 "trace" [2], since31 "trace" [1],
   since10 "translate" [3], since10 "true" [0], since10 "unordered" [1],
   since30 "unparsed-text" [2, 1], since30 "unparsed-text-available" [2, 1],
   since30 "unparsed-text-lines" [2, 1], since10 "upper-case" [1],
   since30 "uri-collection" [1, 0], since31 "xml-to-json" [2, 1], since10 "year-from-date" [1],
   since10 "zero-or-one" [1]].flatten

/-- The functions of the `math` namespace. -/
def mathFunctions : List Overload :=
  [since30 "acos" [1], since30 "asin" [1], since30 "atan" [1], since30 "atan2" [2],
   since30 "cos" [1], since30 "exp" [1], since30 "exp10" [1], since30 "log" [1],
   since30 "log10" [1], since30 "pi" [0], since30 "pow" [2], since30 "sin" [1],
   since30 "sqrt" [1], since30 "tan" [1]].flatten

/-- The functions of the `map` namespace. -/
def mapFunctions : List Overload :=
  [since31 "contains" [2], since31 "entry" [2], since31 "find" [2], since31 "for-each" [2],
   since31 "get" [2], since31 "keys" [1], since31 "merge" [2, 1], since31 "put" [3],
   since31 "remove" [2], since31 "size" [1]].flatten

/-- The functions of the `array` namespace. -/
def arrayFunctions : List Overload :=
  [since31 "append" [2], since31 "filter" [2], since31 "flatten" [1], since31 "fold-left" [3],
   since31 "fold-right" [3], since31 "for-each" [2], since31 "for-each-pair" [3],
   since31 "get" [2], since31 "head" [1], since31 "insert-before" [3], since31 "join" [1],
   since31 "put" [3], since31 "remove" [2], since31 "reverse" [1], since31 "size" [1],
   since31 "sort" [3, 2, 1], since31 "subarray" [3, 2], since31 "tail" [1]].flatten

/-- The constructor functions of the schema types. -/
def typeConstructors : List Overload :=
  [since10 "anyURI" [1], since10 "base64Binary" [1], since10 "boolean" [1], since10 "byte" [1],
   since10 "date" [1], since10 "dateTime" [1], since30 "dateTimeStamp" [1],
   since10 "dayTimeDuration" [1], since10 "decimal" [1], since10 "double" [1],
   since10 "duration" [1], since10 "ENTITY" [1], since10 "float" [1], since10 "gDay" [1],
   since10 "gMonth" [1], since10 "gMonthDay" [1], since10 "gYear" [1], since10 "gYearMonth" [1],
   since10 "hexBinary" [1], since10 "ID" [1], since10 "IDREF" [1], since10 "int" [1],
   since10 "integer" [1], since10 "language" [1], since10 "long" [1], since10 "Name" [1],
   since10 "NCName" [1], since10 "negativeInteger" [1], since10 "NMTOKEN" [1],
   since10 "nonNegativeInteger" [1], since10 "nonPositiveInteger" [1],
   since10 "normalizedString" [1], since10 "positiveInteger" [1], since10 "QName" [1],
   since10 "short" [1], since10 "string" [1], since10 "time" [1], since10 "token" [1],
   since10 "unsignedByte" [1], since10 "unsignedInt" [1], since10 "unsignedLong" [1],
   since10 "unsignedShort" [1], since10 "untypedAtomic" [1],
   since10 "yearMonthDuration" [1]].flatten

end XQueryScope.Catalog
