import XQueryScope.Json.Basic
import XQueryScope.Session

/-!
# Answers as data

How names, dialects, bindings and declarations are written as JSON.  A part that is missing is
written as null.
-/

namespace XQueryScope

open Json (Value)

/-- A string that may be missing. -/
def optionalText (s : Option String) : Value := Json.ofOption .str s

/-- A node id that may be missing. -/
def optionalNode (i : Option NodeId) : Value := Json.ofOption Json.nat i

/-- A name as data. -/
def Name.toJson (n : Name) : Value :=
  .obj [("prefix", optionalText n.nsPrefix), ("local_name", .str n.localName),
    ("namespace", optionalText n.namespaceUri)]

/-- An arity as data. -/
def Arity.toJson (a : Arity) : Value :=
  .obj [("min", Json.nat a.min), ("max", Json.ofOption Json.nat a.max)]

/-- The word that stands for a processor, without its release. -/
def Vendor.word : Vendor → String
  | .w3c => "w3c"
  | .marklogic _ => "marklogic"
  | .basex => "basex"
  | .saxon => "saxon"
  | .existDb => "exist-db"

/-- A processor as data. -/
def Vendor.toJson (v : Vendor) : Value :=
  match v with
  | .marklogic release => .obj [("vendor", .str v.word), ("version", Json.nat release)]
  | _ => .obj [("vendor", .str v.word)]

/-- A dialect as data. -/
def Dialect.toJson (d : Dialect) : Value :=
  .obj [("language_version", .str d.version.text), ("vendor_profile", d.vendor.toJson)]

/-- A namespace binding as data. -/
def NamespaceBinding.toJson (b : NamespaceBinding) : Value :=
  .obj [("prefix", .str b.nsPrefix), ("uri", .str b.uri),
    ("declaring_node", optionalNode b.declaredAt)]

/-- How the two kinds of default are written. -/
def DefaultKind.text : DefaultKind → String
  | elementOrType => "ElementOrType"
  | function => "Function"

/-- A default namespace as data. -/
def DefaultNamespace.toJson (e : DefaultNamespace) : Value :=
  .obj [("kind", .str e.kind.text), ("uri", .str e.uri),
    ("declaring_node", optionalNode e.declaredAt)]

/-- A variable as data. -/
def VariableBinding.toJson (b : VariableBinding) : Value :=
  .obj [("name", b.name.toJson), ("declaring_node", Json.nat b.declaredAt)]

/-- A candidate as data. -/
def FunctionDeclaration.toJson (f : FunctionDeclaration) : Value :=
  .obj [("name", f.name.toJson), ("arity", f.arity.toJson),
    ("provenance", .str f.provenance.text), ("declaring_node", optionalNode f.declaredAt),
    ("module_location", optionalText f.location)]

/-- Everything known at a node, as data.  The number of arguments is left out where there is no
call. -/
def Summary.toJson (s : Summary) : Value :=
  .obj ([("node", Json.nat s.node), ("dialect", s.dialect.toJson),
    ("namespaces", Json.ofList NamespaceBinding.toJson s.namespaces),
    ("default_element_namespace", Json.ofList DefaultNamespace.toJson s.defaultElement),
    ("default_function_namespace", Json.ofList DefaultNamespace.toJson s.defaultFunction),
    ("variables", Json.ofList VariableBinding.toJson s.inScopeVariables),
    ("functions", Json.ofList FunctionDeclaration.toJson s.functions)] ++
    (s.callArity.map fun n => ("call_arity", Json.nat n)).toList)

mutual

/-- An answer as data. -/
def Answer.toJson : Answer → Value
  | .namespaces bs => Json.ofList NamespaceBinding.toJson bs
  | .binding b => Json.ofOption NamespaceBinding.toJson b
  | .inScopeVariables bs => Json.ofList VariableBinding.toJson bs
  | .defaults es => Json.ofList DefaultNamespace.toJson es
  | .functions fs => Json.ofList FunctionDeclaration.toJson fs
  | .arity n => Json.ofOption Json.nat n
  | .name n => Json.ofOption Name.toJson n
  | .summary s => s.toJson
  | .all answers => .arr (Answer.allToJson answers)

/-- Answers as data. -/
def Answer.allToJson : List Answer → List Value
  | [] => []
  | a :: as => a.toJson :: Answer.allToJson as

end

end XQueryScope
