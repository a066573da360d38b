/-!
# Kinds of syntax nodes

The constructs of a parsed query.  The comment on a kind gives the children it has when it is
complete; a part that the query leaves out, or that could not be parsed, is simply not there, and
no resolver relies on it.
-/

namespace XQueryScope

/-- The kind of a syntax node. -/
inductive Kind where
  /-- A query: `moduleDecl? prolog? queryBody?`. -/
  | mainModule
  /-- A library: `moduleDecl prolog?`. -/
  | libraryModule
  /-- `ncName? uriLiteral?`. -/
  | moduleDecl
  /-- Declarations in document order. -/
  | prolog
  | queryBody
  /-- `ncName? uriLiteral?`. -/
  | namespaceDecl
  /-- `defaultNamespaceKind uriLiteral?`. -/
  | defaultNamespaceDecl
  /-- A token, `element` or `function`. -/
  | defaultNamespaceKind
  /-- `schemaPrefix? uriLiteral? locationHint*`. -/
  | schemaImport
  /-- An `ncName`, or a `defaultNamespaceKind` for the default element namespace. -/
  | schemaPrefix
  /-- `ncName? uriLiteral? locationHint*`. -/
  | moduleImport
  | locationHint
  /-- `varName typeDeclaration? expr?`. -/
  | varDecl
  /-- `eqName paramList? typeDeclaration? functionBody?`. -/
  | functionDecl
  | paramList
  /-- `varName typeDeclaration? expr?`; the expression is a default value. -/
  | param
  | functionBody
  | typeDeclaration
  | optionDecl
  /-- `eqName dirAttributeList? content*`. -/
  | dirElemConstructor
  | dirAttributeList
  /-- `attributeName dirAttributeValue?`. -/
  | dirAttribute
  | attributeName
  | dirAttributeValue
  | enclosedExpr
  /-- Clauses in document order, ending with `returnClause`. -/
  | flworExpr
  | forClause
  /-- `varName positionalVar? typeDeclaration? expr`. -/
  | forBinding
  | letClause
  /-- `varName typeDeclaration? expr`. -/
  | letBinding
  /-- `varName`. -/
  | positionalVar
  /-- `varName typeDeclaration? expr windowStartCondition windowEndCondition?`. -/
  | tumblingWindowClause
  /-- Like a tumbling window. -/
  | slidingWindowClause
  /-- `windowVars expr`. -/
  | windowStartCondition
  /-- `windowVars expr`. -/
  | windowEndCondition
  /-- `currentItem? positionalVar? previousItem? nextItem?`. -/
  | windowVars
  | currentItem
  | previousItem
  | nextItem
  | whereClause
  /-- `groupingSpec+`. -/
  | groupByClause
  /-- `varName typeDeclaration? expr?`. -/
  | groupingSpec
  | orderByClause
  /-- `varName`. -/
  | countClause
  | returnClause
  /-- `quantifiedBinding+ expr`. -/
  | quantifiedExpr
  /-- `varName typeDeclaration? expr`. -/
  | quantifiedBinding
  /-- `expr typeswitchCase+ typeswitchDefault`. -/
  | typeswitchExpr
  /-- `varName? sequenceType+ expr`. -/
  | typeswitchCase
  /-- `varName? expr`. -/
  | typeswitchDefault
  | sequenceType
  /-- `paramList? typeDeclaration? functionBody`. -/
  | inlineFunctionExpr
  /-- `blockVarDecl* expr?`. -/
  | block
  /-- `blockVarDeclEntry+`. -/
  | blockVarDecl
  /-- `varName typeDeclaration? expr?`. -/
  | blockVarDeclEntry
  /-- `eqName argumentList`. -/
  | functionCall
  /-- Arguments in order, placeholders among them. -/
  | argumentList
  | argumentPlaceholder
  /-- `eqName numericLiteral?`. -/
  | namedFunctionRef
  /-- `expr (arrowFunctionSpecifier argumentList)+`. -/
  | arrowExpr
  /-- `eqName`. -/
  | arrowFunctionSpecifier
  | expr
  | parenthesizedExpr
  | ifExpr
  | pathExpr
  | varRef
  | contextItemExpr
  | ncName
  /-- A token that spells a name. -/
  | eqName
  /-- A token that spells the name of a variable. -/
  | varName
  /-- A token that holds a URI. -/
  | uriLiteral
  | stringLiteral
  | numericLiteral
  /-- What a parser could not make sense of. -/
  | error
deriving DecidableEq, Repr

namespace Kind

/-- The name of a kind. -/
def text : Kind → String
  | mainModule => "MainModule"
  | libraryModule => "LibraryModule"
  | moduleDecl => "ModuleDecl"
  | prolog => "Prolog"
  | queryBody => "QueryBody"
  | namespaceDecl => "NamespaceDecl"
  | defaultNamespaceDecl => "DefaultNamespaceDecl"
  | defaultNamespaceKind => "DefaultNamespaceKind"
  | schemaImport => "SchemaImport"
  | schemaPrefix => "SchemaPrefix"
  | moduleImport => "ModuleImport"
  | locationHint => "LocationHint"
  | varDecl => "VarDecl"
  | functionDecl => "FunctionDecl"
  | paramList => "ParamList"
  | param => "Param"
  | functionBody => "FunctionBody"
  | typeDeclaration => "TypeDeclaration"
  | optionDecl => "OptionDecl"
  | dirElemConstructor => "DirElemConstructor"
  | dirAttributeList => "DirAttributeList"
  | dirAttribute => "DirAttribute"
  | attributeName => "AttributeName"
  | dirAttributeValue => "DirAttributeValue"
  | enclosedExpr => "EnclosedExpr"
  | flworExpr => "FLWORExpr"
  | forClause => "ForClause"
  | forBinding => "ForBinding"
  | letClause => "LetClause"
  | letBinding => "LetBinding"
  | positionalVar => "PositionalVar"
  | tumblingWindowClause => "TumblingWindowClause"
  | slidingWindowClause => "SlidingWindowClause"
  | windowStartCondition => "WindowStartCondition"
  | windowEndCondition => "WindowEndCondition"
  | windowVars => "WindowVars"
  | currentItem => "CurrentItem"
  | previousItem => "PreviousItem"
  | nextItem => "NextItem"
  | whereClause => "WhereClause"
  | groupByClause => "GroupByClause"
  | groupingSpec => "GroupingSpec"
  | orderByClause => "OrderByClause"
  | countClause => "CountClause"
  | returnClause => "ReturnClause"
  | quantifiedExpr => "QuantifiedExpr"
  | quantifiedBinding => "QuantifiedBinding"
  | typeswitchExpr => "TypeswitchExpr"
  | typeswitchCase => "TypeswitchCase"
  | typeswitchDefault => "TypeswitchDefault"
  | sequenceType => "SequenceType"
  | inlineFunctionExpr => "InlineFunctionExpr"
  | block => "Block"
  | blockVarDecl => "BlockVarDecl"
  | blockVarDeclEntry => "BlockVarDeclEntry"
  | functionCall => "FunctionCall"
  | argumentList => "ArgumentList"
  | argumentPlaceholder => "ArgumentPlaceholder"
  | namedFunctionRef => "NamedFunctionRef"
  | arrowExpr => "ArrowExpr"
  | arrowFunctionSpecifier => "ArrowFunctionSpecifier"
  | expr => "Expr"
  | parenthesizedExpr => "ParenthesizedExpr"
  | ifExpr => "IfExpr"
  | pathExpr => "PathExpr"
  | varRef => "VarRef"
  | contextItemExpr => "ContextItemExpr"
  | ncName => "NCName"
  | eqName => "EQName"
  | varName => "VarName"
  | uriLiteral => "UriLiteral"
  | stringLiteral => "StringLiteral"
  | numericLiteral => "NumericLiteral"
  | error => "Error"

/-- All kinds. -/
def all : List Kind :=
  [.mainModule, .libraryModule, .moduleDecl, .prolog, .queryBody, .namespaceDecl,
   .defaultNamespaceDecl, .defaultNamespaceKind, .schemaImport, .schemaPrefix, .moduleImport,
   .locationHint, .varDecl, .functionDecl, .paramList, .param, .functionBody, .typeDeclaration,
   .optionDecl, .dirElemConstructor, .dirAttributeList, .dirAttribute, .attributeName,
   .dirAttributeValue, .enclosedExpr, .flworExpr, .forClause, .forBinding, .letClause,
   .letBinding, .positionalVar, .tumblingWindowClause, .slidingWindowClause,
   .windowStartCondition, .windowEndCondition, .windowVars, .currentItem, .previousItem,
   .nextItem, .whereClause, .groupByClause, .groupingSpec, .orderByClause, .countClause,
   .returnClause, .quantifiedExpr, .quantifiedBinding, .typeswitchExpr, .typeswitchCase,
   .typeswitchDefault, .sequenceType, .inlineFunctionExpr, .block, .blockVarDecl,
   .blockVarDeclEntry, .functionCall, .argumentList, .argumentPlaceholder, .namedFunctionRef,
   .arrowExpr, .arrowFunctionSpecifier, .expr, .parenthesizedExpr, .ifExpr, .pathExpr, .varRef,
   .contextItemExpr, .ncName, .eqName, .varName, .uriLiteral, .stringLiteral, .numericLiteral,
   .error]

/-- The kind with exactly this name. -/
def ofText? (s : String) : Option Kind :=
  all.find? (·.text == s)

/-- The two kinds of module. -/
def isModule : Kind → Bool
  | mainModule | libraryModule => true
  | _ => false

/-- The kinds that name a function in order to call it or refer to it. -/
def isCallSite : Kind → Bool
  | functionCall | namedFunctionRef | arrowFunctionSpecifier => true
  | _ => false

/-- The kinds that bind a variable, and perhaps a positional one, inside a clause. -/
def isBinding : Kind → Bool
  | forBinding | letBinding | groupingSpec | quantifiedBinding | blockVarDeclEntry => true
  | _ => false

/-- The two kinds of window clause. -/
def isWindow : Kind → Bool
  | tumblingWindowClause | slidingWindowClause => true
  | _ => false

end Kind

end XQueryScope
