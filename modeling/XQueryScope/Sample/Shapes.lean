import XQueryScope.Tree.Outline

/-!
# Shapes of constructs

One function for each construct, giving the outline it has when it is parsed from a complete query.
With them a sample query is written as nested calls.  Parts that may be missing are options.
-/

namespace XQueryScope.Shape

open Outline (node token)

/-- A variable's name. -/
def varName (name : String) : Outline := token .varName name

/-- A token that may be missing. -/
def optionalToken (kind : Kind) (text : Option String) : List Outline :=
  (text.map (token kind)).toList

/-! ## 1. Modules -/

/-- A prolog, unless there is nothing to declare. -/
def prolog (decls : List Outline) : List Outline :=
  if decls.isEmpty then [] else [node .prolog decls]

/-- A query with a prolog. -/
def mainModule (decls : List Outline) (body : Outline) : Outline :=
  node .mainModule (prolog decls ++ [node .queryBody [body]])

/-- A query without a prolog. -/
def query (body : Outline) : Outline := mainModule [] body

/-- A library. -/
def libraryModule (nsPrefix uri : Option String) (decls : List Outline) : Outline :=
  node .libraryModule
    (node .moduleDecl (optionalToken .ncName nsPrefix ++ optionalToken .uriLiteral uri) ::
      prolog decls)

/-! ## 2. Declarations in a prolog -/

/-- `declare namespace p = "uri"`. -/
def namespaceDecl (nsPrefix uri : Option String) : Outline :=
  node .namespaceDecl (optionalToken .ncName nsPrefix ++ optionalToken .uriLiteral uri)

/-- `import module namespace p = "uri" at "hint", ...`. -/
def moduleImport (nsPrefix uri : Option String) (hints : List String) : Outline :=
  node .moduleImport (optionalToken .ncName nsPrefix ++ optionalToken .uriLiteral uri ++
    hints.map (token .locationHint))

/-- `import schema namespace p = "uri"`. -/
def schemaImport (nsPrefix uri : Option String) : Outline :=
  node .schemaImport
    (node .schemaPrefix (optionalToken .ncName nsPrefix) :: optionalToken .uriLiteral uri)

/-- `import schema default element namespace "uri"`. -/
def schemaImportDefault (uri : Option String) : Outline :=
  node .schemaImport
    (node .schemaPrefix [token .defaultNamespaceKind "element"] :: optionalToken .uriLiteral uri)

/-- `declare default element namespace "uri"`, or the same for functions. -/
def defaultNamespaceDecl (kind : String) (uri : Option String) : Outline :=
  node .defaultNamespaceDecl (token .defaultNamespaceKind kind :: optionalToken .uriLiteral uri)

/-- `declare variable $name := value`. -/
def varDecl (name : String) (value : Option Outline) : Outline :=
  node .varDecl (varName name :: value.toList)

/-- A parameter. -/
def param (name : String) : Outline := node .param [varName name]

/-- A parameter with a default value. -/
def paramWithDefault (name : String) (value : Outline) : Outline :=
  node .param [varName name, value]

/-- `declare function name(params) { body }`; without a body it is external. -/
def functionDecl (name : String) (params : List Outline) (body : Option Outline) : Outline :=
  node .functionDecl
    (token .eqName name :: node .paramList params ::
      (body.map fun b => node .functionBody [b]).toList)

/-! ## 3. Expressions -/

/-- `()`. -/
def emptyExpr : Outline := node .parenthesizedExpr []

/-- A number. -/
def num (value : String) : Outline := token .numericLiteral value

/-- A string. -/
def stringLit (value : String) : Outline := token .stringLiteral value

/-- Expressions with commas between them. -/
def sequence (items : List Outline) : Outline := node .expr items

/-- A reference to a variable. -/
def varRef (name : String) : Outline := node .varRef [varName name]

/-- `name(args)`. -/
def call (name : String) (args : List Outline) : Outline :=
  node .functionCall [token .eqName name, node .argumentList args]

/-- `?` in an argument list. -/
def placeholder : Outline := node .argumentPlaceholder []

/-- `name#arity`. -/
def namedFunctionRef (name : String) (arity : Option String) : Outline :=
  node .namedFunctionRef (token .eqName name :: (arity.map num).toList)

/-- `operand => f(args) => g(args)`. -/
def arrow (operand : Outline) (steps : List (String × List Outline)) : Outline :=
  node .arrowExpr (operand :: steps.flatMap fun s =>
    [node .arrowFunctionSpecifier [token .eqName s.1], node .argumentList s.2])

/-- An attribute; one without a value failed to parse. -/
def dirAttribute (name : String) (value : Option String) : Outline :=
  node .dirAttribute (token .attributeName name :: optionalToken .dirAttributeValue value)

/-- `<name attr="value" ...>{content}</name>`. -/
def element (name : String) (attrs : List (String × Option String)) (content : List Outline) :
    Outline :=
  node .dirElemConstructor
    ([token .eqName name, node .dirAttributeList (attrs.map fun a => dirAttribute a.1 a.2)] ++
      if content.isEmpty then [] else [node .enclosedExpr content])

/-- `function (params) { body }`. -/
def inlineFunction (params : List Outline) (body : Outline) : Outline :=
  node .inlineFunctionExpr [node .paramList params, node .functionBody [body]]

/-- `target(args)` for a target that is not a name. -/
def dynamicCall (target : Outline) (args : List Outline) : Outline :=
  node .expr [target, node .argumentList args]

/-- `block { decls; body }`. -/
def block (decls : List Outline) (body : Outline) : Outline :=
  node .block (decls ++ [body])

/-- `declare $a := ..., $b := ...;` inside a block. -/
def blockVarDecl (entries : List (String × Option Outline)) : Outline :=
  node .blockVarDecl (entries.map fun e =>
    node .blockVarDeclEntry (varName e.1 :: e.2.toList))

/-! ## 4. FLWOR and other binding expressions -/

/-- Clauses and the expression to return. -/
def flwor (clauses : List Outline) (result : Outline) : Outline :=
  node .flworExpr (clauses ++ [node .returnClause [result]])

/-- `for ...`. -/
def forClause (bindings : List Outline) : Outline := node .forClause bindings

/-- `$name at $positional in expr`. -/
def forBinding (name : String) (positional : Option String) (expr : Outline) : Outline :=
  node .forBinding
    ([varName name] ++ (positional.map fun p => node .positionalVar [varName p]).toList ++ [expr])

/-- `let ...`. -/
def letClause (bindings : List Outline) : Outline := node .letClause bindings

/-- `$name := expr`. -/
def letBinding (name : String) (expr : Outline) : Outline :=
  node .letBinding [varName name, expr]

/-- `for tumbling window $name in expr start ... end ...`, or a sliding one. -/
def windowClause (kind : Kind) (name : String) (expr start : Outline) (stop : Option Outline) :
    Outline :=
  node kind ([varName name, expr, start] ++ stop.toList)

/-- `start $current at $positional previous $previous next $next when expr`, or the same for the
end. -/
def windowCondition (kind : Kind) (current positional previous next : Option String)
    (test : Outline) : Outline :=
  let var (kind : Kind) (name : Option String) : List Outline :=
    (name.map fun n => node kind [varName n]).toList
  node kind
    [node .windowVars (var .currentItem current ++ var .positionalVar positional ++
      var .previousItem previous ++ var .nextItem next), test]

/-- `count $name`. -/
def countClause (name : String) : Outline := node .countClause [varName name]

/-- `group by ...`. -/
def groupBy (specs : List Outline) : Outline := node .groupByClause specs

/-- `$name` or `$name := value` in a group by clause. -/
def groupingSpec (name : String) (value : Option Outline) : Outline :=
  node .groupingSpec (varName name :: value.toList)

/-- `where expr`. -/
def whereClause (expr : Outline) : Outline := node .whereClause [expr]

/-- `order by expr`. -/
def orderBy (expr : Outline) : Outline := node .orderByClause [expr]

/-- `some $a in ..., $b in ... satisfies expr`. -/
def quantified (bindings : List Outline) (satisfies : Outline) : Outline :=
  node .quantifiedExpr (bindings ++ [satisfies])

/-- `$name in expr` of a quantified expression. -/
def quantifiedBinding (name : String) (expr : Outline) : Outline :=
  node .quantifiedBinding [varName name, expr]

/-- `typeswitch (operand) cases default`. -/
def typeswitch (operand : Outline) (cases : List Outline) (default : Outline) : Outline :=
  node .typeswitchExpr (operand :: cases ++ [default])

/-- `case $name as type return expr`. -/
def typeswitchCase (name : Option String) (type : String) (expr : Outline) : Outline :=
  node .typeswitchCase
    ((name.map varName).toList ++ [node .sequenceType [token .eqName type], expr])

/-- `default $name return expr`. -/
def typeswitchDefault (name : Option String) (expr : Outline) : Outline :=
  node .typeswitchDefault ((name.map varName).toList ++ [expr])

end XQueryScope.Shape
