import XQueryScope.Sample.Shapes
import XQueryScope.Tree.Text

/-!
# Generated queries

A query of any size, the same for the same sizes: a prolog with namespaces, variables and functions,
and in the body FLWOR expressions within each other, `for` and `let` in turn.  The innermost one
returns a call, the probe, at which everything that is declared around it can be asked for.
-/

namespace XQueryScope

/-- The sizes of a generated query. -/
structure SampleSizes where
  namespaceDecls : Nat
  prologVariables : Nat
  prologFunctions : Nat
  flworDepth : Nat
  bindingsPerClause : Nat
deriving DecidableEq, Repr

namespace Sample

/-- A handful of everything. -/
def small : SampleSizes := ⟨5, 5, 5, 3, 2⟩

/-- Twenty declarations of each sort. -/
def medium : SampleSizes := ⟨20, 20, 20, 10, 3⟩

/-- A hundred declarations of each sort. -/
def large : SampleSizes := ⟨100, 100, 100, 40, 4⟩

/-- The function that the innermost call names. -/
def probe : String := "probe"

/-- The name of the file that a generated query is written to. -/
def fileName : String := "query.json"

/-- The declaration of the namespace with a number. -/
def namespaceDecl (i : Nat) : Outline :=
  Shape.namespaceDecl (some ("ns" ++ Text.decimalText i))
    (some ("urn:fixture:" ++ Text.decimalText i))

/-- The declaration of the global variable with a number. -/
def globalVariable (i : Nat) : Outline :=
  Shape.varDecl ("global" ++ Text.decimalText i) (some (Shape.num (Text.decimalText i)))

/-- The declaration of the function with a number; it takes one to three parameters. -/
def localFunction (i : Nat) : Outline :=
  Shape.functionDecl ("local:f" ++ Text.decimalText i)
    ((List.range (i % 3 + 1)).map fun p => Shape.param ("p" ++ Text.decimalText p))
    (some Shape.emptyExpr)

/-- The name of a variable by the depth of its clause and its place there. -/
def variableName (depth b : Nat) : String :=
  "v" ++ Text.decimalText depth ++ "_" ++ Text.decimalText b

/-- A binding.  In `for` clauses every other one has a positional variable. -/
def binding (depth b : Nat) : Outline :=
  let name := variableName depth b
  let value := Shape.num (Text.decimalText b)
  if depth % 2 = 0 then
    Shape.forBinding name (if b % 2 = 0 then some (name ++ "_at") else none) value
  else Shape.letBinding name value

/-- The clause at a depth: `for` at even depths, `let` at odd ones. -/
def clause (depth count : Nat) : Outline :=
  let bindings := (List.range count).map (binding depth)
  if depth % 2 = 0 then Shape.forClause bindings else Shape.letClause bindings

/-- FLWOR expressions around a body, at the depths below `depth`. -/
def nest (count : Nat) : Nat → Outline → Outline
  | 0, body => body
  | depth + 1, body => nest count depth (Shape.flwor [clause depth count] body)

/-- The declarations of the prolog. -/
def declarations (s : SampleSizes) : List Outline :=
  (List.range s.namespaceDecls).map namespaceDecl ++
    (List.range s.prologVariables).map globalVariable ++
    (List.range s.prologFunctions).map localFunction

/-- The outline of the query with given sizes. -/
def outline (s : SampleSizes) : Outline :=
  Shape.mainModule (declarations s)
    (nest s.bindingsPerClause s.flworDepth (Shape.call probe []))

/-- The query with given sizes. -/
def tree (s : SampleSizes) : Except TreeError Tree :=
  Tree.ofOutline (outline s)

/-- The token that names the probe. -/
def probeToken? (t : Tree) : Option NodeId :=
  t.find? fun i => t.is .eqName i && t.text? i == some probe

end Sample

end XQueryScope
