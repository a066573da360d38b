import XQueryScope.Name
import XQueryScope.Tree.Basic

/-!
# Variables in scope

From a node, walk outwards.  At each step there is a construct and the child of it that the walk
came through, and the construct decides which of its variables that child can see
(`Tree.visibleFrom`).  The variables in scope at a node are those of all steps, innermost construct
first.  Shadowed ones stay in the list.
-/

namespace XQueryScope

/-- A variable that is visible somewhere. -/
structure VariableBinding where
  name : Name
  /-- The token that spells the name where the variable is declared. -/
  declaredAt : NodeId
deriving DecidableEq, Repr

namespace Tree

/-! ## 1. The variables that a construct declares -/

/-- The variable of a declaration: its first `varName`, if that spells a name. -/
def ownVariable (t : Tree) (decl : NodeId) : List VariableBinding :=
  match t.child? .varName decl with
  | some token =>
    match (t.text? token).bind Name.parse? with
    | some name => [⟨name, token⟩]
    | none => []
  | none => []

/-- The variable of a binding, and behind it the positional one. -/
def bindingVariables (t : Tree) (i : NodeId) : List VariableBinding :=
  if t.kindIs Kind.isBinding i then
    t.ownVariable i ++ (t.child? .positionalVar i).elim [] t.ownVariable
  else []

/-- The variables of a window condition. -/
def conditionVariables (t : Tree) (condition : NodeId) : List VariableBinding :=
  (t.child? .windowVars condition).elim [] fun vars => (t.children vars).flatMap t.ownVariable

/-- The variables that a FLWOR clause hands to the clauses after it. -/
def clauseVariables (t : Tree) (clause : NodeId) : List VariableBinding :=
  match t.kind? clause with
  | some .forClause | some .letClause | some .groupByClause =>
    (t.children clause).flatMap t.bindingVariables
  | some .tumblingWindowClause | some .slidingWindowClause =>
    t.ownVariable clause ++
      (t.child? .windowStartCondition clause).elim [] t.conditionVariables ++
      (t.child? .windowEndCondition clause).elim [] t.conditionVariables
  | some .countClause => t.ownVariable clause
  | _ => []

/-- The variables that a prolog declares, last first. -/
def prologVariables (t : Tree) (prolog : NodeId) : List VariableBinding :=
  (t.childrenOf .varDecl prolog).reverse.flatMap t.ownVariable

/-- The variables that a declaration in a block declares. -/
def blockVariables (t : Tree) (decl : NodeId) : List VariableBinding :=
  (t.childrenOf .blockVarDeclEntry decl).flatMap t.ownVariable

/-- The parameters of a function. -/
def parameters (t : Tree) (function : NodeId) : List NodeId :=
  (t.child? .paramList function).elim [] (t.childrenOf .param)

/-! ## 2. What a construct shows to one of its children -/

/-- The variables of `scope` that its child `i` can see.

* A FLWOR clause sees the clauses before it, nearest first.
* A binding sees the earlier bindings of its clause.
* The end condition of a window sees the variables of the start condition, and what a condition
  tests sees the condition's own.
* A quantified binding sees those before it, nearest first, and the body sees all, last first.
* The result of a typeswitch branch sees the branch's variable, the types do not.
* The body of a function sees the parameters.
* A variable of a prolog sees the variables before it, a function all of them, and so does the query
  body; the last one declared comes first.
* A declaration in a block sees those before it, and everything else in the block sees all. -/
def visibleFrom (t : Tree) (scope i : NodeId) : List VariableBinding :=
  match t.kind? scope with
  | some .flworExpr => (t.preceding i).flatMap t.clauseVariables
  | some .forClause | some .letClause | some .groupByClause | some .blockVarDecl =>
    (t.before i).flatMap t.bindingVariables
  | some .tumblingWindowClause | some .slidingWindowClause =>
    if t.is .windowEndCondition i then
      (t.child? .windowStartCondition scope).elim [] t.conditionVariables
    else []
  | some .windowStartCondition | some .windowEndCondition =>
    if t.is .windowVars i then [] else t.conditionVariables scope
  | some .quantifiedExpr =>
    if t.is .quantifiedBinding i then (t.preceding i).flatMap t.bindingVariables
    else (t.childrenOf .quantifiedBinding scope).reverse.flatMap t.bindingVariables
  | some .typeswitchCase | some .typeswitchDefault =>
    if t.is .varName i || t.is .sequenceType i then [] else t.ownVariable scope
  | some .functionDecl | some .inlineFunctionExpr =>
    if t.is .functionBody i then (t.parameters scope).flatMap t.ownVariable else []
  | some .prolog =>
    if t.is .varDecl i then ((t.preceding i).filter (t.is .varDecl)).flatMap t.ownVariable
    else if t.is .functionDecl i then t.prologVariables scope
    else []
  | some .mainModule | some .libraryModule =>
    if t.is .queryBody i then (t.child? .prolog scope).elim [] t.prologVariables else []
  | some .block =>
    if t.is .blockVarDecl i then (t.before i).flatMap t.blockVariables
    else (t.childrenOf .blockVarDecl scope).flatMap t.blockVariables
  | _ => []

/-! ## 3. What is in scope -/

/-- The steps of the walk from a node to the root: each node on the way with its parent. -/
def steps (t : Tree) (i : NodeId) : List (NodeId × NodeId) :=
  (t.lineage i).zip (t.lineage i).tail

/-- The variables in scope at a node, innermost construct first. -/
def inScopeVariables (t : Tree) (i : NodeId) : List VariableBinding :=
  (t.steps i).flatMap fun s => t.visibleFrom s.2 s.1

end Tree

end XQueryScope
