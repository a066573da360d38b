import XQueryScope.Command.Options
import XQueryScope.Record

/-!
# The query command

Prints what is known at one node of a tree, or one section of it.  The arguments are a tree file and
a node id, with options before, between or after them.
-/

namespace XQueryScope

open Json (Value)

/-! ## 1. Arguments -/

/-- What the command prints. -/
inductive Section where
  | all
  | namespaces
  | defaultElement
  | defaultFunction
  | inScopeVariables
  | functions
  | applicable
  | expand
deriving DecidableEq, Repr

namespace Section

/-- How a section is written. -/
def text : Section → String
  | all => "all"
  | namespaces => "namespaces"
  | defaultElement => "default-element-namespace"
  | defaultFunction => "default-function-namespace"
  | inScopeVariables => "variables"
  | functions => "functions"
  | applicable => "applicable-functions"
  | expand => "expand"

/-- All sections. -/
def every : List Section :=
  [all, namespaces, defaultElement, defaultFunction, inScopeVariables, functions, applicable,
   expand]

/-- The section with exactly this text. -/
def ofText? (s : String) : Option Section :=
  every.find? (·.text == s)

end Section

/-- The arguments of the query command. -/
structure QueryArgs where
  tree : String
  node : NodeId
  what : Section
  options : Options
deriving DecidableEq, Repr

/-- The arguments seen so far. -/
structure QueryDraft where
  /-- Arguments that are no options, in order. -/
  positional : List String := []
  what : Section := .all
  options : Options := {}
deriving DecidableEq, Repr

/-- An option of the query command. -/
inductive QueryFlag where
  | shared (flag : SharedFlag)
  | what
deriving DecidableEq, Repr

/-- The option that an argument is. -/
def QueryFlag.ofText? (arg : String) : Option QueryFlag :=
  if arg == "--what" then some .what else (SharedFlag.ofText? arg).map .shared

namespace QueryDraft

/-- Sets an option. -/
def set (d : QueryDraft) (value : String) : QueryFlag → Except ArgError QueryDraft
  | .shared flag => do
    let options ← d.options.set value flag
    pure { d with options }
  | .what =>
    match Section.ofText? value with
    | some what => .ok { d with what }
    | none => .error (.unknownSection value)

/-- Takes arguments one after the other.  The value of an option is the next argument, whatever it
looks like; any other argument that starts with a dash is refused, but for the dash alone. -/
def collect (d : QueryDraft) : List String → Except ArgError QueryDraft
  | [] => .ok d
  | arg :: rest =>
    match QueryFlag.ofText? arg with
    | some flag =>
      match rest with
      | [] => .error (if flag = .what then .needsSection else .needsValue arg)
      | value :: rest => do
        let d ← d.set value flag
        d.collect rest
    | none =>
      if arg.startsWith "-" && arg != "-" then .error (.unknownFlag arg)
      else collect { d with positional := d.positional ++ [arg] } rest

end QueryDraft

/-- A node id, possibly after number signs. -/
def readNodeId? (s : String) : Option NodeId :=
  Text.readBelow? (Text.twoTo 32) (s.toList.dropWhile (· == '#'))

/-- Reads the arguments of the query command. -/
def QueryArgs.parse (args : List String) : Except ArgError QueryArgs := do
  let d ← QueryDraft.collect {} args
  match d.positional with
  | [] => .error .missingTree
  | [_] => .error .missingNode
  | tree :: id :: more =>
    match readNodeId? id with
    | none => .error (.badNode id)
    | some node =>
      if more.isEmpty then .ok ⟨tree, node, d.what, d.options⟩ else .error .tooMany

/-! ## 2. The answer -/

/-- The cache that a configuration calls for. -/
def Config.newCache (c : Config) : Option ResolutionCache :=
  if c.cacheCapacity = 0 then none else some (.empty c.cacheCapacity)

/-- One section of what is known at a node. -/
def Context.sectionAt (c : Context) (i : NodeId) : Section → StateM Store Value
  | .all => do pure (← c.summary i).toJson
  | .namespaces => do pure (Json.ofList NamespaceBinding.toJson (← c.namespaces i))
  | .defaultElement => pure (Json.ofList DefaultNamespace.toJson (c.defaults .elementOrType i))
  | .defaultFunction => pure (Json.ofList DefaultNamespace.toJson (c.defaults .function i))
  | .inScopeVariables => do pure (Json.ofList VariableBinding.toJson (← c.inScopeVariables i))
  | .functions => do pure (Json.ofList FunctionDeclaration.toJson (← c.functions i))
  | .applicable => do
    let fs ← c.applicable i
    pure (.obj [("call_arity", Json.ofOption Json.nat (c.callArity? i)),
      ("functions", Json.ofList FunctionDeclaration.toJson fs)])
  | .expand => pure (Json.ofOption Name.toJson (c.expand? i))

/-- Reads the files that the arguments name and computes the section they ask for, with the use of
resolvers it took. -/
def QueryArgs.answer (a : QueryArgs) : Attempt (Value × Counters) := do
  let config ← a.options.resolve
  let text ← Attempt.readOr (.treeFile a.tree) a.tree
  match Tree.ofText text with
  | .error e => throw (.namedTree a.tree e)
  | .ok tree =>
    if !tree.has a.node then throw (.noNode a.node tree.size)
    let registry ← Registry.addFiles {} config.modulePaths
    let context : Context :=
      { snapshot := ⟨1, tree⟩, dialect := config.dialect, registry := some registry }
    let compute : Script (Value × Store) :=
      pure (context.sectionAt a.node a.what { cache := config.newCache })
    let (value, store) ←
      (if a.what = .all then Script.timed "static_context_summary" compute else compute :
        Script (Value × Store))
    pure (value, store.counters)

/-- Runs the query command. -/
def QueryArgs.run (a : QueryArgs) : Script (Except CommandError (Value × Counters)) :=
  Script.timed "query" a.answer.run

end XQueryScope
