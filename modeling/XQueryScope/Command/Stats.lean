import XQueryScope.Command.Query

/-!
# The statistics command

Runs every resolver over every node of a tree, phase by phase, and tells what came of it and how
long it took.
-/

namespace XQueryScope

/-! ## 1. Arguments -/

/-- A phase of the command. -/
inductive Phase where
  | load
  | namespaces
  | defaults
  | inScopeVariables
  | functions
deriving DecidableEq, Repr

namespace Phase

/-- How a phase is written. -/
def text : Phase → String
  | load => "load"
  | namespaces => "namespaces"
  | defaults => "defaults"
  | inScopeVariables => "variables"
  | functions => "functions"

/-- All phases, in the order in which they run. -/
def every : List Phase := [load, namespaces, defaults, inScopeVariables, functions]

/-- The phase with exactly this text. -/
def ofText? (s : String) : Option Phase :=
  every.find? (·.text == s)

end Phase

/-- The arguments of the statistics command. -/
structure StatsArgs where
  path : String
  csv : Bool
  only : Option Phase
  options : Options
deriving DecidableEq, Repr

/-- The arguments seen so far. -/
structure StatsDraft where
  path : Option String := none
  csv : Bool := false
  only : Option Phase := none
  options : Options := {}
deriving DecidableEq, Repr

namespace StatsDraft

/-- Takes arguments one after the other. -/
def collect (d : StatsDraft) : List String → Except ArgError StatsDraft
  | [] => .ok d
  | arg :: rest =>
    match SharedFlag.ofText? arg with
    | some flag =>
      match rest with
      | [] => .error (.needsValue arg)
      | value :: rest => do
        let options ← d.options.set value flag
        collect { d with options } rest
    | none =>
      if arg == "--csv" then collect { d with csv := true } rest
      else if arg == "--only" then
        match rest with
        | [] => .error .needsPhase
        | value :: rest =>
          match Phase.ofText? value with
          | some phase => collect { d with only := some phase } rest
          | none => .error (.unknownPhase value)
      else if arg.startsWith "-" then .error (.unknownFlag arg)
      else if d.path.isSome then .error .manyPaths
      else collect { d with path := some arg } rest

end StatsDraft

/-- Reads the arguments of the statistics command.  The path must be there. -/
def StatsArgs.parse (args : List String) : Script (Except ArgError StatsArgs) :=
  match StatsDraft.collect {} args with
  | .error e => pure (.error e)
  | .ok d =>
    match d.path with
    | none => pure (.error .missingTree)
    | some path => do
      if ← Script.isPresent path then pure (.ok ⟨path, d.csv, d.only, d.options⟩)
      else pure (.error (.noSuchPath path))

/-- What is said about an argument list that is refused. -/
def ArgError.message : ArgError → String
  | needsValue flag => flag ++ " requires a value"
  | needsSection => "--what requires a section name"
  | needsPhase => "--only requires a phase name"
  | dialect e => e.message
  | unknownSection s =>
    "Unknown section '" ++ s ++ "'. Valid sections: " ++
      ", ".intercalate (Section.every.map Section.text)
  | unknownPhase s =>
    "Unknown phase '" ++ s ++ "'. Valid phases: " ++
      ", ".intercalate (Phase.every.map Phase.text)
  | unknownFlag s => "Unknown flag: '" ++ s ++ "'"
  | missingTree => "Missing required <tree.json> argument"
  | missingNode => "Missing required <node-id> argument"
  | badNode s => "Invalid node id: '" ++ s ++ "'"
  | tooMany => "Too many arguments; expected <tree.json> <node-id>"
  | manyPaths => "Multiple paths provided; expected exactly one"
  | noSuchPath path => "Path does not exist: " ++ path

/-! ## 2. Phases -/

/-- What came of a phase. -/
structure PhaseReport where
  phase : Phase
  detail : String
  nanoseconds : Nat
  peakBytes : Option Nat
deriving DecidableEq, Repr

/-- Whether a phase is asked for. -/
def StatsArgs.wants (a : StatsArgs) (p : Phase) : Bool :=
  a.only.all (· == p)

/-- The total of a list of numbers. -/
def total (ns : List Nat) : Nat := ns.foldl (· + ·) 0

/-- The largest of a list of numbers, 0 if there is none. -/
def largest (ns : List Nat) : Nat := ns.foldl max 0

/-- What is said about loading. -/
def loadDetail (tree : Tree) (registry : Registry) (config : Config) : String :=
  let caching :=
    if config.cacheCapacity = 0 then "cache disabled"
    else "cache capacity " ++ Text.decimalText config.cacheCapacity
  Text.decimalText tree.size ++ " nodes, " ++ Text.decimalText registry.size ++
    " library modules, " ++ caching

namespace Context

/-- The namespaces at every node, summed up. -/
def namespacesDetail (c : Context) (nodes : List NodeId) : StateM Store String := do
  let all ← each c.namespaces nodes
  pure (Text.decimalText nodes.length ++ " nodes, " ++
    Text.decimalText (total (all.map List.length)) ++ " bindings")

/-- The default namespaces at every node, summed up. -/
def defaultsDetail (c : Context) (nodes : List NodeId) : StateM Store String :=
  let overridden := nodes.countP fun i =>
    decide (1 < (c.defaults .elementOrType i).length) ||
      decide (1 < (c.defaults .function i).length)
  pure (Text.decimalText nodes.length ++ " nodes, " ++ Text.decimalText overridden ++
    " with declared defaults")

/-- The variables at every node, summed up. -/
def variablesDetail (c : Context) (nodes : List NodeId) : StateM Store String := do
  let all ← each c.inScopeVariables nodes
  let counts := all.map List.length
  pure (Text.decimalText nodes.length ++ " nodes, " ++ Text.decimalText (total counts) ++
    " bindings, at most " ++ Text.decimalText (largest counts) ++ " at one node")

/-- The candidates at every call site, summed up. -/
def functionsDetail (c : Context) (nodes : List NodeId) : StateM Store String := do
  let sites := nodes.filter (c.tree.kindIs Kind.isCallSite)
  let all ← each c.functions sites
  pure (Text.decimalText sites.length ++ " call sites, " ++
    Text.decimalText (total (all.map List.length)) ++ " candidates, " ++
    Text.decimalText (all.countP List.isEmpty) ++ " unresolved")

end Context

/-- Runs one phase over a tree that is loaded, if it is asked for.  The resolvers that answer for
many nodes at once note their own time. -/
def StatsArgs.phase (a : StatsArgs) (p : Phase) (batch : Option String)
    (compute : StateM Store String) (store : Store) : Script (List PhaseReport × Store) :=
  if a.wants p then
    Script.timed ("analysis-stats:" ++ p.text) do
      let start ← Script.now
      let work : Script (String × Store) := pure (compute store)
      let (detail, store) ← batch.elim work fun span => Script.timedTwice span work
      let stop ← Script.now
      pure ([⟨p, detail, stop.nanoseconds - start.nanoseconds, stop.peakBytes⟩], store)
  else pure ([], store)

/-- Reads the tree and the library modules. -/
def StatsArgs.loadFiles (a : StatsArgs) (config : Config) : Attempt (Tree × Registry) := do
  let text ← Attempt.readOr (.treeFile a.path) a.path
  match Tree.ofText text with
  | .error e => throw (.tree e)
  | .ok tree => pure (tree, ← Registry.addFiles {} config.modulePaths)

/-- Runs the statistics command, and tells the use of resolvers it took. -/
def StatsArgs.run (a : StatsArgs) : Script (Except CommandError (List PhaseReport × Counters)) :=
  ExceptT.run do
    let config ← a.options.resolve
    let start ← (Script.now : Script Reading)
    let (tree, registry) ←
      ExceptT.mk (Script.timed "analysis-stats:load" (a.loadFiles config).run)
    let stop ← (Script.now : Script Reading)
    let load :=
      if a.wants .load then
        [⟨.load, loadDetail tree registry config, stop.nanoseconds - start.nanoseconds,
          stop.peakBytes⟩]
      else []
    let c : Context :=
      { snapshot := ⟨1, tree⟩, dialect := config.dialect, registry := some registry }
    let nodes := tree.below tree.root
    let store : Store := { cache := config.newCache }
    let (r1, store) ←
      (a.phase .namespaces (some "namespaces_batch") (c.namespacesDetail nodes) store :
        Script (List PhaseReport × Store))
    let (r2, store) ←
      (a.phase .defaults none (c.defaultsDetail nodes) store : Script (List PhaseReport × Store))
    let (r3, store) ←
      (a.phase .inScopeVariables (some "in_scope_variables_batch") (c.variablesDetail nodes) store :
        Script (List PhaseReport × Store))
    let (r4, store) ←
      (a.phase .functions (some "statically_known_functions_batch") (c.functionsDetail nodes)
        store : Script (List PhaseReport × Store))
    pure (load ++ r1 ++ r2 ++ r3 ++ r4, store.counters)

end XQueryScope
