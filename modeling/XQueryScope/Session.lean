import XQueryScope.Cache.Resolution
import XQueryScope.Scope.Functions
import XQueryScope.Tree.Text

/-!
# Sessions

A session loads trees, gives each a generation of its own, and answers queries about them.  Answers
about namespaces and variables may come from the cache, and every use of a resolver is counted.  A
node id that is not in the tree has empty answers.
-/

namespace XQueryScope

/-! ## 1. What a session keeps -/

/-- A tree with the generation under which its answers are cached. -/
structure Snapshot where
  generation : Nat
  tree : Tree
deriving DecidableEq, Repr

/-- How often resolvers were used, and how often the cache had the answer. -/
structure Counters where
  calls : Nat := 0
  hits : Nat := 0
deriving DecidableEq, Repr

/-- The cache, if there is one, and the counters. -/
structure Store where
  cache : Option ResolutionCache := none
  counters : Counters := {}
deriving DecidableEq, Repr

/-- Counts one use of a resolver. -/
def Store.count (s : Store) (hit : Bool) : Store :=
  { s with counters := ⟨s.counters.calls + 1, s.counters.hits + if hit then 1 else 0⟩ }

/-! ## 2. Queries at a node -/

/-- What a query is asked of. -/
structure Context where
  snapshot : Snapshot
  dialect : Dialect := {}
  registry : Option Registry := none
  /-- Whether the cache may be used. -/
  cached : Bool := true
deriving DecidableEq, Repr

/-- Everything known at a node. -/
structure Summary where
  node : NodeId
  dialect : Dialect
  namespaces : List NamespaceBinding
  defaultElement : List DefaultNamespace
  defaultFunction : List DefaultNamespace
  inScopeVariables : List VariableBinding
  functions : List FunctionDeclaration
  callArity : Option Nat
deriving DecidableEq, Repr

namespace Context

/-- The tree that is asked about. -/
def tree (c : Context) : Tree := c.snapshot.tree

/-- The key of a node's answers. -/
def key (c : Context) (i : NodeId) : CacheKey := ⟨c.snapshot.generation, i, c.dialect⟩

/-- The cache that this context may use. -/
def cacheOf (c : Context) (s : Store) : Option ResolutionCache :=
  if c.cached then s.cache else none

/-- The namespaces at a node. -/
def namespaces (c : Context) (i : NodeId) : StateM Store (List NamespaceBinding) := fun s =>
  if c.tree.has i then
    match c.cacheOf s with
    | some cache =>
      let (v, hit, kept) := cache.namespaces.fetch (c.key i) fun _ => c.tree.namespaces c.dialect i
      (v, { s with cache := some { cache with namespaces := kept } }.count hit)
    | none => (c.tree.namespaces c.dialect i, s.count false)
  else ([], s)

/-- The variables at a node. -/
def inScopeVariables (c : Context) (i : NodeId) : StateM Store (List VariableBinding) := fun s =>
  if c.tree.has i then
    match c.cacheOf s with
    | some cache =>
      let (v, hit, kept) :=
        cache.inScopeVariables.fetch (c.key i) fun _ => c.tree.inScopeVariables i
      (v, { s with cache := some { cache with inScopeVariables := kept } }.count hit)
    | none => (c.tree.inScopeVariables i, s.count false)
  else ([], s)

/-- The binding of a prefix at a node. -/
def resolvePrefix? (c : Context) (i : NodeId) (p : String) :
    StateM Store (Option NamespaceBinding) := do
  let bindings ← c.namespaces i
  pure (bindings.find? (·.nsPrefix == p))

/-- The default namespaces at a node. -/
def defaults (c : Context) (kind : DefaultKind) (i : NodeId) : List DefaultNamespace :=
  if c.tree.has i then c.tree.defaults kind i else []

/-- The candidates at a node. -/
def functions (c : Context) (i : NodeId) : StateM Store (List FunctionDeclaration) := fun s =>
  (if c.tree.has i then c.tree.functions c.dialect c.registry i else [], s.count false)

/-- The number of arguments at a call site. -/
def callArity? (c : Context) (i : NodeId) : Option Nat :=
  c.tree.callArity? i

/-- The candidates at a node that accept its number of arguments. -/
def applicable (c : Context) (i : NodeId) : StateM Store (List FunctionDeclaration) :=
  match c.callArity? i with
  | some n => do
    let candidates ← c.functions i
    pure (candidates.filter (·.arity.accepts n))
  | none => pure []

/-- The expanded form of the name that a token spells. -/
def expand? (c : Context) (i : NodeId) : Option Name :=
  c.tree.expandToken? c.dialect i

/-- Everything known at a node. -/
def summary (c : Context) (i : NodeId) : StateM Store Summary := do
  let namespaces ← c.namespaces i
  let inScopeVariables ← c.inScopeVariables i
  let functions ← c.functions i
  pure { node := i, dialect := c.dialect, namespaces, inScopeVariables, functions,
         defaultElement := c.defaults .elementOrType i, defaultFunction := c.defaults .function i,
         callArity := c.callArity? i }

end Context

/-! ## 3. Queries as data -/

/-- A question about a tree. -/
inductive Query where
  | namespaces (i : NodeId)
  | resolvePrefix (i : NodeId) (p : String)
  | inScopeVariables (i : NodeId)
  | defaults (kind : DefaultKind) (i : NodeId)
  | functions (i : NodeId)
  | applicable (i : NodeId)
  | arity (i : NodeId)
  | expand (i : NodeId)
  | summary (i : NodeId)
  | namespacesAt (is : List NodeId)
  | variablesAt (is : List NodeId)
  | functionsAt (is : List NodeId)
deriving DecidableEq, Repr

/-- What a question is answered with. -/
inductive Answer where
  | namespaces (bs : List NamespaceBinding)
  | binding (b : Option NamespaceBinding)
  | inScopeVariables (bs : List VariableBinding)
  | defaults (es : List DefaultNamespace)
  | functions (fs : List FunctionDeclaration)
  | arity (n : Option Nat)
  | name (n : Option Name)
  | summary (s : Summary)
  | all (answers : List Answer)

/-- Asks a question about many nodes, one after the other. -/
def Context.each {α : Type} (ask : NodeId → StateM Store α) : List NodeId → StateM Store (List α)
  | [] => pure []
  | i :: is => do
    let a ← ask i
    let rest ← Context.each ask is
    pure (a :: rest)

/-- Answers a question. -/
def Context.ask (c : Context) : Query → StateM Store Answer
  | .namespaces i => do pure (.namespaces (← c.namespaces i))
  | .resolvePrefix i p => do pure (.binding (← c.resolvePrefix? i p))
  | .inScopeVariables i => do pure (.inScopeVariables (← c.inScopeVariables i))
  | .defaults kind i => pure (.defaults (c.defaults kind i))
  | .functions i => do pure (.functions (← c.functions i))
  | .applicable i => do pure (.functions (← c.applicable i))
  | .arity i => pure (.arity (c.callArity? i))
  | .expand i => pure (.name (c.expand? i))
  | .summary i => do pure (.summary (← c.summary i))
  | .namespacesAt is => do pure (.all ((← Context.each c.namespaces is).map .namespaces))
  | .variablesAt is => do pure (.all ((← Context.each c.inScopeVariables is).map .inScopeVariables))
  | .functionsAt is => do pure (.all ((← Context.each c.functions is).map .functions))

/-! ## 4. Sessions -/

/-- Trees, libraries, cache and counters. -/
structure Session where
  /-- What became of each tree that was loaded. -/
  snapshots : Array (Except TreeError Snapshot) := #[]
  /-- The generation of the next tree. -/
  nextGeneration : Nat := 1
  registry : Option Registry := none
  store : Store := {}

/-- What can be done in a session.  Trees are named by their place among those loaded. -/
inductive Event where
  | load (text : String)
  | loadListing (entries : List Entry)
  | loadOutline (outline : Outline)
  /-- Runs a builder. -/
  | build (steps : List Step)
  /-- Takes a second handle on a tree; it keeps its generation. -/
  | copy (tree : Nat)
  | ask (tree : Nat) (dialect : Dialect) (cached linked : Bool) (query : Query)
  /-- Drops the cached answers about a tree. -/
  | forget (tree : Nat)
  /-- Drops the cached answers of a generation, whether or not a tree has it. -/
  | forgetGeneration (generation : Nat)
  | forgetAll
  | resizeNamespaces (capacity : Nat)
  | resizeVariables (capacity : Nat)

/-- What a session says to an event. -/
inductive Reply where
  | loaded (result : Except TreeError Nat)
  | answer (a : Answer)
  | dropped (n : Nat)
  | done
  | noTree
  | noCache

namespace Session

/-- The tree loaded at a place. -/
def snapshot? (s : Session) (tree : Nat) : Option Snapshot :=
  match s.snapshots[tree]? with
  | some (.ok snapshot) => some snapshot
  | _ => none

/-- Takes the result of building a tree.  A tree takes a generation, a failure none. -/
def take (s : Session) (built : Except TreeError Tree) : Session :=
  match built with
  | .ok tree =>
    { s with
      snapshots := s.snapshots.push (.ok ⟨s.nextGeneration, tree⟩)
      nextGeneration := s.nextGeneration + 1 }
  | .error e => { s with snapshots := s.snapshots.push (.error e) }

/-- Takes the result of building a tree, and tells its size. -/
def accept (s : Session) (built : Except TreeError Tree) : Session × Reply :=
  (s.take built, .loaded (built.map (·.size)))

/-- Registers a library, whose tree takes a generation too. -/
def register (s : Session) (built : Except TreeError Tree) (location : Option String) :
    Session × Except Chain Unit :=
  match built with
  | .error e => (s, .error e.chain)
  | .ok tree =>
    let s := { s with nextGeneration := s.nextGeneration + 1 }
    match (s.registry.getD {}).register tree location with
    | .ok r => ({ s with registry := some r }, .ok ())
    | .error e => (s, .error e.chain)

/-- The context of a query about a tree. -/
def context (s : Session) (snapshot : Snapshot) (dialect : Dialect) (cached linked : Bool) :
    Context :=
  { snapshot, dialect, cached, registry := if linked then s.registry else none }

/-- Changes the cache, if there is one. -/
def withCache (s : Session) (f : ResolutionCache → Reply × ResolutionCache) : Session × Reply :=
  match s.store.cache with
  | some cache =>
    let (reply, cache) := f cache
    ({ s with store := { s.store with cache := some cache } }, reply)
  | none => (s, .noCache)

/-- Drops the cached answers of a generation, and counts them. -/
def forgetGeneration (s : Session) (generation : Nat) : Session × Reply :=
  s.withCache fun cache =>
    let (n, cache) := cache.dropGeneration generation
    (.dropped n, cache)

/-- What an event does. -/
def step (s : Session) : Event → Session × Reply
  | .load text => s.accept (Tree.ofText text)
  | .loadListing entries => s.accept (Tree.ofListing entries)
  | .loadOutline outline => s.accept (Tree.ofOutline outline)
  | .build steps => s.accept (Builder.run {} steps).finish
  | .copy tree =>
    match s.snapshot? tree with
    | some snapshot =>
      ({ s with snapshots := s.snapshots.push (.ok snapshot) }, .loaded (.ok snapshot.tree.size))
    | none => (s, .noTree)
  | .ask tree dialect cached linked query =>
    match s.snapshot? tree with
    | some snapshot =>
      let (answer, store) := (s.context snapshot dialect cached linked).ask query s.store
      ({ s with store }, .answer answer)
    | none => (s, .noTree)
  | .forget tree =>
    match s.snapshot? tree with
    | some snapshot => s.forgetGeneration snapshot.generation
    | none => (s, .noTree)
  | .forgetGeneration generation => s.forgetGeneration generation
  | .forgetAll => s.withCache fun cache => (.done, cache.clear)
  | .resizeNamespaces capacity =>
    s.withCache fun cache => (.done, { cache with namespaces := cache.namespaces.resize capacity })
  | .resizeVariables capacity =>
    s.withCache fun cache =>
      (.done, { cache with inScopeVariables := cache.inScopeVariables.resize capacity })

end Session

end XQueryScope
