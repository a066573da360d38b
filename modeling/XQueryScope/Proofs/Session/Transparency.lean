import XQueryScope.Session

/-!
# Caches do not show

`Tree.answer` is what the resolvers say about a tree, a node and a dialect, and `Plain` is a session
that has no cache and no generations: it keeps the trees and asks the resolvers.  A session with a
cache of any capacity gives the same answers, whatever is loaded, copied, asked, forgotten and
resized, in any order (`answers_eq_plain`).

What carries the proof is that a generation belongs to one tree.  `Refines σ` says so with a
function `σ` from generations to trees: every tree at hand is the one of its generation, and every
cached list is what the resolver says about the tree of the key's generation.  Generations that no
tree has yet are free, so a new tree extends `σ` where nothing depends on it.
-/

namespace XQueryScope

/-! ## 1. What a cache holds -/

namespace Recent

variable {κ ν : Type} {c : Recent κ ν} {P : κ → ν → Prop} {k : κ} {v : ν}

/-- Every entry is as it should be. -/
def All (P : κ → ν → Prop) (c : Recent κ ν) : Prop := ∀ e ∈ c.entries, P e.1 e.2

theorem all_empty (capacity : Nat) : (empty capacity : Recent κ ν).All P := by
  simp [All, empty]

theorem all_clear : c.clear.All P := by
  simp [All, clear]

theorem All.mono {Q : κ → ν → Prop} (h : c.All P) (hPQ : ∀ k v, P k v → Q k v) : c.All Q :=
  fun e he => hPQ e.1 e.2 (h e he)

theorem All.drop (h : c.All P) (p : κ → Bool) : (c.drop p).2.All P :=
  fun e he => h e (List.mem_filter.mp he).1

theorem All.resize (h : c.All P) (capacity : Nat) : (c.resize capacity).All P :=
  fun e he => h e (List.mem_of_mem_take he)

variable [DecidableEq κ]

theorem All.get? (h : c.All P) (hk : c.get? k = some v) : P k v := by
  obtain ⟨e, he, rfl⟩ := Option.map_eq_some_iff.mp hk
  have hek : e.1 = k := by simpa using List.find?_some he
  exact hek ▸ h e (List.mem_of_find?_eq_some he)

theorem All.insert (h : c.All P) (hv : P k v) : (c.insert k v).All P := by
  intro e he
  rcases List.mem_cons.mp (List.mem_of_mem_take he) with rfl | he
  · exact hv
  · exact h e (List.mem_filter.mp he).1

/-- Fetching gives a value that is as it should be, and keeps the others so. -/
theorem All.fetch (h : c.All P) (k : κ) (compute : Unit → ν) (hv : P k (compute ())) :
    P k (c.fetch k compute).1 ∧ (c.fetch k compute).2.2.All P := by
  unfold Recent.fetch
  cases hk : c.get? k with
  | some v => exact ⟨h.get? hk, h⟩
  | none => exact ⟨hv, h.insert hv⟩

end Recent

/-- The lists cached about generations below `bound` are what the resolvers say about the trees of
these generations. -/
structure ResolutionCache.Honest (σ : Nat → Tree) (bound : Nat) (c : ResolutionCache) : Prop where
  namespaces : c.namespaces.All fun k v =>
    k.generation < bound ∧ v = (σ k.generation).namespaces k.dialect k.node
  inScopeVariables : c.inScopeVariables.All fun k v =>
    k.generation < bound ∧ v = (σ k.generation).inScopeVariables k.node

namespace ResolutionCache.Honest

variable {σ τ : Nat → Tree} {bound bound' : Nat} {c : ResolutionCache}

theorem empty (capacity : Nat) : Honest σ bound (.empty capacity) :=
  ⟨Recent.all_empty capacity, Recent.all_empty capacity⟩

theorem dropGeneration (h : c.Honest σ bound) (g : Nat) :
    (c.dropGeneration g).2.Honest σ bound where
  namespaces := h.namespaces.drop (·.generation == g)
  inScopeVariables := h.inScopeVariables.drop (·.generation == g)

theorem clear : c.clear.Honest σ bound :=
  ⟨Recent.all_clear, Recent.all_clear⟩

/-- Trees of new generations do not matter to what is cached. -/
theorem extend (h : c.Honest σ bound) (hle : bound ≤ bound')
    (hτ : ∀ g : Nat, g < bound → τ g = σ g) : c.Honest τ bound' := by
  constructor
  · refine h.namespaces.mono ?_
    rintro k v ⟨hlt, rfl⟩
    exact ⟨Nat.lt_of_lt_of_le hlt hle, by rw [hτ _ hlt]⟩
  · refine h.inScopeVariables.mono ?_
    rintro k v ⟨hlt, rfl⟩
    exact ⟨Nat.lt_of_lt_of_le hlt hle, by rw [hτ _ hlt]⟩

end ResolutionCache.Honest

/-- The cache, if there is one, is honest. -/
def Store.Honest (σ : Nat → Tree) (bound : Nat) (s : Store) : Prop :=
  ∀ cache, s.cache = some cache → cache.Honest σ bound

/-! ## 2. Queries that answer the same in every honest store -/

/-- From every store with `I`, `m` gives `a` and leaves a store with `I`. -/
def Yields {α : Type} (I : Store → Prop) (m : StateM Store α) (a : α) : Prop :=
  ∀ s, I s → (m s).1 = a ∧ I (m s).2

namespace Yields

variable {α β : Type} {I : Store → Prop} {m : StateM Store α} {a : α}

theorem pure (a : α) : Yields I (Pure.pure a) a := fun _ hs => ⟨rfl, hs⟩

theorem bind {f : α → StateM Store β} {b : β} (hm : Yields I m a) (hf : Yields I (f a) b) :
    Yields I (m >>= f) b := by
  intro s hs
  obtain ⟨ha, hs'⟩ := hm s hs
  show (f (m s).1 (m s).2).1 = b ∧ I (f (m s).1 (m s).2).2
  rw [ha]
  exact hf _ hs'

/-- Asking about many nodes gives the answer for each. -/
theorem each {ask : NodeId → StateM Store α} {answer : NodeId → α}
    (h : ∀ i, Yields I (ask i) (answer i)) :
    ∀ is : List NodeId, Yields I (Context.each ask is) (is.map answer)
  | [] => Yields.pure _
  | i :: is => (h i).bind ((each h is).bind (Yields.pure _))

/-- The same, as one answer. -/
theorem batch {ask : NodeId → StateM Store α} {answer : NodeId → α} (wrap : α → Answer)
    (h : ∀ i, Yields I (ask i) (answer i)) (is : List NodeId) :
    Yields I (Context.each ask is >>= fun as => Pure.pure (Answer.all (as.map wrap)))
      (.all (is.map fun i => wrap (answer i))) := by
  have hall := (each h is).bind (f := fun as => Pure.pure (Answer.all (as.map wrap)))
    (Yields.pure _)
  rwa [List.map_map] at hall

end Yields

/-- What the resolvers say about a tree.  Nothing is known about an id that is not in it. -/
def Tree.answer (t : Tree) (d : Dialect) (r : Option Registry) : Query → Answer
  | .namespaces i => .namespaces (namespacesAt i)
  | .resolvePrefix i p => .binding (if t.has i then t.resolvePrefix? d i p else none)
  | .inScopeVariables i => .inScopeVariables (variablesAt i)
  | .defaults kind i => .defaults (defaultsAt kind i)
  | .functions i => .functions (functionsAt i)
  | .applicable i => .functions (t.applicableFunctions d r i)
  | .arity i => .arity (t.callArity? i)
  | .expand i => .name (t.expandToken? d i)
  | .summary i =>
    .summary
      { node := i, dialect := d, namespaces := namespacesAt i,
        defaultElement := defaultsAt .elementOrType i, defaultFunction := defaultsAt .function i,
        inScopeVariables := variablesAt i, functions := functionsAt i,
        callArity := t.callArity? i }
  | .namespacesAt is => .all (is.map fun i => .namespaces (namespacesAt i))
  | .variablesAt is => .all (is.map fun i => .inScopeVariables (variablesAt i))
  | .functionsAt is => .all (is.map fun i => .functions (functionsAt i))
where
  namespacesAt (i : NodeId) : List NamespaceBinding := if t.has i then t.namespaces d i else []
  variablesAt (i : NodeId) : List VariableBinding := if t.has i then t.inScopeVariables i else []
  defaultsAt (kind : DefaultKind) (i : NodeId) : List DefaultNamespace :=
    if t.has i then t.defaults kind i else []
  functionsAt (i : NodeId) : List FunctionDeclaration :=
    if t.has i then t.functions d r i else []

/-- The tree of a context is the one of its generation. -/
structure Context.Placed (σ : Nat → Tree) (bound : Nat) (c : Context) : Prop where
  old : c.snapshot.generation < bound
  tree : σ c.snapshot.generation = c.snapshot.tree

namespace Context.Placed

variable {σ : Nat → Tree} {bound : Nat} {c : Context}

theorem cache_honest {s : Store} (hs : s.Honest σ bound) {cache : ResolutionCache}
    (hc : c.cacheOf s = some cache) : cache.Honest σ bound := by
  unfold cacheOf at hc
  split at hc
  · exact hs cache hc
  · exact absurd hc (by simp)

/-- Fetching a node's list from either half of an honest cache. -/
theorem fetch_eq (h : c.Placed σ bound) {ν : Type} (f : Tree → Dialect → NodeId → ν)
    {r : Recent CacheKey ν}
    (hr : r.All fun k v => k.generation < bound ∧ v = f (σ k.generation) k.dialect k.node)
    (i : NodeId) :
    (r.fetch (c.key i) fun _ => f c.tree c.dialect i).1 = f c.tree c.dialect i ∧
      (r.fetch (c.key i) fun _ => f c.tree c.dialect i).2.2.All fun k v =>
        k.generation < bound ∧ v = f (σ k.generation) k.dialect k.node := by
  have hkey : f (σ (c.key i).generation) (c.key i).dialect (c.key i).node =
      f c.tree c.dialect i := by
    rw [key, h.tree]
    rfl
  obtain ⟨⟨-, hvalue⟩, hkept⟩ := hr.fetch (c.key i) (fun _ => f c.tree c.dialect i)
    ⟨h.old, hkey.symm⟩
  exact ⟨hvalue.trans hkey, hkept⟩

theorem namespaces_yields (h : c.Placed σ bound) (i : NodeId) :
    Yields (Store.Honest σ bound) (c.namespaces i)
      (if c.tree.has i then c.tree.namespaces c.dialect i else []) := by
  intro s hs
  unfold Context.namespaces
  by_cases hi : c.tree.has i = true
  · rw [if_pos hi, if_pos hi]
    cases hc : c.cacheOf s with
    | none => exact ⟨rfl, hs⟩
    | some cache =>
      have hcache := cache_honest hs hc
      obtain ⟨hvalue, hkept⟩ := h.fetch_eq (fun t d i => t.namespaces d i) hcache.namespaces i
      refine ⟨hvalue, ?_⟩
      rintro cache' ⟨rfl⟩
      exact ⟨hkept, hcache.inScopeVariables⟩
  · rw [if_neg hi, if_neg hi]
    exact ⟨rfl, hs⟩

theorem variables_yields (h : c.Placed σ bound) (i : NodeId) :
    Yields (Store.Honest σ bound) (c.inScopeVariables i)
      (if c.tree.has i then c.tree.inScopeVariables i else []) := by
  intro s hs
  unfold Context.inScopeVariables
  by_cases hi : c.tree.has i = true
  · rw [if_pos hi, if_pos hi]
    cases hc : c.cacheOf s with
    | none => exact ⟨rfl, hs⟩
    | some cache =>
      have hcache := cache_honest hs hc
      obtain ⟨hvalue, hkept⟩ := h.fetch_eq (fun t _ i => t.inScopeVariables i)
        hcache.inScopeVariables i
      refine ⟨hvalue, ?_⟩
      rintro cache' ⟨rfl⟩
      exact ⟨hcache.namespaces, hkept⟩
  · rw [if_neg hi, if_neg hi]
    exact ⟨rfl, hs⟩

theorem functions_yields (i : NodeId) :
    Yields (Store.Honest σ bound) (c.functions i)
      (if c.tree.has i then c.tree.functions c.dialect c.registry i else []) :=
  fun _ hs => ⟨rfl, hs⟩

end Context.Placed

theorem Tree.has_of_callArity? {t : Tree} {i n : Nat} (h : t.callArity? i = some n) :
    t.has i = true := by
  -- outside the tree there is no kind, so nothing is a call site
  by_cases hi : i < t.size
  · simpa [has] using hi
  · have hkind : t.kind? i = none := by
      simp only [kind?, node?, size] at hi ⊢
      rw [Array.getElem?_eq_none (Nat.le_of_not_lt hi)]
      rfl
    simp [callArity?, callSite?, kindIs, is, hkind] at h

namespace Context.Placed

variable {σ : Nat → Tree} {bound : Nat} {c : Context}

theorem resolvePrefix_yields (h : c.Placed σ bound) (i : NodeId) (p : String) :
    Yields (Store.Honest σ bound) (c.resolvePrefix? i p)
      (if c.tree.has i then c.tree.resolvePrefix? c.dialect i p else none) := by
  have heq : (if c.tree.has i then c.tree.resolvePrefix? c.dialect i p else none) =
      (if c.tree.has i then c.tree.namespaces c.dialect i else []).find? (·.nsPrefix == p) := by
    split <;> rfl
  rw [heq]
  exact (h.namespaces_yields i).bind (Yields.pure _)

theorem applicable_yields (i : NodeId) :
    Yields (Store.Honest σ bound) (c.applicable i)
      (c.tree.applicableFunctions c.dialect c.registry i) := by
  unfold Context.applicable Tree.applicableFunctions callArity?
  cases ha : c.tree.callArity? i with
  | none => exact Yields.pure _
  | some n =>
    have hf : Yields (Store.Honest σ bound) (c.functions i) _ := functions_yields i
    rw [if_pos (Tree.has_of_callArity? ha)] at hf
    exact hf.bind (Yields.pure _)

theorem summary_yields (h : c.Placed σ bound) (i : NodeId) :
    Yields (Store.Honest σ bound) (c.summary i)
      { node := i, dialect := c.dialect,
        namespaces := if c.tree.has i then c.tree.namespaces c.dialect i else [],
        defaultElement := c.defaults .elementOrType i,
        defaultFunction := c.defaults .function i,
        inScopeVariables := if c.tree.has i then c.tree.inScopeVariables i else [],
        functions := if c.tree.has i then c.tree.functions c.dialect c.registry i else [],
        callArity := c.tree.callArity? i } :=
  (h.namespaces_yields i).bind ((h.variables_yields i).bind
    ((functions_yields i).bind (Yields.pure _)))

/-- **Every query** gives what the resolvers say, in every honest store. -/
theorem ask_yields (h : c.Placed σ bound) (q : Query) :
    Yields (Store.Honest σ bound) (c.ask q) (c.tree.answer c.dialect c.registry q) := by
  cases q with
  | namespaces i => exact (h.namespaces_yields i).bind (Yields.pure _)
  | resolvePrefix i p => exact (h.resolvePrefix_yields i p).bind (Yields.pure _)
  | inScopeVariables i => exact (h.variables_yields i).bind (Yields.pure _)
  | defaults kind i => exact Yields.pure _
  | functions i => exact (functions_yields i).bind (Yields.pure _)
  | applicable i => exact (applicable_yields i).bind (Yields.pure _)
  | arity i => exact Yields.pure _
  | expand i => exact Yields.pure _
  | summary i => exact (h.summary_yields i).bind (Yields.pure _)
  | namespacesAt is => exact Yields.batch .namespaces h.namespaces_yields is
  | variablesAt is => exact Yields.batch .inScopeVariables h.variables_yields is
  | functionsAt is => exact Yields.batch .functions functions_yields is

end Context.Placed

/-! ## 3. Sessions with and without a cache -/

/-- What happens in a session: an event, or a library is registered. -/
inductive Act where
  | event (e : Event)
  | register (built : Except TreeError Tree) (location : Option String)

/-- The answer in a reply, if it is one to a question. -/
def Reply.answer? : Reply → Option Answer
  | .answer a => some a
  | _ => none

namespace Session

/-- What an act does, and the answer if it is a question. -/
def perform (s : Session) : Act → Session × Option Answer
  | .event e => ((s.step e).1, (s.step e).2.answer?)
  | .register built location => ((s.register built location).1, none)

/-- The answers along a sequence of acts. -/
def answers (s : Session) : List Act → List (Option Answer)
  | [] => []
  | a :: acts => (s.perform a).2 :: (s.perform a).1.answers acts

end Session

/-- A session without cache: the trees, and the libraries. -/
structure Plain where
  trees : Array (Except TreeError Tree) := #[]
  registry : Option Registry := none

namespace Plain

/-- The tree built at a place. -/
def tree? (p : Plain) (tree : Nat) : Option Tree :=
  match p.trees[tree]? with
  | some (.ok t) => some t
  | _ => none

/-- Takes the result of building a tree. -/
def take (p : Plain) (built : Except TreeError Tree) : Plain :=
  { p with trees := p.trees.push built }

/-- What an event does to the trees, and what the resolvers answer if it is a question. -/
def step (p : Plain) : Event → Plain × Option Answer
  | .load text => (p.take (Tree.ofText text), none)
  | .loadListing entries => (p.take (Tree.ofListing entries), none)
  | .loadOutline outline => (p.take (Tree.ofOutline outline), none)
  | .build steps => (p.take (Builder.run {} steps).finish, none)
  | .copy tree => ((p.tree? tree).elim p fun t => p.take (.ok t), none)
  | .ask tree dialect _ linked query =>
    (p, (p.tree? tree).map fun t => t.answer dialect (if linked then p.registry else none) query)
  | .forget _ | .forgetGeneration _ | .forgetAll => (p, none)
  | .resizeNamespaces _ | .resizeVariables _ => (p, none)

/-- Registers a library. -/
def register (p : Plain) (built : Except TreeError Tree) (location : Option String) : Plain :=
  match built with
  | .error _ => p
  | .ok tree =>
    match (p.registry.getD {}).register tree location with
    | .ok r => { p with registry := some r }
    | .error _ => p

/-- What an act does, and the answer if it is a question. -/
def perform (p : Plain) : Act → Plain × Option Answer
  | .event e => p.step e
  | .register built location => (p.register built location, none)

/-- The answers along a sequence of acts. -/
def answers (p : Plain) : List Act → List (Option Answer)
  | [] => []
  | a :: acts => (p.perform a).2 :: (p.perform a).1.answers acts

end Plain

/-! ## 4. The invariant -/

/-- `s` has the trees and libraries of `p`, and its cache tells the truth about them. -/
structure Refines (σ : Nat → Tree) (s : Session) (p : Plain) : Prop where
  trees : p.trees = s.snapshots.map (·.map (·.tree))
  registry : p.registry = s.registry
  snapshots : ∀ {i : Nat} {snapshot}, s.snapshot? i = some snapshot →
    snapshot.generation < s.nextGeneration ∧ σ snapshot.generation = snapshot.tree
  store : s.store.Honest σ s.nextGeneration

namespace Refines

variable {σ : Nat → Tree} {s : Session} {p : Plain}

theorem tree?_eq (h : Refines σ s p) (i : Nat) : p.tree? i = (s.snapshot? i).map (·.tree) := by
  unfold Plain.tree? Session.snapshot?
  rw [h.trees, Array.getElem?_map]
  cases s.snapshots[i]? with
  | none => rfl
  | some result => cases result <;> rfl

theorem snapshot?_push {r : Except TreeError Snapshot} {i : Nat} {snapshot : Snapshot}
    {snapshots : Array (Except TreeError Snapshot)} {s : Session}
    (hs : s.snapshots = snapshots.push r) (h : s.snapshot? i = some snapshot) :
    r = .ok snapshot ∨ snapshots[i]? = some (.ok snapshot) := by
  unfold Session.snapshot? at h
  rw [hs, Array.getElem?_push] at h
  split at h
  · rename_i heq
    obtain rfl := Option.some.inj h
    split at heq
    · exact .inl (Option.some.inj heq)
    · exact .inr heq
  · exact absurd h (by simp)

theorem snapshot?_eq_some_iff {i : Nat} {snapshot : Snapshot} :
    s.snapshot? i = some snapshot ↔ s.snapshots[i]? = some (.ok snapshot) := by
  unfold Session.snapshot?
  split
  · rename_i heq; simp [heq]
  · rename_i hne
    simp only [reduceCtorEq, false_iff]
    exact hne snapshot

/-- A tree that is built takes a generation of its own; a failure takes none. -/
theorem take (h : Refines σ s p) (built : Except TreeError Tree) :
    ∃ τ, Refines τ (s.take built) (p.take built) := by
  cases built with
  | error e =>
    refine ⟨σ, ⟨?_, h.registry, ?_, h.store⟩⟩
    · simp [Plain.take, Session.take, h.trees, Except.map]
    · intro i snapshot hi
      rcases snapshot?_push rfl hi with heq | hold
      · exact absurd heq (by simp)
      · exact h.snapshots (snapshot?_eq_some_iff.mpr hold)
  | ok tree =>
    have hkept : ∀ g : Nat, g < s.nextGeneration →
        (if g = s.nextGeneration then tree else σ g) = σ g :=
      fun g hg => if_neg (Nat.ne_of_lt hg)
    refine ⟨fun g => if g = s.nextGeneration then tree else σ g, ⟨?_, h.registry, ?_, ?_⟩⟩
    · simp [Plain.take, Session.take, h.trees, Except.map]
    · intro i snapshot hi
      rcases snapshot?_push rfl hi with heq | hold
      · obtain rfl := Except.ok.inj heq
        exact ⟨Nat.lt_succ_self _, if_pos rfl⟩
      · obtain ⟨hlt, htree⟩ := h.snapshots (snapshot?_eq_some_iff.mpr hold)
        exact ⟨Nat.lt_succ_of_lt hlt, (hkept _ hlt).trans htree⟩
    · intro cache hcache
      exact (h.store cache hcache).extend (Nat.le_succ _) hkept

/-- A copy is the same tree under the same generation. -/
theorem copy (h : Refines σ s p) {i : Nat} {snapshot : Snapshot}
    (hi : s.snapshot? i = some snapshot) :
    Refines σ { s with snapshots := s.snapshots.push (.ok snapshot) }
      (p.take (.ok snapshot.tree)) where
  trees := by simp [Plain.take, h.trees, Except.map]
  registry := h.registry
  snapshots := by
    intro j other hj
    rcases snapshot?_push rfl hj with heq | hold
    · obtain rfl := Except.ok.inj heq
      exact h.snapshots hi
    · exact h.snapshots (snapshot?_eq_some_iff.mpr hold)
  store := h.store

theorem withStore (h : Refines σ s p) {store : Store}
    (hs : store.Honest σ s.nextGeneration) : Refines σ { s with store } p :=
  ⟨h.trees, h.registry, h.snapshots, hs⟩

/-- A change of the cache that keeps it honest does not show. -/
theorem withCache (h : Refines σ s p) {f : ResolutionCache → Reply × ResolutionCache}
    (hf : ∀ cache : ResolutionCache, cache.Honest σ s.nextGeneration →
      (f cache).2.Honest σ s.nextGeneration) (hr : ∀ cache, (f cache).1.answer? = none) :
    Refines σ (s.withCache f).1 p ∧ (s.withCache f).2.answer? = none := by
  unfold Session.withCache
  cases hc : s.store.cache with
  | none => exact ⟨h, rfl⟩
  | some cache =>
    refine ⟨h.withStore ?_, hr cache⟩
    rintro cache' ⟨rfl⟩
    exact hf cache (h.store cache hc)

theorem forgetGeneration (h : Refines σ s p) (g : Nat) :
    Refines σ (s.forgetGeneration g).1 p ∧ (s.forgetGeneration g).2.answer? = none :=
  h.withCache (fun _ hcache => hcache.dropGeneration g) (fun _ => rfl)

/-- **A question** gets what the resolvers say about its tree. -/
theorem ask (h : Refines σ s p) (tree : Nat) (dialect : Dialect) (cached linked : Bool)
    (query : Query) :
    Refines σ (s.step (.ask tree dialect cached linked query)).1 p ∧
      (s.step (.ask tree dialect cached linked query)).2.answer? =
        (p.step (.ask tree dialect cached linked query)).2 := by
  simp only [Session.step, Plain.step, h.tree?_eq]
  cases hi : s.snapshot? tree with
  | none => exact ⟨h, rfl⟩
  | some snapshot =>
    obtain ⟨hlt, htree⟩ := h.snapshots hi
    have hplaced : (s.context snapshot dialect cached linked).Placed σ s.nextGeneration :=
      ⟨hlt, htree⟩
    obtain ⟨hanswer, hstore⟩ := hplaced.ask_yields query s.store h.store
    refine ⟨h.withStore hstore, congrArg some (hanswer.trans ?_)⟩
    rw [h.registry]
    rfl

theorem register (h : Refines σ s p) (built : Except TreeError Tree)
    (location : Option String) :
    Refines σ (s.register built location).1 (p.register built location) := by
  cases built with
  | error e => exact h
  | ok tree =>
    have hnext : Refines σ { s with nextGeneration := s.nextGeneration + 1 } p := by
      refine ⟨h.trees, h.registry, ?_, ?_⟩
      · intro i snapshot hi
        obtain ⟨hlt, htree⟩ := h.snapshots hi
        exact ⟨Nat.lt_succ_of_lt hlt, htree⟩
      · intro cache hcache
        exact (h.store cache hcache).extend (Nat.le_succ _) (fun _ _ => rfl)
    simp only [Session.register, Plain.register, h.registry]
    cases (s.registry.getD {}).register tree location with
    | ok r => exact ⟨hnext.trees, rfl, hnext.snapshots, hnext.store⟩
    | error e => exact hnext

/-- One act: the answers agree, and the cache stays honest. -/
theorem perform (h : Refines σ s p) (a : Act) :
    ∃ τ, Refines τ (s.perform a).1 (p.perform a).1 ∧ (s.perform a).2 = (p.perform a).2 := by
  have hbuilt (built : Except TreeError Tree) :
      ∃ τ, Refines τ (s.accept built).1 (p.take built) ∧
        (s.accept built).2.answer? = none := by
    obtain ⟨τ, hτ⟩ := h.take built
    exact ⟨τ, hτ, rfl⟩
  cases a with
  | register built location => exact ⟨σ, h.register built location, rfl⟩
  | event e =>
    cases e with
    | load text => exact hbuilt _
    | loadListing entries => exact hbuilt _
    | loadOutline outline => exact hbuilt _
    | build steps => exact hbuilt _
    | copy tree =>
      refine ⟨σ, ?_⟩
      simp only [Session.perform, Plain.perform, Session.step, Plain.step, h.tree?_eq]
      cases hi : s.snapshot? tree with
      | none => exact ⟨h, rfl⟩
      | some snapshot => exact ⟨h.copy hi, rfl⟩
    | ask tree dialect cached linked query => exact ⟨σ, h.ask tree dialect cached linked query⟩
    | forget tree =>
      refine ⟨σ, ?_⟩
      simp only [Session.perform, Plain.perform, Session.step, Plain.step]
      cases s.snapshot? tree with
      | none => exact ⟨h, rfl⟩
      | some snapshot => exact h.forgetGeneration snapshot.generation
    | forgetGeneration g => exact ⟨σ, h.forgetGeneration g⟩
    | forgetAll => exact ⟨σ, h.withCache (fun _ _ => .clear) (fun _ => rfl)⟩
    | resizeNamespaces capacity =>
      exact ⟨σ, h.withCache (fun _ hcache => ⟨hcache.namespaces.resize capacity,
        hcache.inScopeVariables⟩) (fun _ => rfl)⟩
    | resizeVariables capacity =>
      exact ⟨σ, h.withCache (fun _ hcache => ⟨hcache.namespaces,
        hcache.inScopeVariables.resize capacity⟩) (fun _ => rfl)⟩

/-- All acts: the answers agree. -/
theorem answers : ∀ (acts : List Act) {σ : Nat → Tree} {s : Session} {p : Plain},
    Refines σ s p → s.answers acts = p.answers acts
  | [], _, _, _, _ => rfl
  | a :: acts, _, _, _, h => by
    obtain ⟨τ, hτ, hanswer⟩ := h.perform a
    rw [Session.answers, Plain.answers, hanswer, answers acts hτ]

end Refines

/-- A session with an empty cache, whatever generation comes next. -/
def Session.fresh (capacity generation : Nat) (registry : Option Registry) : Session :=
  { nextGeneration := generation, registry, store := { cache := some (.empty capacity) } }

/-- **Caches do not show.**  From an empty cache of any capacity on, every question of every session
is answered as the resolvers answer it. -/
theorem answers_eq_plain (capacity generation : Nat) (registry : Option Registry)
    (acts : List Act) :
    (Session.fresh capacity generation registry).answers acts =
      Plain.answers { registry } acts := by
  refine Refines.answers acts (σ := fun _ => ⟨#[], 0⟩) ⟨by simp [Session.fresh], rfl, ?_, ?_⟩
  · intro i snapshot hi
    exact absurd (Refines.snapshot?_eq_some_iff.mp hi) (by simp [Session.fresh])
  · rintro cache ⟨rfl⟩
    exact .empty capacity

end XQueryScope
