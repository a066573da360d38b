import XQueryScope.Proofs.Session.Transparency
import XQueryScope.Proofs.Scope.Visibility

/-!
# Many nodes at once

The lists of many nodes can be asked for at once.  Every node has a worker, and the workers share
one cache.  A worker looks its node up; if the list is not there it computes the list and then
writes it, and the cache is free between the two.  So several workers may miss one key, a list may
be written over by an equal one, and what was written may be dropped before the next worker looks.

`Batch.run` lets the workers take their steps in the order of a schedule.  No schedule shows in the
result (`batch_interleaving`): it is one list for each node, the one a query without cache gives.
The step lemma is `Stage.Right.advance`.  What a worker has found out so far is right for its node,
and what it finds in the cache is right because every entry is, so nothing depends on what the other
workers did in between.
-/

namespace XQueryScope

/-! ## 1. Workers and schedules -/

/-- How far a worker is. -/
inductive Stage (α : Type) where
  | ready
  /-- The cache did not have the list. -/
  | missed
  /-- The list is computed, and not written yet. -/
  | computed (v : List α)
  | done (v : List α)
deriving DecidableEq, Repr

/-- What a worker will hand over, once it is done. -/
def Stage.value? {α : Type} : Stage α → Option (List α)
  | .done v => some v
  | _ => none

/-- A worker for one node. -/
structure Worker (α : Type) where
  node : NodeId
  stage : Stage α := .ready
deriving DecidableEq, Repr

/-- Workers that share a cache. -/
structure Batch (α : Type) where
  cache : Recent CacheKey (List α)
  workers : List (Worker α)
deriving DecidableEq, Repr

/-- What a resolver says about a tree, for a dialect, at a node. -/
abbrev Resolver (α : Type) := Tree → Dialect → NodeId → List α

def Resolver.namespaces : Resolver NamespaceBinding := fun t d i => t.namespaces d i

def Resolver.inScopeVariables : Resolver VariableBinding := fun t _ i => t.inScopeVariables i

namespace Context

variable {α : Type}

/-- One step of the worker for a node.  Nothing is looked up for a node that is not in the tree. -/
def advance (c : Context) (f : Resolver α) (i : NodeId) (r : Recent CacheKey (List α)) :
    Stage α → Stage α × Recent CacheKey (List α)
  | .ready =>
    if c.tree.has i then
      match r.get? (c.key i) with
      | some v => (.done v, r)
      | none => (.missed, r)
    else (.done [], r)
  | .missed => (.computed (f c.tree c.dialect i), r)
  | .computed v => (.done v, r.insert (c.key i) v)
  | .done v => (.done v, r)

/-- What a resolver says at a node, and nothing if the node is not in the tree. -/
def plain (c : Context) (f : Resolver α) (i : NodeId) : List α :=
  if c.tree.has i then f c.tree c.dialect i else []

end Context

namespace Batch

variable {α : Type}

/-- A worker for each node, none of which has begun. -/
def start (r : Recent CacheKey (List α)) (is : List NodeId) : Batch α :=
  ⟨r, is.map fun i => { node := i }⟩

/-- One worker takes a step. -/
def step (c : Context) (f : Resolver α) (b : Batch α) (j : Nat) : Batch α :=
  match b.workers[j]? with
  | some w =>
    let (stage, cache) := c.advance f w.node b.cache w.stage
    ⟨cache, b.workers.set j { w with stage }⟩
  | none => b

/-- The workers take steps in the order of a schedule. -/
def run (c : Context) (f : Resolver α) (b : Batch α) (schedule : List Nat) : Batch α :=
  schedule.foldl (step c f) b

/-- What the workers hand over, when all are done. -/
def results? (b : Batch α) : Option (List (List α)) := b.workers.mapM (·.stage.value?)

end Batch

/-- The namespaces at many nodes, asked for at once. -/
def Context.namespacesTogether (c : Context) (cache : ResolutionCache) (is : List NodeId)
    (schedule : List Nat) : Batch NamespaceBinding :=
  (Batch.start cache.namespaces is).run c .namespaces schedule

/-- The variables at many nodes, asked for at once. -/
def Context.variablesTogether (c : Context) (cache : ResolutionCache) (is : List NodeId)
    (schedule : List Nat) : Batch VariableBinding :=
  (Batch.start cache.inScopeVariables is).run c .inScopeVariables schedule

/-! ## 2. One step -/

/-- The list is the resolver's, for the tree of the key's generation. -/
def Resolver.Tells {α : Type} (f : Resolver α) (σ : Nat → Tree) (k : CacheKey) (v : List α) :
    Prop :=
  v = f (σ k.generation) k.dialect k.node

/-- What the worker for a node has found out so far is right. -/
def Stage.Right {α : Type} (c : Context) (f : Resolver α) (i : NodeId) : Stage α → Prop
  | .ready => True
  | .missed => c.tree.has i = true
  | .computed v => c.tree.has i = true ∧ v = f c.tree c.dialect i
  | .done v => v = c.plain f i

/-- How many steps a worker still takes at most. -/
def Stage.left {α : Type} : Stage α → Nat
  | .ready => 3
  | .missed => 2
  | .computed _ => 1
  | .done _ => 0

section Step

variable {α : Type} {c : Context} {f : Resolver α} {σ : Nat → Tree} {i : NodeId}
  {r : Recent CacheKey (List α)} {w : Stage α}

theorem Resolver.tells_key_iff (hσ : σ c.snapshot.generation = c.tree) {v : List α} :
    f.Tells σ (c.key i) v ↔ v = f c.tree c.dialect i := by
  rw [Tells, Context.key, hσ]

/-- A look-up ends the work, unless the node is in the tree and the cache does not have its list. -/
theorem Context.advance_ready (c : Context) (f : Resolver α) (i : NodeId)
    (r : Recent CacheKey (List α)) :
    (¬ c.tree.has i = true ∧ c.advance f i r .ready = (.done [], r)) ∨
    (∃ v, c.tree.has i = true ∧ r.get? (c.key i) = some v ∧
      c.advance f i r .ready = (.done v, r)) ∨
    (c.tree.has i = true ∧ c.advance f i r .ready = (.missed, r)) := by
  by_cases hi : c.tree.has i = true
  · cases hk : r.get? (c.key i) with
    | some v => exact .inr (.inl ⟨v, hi, rfl, by simp only [advance, if_pos hi, hk]⟩)
    | none => exact .inr (.inr ⟨hi, by simp only [advance, if_pos hi, hk]⟩)
  · exact .inl ⟨hi, by simp only [advance, if_neg hi]⟩

/-- **One step** keeps what the worker has found out right, and every entry of the cache. -/
theorem Stage.Right.advance (hσ : σ c.snapshot.generation = c.tree) (hr : r.All (f.Tells σ))
    (hw : w.Right c f i) :
    (c.advance f i r w).1.Right c f i ∧ (c.advance f i r w).2.All (f.Tells σ) := by
  cases w with
  | ready =>
    rcases c.advance_ready f i r with ⟨hi, heq⟩ | ⟨v, hi, hk, heq⟩ | ⟨hi, heq⟩
    · rw [heq]
      exact ⟨(if_neg hi).symm, hr⟩
    · have hv : v = f c.tree c.dialect i := (Resolver.tells_key_iff hσ).mp (hr.get? hk)
      rw [heq]
      exact ⟨hv.trans (if_pos hi).symm, hr⟩
    · rw [heq]
      exact ⟨hi, hr⟩
  | missed => exact ⟨⟨hw, rfl⟩, hr⟩
  | computed v =>
    obtain ⟨hi, hv⟩ := hw
    exact ⟨hv.trans (if_pos hi).symm, hr.insert ((Resolver.tells_key_iff hσ).mpr hv)⟩
  | done v => exact ⟨hw, hr⟩

/-- A step leaves the cache as it is, or writes one entry. -/
theorem Context.cache_advance (c : Context) (f : Resolver α) (i : NodeId)
    (r : Recent CacheKey (List α)) (w : Stage α) :
    (c.advance f i r w).2 = r ∨ ∃ v, (c.advance f i r w).2 = r.insert (c.key i) v := by
  cases w with
  | ready =>
    rcases c.advance_ready f i r with ⟨-, heq⟩ | ⟨v, -, -, heq⟩ | ⟨-, heq⟩
    all_goals exact .inl (by rw [heq])
  | missed => exact .inl rfl
  | computed v => exact .inr ⟨v, rfl⟩
  | done v => exact .inl rfl

theorem Context.size_advance_le {capacity : Nat} (hcap : r.capacity = capacity)
    (hsize : r.size ≤ capacity) :
    (c.advance f i r w).2.capacity = capacity ∧ (c.advance f i r w).2.size ≤ capacity := by
  rcases c.cache_advance f i r w with heq | ⟨v, heq⟩
  · rw [heq]
    exact ⟨hcap, hsize⟩
  · rw [heq]
    exact ⟨hcap, hcap ▸ List.length_take_le _ _⟩

theorem Context.left_advance_le (c : Context) (f : Resolver α) (i : NodeId)
    (r : Recent CacheKey (List α)) (w : Stage α) :
    (c.advance f i r w).1.left ≤ w.left - 1 := by
  cases w with
  | ready =>
    rcases c.advance_ready f i r with ⟨-, heq⟩ | ⟨v, -, -, heq⟩ | ⟨-, heq⟩
    all_goals
      rw [heq]
      simp [Stage.left]
  | missed => exact Nat.le_refl _
  | computed v => exact Nat.le_refl _
  | done v => exact Nat.le_refl _

theorem Stage.value?_of_right (hw : w.Right c f i) (hleft : w.left = 0) :
    w.value? = some (c.plain f i) := by
  cases w with
  | done v => exact congrArg some hw
  | _ => exact absurd hleft (by simp [left])

theorem Stage.left_of_value? {v : List α} (hv : w.value? = some v) : w.left = 0 := by
  cases w with
  | done v => rfl
  | _ => exact absurd hv (by simp [value?])

end Step

/-! ## 3. Every schedule -/

namespace Batch

variable {α : Type} {c : Context} {f : Resolver α} {σ : Nat → Tree} {is : List NodeId}
  {b : Batch α} {schedule : List Nat} {capacity : Nat}

/-- There is a worker for each node, what each has found out is right, and so is every entry of the
cache, which has not outgrown its capacity. -/
structure Right (σ : Nat → Tree) (c : Context) (f : Resolver α) (is : List NodeId)
    (capacity : Nat) (b : Batch α) : Prop where
  nodes : b.workers.map (·.node) = is
  workers : ∀ w ∈ b.workers, w.stage.Right c f w.node
  cache : b.cache.All (f.Tells σ)
  capacity_eq : b.cache.capacity = capacity
  size_le : b.cache.size ≤ capacity

theorem Right.start {r : Recent CacheKey (List α)} (hr : r.All (f.Tells σ))
    (hsize : r.size ≤ r.capacity) (is : List NodeId) :
    (start r is).Right σ c f is r.capacity where
  nodes := by simp [Batch.start, Function.comp_def]
  workers := by simp [Batch.start, Stage.Right]
  cache := hr
  capacity_eq := rfl
  size_le := hsize

theorem Right.step (hσ : σ c.snapshot.generation = c.tree) (h : b.Right σ c f is capacity)
    (j : Nat) : (b.step c f j).Right σ c f is capacity := by
  unfold Batch.step
  cases hj : b.workers[j]? with
  | none => exact h
  | some w =>
    have hw := h.workers w (List.mem_of_getElem? hj)
    obtain ⟨hright, hcache⟩ := hw.advance hσ h.cache
    obtain ⟨hcap, hsize⟩ := Context.size_advance_le h.capacity_eq h.size_le
    refine ⟨?_, ?_, hcache, hcap, hsize⟩
    · have hnode : (b.workers.map (·.node))[j]? = some w.node := by rw [List.getElem?_map, hj]; rfl
      obtain ⟨hlt, hget⟩ := List.getElem?_eq_some_iff.mp hnode
      rw [List.map_set, ← h.nodes]
      show (b.workers.map (·.node)).set j w.node = _
      rw [← hget, List.set_getElem_self]
    · intro w' hw'
      rcases List.mem_or_eq_of_mem_set hw' with hold | rfl
      · exact h.workers w' hold
      · exact hright

theorem Right.run (hσ : σ c.snapshot.generation = c.tree) (h : b.Right σ c f is capacity)
    (schedule : List Nat) : (b.run c f schedule).Right σ c f is capacity := by
  unfold Batch.run
  induction schedule generalizing b with
  | nil => exact h
  | cons j schedule ih => exact ih (h.step hσ j)

/-- The worker at a place takes at most `n` more steps. -/
def Left (b : Batch α) (j n : Nat) : Prop := ∀ w, b.workers[j]? = some w → w.stage.left ≤ n

theorem Left.step {j n : Nat} (h : b.Left j n) (k : Nat) :
    (b.step c f k).Left j (n - if k == j then 1 else 0) := by
  unfold Batch.step
  cases hk : b.workers[k]? with
  | none =>
    intro w hw
    have hkj : ¬ k = j := by
      rintro rfl
      exact absurd (hk.symm.trans hw) (by simp)
    simpa [hkj] using h w hw
  | some v =>
    intro w hw
    dsimp only at hw
    by_cases hkj : k = j
    · subst hkj
      rw [List.getElem?_set_self (List.getElem?_eq_some_iff.mp hk).1] at hw
      obtain rfl := Option.some.inj hw
      have hle := c.left_advance_le f v.node b.cache v.stage
      have hn := h v hk
      simp only [BEq.rfl, if_true]
      omega
    · rw [List.getElem?_set_ne hkj] at hw
      simpa [hkj] using h w hw

/-- Every time a worker's turn comes, it has a step less to take. -/
theorem Left.run {j n : Nat} (h : b.Left j n) (schedule : List Nat) :
    (b.run c f schedule).Left j (n - schedule.count j) := by
  unfold Batch.run
  induction schedule generalizing b n with
  | nil => exact h
  | cons k schedule ih =>
    rw [List.foldl_cons, List.count_cons, Nat.add_comm, Nat.sub_add_eq]
    exact ih (h.step k)

theorem left_start (r : Recent CacheKey (List α)) (is : List NodeId) (j : Nat) :
    (start r is).Left j 3 := by
  intro w hw
  have hmem := List.mem_of_getElem? hw
  simp only [start, List.mem_map] at hmem
  obtain ⟨i, -, rfl⟩ := hmem
  exact Nat.le_refl _

theorem mapM_value?_of_right : ∀ {ws : List (Worker α)},
    (∀ w ∈ ws, w.stage.Right c f w.node) → (∀ w ∈ ws, w.stage.left = 0) →
    ws.mapM (·.stage.value?) = some (ws.map fun w => c.plain f w.node)
  | [], _, _ => rfl
  | w :: ws, hright, hleft => by
    have hw := Stage.value?_of_right (hright w List.mem_cons_self) (hleft w List.mem_cons_self)
    have hws := mapM_value?_of_right (fun v hv => hright v (List.mem_cons_of_mem w hv))
      (fun v hv => hleft v (List.mem_cons_of_mem w hv))
    rw [List.mapM_cons, hw, hws]
    rfl

theorem left_of_mapM_value? : ∀ {ws : List (Worker α)} {vs : List (List α)},
    ws.mapM (·.stage.value?) = some vs → ∀ w ∈ ws, w.stage.left = 0
  | [], _, _, w, hw => absurd hw List.not_mem_nil
  | w :: ws, vs, h, v, hv => by
    simp only [List.mapM_cons, Option.bind_eq_bind, Option.bind_eq_some_iff] at h
    obtain ⟨x, hx, xs, hxs, -⟩ := h
    rcases List.mem_cons.mp hv with rfl | hv
    · exact Stage.left_of_value? hx
    · exact left_of_mapM_value? hxs v hv

/-- Whenever all workers are done, they hand over what the resolver says. -/
theorem Right.results?_eq (h : b.Right σ c f is capacity)
    (hleft : ∀ w ∈ b.workers, w.stage.left = 0) :
    b.results? = some (is.map (c.plain f)) := by
  rw [results?, mapM_value?_of_right h.workers hleft, ← h.nodes, List.map_map]
  rfl

/-- What is to be expected of workers for `is` that shared a cache under a schedule: what they hand
over is one list for each node, as `answer` has it, and they hand it over once every worker has had
three turns; the cache has only entries with `P`, and no more than its capacity. -/
structure Exact (P : CacheKey → List α → Prop) (answer : NodeId → List α) (is : List NodeId)
    (schedule : List Nat) (capacity : Nat) (b : Batch α) : Prop where
  collected : ∀ vs, b.results? = some vs →
    vs.length = is.length ∧ ∀ (j : Nat) (i : NodeId), is[j]? = some i → vs[j]? = some (answer i)
  finished : (∀ j < is.length, 3 ≤ schedule.count j) → b.results?.isSome = true
  kept : b.cache.All P
  size_le : b.cache.size ≤ capacity

/-- **Every schedule** gives what the resolver says. -/
theorem run_exact (hσ : σ c.snapshot.generation = c.tree) {r : Recent CacheKey (List α)}
    (hr : r.All (f.Tells σ)) (hsize : r.size ≤ r.capacity) (is : List NodeId)
    (schedule : List Nat) :
    ((start r is).run c f schedule).Exact (f.Tells σ) (c.plain f) is schedule
      r.capacity := by
  have hright := (Right.start hr hsize is).run hσ schedule
  refine ⟨fun vs hvs => ?_, fun hturns => ?_, hright.cache, hright.size_le⟩
  · have hall := hright.results?_eq (left_of_mapM_value? hvs)
    obtain rfl := Option.some.inj (hvs.symm.trans hall)
    refine ⟨List.length_map _, fun j i hj => ?_⟩
    rw [List.getElem?_map, hj]
    rfl
  · rw [hright.results?_eq]
    · rfl
    · intro w hw
      obtain ⟨j, hj⟩ := List.mem_iff_getElem?.mp hw
      have hlt : j < is.length := by
        rw [← hright.nodes, List.length_map]
        exact (List.getElem?_eq_some_iff.mp hj).1
      have hle := (left_start r is j).run schedule w hj
      have hcount := hturns j hlt
      omega

end Batch

/-! ## 4. What a query without cache says -/

namespace Context

variable {c : Context}

theorem cacheOf_of_not_cached (hc : c.cached = false) (s : Store) : c.cacheOf s = none := by
  rw [cacheOf, hc]
  rfl

theorem namespaces_of_not_cached (hc : c.cached = false) (i : NodeId) (s : Store) :
    (c.namespaces i s).1 = c.plain .namespaces i := by
  unfold namespaces plain
  rw [cacheOf_of_not_cached hc]
  by_cases hi : c.tree.has i = true
  · rw [if_pos hi, if_pos hi]
    rfl
  · rw [if_neg hi, if_neg hi]

theorem inScopeVariables_of_not_cached (hc : c.cached = false) (i : NodeId) (s : Store) :
    (c.inScopeVariables i s).1 = c.plain .inScopeVariables i := by
  unfold inScopeVariables plain
  rw [cacheOf_of_not_cached hc]
  by_cases hi : c.tree.has i = true
  · rw [if_pos hi, if_pos hi]
    rfl
  · rw [if_neg hi, if_neg hi]

/-- A worker that no other one interrupts does what fetching does. -/
theorem run_alone {α : Type} (c : Context) (f : Resolver α) (r : Recent CacheKey (List α))
    {i : NodeId} (hi : c.tree.has i = true) :
    (Batch.start r [i]).run c f [0, 0, 0] =
      ⟨(r.fetch (c.key i) fun _ => f c.tree c.dialect i).2.2,
        [⟨i, .done (r.fetch (c.key i) fun _ => f c.tree c.dialect i).1⟩]⟩ := by
  cases hk : r.get? (c.key i) with
  | some v => simp [Batch.run, Batch.start, Batch.step, advance, Recent.fetch, hi, hk]
  | none => simp [Batch.run, Batch.start, Batch.step, advance, Recent.fetch, hi, hk]

end Context

/-- Every cached list is what the resolvers say about the tree of its generation, and there are no
more than there is room for. -/
structure ResolutionCache.Right (σ : Nat → Tree) (cache : ResolutionCache) : Prop where
  namespaces : cache.namespaces.All (Resolver.namespaces.Tells σ)
  inScopeVariables : cache.inScopeVariables.All (Resolver.inScopeVariables.Tells σ)
  namespaces_size_le : cache.namespaces.size ≤ cache.namespaces.capacity
  inScopeVariables_size_le : cache.inScopeVariables.size ≤ cache.inScopeVariables.capacity

/-- **Schedules do not show.**  However the workers for many nodes take turns, over any cache whose
entries are right, they hand over the list that a query without cache gives for each node, and the
entries that they leave in the cache are right. -/
theorem batch_interleaving {c : Context} {σ : Nat → Tree}
    (hσ : σ c.snapshot.generation = c.tree) {cache : ResolutionCache} (hcache : cache.Right σ)
    (is : List NodeId) (schedule : List Nat) (s : Store) :
    (c.namespacesTogether cache is schedule).Exact (Resolver.namespaces.Tells σ)
      (fun i => ({ c with cached := false }.namespaces i s).1) is schedule
      cache.namespaces.capacity ∧
    (c.variablesTogether cache is schedule).Exact (Resolver.inScopeVariables.Tells σ)
      (fun i => ({ c with cached := false }.inScopeVariables i s).1) is schedule
      cache.inScopeVariables.capacity := by
  have hnamespaces : (fun i => ({ c with cached := false }.namespaces i s).1) =
      c.plain .namespaces :=
    funext fun i => Context.namespaces_of_not_cached rfl i s
  have hvariables : (fun i => ({ c with cached := false }.inScopeVariables i s).1) =
      c.plain .inScopeVariables :=
    funext fun i => Context.inScopeVariables_of_not_cached rfl i s
  rw [hnamespaces, hvariables]
  exact ⟨Batch.run_exact hσ hcache.namespaces hcache.namespaces_size_le is schedule,
    Batch.run_exact hσ hcache.inScopeVariables hcache.inScopeVariables_size_le is schedule⟩

/-- Questions about the tree of a loop, which has generation 7. -/
def loopContext : Context := { snapshot := ⟨7, loopTree⟩ }

/-- The trees of the generations: all but one are empty. -/
def loopGenerations (g : Nat) : Tree := if g = 7 then loopTree else ⟨#[], 0⟩

/-- There is room for one list, and one about another tree is there. -/
def fullCache : ResolutionCache := ⟨.empty 1, ⟨1, [(⟨3, 0, {}⟩, [])]⟩⟩

/-- Two workers miss the same key before either writes; one id is not in the tree. -/
theorem loopContext_together : ∃ vs : List (List VariableBinding),
    (loopContext.variablesTogether fullCache [5, 5, 4, 99]
      [0, 1, 0, 1, 2, 0, 3, 2, 1, 2, 3, 3]).results? = some vs ∧
    vs.length = 4 ∧ vs[1]? = some (loopTree.inScopeVariables 5) ∧
    loopTree.inScopeVariables 5 ≠ [] ∧ vs[3]? = some [] := by
  have hright : fullCache.Right loopGenerations := by
    constructor
    · exact Recent.all_empty 1
    · intro e he
      obtain rfl := List.mem_singleton.mp he
      show [] = (loopGenerations 3).inScopeVariables 0
      decide +kernel
    · exact Nat.zero_le 1
    · exact Nat.le_refl 1
  have hexact := (batch_interleaving (c := loopContext) rfl hright [5, 5, 4, 99]
    [0, 1, 0, 1, 2, 0, 3, 2, 1, 2, 3, 3] {}).2
  obtain ⟨vs, hvs⟩ := Option.isSome_iff_exists.mp (hexact.finished (by decide))
  obtain ⟨hlength, hget⟩ := hexact.collected vs hvs
  exact ⟨vs, hvs, hlength, (hget 1 5 rfl).trans (by decide +kernel), by decide +kernel,
    (hget 3 99 rfl).trans (by decide +kernel)⟩

end XQueryScope
