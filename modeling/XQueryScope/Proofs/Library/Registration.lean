import XQueryScope.Library
import XQueryScope.Proofs.FirstMatch
import XQueryScope.Proofs.Scope.Visibility

/-!
# Runs of registrations

A registry is filled by one registration after the other, of trees that may or may not be libraries.
`Tree.Targets` says which namespace a tree is a library for, if it is one, and `Registry.registered`
what has been registered for a namespace, by the registrations alone.

`Registry.Kept` is what registrations leave in the buckets: none is empty, each holds what has been
registered for its namespace, no namespace is without one, and they stand in the order in which the
namespaces got their first module.  A module that is put into its bucket changes that bucket and no
other (`Bucket.mem_put_iff`), and a registration that fails changes nothing; so each step keeps the
buckets like this (`Registry.Kept.call`), and the runs follow by induction.  What a registry shows
(`Registry.Records`) is read off the buckets, and the main result is `run_records`.
-/

namespace XQueryScope

/-! ## 1. Libraries -/

/-- `t` is a library for `uri`: a library module whose first module declaration has `uri` as its
first namespace. -/
structure Tree.Targets (t : Tree) (uri : String) : Prop where
  isLibrary : t.kind? t.root = some .libraryModule
  declared : ∃ decl token, t.child? .moduleDecl t.root = some decl ∧
    t.child? .uriLiteral decl = some token ∧ t.text? token = some uri

namespace Tree

variable {t : Tree} {uri uri' : String}

theorem targets_iff :
    t.Targets uri ↔ t.is .libraryModule t.root = true ∧ t.targetUri? = some uri := by
  simp only [targetUri?, childText?, Option.bind_eq_some_iff, is_iff]
  constructor
  · rintro ⟨hlibrary, decl, token, hdecl, htoken, htext⟩
    exact ⟨hlibrary, decl, hdecl, token, htoken, htext⟩
  · rintro ⟨hlibrary, decl, hdecl, token, htoken, htext⟩
    exact ⟨hlibrary, decl, token, hdecl, htoken, htext⟩

instance (t : Tree) (uri : String) : Decidable (t.Targets uri) :=
  decidable_of_iff _ targets_iff.symm

theorem Targets.unique (h : t.Targets uri) (h' : t.Targets uri') : uri = uri' :=
  Option.some.inj ((targets_iff.mp h).2.symm.trans (targets_iff.mp h').2)

instance (t : Tree) : Decidable (∃ uri, t.Targets uri) :=
  decidable_of_iff (t.is .libraryModule t.root = true ∧ t.targetUri?.isSome = true) (by
    simp only [targets_iff, Option.isSome_iff_exists, exists_and_left])

end Tree

/-! ## 2. One registration -/

/-- A tree to be registered, with the location it is from. -/
structure Registration where
  tree : Tree
  location : Option String

namespace Registry

variable {r : Registry} {c : Registration} {uri : String}

/-- The registry after a registration, and what became of it. -/
def call (r : Registry) (c : Registration) : Registry × Except LibraryError Unit :=
  match r.register c.tree c.location with
  | .ok r' => (r', .ok ())
  | .error e => (r, .error e)

/-- The registry after several registrations. -/
def run (r : Registry) (calls : List Registration) : Registry :=
  calls.foldl (fun r c => (r.call c).1) r

theorem call_of_targets (h : c.tree.Targets uri) :
    r.call c = (⟨Bucket.put ⟨uri, c.location, c.tree⟩ r.buckets⟩, .ok ()) := by
  obtain ⟨hlibrary, huri⟩ := Tree.targets_iff.mp h
  simp [call, register, LibraryModule.ofTree, hlibrary, huri, bind,
    Except.bind, pure, Except.pure]

theorem call_of_not_targets (h : ∀ uri, ¬ c.tree.Targets uri) :
    ∃ e, r.call c = (r, .error e) := by
  by_cases hlibrary : c.tree.is .libraryModule c.tree.root = true
  · have huri : c.tree.targetUri? = none := by
      rw [Option.eq_none_iff_forall_ne_some]
      intro uri huri
      exact h uri (Tree.targets_iff.mpr ⟨hlibrary, huri⟩)
    refine ⟨.noTarget, ?_⟩
    simp [call, register, LibraryModule.ofTree, hlibrary, huri, bind, Except.bind]
  · refine ⟨.notLibrary c.location ((c.tree.kind? c.tree.root).getD .error), ?_⟩
    simp [call, register, LibraryModule.ofTree, hlibrary, bind, Except.bind]

/-- **A registration succeeds** iff its tree is a library. -/
theorem call_ok_iff : (r.call c).2 = .ok () ↔ ∃ uri, c.tree.Targets uri := by
  constructor
  · intro hok
    by_cases htargets : ∃ uri, c.tree.Targets uri
    · exact htargets
    · obtain ⟨e, he⟩ := call_of_not_targets (r := r) (not_exists.mp htargets)
      rw [he] at hok
      cases hok
  · rintro ⟨uri, h⟩
    rw [call_of_targets h]

/-- **A registration that fails** changes nothing. -/
theorem call_error {e : LibraryError} (h : (r.call c).2 = .error e) : (r.call c).1 = r := by
  by_cases htargets : ∃ uri, c.tree.Targets uri
  · rw [call_ok_iff.mpr htargets] at h
    cases h
  · obtain ⟨e, he⟩ := call_of_not_targets (r := r) (not_exists.mp htargets)
    rw [he]

end Registry

/-! ## 3. Buckets -/

namespace Bucket

variable {b : Bucket} {bs : List Bucket} {m : LibraryModule}

/-- A module of a new namespace adds the namespace at the end. -/
theorem uris_put (m : LibraryModule) (bs : List Bucket) : (put m bs).map (·.uri) =
    if m.uri ∈ bs.map (·.uri) then bs.map (·.uri) else bs.map (·.uri) ++ [m.uri] := by
  induction bs with
  | nil => rfl
  | cons b bs ih =>
    rw [put, List.map_cons]
    by_cases hown : b.uri = m.uri
    · rw [if_pos hown, if_pos (List.mem_cons.mpr (.inl hown.symm))]
      rfl
    · have hmem : m.uri ∈ b.uri :: bs.map (·.uri) ↔ m.uri ∈ bs.map (·.uri) := by
        rw [List.mem_cons, or_iff_right (Ne.symm hown)]
      rw [if_neg hown, List.map_cons, ih]
      simp only [hmem]
      split
      · rfl
      · rfl

theorem size_put (m : LibraryModule) (bs : List Bucket) :
    (Registry.mk (put m bs)).size = (Registry.mk bs).size + 1 := by
  induction bs with
  | nil => rfl
  | cons b bs ih =>
    simp only [Registry.size] at ih ⊢
    rw [put]
    split
    · simp only [List.foldr_cons, List.length_append, List.length_singleton]
      omega
    · simp only [List.foldr_cons, ih]
      omega

/-- **A module goes into the bucket of its namespace**, behind what is there, and all other buckets
stay. -/
theorem mem_put_iff (hbs : (bs.map (·.uri)).Nodup) : b ∈ put m bs ↔
    (b ∈ bs ∧ b.uri ≠ m.uri) ∨ b = ⟨m.uri, (Registry.mk bs).modulesOf m.uri ++ [m]⟩ := by
  induction bs with
  | nil => simp [put, Registry.modulesOf]
  | cons e bs ih =>
    obtain ⟨hnew, hbs⟩ := List.nodup_cons.mp hbs
    rw [put]
    by_cases hown : e.uri = m.uri
    · -- the namespace has no second bucket
      have hothers : ∀ b ∈ bs, b.uri ≠ m.uri := by
        intro b hb heq
        exact hnew (List.mem_map.mpr ⟨b, hb, heq.trans hown.symm⟩)
      have hmodules : (Registry.mk (e :: bs)).modulesOf m.uri = e.modules := by
        simp [Registry.modulesOf, hown]
      rw [if_pos hown, hmodules, hown, List.mem_cons, or_comm, List.mem_cons]
      refine or_congr_left ⟨fun hb => ⟨.inr hb, hothers b hb⟩, ?_⟩
      rintro ⟨rfl | hb, hne⟩
      · exact absurd hown hne
      · exact hb
    · have hmodules : (Registry.mk (e :: bs)).modulesOf m.uri =
          (Registry.mk bs).modulesOf m.uri := by
        simp [Registry.modulesOf, hown]
      rw [if_neg hown, hmodules, List.mem_cons, List.mem_cons, ih hbs]
      constructor
      · rintro (rfl | ⟨hb, hne⟩ | hb)
        · exact .inl ⟨.inl rfl, hown⟩
        · exact .inl ⟨.inr hb, hne⟩
        · exact .inr hb
      · rintro (⟨rfl | hb, hne⟩ | hb)
        · exact .inl rfl
        · exact .inr (.inl ⟨hb, hne⟩)
        · exact .inr (.inr hb)

end Bucket

/-! ## 4. What registrations leave behind -/

namespace Registry

variable {r : Registry} {c : Registration} {uri : String} {calls : List Registration}

/-- The modules registered for a namespace, in the order of the registrations. -/
def registered (calls : List Registration) (uri : String) : List LibraryModule :=
  (calls.filter fun c => c.tree.Targets uri).map fun c => ⟨uri, c.location, c.tree⟩

theorem registered_append (calls : List Registration) (c : Registration) (uri : String) :
    registered (calls ++ [c]) uri = registered calls uri ++
      if c.tree.Targets uri then [⟨uri, c.location, c.tree⟩] else [] := by
  rw [registered, List.filter_append, List.map_append, registered]
  by_cases h : c.tree.Targets uri
  · simp [h]
  · simp [h]

theorem registered_eq_nil_iff : registered calls uri = [] ↔
    ∀ c ∈ calls, ¬ c.tree.Targets uri := by
  simp [registered, List.filter_eq_nil_iff]

/-- After some of the registrations there was a module for `uri` and none for `uri'`. -/
def CameBefore (calls : List Registration) (uri uri' : String) : Prop :=
  ∃ before after, calls = before ++ after ∧ (∃ c ∈ before, c.tree.Targets uri) ∧
    ∀ c ∈ before, ¬ c.tree.Targets uri'

theorem CameBefore.append {uri' : String} (h : CameBefore calls uri uri')
    (later : List Registration) : CameBefore (calls ++ later) uri uri' := by
  obtain ⟨before, after, rfl, htarget, hnot⟩ := h
  exact ⟨before, after ++ later, by rw [List.append_assoc], htarget, hnot⟩

theorem CameBefore.ne {uri' : String} (h : CameBefore calls uri uri') : uri ≠ uri' := by
  obtain ⟨before, after, -, ⟨c, hc, htarget⟩, hnot⟩ := h
  rintro rfl
  exact hnot c hc htarget

/-- The buckets of a registry after some registrations. -/
structure Kept (r : Registry) (calls : List Registration) : Prop where
  nonempty : ∀ b ∈ r.buckets, b.modules ≠ []
  /-- A bucket holds the modules of its own namespace, all of them and in order. -/
  modules_eq : ∀ b ∈ r.buckets, b.modules = registered calls b.uri
  complete : ∀ c ∈ calls, ∀ uri, c.tree.Targets uri → ∃ b ∈ r.buckets, b.uri = uri
  namespaces_order : r.namespaces.Pairwise (CameBefore calls)
  size_eq : r.size = calls.countP fun c => ∃ uri, c.tree.Targets uri

namespace Kept

theorem namespaces_nodup (h : r.Kept calls) : r.namespaces.Nodup :=
  h.namespaces_order.imp CameBefore.ne

/-- The bucket that is found for a namespace has what was registered for it; where there is none,
nothing was. -/
theorem modulesOf_eq (h : r.Kept calls) (uri : String) :
    r.modulesOf uri = registered calls uri := by
  rw [modulesOf]
  cases hfind : r.buckets.find? fun b => b.uri = uri with
  | some b =>
    obtain ⟨hb, rfl⟩ := (find?_eq_some_iff_of_distinct h.namespaces_nodup).mp hfind
    exact h.modules_eq b hb
  | none =>
    refine (registered_eq_nil_iff.mpr fun c hc htargets => ?_).symm
    obtain ⟨b, hb, huri⟩ := h.complete c hc uri htargets
    exact List.find?_eq_none.mp hfind b hb (decide_eq_true huri)

theorem mem_namespaces (h : r.Kept calls) (uri : String) :
    uri ∈ r.namespaces ↔ ∃ c ∈ calls, c.tree.Targets uri := by
  constructor
  · intro huri
    obtain ⟨b, hb, rfl⟩ := List.mem_map.mp huri
    have hsome := h.nonempty b hb
    rw [h.modules_eq b hb, Ne, registered_eq_nil_iff] at hsome
    simpa using hsome
  · rintro ⟨c, hc, htargets⟩
    exact List.mem_map.mpr (h.complete c hc uri htargets)

theorem empty : Kept {} [] where
  nonempty := by simp
  modules_eq := by simp
  complete := by simp
  namespaces_order := List.Pairwise.nil
  size_eq := rfl

/-- A registration that fails leaves no trace. -/
theorem skip (h : r.Kept calls) (hc : ∀ uri, ¬ c.tree.Targets uri) : r.Kept (calls ++ [c]) where
  nonempty := h.nonempty
  modules_eq := by
    intro b hb
    rw [registered_append, if_neg (hc b.uri), List.append_nil]
    exact h.modules_eq b hb
  complete := by
    intro c' hc' uri htargets
    rcases List.mem_append.mp hc' with hc' | hc'
    · exact h.complete c' hc' uri htargets
    · rw [List.mem_singleton.mp hc'] at htargets
      exact absurd htargets (hc uri)
  namespaces_order := h.namespaces_order.imp fun hbefore => hbefore.append [c]
  size_eq := by
    simp [h.size_eq, List.countP_append, hc]

/-- A registration that succeeds puts its module into the bucket of its namespace. -/
theorem add (h : r.Kept calls) (hc : c.tree.Targets uri) :
    Kept ⟨Bucket.put ⟨uri, c.location, c.tree⟩ r.buckets⟩ (calls ++ [c]) where
  nonempty := by
    intro b hb
    rcases (Bucket.mem_put_iff h.namespaces_nodup).mp hb with ⟨hb, -⟩ | rfl
    · exact h.nonempty b hb
    · simp
  modules_eq := by
    intro b hb
    rw [registered_append]
    rcases (Bucket.mem_put_iff h.namespaces_nodup).mp hb with ⟨hb, hne⟩ | rfl
    · have hnot : ¬ c.tree.Targets b.uri := fun h' => hne (h'.unique hc)
      rw [if_neg hnot, List.append_nil]
      exact h.modules_eq b hb
    · rw [if_pos hc, ← h.modulesOf_eq]
  complete := by
    intro c' hc' uri' htargets
    by_cases heq : uri' = uri
    · exact ⟨_, (Bucket.mem_put_iff h.namespaces_nodup).mpr (.inr rfl), heq.symm⟩
    · rcases List.mem_append.mp hc' with hc' | hc'
      · obtain ⟨b, hb, rfl⟩ := h.complete c' hc' uri' htargets
        exact ⟨b, (Bucket.mem_put_iff h.namespaces_nodup).mpr (.inl ⟨hb, heq⟩), rfl⟩
      · rw [List.mem_singleton.mp hc'] at htargets
        exact absurd (htargets.unique hc) heq
  namespaces_order := by
    have hbefore : r.namespaces.Pairwise (CameBefore (calls ++ [c])) :=
      h.namespaces_order.imp fun hbefore => hbefore.append [c]
    rw [namespaces, Bucket.uris_put]
    split
    · exact hbefore
    · rename_i hnew
      refine List.pairwise_append.mpr ⟨hbefore, by simp, ?_⟩
      intro uri' huri' new hmem
      rw [List.mem_singleton.mp hmem]
      -- before this call the namespace was not there, and those listed so far were
      refine ⟨calls, [c], rfl, (h.mem_namespaces uri').mp huri', ?_⟩
      intro c' hc' htargets
      exact hnew ((h.mem_namespaces uri).mpr ⟨c', hc', htargets⟩)
  size_eq := by
    have hone : ∃ uri, c.tree.Targets uri := ⟨uri, hc⟩
    rw [Bucket.size_put, h.size_eq, List.countP_append]
    simp [hone]

/-- **One step.** -/
theorem call (h : r.Kept calls) (c : Registration) : (r.call c).1.Kept (calls ++ [c]) := by
  by_cases htargets : ∃ uri, c.tree.Targets uri
  · obtain ⟨uri, hc⟩ := htargets
    rw [call_of_targets hc]
    exact h.add hc
  · obtain ⟨e, he⟩ := call_of_not_targets (r := r) (not_exists.mp htargets)
    rw [he]
    exact h.skip (not_exists.mp htargets)

/-- **The whole run.** -/
theorem run (h : r.Kept calls) (later : List Registration) :
    (r.run later).Kept (calls ++ later) := by
  induction later generalizing r calls with
  | nil => simpa [Registry.run] using h
  | cons c later ih =>
    have hstep := ih (h.call c)
    rw [List.append_assoc, List.singleton_append] at hstep
    exact hstep

end Kept

/-! ## 5. What a registry shows -/

theorem modulesFor_nil : r.modulesFor uri [] = r.modulesOf uri := by
  simp [modulesFor]

/-- What a registry shows after some registrations. -/
structure Records (r : Registry) (calls : List Registration) : Prop extends r.Kept calls where
  namespaces_nodup : r.namespaces.Nodup
  mem_namespaces : ∀ uri, uri ∈ r.namespaces ↔ ∃ c ∈ calls, c.tree.Targets uri
  modulesFor_eq : ∀ uri, r.modulesFor uri [] = registered calls uri

namespace Kept

theorem records (h : r.Kept calls) : r.Records calls where
  toKept := h
  namespaces_nodup := h.namespaces_nodup
  mem_namespaces := h.mem_namespaces
  modulesFor_eq uri := modulesFor_nil.trans (h.modulesOf_eq uri)

/-- Without an empty bucket, only a registry without buckets has no module. -/
theorem isEmpty_iff (h : r.Kept calls) : r.isEmpty = true ↔ r.size = 0 := by
  rw [isEmpty, size, List.isEmpty_iff]
  cases hbuckets : r.buckets with
  | nil => simp
  | cons b bs =>
    have hsome : 0 < b.modules.length :=
      List.length_pos_iff.mpr (h.nonempty b (hbuckets ▸ List.mem_cons_self))
    rw [List.foldr_cons]
    constructor
    · rintro ⟨⟩
    · intro hsize
      omega

/-- The modules that are listed for the namespaces are those that are counted. -/
theorem length_listed (h : r.Kept calls) :
    (r.namespaces.flatMap fun uri => r.modulesFor uri []).length = r.size := by
  have hbucket : ∀ b ∈ r.buckets, r.modulesFor b.uri [] = b.modules := by
    intro b hb
    rw [modulesFor_nil, h.modulesOf_eq, h.modules_eq b hb]
  rw [namespaces, List.flatMap_map, List.flatMap_def, List.map_congr_left hbucket, size]
  induction r.buckets with
  | nil => rfl
  | cons b bs ih =>
    rw [List.map_cons, List.flatten_cons, List.length_append, ih, List.foldr_cons]

end Kept

end Registry

/-- **Runs of registrations.**  Registering trees one after the other, from an empty registry, a
registration succeeds iff its tree is a library, and otherwise leaves the registry as it was.  At
the end the registry lists the namespaces of the successful registrations, each of them once, in the
order in which they got their first module, and for each the modules registered for it, in order and
with their own tree and location.  It counts the successful registrations, which are all the modules
it lists. -/
theorem run_records (calls : List Registration) :
    (∀ before c, (((Registry.run {} before).call c).2 = .ok () ↔ ∃ uri, c.tree.Targets uri) ∧
      ∀ e, ((Registry.run {} before).call c).2 = .error e →
        Registry.run {} (before ++ [c]) = Registry.run {} before) ∧
    (Registry.run {} calls).Records calls ∧
    ((Registry.run {} calls).isEmpty = true ↔ (Registry.run {} calls).size = 0) ∧
    ((Registry.run {} calls).namespaces.flatMap fun uri =>
      (Registry.run {} calls).modulesFor uri []).length = (Registry.run {} calls).size := by
  have hkept : (Registry.run {} calls).Kept calls := Registry.Kept.empty.run calls
  refine ⟨?_, hkept.records, hkept.isEmpty_iff, hkept.length_listed⟩
  intro before c
  refine ⟨Registry.call_ok_iff, ?_⟩
  intro e he
  rw [Registry.run, List.foldl_append]
  exact Registry.call_error he

end XQueryScope
