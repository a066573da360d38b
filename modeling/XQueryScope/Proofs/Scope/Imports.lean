import XQueryScope.Proofs.Scope.Spelling

/-!
# The order of imported functions

In which order, and how often, a call's candidates from libraries are listed.  A candidate is taken
together with the place of its library among those registered for the namespace, since two libraries
may have equal locations (`Registry.Supplies`).  What one import gets is in order
(`Registry.listing_sorted`): the libraries as they were registered, the functions of each in
document order.

A prolog may import a namespace more than once, and then the lists of the imports just follow one
another.  The main result, `imported_in_turn`, says when the whole is in order after all: if and
only if every library that a later import brings was registered after all those that an earlier one
brings.  So two imports that bring the same function are never in order, and the function is listed
twice.
-/

namespace XQueryScope

/-! ## 1. Candidates with the places of their libraries -/

/-- `Earlier` is the order of the candidates of one import.  A candidate comes with the place of its
library among those registered for the namespace. -/
inductive Earlier : Nat × FunctionDeclaration → Nat × FunctionDeclaration → Prop where
  | library {k k' : Nat} {f f' : FunctionDeclaration} : k < k' → Earlier (k, f) (k', f')
  | declaration {k a b : Nat} {f f' : FunctionDeclaration} : f.declaredAt = some a →
      f'.declaredAt = some b → a < b → Earlier (k, f) (k, f')

theorem Earlier.asymm {x y : Nat × FunctionDeclaration} (h : Earlier x y) : ¬ Earlier y x := by
  intro h'
  cases h with
  | library hlt =>
    cases h' with
    | library hlt' => exact Nat.lt_asymm hlt hlt'
    | declaration _ _ _ => exact Nat.lt_irrefl _ hlt
  | declaration ha hb hlt =>
    cases h' with
    | library hlt' => exact Nat.lt_irrefl _ hlt'
    | declaration hb' ha' hlt' =>
      rw [ha, Option.some.injEq] at ha'
      rw [hb, Option.some.injEq] at hb'
      subst ha' hb'
      exact Nat.lt_asymm hlt hlt'

theorem Earlier.fst_le {x y : Nat × FunctionDeclaration} : Earlier x y → x.1 ≤ y.1
  | .library hlt => Nat.le_of_lt hlt
  | .declaration _ _ _ => Nat.le_refl _

namespace Registry

variable {r : Registry} {d : Dialect} {name : Name} {uri : String} {hints hints' : List String}
  {k : Nat} {f f' : FunctionDeclaration}

/-- An import of the namespace of `name` with `hints` brings the candidate `x.2` from the library at
the place `x.1`: the import gets this library, whose prolog declares the function. -/
inductive Supplies (r : Registry) (d : Dialect) (name : Name) (hints : List String) :
    Nat × FunctionDeclaration → Prop where
  | intro {k p decl : Nat} {l : LibraryModule} {declared : Name} :
      (r.modulesOf name.space)[k]? = some l → l ∈ r.modulesFor name.space hints →
      l.tree.child? .prolog l.tree.root = some p →
      l.tree.DeclaresFunction d p decl declared → declared.Matches name →
      Supplies r d name hints
        (k, ⟨declared, l.tree.parameterArity decl, .moduleImported, some decl, l.location⟩)

/-- An import that brings one function of a library brings all of the name. -/
theorem Supplies.same_library (h : r.Supplies d name hints (k, f))
    (h' : r.Supplies d name hints' (k, f')) : r.Supplies d name hints (k, f') := by
  obtain ⟨hl, hpicked, -, -, -⟩ := h
  obtain ⟨hl', -, hp, hdecl, hmatches⟩ := h'
  rw [hl, Option.some.injEq] at hl'
  subst hl'
  exact .intro hl hpicked hp hdecl hmatches

/-! ## 2. What one import gets -/

/-- All modules, namespace by namespace. -/
def modules (r : Registry) : List LibraryModule := r.buckets.flatMap (·.modules)

theorem mem_modules_of_mem_modulesOf {l : LibraryModule} (h : l ∈ r.modulesOf uri) :
    l ∈ r.modules := by
  rw [modulesOf, Tree.mem_elim_nil_iff] at h
  obtain ⟨b, hb, hl⟩ := h
  exact List.mem_flatMap.mpr ⟨b, List.mem_of_find?_eq_some hb, hl⟩

/-- An import gets a part of the modules of its namespace, in the order in which they were
registered. -/
theorem modulesFor_eq_filter :
    r.modulesFor uri hints = (r.modulesOf uri).filter fun l => l ∈ r.modulesFor uri hints := by
  have hpart : ∃ q : LibraryModule → Bool, r.modulesFor uri hints = (r.modulesOf uri).filter q := by
    simp only [modulesFor]
    split
    · exact ⟨fun _ => true, (List.filter_eq_self.mpr fun _ _ => rfl).symm⟩
    · exact ⟨_, rfl⟩
  obtain ⟨q, hq⟩ := hpart
  rw [hq]
  refine List.filter_congr ?_
  intro l hl
  simp [hl]

/-- The candidates that an import gets, with the places of their libraries. -/
def listing (r : Registry) (d : Dialect) (name : Name) (hints : List String) :
    List (Nat × FunctionDeclaration) :=
  ((r.modulesOf name.space).zipIdx.filter fun l =>
    l.1 ∈ r.modulesFor name.space hints).flatMap fun l => (l.1.functions d name).map (l.2, ·)

theorem map_listing : (r.listing d name hints).map (·.2) =
    (r.modulesFor name.space hints).flatMap fun l => l.functions d name := by
  have hlibraries : r.modulesFor name.space hints =
      ((r.modulesOf name.space).zipIdx.filter fun l =>
        l.1 ∈ r.modulesFor name.space hints).map (·.1) := by
    conv =>
      lhs
      rw [modulesFor_eq_filter, ← List.zipIdx_map_fst 0 (r.modulesOf name.space), List.filter_map]
    rfl
  conv => rhs; rw [hlibraries]
  simp [listing, List.map_flatMap, List.flatMap_map, Function.comp_def]

theorem mem_listing_iff (hname : name.namespaceUri = some name.space)
    {x : Nat × FunctionDeclaration} :
    x ∈ r.listing d name hints ↔ r.Supplies d name hints x := by
  simp only [listing, List.mem_flatMap, List.mem_filter, List.mem_map, decide_eq_true_eq,
    LibraryModule.functions, Tree.mem_matching_iff hname]
  constructor
  · rintro ⟨⟨l, k⟩, ⟨hl, hpicked⟩, f, ⟨p, decl, declared, hp, hdecl, hmatches, rfl⟩, rfl⟩
    exact .intro (List.mem_zipIdx_iff_getElem?.mp hl) hpicked hp hdecl hmatches
  · rintro ⟨hl, hpicked, hp, hdecl, hmatches⟩
    exact ⟨(_, _), ⟨List.mem_zipIdx_iff_getElem?.mpr hl, hpicked⟩, _,
      ⟨_, _, _, hp, hdecl, hmatches, rfl⟩, rfl⟩

theorem places_sorted (ms : List LibraryModule) : ms.zipIdx.Pairwise (fun a b => a.2 < b.2) := by
  rw [← List.pairwise_map (f := Prod.snd), List.zipIdx_map_snd]
  exact List.pairwise_lt_range'

/-- **One import**: what it gets is in order. -/
theorem listing_sorted (hr : ∀ l ∈ r.modules, l.tree.Built) :
    (r.listing d name hints).Pairwise Earlier := by
  refine List.pairwise_flatMap.mpr ⟨?_, ?_⟩
  · rintro ⟨l, k⟩ hl
    have hmem := List.fst_mem_of_mem_zipIdx (List.mem_filter.mp hl).1
    have hbuilt := hr l (mem_modules_of_mem_modulesOf hmem)
    have hdecls := (hbuilt.arena.declaredFunctions_sorted d l.tree.root).sublist
      (List.filter_sublist (p := fun g => g.name.sameExpanded name).map _)
    rw [LibraryModule.functions, List.map_map, List.pairwise_map]
    rw [List.pairwise_map] at hdecls
    exact hdecls.imp fun hlt => .declaration rfl rfl hlt
  · refine ((places_sorted (r.modulesOf name.space)).filter _).imp ?_
    intro a b hlt x hx y hy
    obtain ⟨f, -, rfl⟩ := List.mem_map.mp hx
    obtain ⟨g, -, rfl⟩ := List.mem_map.mp hy
    exact .library hlt

end Registry

/-! ## 3. What several imports get -/

/-- In an ascending list, what holds of any two entries in turn holds of a smaller and a larger. -/
theorem pairwise_iff_of_ascending {l : List Nat} (hl : l.Pairwise fun a b : Nat => a < b)
    {R : Nat → Nat → Prop} : l.Pairwise R ↔ ∀ a ∈ l, ∀ b ∈ l, a < b → R a b := by
  constructor
  · intro h
    induction l with
    | nil => simp
    | cons c l ih =>
      rw [List.pairwise_cons] at hl h
      intro a ha b hb hlt
      rw [List.mem_cons] at ha hb
      rcases ha with rfl | ha
      · rcases hb with rfl | hb
        · exact absurd hlt (Nat.lt_irrefl _)
        · exact h.1 b hb
      · rcases hb with rfl | hb
        · exact absurd hlt (Nat.lt_asymm (hl.1 a ha))
        · exact ih hl.2 h.2 a ha b hb hlt
  · intro h
    exact hl.imp_of_mem fun {a b} ha hb hlt => h a ha b hb hlt

namespace Tree

variable {t : Tree} {d : Dialect} {r : Registry} {i m : Nat} {name : Name} {imports : List Nat}
  {listing : Nat → List (Nat × FunctionDeclaration)}

/-- `imports` are the imports of the namespace of `name` in the first prolog of `m`, in document
order, and `listing` gives for each of them, in order, the candidates it brings. -/
structure ListsImports (t : Tree) (d : Dialect) (r : Registry) (m : Nat) (name : Name)
    (imports : List Nat) (listing : Nat → List (Nat × FunctionDeclaration)) : Prop where
  imports_sorted : imports.Pairwise fun a b : Nat => a < b
  mem_imports : ∀ e, e ∈ imports ↔ ∃ p, t.child? .prolog m = some p ∧ e ∈ t.children p ∧
    t.kind? e = some .moduleImport ∧ t.childText? .uriLiteral e = some name.space
  listing_sorted : ∀ e ∈ imports, (listing e).Pairwise Earlier
  mem_listing : ∀ e ∈ imports, ∀ x, x ∈ listing e ↔ r.Supplies d name (t.hints e) x

theorem Arena.listsImports (h : t.Arena) (hr : ∀ l ∈ r.modules, l.tree.Built)
    (hname : name.namespaceUri = some name.space) (d : Dialect) (m : Nat) :
    t.ListsImports d r m name (t.importsOf m name.space) fun e =>
      r.listing d name (t.hints e) where
  imports_sorted :=
    (h.declarations_sorted m).sublist (List.filter_sublist.trans List.filter_sublist)
  mem_imports _ := mem_importsOf_iff
  listing_sorted _ _ := Registry.listing_sorted hr
  mem_listing _ _ _ := Registry.mem_listing_iff hname

theorem importedFunctions_eq : t.importedFunctions d r m name =
    ((t.importsOf m name.space).flatMap fun e => r.listing d name (t.hints e)).map (·.2) := by
  rw [importedFunctions, List.map_flatMap]
  simp only [Registry.map_listing]

/-- All that the imports bring is in order iff each brings libraries that were registered after
those of the imports before it. -/
theorem ListsImports.sorted_iff (h : t.ListsImports d r m name imports listing) :
    (imports.flatMap listing).Pairwise Earlier ↔
      ∀ e ∈ imports, ∀ e' ∈ imports, e < e' → ∀ x y, r.Supplies d name (t.hints e) x →
        r.Supplies d name (t.hints e') y → x.1 < y.1 := by
  rw [List.pairwise_flatMap, pairwise_iff_of_ascending h.imports_sorted]
  constructor
  · rintro ⟨-, hlater⟩ e he e' he' hlt ⟨k, f⟩ ⟨k', f'⟩ hf hf'
    have hearlier := hlater e he e' he' hlt _ ((h.mem_listing e he _).mpr hf) _
      ((h.mem_listing e' he' _).mpr hf')
    refine Nat.lt_of_le_of_ne hearlier.fst_le ?_
    rintro rfl
    -- of one library each of the two imports brings both functions, so these come in both orders
    have hback := hlater e he e' he' hlt _ ((h.mem_listing e he _).mpr (hf.same_library hf')) _
      ((h.mem_listing e' he' _).mpr (hf'.same_library hf))
    exact hearlier.asymm hback
  · intro hlater
    refine ⟨h.listing_sorted, ?_⟩
    rintro e he e' he' hlt ⟨k, f⟩ hf ⟨k', f'⟩ hf'
    exact .library (hlater e he e' he' hlt _ _ ((h.mem_listing e he _).mp hf)
      ((h.mem_listing e' he' _).mp hf'))

/-! ## 4. The imported candidates of a call -/

theorem imported_eq_of_callName? (h : t.callName? d i = some name) :
    (t.functions d (some r) i).filter (·.provenance == .moduleImported) =
      (t.module? i).elim [] fun m => t.importedFunctions d r m name := by
  have hbuiltIn : (d.builtInFunctions name).filter (·.provenance == .moduleImported) = [] := by
    rw [List.filter_eq_nil_iff]
    intro f hf
    obtain ⟨o, -, rfl⟩ := List.mem_map.mp hf
    simp
  rw [functions_eq h, List.filter_append, List.filter_append, hbuiltIn, List.append_nil]
  cases t.module? i with
  | none => rfl
  | some m =>
    have huser : (t.userFunctions d m name).filter (·.provenance == .moduleImported) = [] := by
      rw [List.filter_eq_nil_iff]
      intro f hf
      simp [provenance_of_mem_userFunctions hf]
    simp only [Option.elim_some, huser, List.nil_append]
    rw [List.filter_eq_self]
    intro f hf
    simp [provenance_of_mem_importedFunctions hf]

end Tree

/-- **The order of the imported candidates.**  Without a name, or without a module around it, a call
has none.  Otherwise they are what the imports of the namespace bring, one import after the other in
document order.  For one import they are in the order of the libraries' registrations and then of
the document.  All together they are in that order, each function of each library once, iff every
library that comes by one of the imports was registered after all that come by an earlier one. -/
theorem imported_in_turn {t : Tree} (ht : t.Built) (d : Dialect) {r : Registry}
    (hr : ∀ l ∈ r.modules, l.tree.Built) (i : Nat) :
    (t.callName? d i = none ∨ (∀ m, ¬ t.InnermostModule i m) →
      (t.functions d (some r) i).filter (·.provenance == .moduleImported) = []) ∧
    ∀ name m, t.callName? d i = some name → t.InnermostModule i m →
      ∃ imports listing, t.ListsImports d r m name imports listing ∧
        (t.functions d (some r) i).filter (·.provenance == .moduleImported) =
          (imports.flatMap listing).map (·.2) ∧
        ((imports.flatMap listing).Pairwise Earlier ↔
          ∀ e ∈ imports, ∀ e' ∈ imports, e < e' → ∀ x y, r.Supplies d name (t.hints e) x →
            r.Supplies d name (t.hints e') y → x.1 < y.1) := by
  refine ⟨?_, ?_⟩
  · intro hnone
    cases hname : t.callName? d i with
    | none => rw [Tree.functions, hname, List.filter_nil]
    | some name =>
      have hmodule : t.module? i = none := by
        rw [Option.eq_none_iff_forall_ne_some]
        intro m hm
        rcases hnone with hnone | hnone
        · rw [hname] at hnone
          cases hnone
        · exact hnone m (ht.arena.module?_eq_some_iff.mp hm)
      rw [Tree.imported_eq_of_callName? hname, hmodule, Option.elim_none]
  · intro name m hname hm
    have hlists := ht.arena.listsImports hr (Tree.namespaceUri_of_callName? hname) d m
    refine ⟨_, _, hlists, ?_, hlists.sorted_iff⟩
    rw [Tree.imported_eq_of_callName? hname, ht.arena.module?_eq_some_iff.mpr hm, Option.elim_some,
      Tree.importedFunctions_eq]

/-- A library for `urn:lib` that is registered at two places, with a function `f` of one
parameter. -/
def twoLibraries : Registry :=
  ⟨[⟨"urn:lib", [⟨"urn:lib", some "/lib/one.xqm", (Builder.run {} (librarySteps ["x"])).tree⟩,
    ⟨"urn:lib", some "/lib/two.xqm", (Builder.run {} (librarySteps ["x"])).tree⟩]⟩]⟩

/-- A query that imports `urn:lib` twice, with a hint each, and calls `f`. -/
def twoImportsSteps (first second : String) : List Step :=
  [.start .mainModule, .start .prolog,
    .start .moduleImport, .token .ncName "q", .token .uriLiteral "urn:lib",
    .token .locationHint first, .finish,
    .start .moduleImport, .token .uriLiteral "urn:lib", .token .locationHint second, .finish,
    .finish, .start .queryBody, .start .functionCall, .token .eqName "q:f", .finish, .finish,
    .finish]

/-- The tree of the query: the call is node 10. -/
def twoImports (first second : String) : Tree :=
  (Builder.run {} (twoImportsSteps first second)).tree

/-- The candidates of its call from libraries. -/
def importedTwice (first second : String) : List FunctionDeclaration :=
  ((twoImports first second).functions {} (some twoLibraries) 10).filter
    (·.provenance == .moduleImported)

/-- What the call asks for. -/
def calledName : Name := ⟨some "q", "f", some "urn:lib"⟩

theorem twoLibraries_built : ∀ l ∈ twoLibraries.modules, l.tree.Built := by
  intro l hl
  simp only [Registry.modules, twoLibraries, List.flatMap_singleton, List.mem_cons,
    List.not_mem_nil, or_false] at hl
  rcases hl with rfl | rfl
  · exact ⟨librarySteps ["x"], rfl⟩
  · exact ⟨librarySteps ["x"], rfl⟩

/-- The first import brings the first library and the second the second one. -/
theorem twoImports_in_turn : (twoImports "one.xqm" "two.xqm").Built ∧
    (∀ l ∈ twoLibraries.modules, l.tree.Built) ∧
    (importedTwice "one.xqm" "two.xqm").map (·.location) =
      [some "/lib/one.xqm", some "/lib/two.xqm"] ∧
    ∃ imports listing,
      (twoImports "one.xqm" "two.xqm").ListsImports {} twoLibraries 0 calledName imports listing ∧
      importedTwice "one.xqm" "two.xqm" = (imports.flatMap listing).map (·.2) := by
  have hbuilt : (twoImports "one.xqm" "two.xqm").Built :=
    ⟨twoImportsSteps "one.xqm" "two.xqm", rfl⟩
  have hname : (twoImports "one.xqm" "two.xqm").callName? {} 10 = some calledName := by
    decide +kernel
  have hmodule : (twoImports "one.xqm" "two.xqm").InnermostModule 10 0 :=
    hbuilt.arena.module?_eq_some_iff.mp (by decide +kernel)
  obtain ⟨imports, listing, hlists, heq, -⟩ :=
    (imported_in_turn hbuilt {} twoLibraries_built 10).2 _ _ hname hmodule
  exact ⟨hbuilt, twoLibraries_built, by decide +kernel, imports, listing, hlists, heq⟩

theorem twoLibraries_place {d : Dialect} {hints : List String}
    {x : Nat × FunctionDeclaration} (h : twoLibraries.Supplies d calledName hints x) :
    x.1 = 0 ∧ x.2.location = some "/lib/one.xqm" ∨
      x.1 = 1 ∧ x.2.location = some "/lib/two.xqm" := by
  cases h with
  | @intro k _ _ _ _ hl =>
    match k with
    | 0 =>
      cases hl
      exact .inl ⟨rfl, rfl⟩
    | 1 =>
      cases hl
      exact .inr ⟨rfl, rfl⟩
    | _ + 2 => cases hl

/-- The function `f`, from a location. -/
def functionAt (location : String) : FunctionDeclaration :=
  ⟨⟨some "p", "f", some "urn:lib"⟩, ⟨1, some 1⟩, .moduleImported, some 5, some location⟩

/-- **Two imports that bring one library**: where the first import brings the second library, and
the next one, by a hint that picks none, brings both, the function of the second library is listed
twice, also before that of the first. -/
theorem repeated_import_lists_twice :
    importedTwice "two.xqm" "other.xqm" =
      [functionAt "/lib/two.xqm", functionAt "/lib/one.xqm", functionAt "/lib/two.xqm"] ∧
    ∀ listing : List (Nat × FunctionDeclaration),
      listing.map (·.2) = importedTwice "two.xqm" "other.xqm" →
      (∀ x ∈ listing, ∃ hints, twoLibraries.Supplies {} calledName hints x) →
      ¬ listing.Nodup ∧ ¬ listing.Pairwise Earlier := by
  have hentries : importedTwice "two.xqm" "other.xqm" =
      [functionAt "/lib/two.xqm", functionAt "/lib/one.xqm", functionAt "/lib/two.xqm"] := by
    decide +kernel
  refine ⟨hentries, ?_⟩
  intro listing hlisting hsupplied
  have hplace : ∀ x ∈ listing, x = (0, x.2) ∧ x.2.location = some "/lib/one.xqm" ∨
      x = (1, x.2) ∧ x.2.location = some "/lib/two.xqm" := by
    intro x hx
    obtain ⟨hints, hsupplies⟩ := hsupplied x hx
    rcases twoLibraries_place hsupplies with ⟨hk, hlocation⟩ | ⟨hk, hlocation⟩
    · exact .inl ⟨by rw [← hk], hlocation⟩
    · exact .inr ⟨by rw [← hk], hlocation⟩
  rw [hentries] at hlisting
  simp only [List.map_eq_cons_iff, List.map_eq_nil_iff] at hlisting
  obtain ⟨x, _, rfl, hx, y, _, rfl, hy, z, _, rfl, hz, rfl⟩ := hlisting
  -- the location of a function tells its library, so that the places are settled
  simp only [List.mem_cons, List.not_mem_nil, or_false, forall_eq_or_imp, forall_eq, hx, hy, hz,
    functionAt, Option.some.injEq, String.reduceEq, and_false, and_true, false_or] at hplace
  obtain ⟨rfl, rfl, rfl⟩ := hplace
  refine ⟨by simp, ?_⟩
  intro hsorted
  have hle := (List.rel_of_pairwise_cons hsorted List.mem_cons_self).fst_le
  exact absurd hle (by decide)

end XQueryScope
