import XQueryScope.Proofs.Scope.Spelling

/-!
# Dialects of one family

What a dialect has a say in.  A dialect is a processor and a version of the language.  The processor
decides which prefixes are bound from the start and which catalog there is, and for neither does the
release of MarkLogic count: processors that differ in nothing else are of one family
(`Vendor.SameFamily`).  The version decides which overloads of the catalog exist, by its level only.

So under two dialects of one family every name means the same, here and in every library, and the
candidates for a call differ at most in overloads that the lower version does not have yet.  The
main result is `family_agrees`.
-/

namespace XQueryScope

/-! ## 1. Families and levels -/

namespace Vendor

variable {v w : Vendor}

/-- The processors are the same, the release of MarkLogic aside. -/
inductive SameFamily : Vendor → Vendor → Prop where
  | same (v : Vendor) : SameFamily v v
  | marklogic (release release' : Nat) : SameFamily (.marklogic release) (.marklogic release')

namespace SameFamily

theorem predefined_eq (h : v.SameFamily w) : v.predefined = w.predefined := by
  cases h with
  | same => rfl
  | marklogic => rfl

theorem catalog_eq (h : v.SameFamily w) : v.catalog = w.catalog := by
  cases h with
  | same => rfl
  | marklogic => rfl

theorem bindings_eq (h : v.SameFamily w) : v.bindings = w.bindings := by
  rw [bindings, bindings, h.predefined_eq]

theorem overloads_eq (h : v.SameFamily w) : v.overloads = w.overloads := by
  rw [overloads, overloads, h.catalog_eq]

theorem prefixOf?_eq (h : v.SameFamily w) (uri : String) : v.prefixOf? uri = w.prefixOf? uri := by
  rw [prefixOf?, prefixOf?, h.predefined_eq]

end SameFamily

end Vendor

theorem Version.supports_mono {v w since : Version} (h : v.level ≤ w.level)
    (hv : v.supports since = true) : w.supports since = true := by
  simp only [supports, decide_eq_true_eq] at hv ⊢
  omega

/-! ## 2. What names mean -/

section Family

variable {t : Tree} {d e : Dialect} (h : d.vendor.SameFamily e.vendor)
include h

namespace Tree

theorem namespaces_family (i : Nat) : t.namespaces d i = t.namespaces e i := by
  rw [namespaces, namespaces, h.bindings_eq]

theorem resolvePrefix?_family (i : Nat) (p : String) :
    t.resolvePrefix? d i p = t.resolvePrefix? e i p := by
  rw [resolvePrefix?, resolvePrefix?, namespaces_family h]

theorem expand?_family (i : Nat) (name : Name) (role : NameRole) :
    t.expand? d i name role = t.expand? e i name role := by
  simp only [expand?, resolvePrefix?_family h]

theorem expandTokenAs?_family (role : NameRole) (token : Nat) :
    t.expandTokenAs? d role token = t.expandTokenAs? e role token := by
  simp only [expandTokenAs?, expand?_family h]

theorem expandToken?_family (token : Nat) : t.expandToken? d token = t.expandToken? e token := by
  rw [expandToken?, expandToken?, expandTokenAs?_family h]

theorem callName?_family (i : Nat) : t.callName? d i = t.callName? e i := by
  simp only [callName?, expandTokenAs?_family h]

theorem declaredFunctions_family (m : Nat) :
    t.declaredFunctions d m = t.declaredFunctions e m := by
  have hdecl : t.declaredFunction? d = t.declaredFunction? e := by
    funext decl
    simp only [declaredFunction?, expandTokenAs?_family h]
  rw [declaredFunctions, declaredFunctions, hdecl]

theorem userFunctions_family (m : Nat) (name : Name) :
    t.userFunctions d m name = t.userFunctions e m name := by
  rw [userFunctions, userFunctions, declaredFunctions_family h]

/-- The declarations of a library are expanded in its own tree, under the same dialect. -/
theorem importedFunctions_family (registry : Registry) (m : Nat) (name : Name) :
    t.importedFunctions d registry m name = t.importedFunctions e registry m name := by
  simp only [importedFunctions, LibraryModule.functions, declaredFunctions_family h]

end Tree

/-! ## 3. What the versions have -/

namespace Dialect

theorem builtInCandidate_family (entry : String × Overload) :
    d.builtInCandidate entry = e.builtInCandidate entry := by
  rw [builtInCandidate, builtInCandidate, h.prefixOf?_eq]

/-- The lower version has the overloads of the higher one that it supports. -/
theorem filter_offers_family (hlevel : d.version.level ≤ e.version.level) (name : Name) :
    d.vendor.overloads.filter (d.offers name) =
      (e.vendor.overloads.filter (e.offers name)).filter
        fun entry => d.version.supports entry.2.since := by
  rw [h.overloads_eq, List.filter_filter]
  refine List.filter_congr ?_
  intro entry _
  by_cases hs : d.version.supports entry.2.since = true
  · simp [offers, hs, Version.supports_mono hlevel hs]
  · simp [offers, hs]

theorem builtInFunctions_family (hlevel : d.version.level = e.version.level) (name : Name) :
    d.builtInFunctions name = e.builtInFunctions name := by
  have hsupports : d.version.supports = e.version.supports := by
    funext since
    rw [Version.supports, Version.supports, hlevel]
  simp only [builtInFunctions, builtIns, h.catalog_eq, h.prefixOf?_eq, hsupports]

end Dialect

/-! ## 4. Candidates -/

namespace Tree

variable {r : Option Registry} {i : Nat} {name : Name} {user imported : List FunctionDeclaration}

omit h in
/-- The candidates under `e`, part by part, and under `d`, where only those overloads of the catalog
are missing that the version of `d` does not support. -/
structure Narrows (t : Tree) (d e : Dialect) (r : Option Registry) (i : Nat) (name : Name)
    (user imported : List FunctionDeclaration) : Prop where
  user_provenance : ∀ f ∈ user, f.provenance = .userDeclared
  imported_provenance : ∀ f ∈ imported, f.provenance = .moduleImported
  wide : t.functions e r i = user ++ imported ++
    (e.vendor.overloads.filter (e.offers name)).map e.builtInCandidate
  narrow : t.functions d r i = user ++ imported ++
    ((e.vendor.overloads.filter (e.offers name)).filter fun entry =>
      d.version.supports entry.2.since).map e.builtInCandidate

omit h in
theorem Narrows.sublist (hn : t.Narrows d e r i name user imported) :
    (t.functions d r i).Sublist (t.functions e r i) := by
  rw [hn.wide, hn.narrow]
  exact (List.Sublist.refl _).append (List.filter_sublist.map _)

/-- **A lower version** drops nothing but overloads that it does not support. -/
theorem exists_narrows (hlevel : d.version.level ≤ e.version.level)
    (hname : t.callName? e i = some name) :
    ∃ user imported, t.Narrows d e r i name user imported := by
  have hname' : t.callName? d i = some name := (callName?_family h i).trans hname
  have hspace := namespaceUri_of_callName? hname
  have hcandidate : d.builtInCandidate = e.builtInCandidate :=
    funext (Dialect.builtInCandidate_family h)
  refine ⟨(t.module? i).elim [] fun m => t.userFunctions e m name,
    (t.module? i).elim [] fun m => r.elim [] fun r => t.importedFunctions e r m name,
    ?_, ?_, ?_, ?_⟩
  · intro f hf
    obtain ⟨m, -, hf⟩ := mem_elim_nil_iff.mp hf
    exact provenance_of_mem_userFunctions hf
  · intro f hf
    obtain ⟨m, -, hf⟩ := mem_elim_nil_iff.mp hf
    obtain ⟨registry, -, hf⟩ := mem_elim_nil_iff.mp hf
    exact provenance_of_mem_importedFunctions hf
  · rw [functions_eq hname, Dialect.builtInFunctions_eq hspace]
  · rw [functions_eq hname', Dialect.builtInFunctions_eq hspace,
      Dialect.filter_offers_family h hlevel, hcandidate]
    simp only [userFunctions_family h, importedFunctions_family h]

theorem functions_sublist (hlevel : d.version.level ≤ e.version.level) :
    (t.functions d r i).Sublist (t.functions e r i) := by
  cases hname : t.callName? e i with
  | none =>
    have hnone : t.functions d r i = [] := by rw [functions, callName?_family h, hname]
    rw [hnone]
    exact List.nil_sublist _
  | some name =>
    obtain ⟨user, imported, hn⟩ := exists_narrows (r := r) h hlevel hname
    exact hn.sublist

theorem functions_family (hlevel : d.version.level = e.version.level) :
    t.functions d r i = t.functions e r i := by
  simp only [functions, callName?_family h, userFunctions_family h, importedFunctions_family h,
    Dialect.builtInFunctions_family h hlevel]

end Tree

end Family

/-- **Dialects of one family agree.**  Under two dialects whose processors are of one family, every
prefix, every name and every declaration means the same.  The candidates for a call under the lower
version are those under the higher one, in order, without the overloads of the catalog that the
lower version does not support; what is declared or imported is the same.  Versions of one level, as
`1.0` and `0.9-ml` or `3.0` and `1.0-ml` are, have the same candidates. -/
theorem family_agrees (t : Tree) (r : Option Registry) {d e : Dialect}
    (h : d.vendor.SameFamily e.vendor) :
    ((∀ i, t.namespaces d i = t.namespaces e i) ∧
      (∀ i p, t.resolvePrefix? d i p = t.resolvePrefix? e i p) ∧
      (∀ i name role, t.expand? d i name role = t.expand? e i name role) ∧
      (∀ token, t.expandToken? d token = t.expandToken? e token) ∧
      (∀ i, t.callName? d i = t.callName? e i) ∧
      ∀ m, t.declaredFunctions d m = t.declaredFunctions e m) ∧
    (d.version.level ≤ e.version.level → ∀ i,
      (t.functions d r i).Sublist (t.functions e r i) ∧
      ∀ name, t.callName? e i = some name →
        ∃ user imported, t.Narrows d e r i name user imported) ∧
    (d.version.level = e.version.level → ∀ i,
      t.functions d r i = t.functions e r i ∧
      t.applicableFunctions d r i = t.applicableFunctions e r i) ∧
    Version.v10.level = Version.ml09.level ∧ Version.v30.level = Version.ml10.level := by
  refine ⟨⟨Tree.namespaces_family h, Tree.resolvePrefix?_family h, Tree.expand?_family h,
    Tree.expandToken?_family h, Tree.callName?_family h, Tree.declaredFunctions_family h⟩,
    ?_, ?_, rfl, rfl⟩
  · intro hlevel i
    exact ⟨Tree.functions_sublist h hlevel, fun name => Tree.exists_narrows h hlevel⟩
  · intro hlevel i
    have heq : t.functions d r i = t.functions e r i := Tree.functions_family h hlevel
    exact ⟨heq, by rw [Tree.applicableFunctions, Tree.applicableFunctions, heq]⟩

/-- A query that declares a function `data` in the namespace of the standard functions and calls
it. -/
def ownDataSteps : List Step :=
  [.start .mainModule, .start .prolog, .start .functionDecl, .token .eqName "fn:data", .finish,
    .finish, .start .queryBody, .start .functionCall, .token .eqName "data", .finish, .finish,
    .finish]

/-- The tree of the query, whose call is node 5. -/
def ownDataTree : Tree := (Builder.run {} ownDataSteps).tree

/-- The overload of `data` without arguments came with version 3.0, which `1.0-ml` has and `0.9-ml`
has not. -/
theorem ownDataTree_narrows :
    ownDataTree.functions ⟨.ml09, .w3c⟩ none 5 =
      [⟨⟨some "fn", "data", some Uri.functions⟩, .exactly 0, .userDeclared, some 2, none⟩,
        ⟨⟨some "fn", "data", some Uri.functions⟩, .exactly 1, .builtIn, none, none⟩] ∧
    ownDataTree.functions ⟨.ml10, .w3c⟩ none 5 =
      [⟨⟨some "fn", "data", some Uri.functions⟩, .exactly 0, .userDeclared, some 2, none⟩,
        ⟨⟨some "fn", "data", some Uri.functions⟩, .exactly 1, .builtIn, none, none⟩,
        ⟨⟨some "fn", "data", some Uri.functions⟩, .exactly 0, .builtIn, none, none⟩] ∧
    (ownDataTree.functions ⟨.ml09, .w3c⟩ none 5).Sublist
      (ownDataTree.functions ⟨.ml10, .w3c⟩ none 5) ∧
    ownDataTree.functions ⟨.v10, .marklogic 6⟩ none 5 =
      ownDataTree.functions ⟨.ml09, .marklogic 10⟩ none 5 := by
  have hlower := (family_agrees ownDataTree none (d := ⟨.ml09, .w3c⟩) (e := ⟨.ml10, .w3c⟩)
    (.same .w3c)).2.1 (by decide) 5
  have hsame := (family_agrees ownDataTree none (d := ⟨.v10, .marklogic 6⟩)
    (e := ⟨.ml09, .marklogic 10⟩) (.marklogic 6 10)).2.2.1 rfl 5
  exact ⟨by decide +kernel, by decide +kernel, hlower.1, hsame.1⟩

end XQueryScope
