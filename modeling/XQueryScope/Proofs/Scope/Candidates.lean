import XQueryScope.Proofs.Library.Hints
import XQueryScope.Proofs.Scope.Visibility
import XQueryScope.Scope.Functions

/-!
# The candidates for a call

Which functions a call can mean, said by rules.  The candidates come in three parts: the functions
declared in the first prolog of the innermost module around the call (`Tree.UserCandidate`), those
declared in the libraries that this prolog imports (`Tree.ImportedCandidate`), and the overloads of
the catalog.  A name is expanded where it is written, so the name of a declaration and the name of a
call may have different prefixes; what counts is the namespace and the local name (`Name.Matches`).

The main result is `functions_exact`.  The first two parts are settled by what it takes to be a
member, and the order of the first by that of the nodes.  The last part is a list taken from the
catalog (`Dialect.builtInFunctions_eq`): a processor has a prefix for every namespace in its catalog
(`Vendor.catalog_bound`), so that a built-in function has the same name for every caller.
-/

namespace XQueryScope

/-! ## 1. Names with a namespace -/

namespace Name

variable {a b n : Name}

/-- The names agree in namespace and in local name. -/
structure Matches (a b : Name) : Prop where
  namespaceUri : a.namespaceUri = b.namespaceUri
  localName : a.localName = b.localName

theorem sameExpanded_iff :
    a.sameExpanded b = true ↔ a.localName = b.localName ∧ a.space = b.space := by
  simp [sameExpanded]

/-- For names with a namespace, to be the same expanded name is to agree in both parts. -/
theorem sameExpanded_iff_matches (ha : a.namespaceUri = some a.space)
    (hb : b.namespaceUri = some b.space) : a.sameExpanded b = true ↔ a.Matches b := by
  rw [sameExpanded_iff]
  constructor
  · rintro ⟨hlocal, hspace⟩
    exact ⟨by rw [ha, hb, hspace], hlocal⟩
  · rintro ⟨hspace, hlocal⟩
    exact ⟨hlocal, by rw [space, space, hspace]⟩

end Name

namespace Tree

variable {t : Tree} {d : Dialect} {i m p decl token : Nat} {written name : Name}

/-- The name of a function always gets a namespace, and keeps its local name. -/
theorem expand?_function (h : t.expand? d i written .function = some name) :
    name.namespaceUri = some name.space ∧ name.localName = written.localName := by
  unfold expand? at h
  split at h
  · rename_i hq
    cases h
    simp only [Name.isUriQualified, Bool.and_eq_true] at hq
    obtain ⟨uri, huri⟩ := Option.isSome_iff_exists.mp hq.2
    exact ⟨by simp [Name.space, huri], rfl⟩
  · split at h
    · obtain ⟨b, -, rfl⟩ := Option.map_eq_some_iff.mp h
      exact ⟨rfl, rfl⟩
    · cases h
      exact ⟨rfl, rfl⟩

theorem expandTokenAs?_eq_some_iff {role : NameRole} :
    t.expandTokenAs? d role token = some name ↔ ∃ text written, t.text? token = some text ∧
      Name.parse? text = some written ∧ t.expand? d token written role = some name := by
  simp only [expandTokenAs?, Option.bind_eq_bind, Option.bind_eq_some_iff]
  constructor
  · rintro ⟨text, htext, written, hparse, hexpand⟩
    exact ⟨text, written, htext, hparse, hexpand⟩
  · rintro ⟨text, written, htext, hparse, hexpand⟩
    exact ⟨text, htext, written, hparse, hexpand⟩

theorem namespaceUri_of_callName? (h : t.callName? d i = some name) :
    name.namespaceUri = some name.space := by
  simp only [callName?, Option.bind_eq_bind, Option.bind_eq_some_iff] at h
  obtain ⟨site, -, token, -, hexpand⟩ := h
  obtain ⟨text, written, -, -, hname⟩ := expandTokenAs?_eq_some_iff.mp hexpand
  exact (expand?_function hname).1

/-! ## 2. The module around a node -/

/-- `m` is the innermost module that is `i` or holds it. -/
structure InnermostModule (t : Tree) (i m : Nat) : Prop where
  isModule : t.kindIs Kind.isModule m = true
  holds : m ∈ t.lineage i
  innermost : ∀ a : Nat, a ∈ t.lineage i → t.kindIs Kind.isModule a = true → a ∈ t.lineage m

theorem Arena.innermostModule_of_module? (h : t.Arena) (hm : t.module? i = some m) :
    t.InnermostModule i m := by
  obtain ⟨hmodule, before, after, hline, hbefore⟩ := List.find?_eq_some_iff_append.mp hm
  have hown : m :: after = t.lineage m := h.eq_lineage_of_suffix i ⟨before, hline.symm⟩
  refine ⟨hmodule, by rw [hline]; simp, fun a ha hma => ?_⟩
  rw [hline, List.mem_append] at ha
  rcases ha with ha | ha
  · have hnot := hbefore a ha
    rw [hma] at hnot
    exact absurd hnot (by simp)
  · exact hown ▸ ha

theorem Arena.module?_eq_some_iff (h : t.Arena) : t.module? i = some m ↔ t.InnermostModule i m := by
  refine ⟨h.innermostModule_of_module?, fun hm => ?_⟩
  cases hk : t.module? i with
  | none => exact absurd hm.isModule (List.find?_eq_none.mp hk m hm.holds)
  | some k =>
    -- each of two innermost modules holds the other
    have hin := h.innermostModule_of_module? hk
    have hkm := h.le_of_mem_lineage (hm.innermost k hin.holds hin.isModule)
    have hmk := h.le_of_mem_lineage (hin.innermost m hm.holds hm.isModule)
    rw [Nat.le_antisymm hkm hmk]

/-! ## 3. Declared functions -/

/-- `decl` declares in the prolog `p` a function by the name `name`: the name that its first name
token spells, expanded there. -/
structure DeclaresFunction (t : Tree) (d : Dialect) (p decl : Nat) (name : Name) : Prop where
  inProlog : decl ∈ t.children p
  isFunction : t.kind? decl = some .functionDecl
  named : ∃ token text written, t.child? .eqName decl = some token ∧ t.text? token = some text ∧
    Name.parse? text = some written ∧ t.expand? d token written .function = some name

/-- The arity that the parameters of a declaration give: those in its first parameter list.  A
caller may leave out a parameter that has a child besides its name and its type. -/
def parameterArity (t : Tree) (decl : Nat) : Arity :=
  match t.child? .paramList decl with
  | none => ⟨0, some 0⟩
  | some list =>
    ⟨(t.children list).countP fun q => t.kind? q == some .param &&
        (t.children q).all fun c =>
          t.kind? c == some .varName || t.kind? c == some .typeDeclaration,
      some ((t.children list).countP fun q => t.kind? q == some .param)⟩

theorem declaredArity_eq : t.declaredArity decl = t.parameterArity decl := by
  rw [declaredArity, parameterArity, parameters]
  cases t.child? .paramList decl with
  | none => rfl
  | some list =>
    simp only [Option.elim_some, childrenOf, ← List.countP_eq_length_filter, List.countP_filter,
      Bool.and_comm]
    rfl

theorem DeclaresFunction.namespaceUri (h : t.DeclaresFunction d p decl name) :
    name.namespaceUri = some name.space := by
  obtain ⟨token, text, written, -, -, -, hexpand⟩ := h.named
  exact (expand?_function hexpand).1

theorem declaredFunction?_eq_some_iff {f : DeclaredFunction} :
    t.declaredFunction? d decl = some f ↔ (∃ token text written,
      t.child? .eqName decl = some token ∧ t.text? token = some text ∧
      Name.parse? text = some written ∧ t.expand? d token written .function = some f.name) ∧
      f.arity = t.parameterArity decl ∧ f.node = decl := by
  simp only [declaredFunction?, Option.bind_eq_bind, Option.bind_eq_some_iff,
    expandTokenAs?_eq_some_iff, declaredArity_eq]
  constructor
  · rintro ⟨token, htoken, name, ⟨text, written, htext, hparse, hexpand⟩, hf⟩
    cases hf
    exact ⟨⟨token, text, written, htoken, htext, hparse, hexpand⟩, rfl, rfl⟩
  · rintro ⟨⟨token, text, written, htoken, htext, hparse, hexpand⟩, harity, hnode⟩
    refine ⟨token, htoken, f.name, ⟨text, written, htext, hparse, hexpand⟩, ?_⟩
    rw [← harity, ← hnode]

theorem mem_declarations_iff : decl ∈ t.declarations m ↔
    ∃ p, t.child? .prolog m = some p ∧ decl ∈ t.children p := by
  unfold declarations
  cases t.child? .prolog m with
  | none => simp
  | some p => simp

theorem mem_declaredFunctions_iff {f : DeclaredFunction} : f ∈ t.declaredFunctions d m ↔
    ∃ p, t.child? .prolog m = some p ∧ t.DeclaresFunction d p f.node f.name ∧
      f.arity = t.parameterArity f.node := by
  simp only [declaredFunctions, List.mem_filterMap, List.mem_filter, mem_declarations_iff, is_iff,
    declaredFunction?_eq_some_iff]
  constructor
  · rintro ⟨decl, ⟨⟨p, hp, hdecl⟩, hkind⟩, hnamed, harity, rfl⟩
    exact ⟨p, hp, ⟨hdecl, hkind, hnamed⟩, harity⟩
  · rintro ⟨p, hp, ⟨hdecl, hkind, hnamed⟩, harity⟩
    exact ⟨f.node, ⟨⟨p, hp, hdecl⟩, hkind⟩, hnamed, harity, rfl⟩

/-- The declarations of a module are listed in the order of their nodes. -/
theorem declaredFunctions_sublist (decls : List Nat) :
    ((decls.filterMap (t.declaredFunction? d)).map (·.node)).Sublist decls := by
  induction decls with
  | nil => exact List.Sublist.refl _
  | cons decl decls ih =>
    rw [List.filterMap_cons]
    split
    · exact ih.cons decl
    · rename_i f hf
      rw [List.map_cons, (declaredFunction?_eq_some_iff.mp hf).2.2]
      exact ih.cons_cons decl

theorem Arena.declarations_sorted (h : t.Arena) (m : Nat) :
    (t.declarations m).Pairwise (fun a b : Nat => a < b) := by
  unfold declarations
  cases t.child? .prolog m with
  | none => exact List.Pairwise.nil
  | some p => exact h.children_sorted p

theorem Arena.declaredFunctions_sorted (h : t.Arena) (d : Dialect) (m : Nat) :
    ((t.declaredFunctions d m).map (·.node)).Pairwise (fun a b : Nat => a < b) :=
  (h.declarations_sorted m).sublist
    ((declaredFunctions_sublist _).trans List.filter_sublist)

/-! ## 4. The three parts -/

/-- `f` is the candidate of a function that is declared in the first prolog of the innermost module
around `i`. -/
inductive UserCandidate (t : Tree) (d : Dialect) (i : Nat) (name : Name) :
    FunctionDeclaration → Prop where
  | intro {m p decl : Nat} {declared : Name} :
      t.InnermostModule i m → t.child? .prolog m = some p →
      t.DeclaresFunction d p decl declared → declared.Matches name →
      UserCandidate t d i name
        ⟨declared, t.parameterArity decl, .userDeclared, some decl, none⟩

/-- `hint` is a location hint of an import: the text of one of its hint tokens. -/
def HasHint (t : Tree) (imported : Nat) (hint : String) : Prop :=
  ∃ c ∈ t.children imported, t.kind? c = some .locationHint ∧ t.text? c = some hint

theorem mem_hints_iff {imported : Nat} {hint : String} :
    hint ∈ t.hints imported ↔ t.HasHint imported hint := by
  simp only [hints, childrenOf, HasHint, List.mem_filterMap, List.mem_filter, is_iff, and_assoc]

/-- `f` is the candidate of a function that is declared in the prolog of a library.  The prolog
around `i` has an import of the namespace of `name`, and the import's hints pick the library. -/
inductive ImportedCandidate (t : Tree) (d : Dialect) (r : Registry) (i : Nat) (name : Name) :
    FunctionDeclaration → Prop where
  | intro {m p imported q decl : Nat} {uri : String} {hints : List String} {l : LibraryModule}
      {declared : Name} :
      t.InnermostModule i m → t.child? .prolog m = some p →
      imported ∈ t.children p → t.kind? imported = some .moduleImport →
      name.namespaceUri = some uri → t.childText? .uriLiteral imported = some uri →
      (∀ hint, hint ∈ hints ↔ t.HasHint imported hint) → l ∈ r.modulesFor uri hints →
      l.tree.child? .prolog l.tree.root = some q →
      l.tree.DeclaresFunction d q decl declared → declared.Matches name →
      ImportedCandidate t d r i name
        ⟨declared, l.tree.parameterArity decl, .moduleImported, some decl, l.location⟩

/-- The declarations of a module with the expanded name `name`, as candidates. -/
theorem mem_matching_iff (hname : name.namespaceUri = some name.space) (provenance : Provenance)
    (location : Option String) {f : FunctionDeclaration} :
    f ∈ ((t.declaredFunctions d m).filter (·.name.sameExpanded name)).map (fun g =>
        (⟨g.name, g.arity, provenance, some g.node, location⟩ : FunctionDeclaration)) ↔
      ∃ p decl declared, t.child? .prolog m = some p ∧ t.DeclaresFunction d p decl declared ∧
        declared.Matches name ∧
        f = ⟨declared, t.parameterArity decl, provenance, some decl, location⟩ := by
  simp only [List.mem_map, List.mem_filter, mem_declaredFunctions_iff]
  constructor
  · rintro ⟨g, ⟨⟨p, hp, hdecl, harity⟩, hsame⟩, rfl⟩
    refine ⟨p, g.node, g.name, hp, hdecl, ?_, by rw [harity]⟩
    exact (Name.sameExpanded_iff_matches hdecl.namespaceUri hname).mp hsame
  · rintro ⟨p, decl, declared, hp, hdecl, hmatches, rfl⟩
    refine ⟨⟨declared, t.parameterArity decl, decl⟩, ⟨⟨p, hp, hdecl, rfl⟩, ?_⟩, rfl⟩
    exact (Name.sameExpanded_iff_matches hdecl.namespaceUri hname).mpr hmatches

theorem mem_importsOf_iff {imported : Nat} {uri : String} : imported ∈ t.importsOf m uri ↔
    ∃ p, t.child? .prolog m = some p ∧ imported ∈ t.children p ∧
      t.kind? imported = some .moduleImport ∧ t.childText? .uriLiteral imported = some uri := by
  simp only [importsOf, List.mem_filter, mem_declarations_iff, is_iff, beq_iff_eq]
  constructor
  · rintro ⟨⟨⟨p, hp, hmem⟩, hkind⟩, huri⟩
    exact ⟨p, hp, hmem, hkind, huri⟩
  · rintro ⟨p, hp, hmem, hkind, huri⟩
    exact ⟨⟨⟨p, hp, hmem⟩, hkind⟩, huri⟩

theorem mem_elim_nil_iff {α β : Type} {o : Option α} {g : α → List β} {x : β} :
    x ∈ o.elim [] g ↔ ∃ a, o = some a ∧ x ∈ g a := by
  cases o with
  | none => simp
  | some a => simp

/-- The candidates that are declared around a node. -/
theorem Arena.mem_user_iff (h : t.Arena) (hname : name.namespaceUri = some name.space)
    {f : FunctionDeclaration} :
    f ∈ (t.module? i).elim [] (fun m => t.userFunctions d m name) ↔
      t.UserCandidate d i name f := by
  simp only [mem_elim_nil_iff, h.module?_eq_some_iff, userFunctions, mem_matching_iff hname]
  constructor
  · rintro ⟨m, hm, p, decl, declared, hp, hdecl, hmatches, rfl⟩
    exact .intro hm hp hdecl hmatches
  · rintro ⟨hm, hp, hdecl, hmatches⟩
    exact ⟨_, hm, _, _, _, hp, hdecl, hmatches, rfl⟩

/-- The candidates that are imported around a node. -/
theorem Arena.mem_imported_iff (h : t.Arena) (hname : name.namespaceUri = some name.space)
    {r : Option Registry} {f : FunctionDeclaration} :
    f ∈ (t.module? i).elim [] (fun m => r.elim [] fun r => t.importedFunctions d r m name) ↔
      ∃ registry, r = some registry ∧ t.ImportedCandidate d registry i name f := by
  simp only [mem_elim_nil_iff, h.module?_eq_some_iff, importedFunctions, List.mem_flatMap,
    mem_importsOf_iff, LibraryModule.functions, mem_matching_iff hname]
  constructor
  · rintro ⟨m, hm, registry, rfl, imported, ⟨p, hp, hmem, hkind, huri⟩, l, hl, q, decl, declared,
      hq, hdecl, hmatches, rfl⟩
    exact ⟨registry, rfl,
      .intro hm hp hmem hkind hname huri (fun _ => mem_hints_iff) hl hq hdecl hmatches⟩
  · rintro ⟨registry, rfl, @⟨_, _, imported, _, _, _, hints, _, _, hm, hp, hmem, hkind, hspace,
      huri, hhints, hl, hq, hdecl, hmatches⟩⟩
    rw [hname, Option.some.injEq] at hspace
    subst hspace
    -- only the set of the hints counts for what the import gets
    have hsame : registry.modulesFor name.space hints =
        registry.modulesFor name.space (t.hints imported) :=
      Registry.modulesFor_congr fun _ => by simp only [hhints, mem_hints_iff]
    rw [hsame] at hl
    exact ⟨_, hm, registry, rfl, _, ⟨_, hp, hmem, hkind, huri⟩, _, hl, _, _, _, hq, hdecl,
      hmatches, rfl⟩

end Tree

/-! ## 5. Built-in functions -/

namespace Predefined

/-- Merging two tables binds the namespaces of both. -/
theorem mem_uris_merge {a b : List (String × String)} {uri : String} :
    uri ∈ (merge a b).map (·.2) ↔ uri ∈ a.map (·.2) ∨ uri ∈ b.map (·.2) := by
  simp [merge, List.mem_merge, or_and_right, exists_or]

end Predefined

namespace Vendor

/-- The built-in functions of a processor with their namespaces, in catalog order. -/
def overloads (v : Vendor) : List (String × Overload) :=
  v.catalog.flatMap fun table => table.overloads.map (table.namespaceUri, ·)

/-- **Every namespace of a catalog is bound from the start**, by the processor whose catalog it
is. -/
theorem catalog_bound (v : Vendor) :
    ∀ table ∈ v.catalog, table.namespaceUri ∈ v.predefined.map (·.2) := by
  cases v <;> simp only [catalog, predefined, Predefined.mem_uris_merge] <;> decide

theorem exists_prefixOf? (v : Vendor) :
    ∀ table ∈ v.catalog, ∃ p, v.prefixOf? table.namespaceUri = some p := by
  intro table h
  obtain ⟨binding, hmem, huri⟩ := List.mem_map.mp (v.catalog_bound table h)
  cases hfirst : v.predefined.find? (·.2 == table.namespaceUri) with
  | none => exact absurd (List.find?_eq_none.mp hfirst binding hmem) (by simp [huri])
  | some first => exact ⟨first.1, by rw [prefixOf?, hfirst, Option.map_some]⟩

end Vendor

namespace Dialect

variable {d : Dialect} {name : Name}

/-- Whether an overload has a name, and the version has the overload. -/
def offers (d : Dialect) (name : Name) (entry : String × Overload) : Bool :=
  name.namespaceUri == some entry.1 && entry.2.localName == name.localName &&
    d.version.supports entry.2.since

/-- The candidate of an overload, by the prefix that the processor binds to its namespace. -/
def builtInCandidate (d : Dialect) (entry : String × Overload) : FunctionDeclaration :=
  ⟨⟨d.vendor.prefixOf? entry.1, entry.2.localName, some entry.1⟩, entry.2.arity, .builtIn, none,
    none⟩

/-- The candidates from the overloads of one table. -/
theorem candidates_of_table (hname : name.namespaceUri = some name.space) {uri p : String}
    (hp : d.vendor.prefixOf? uri = some p) (os : List Overload) :
    ((os.map (uri, ·)).filter (d.offers name)).map d.builtInCandidate =
      if uri == name.space then
        (os.filter fun o => o.localName == name.localName && d.version.supports o.since).map
          fun o => ⟨⟨(d.vendor.prefixOf? name.space).or name.nsPrefix, o.localName,
            some name.space⟩, o.arity, .builtIn, none, none⟩
      else [] := by
  rw [List.filter_map, List.map_map]
  split
  · rename_i huri
    cases beq_iff_eq.mp huri
    have hoffers : d.offers name ∘ (fun o => (name.space, o)) = fun o =>
        o.localName == name.localName && d.version.supports o.since := by
      funext o
      simp [offers, hname]
    rw [hoffers]
    refine List.map_congr_left fun o _ => ?_
    simp [builtInCandidate, hp]
  · rename_i huri
    have hnone : os.filter (d.offers name ∘ (fun o => (uri, o))) = [] := by
      refine List.filter_eq_nil_iff.mpr fun o _ ho => huri ?_
      simp only [Function.comp_apply, offers, Bool.and_eq_true, beq_iff_eq, hname,
        Option.some.injEq] at ho
      exact beq_iff_eq.mpr ho.1.1.symm
    rw [hnone, List.map_nil]

/-- **The built-in candidates** are the overloads of the name that the version has, in catalog
order.  The caller's prefix does not show: the catalog has no namespace without a prefix. -/
theorem builtInFunctions_eq (hname : name.namespaceUri = some name.space) :
    d.builtInFunctions name =
      (d.vendor.overloads.filter (d.offers name)).map d.builtInCandidate := by
  -- by induction on the tables, of which only this is kept: their namespaces have prefixes
  have hbound := d.vendor.exists_prefixOf?
  unfold builtInFunctions builtIns Vendor.overloads
  generalize d.vendor.catalog = tables at hbound ⊢
  induction tables with
  | nil => rfl
  | cons table tables ih =>
    obtain ⟨p, hp⟩ := hbound table List.mem_cons_self
    have ih := ih fun table h => hbound table (List.mem_cons_of_mem _ h)
    rw [List.flatMap_cons, List.filter_append, List.map_append, candidates_of_table hname hp, ← ih,
      List.filter_cons]
    split
    · rw [List.flatMap_cons, List.map_append]
    · rfl

end Dialect

/-! ## 6. All candidates -/

namespace Tree

variable {t : Tree} {d : Dialect} {r : Option Registry} {i : Nat} {name : Name}
  {user imported builtIn : List FunctionDeclaration}

/-- The candidates for a name at a node, part by part. -/
structure CandidateParts (t : Tree) (d : Dialect) (r : Option Registry) (i : Nat) (name : Name)
    (user imported builtIn : List FunctionDeclaration) : Prop where
  user_iff : ∀ f, f ∈ user ↔ t.UserCandidate d i name f
  /-- The declarations around the node come in document order, each of them once. -/
  user_sorted : ∃ decls : List Nat, user.map (·.declaredAt) = decls.map some ∧
    decls.Pairwise (fun a b : Nat => a < b)
  imported_iff : ∀ f, f ∈ imported ↔
    ∃ registry, r = some registry ∧ t.ImportedCandidate d registry i name f
  builtIn_eq : builtIn = (d.vendor.overloads.filter (d.offers name)).map d.builtInCandidate

theorem functions_eq (h : t.callName? d i = some name) : t.functions d r i =
    (t.module? i).elim [] (fun m => t.userFunctions d m name) ++
      (t.module? i).elim [] (fun m => r.elim [] fun r => t.importedFunctions d r m name) ++
        d.builtInFunctions name := by
  rw [functions, h]

/-- The candidates that a module declares come in the order of its declarations. -/
theorem Arena.userFunctions_sorted (h : t.Arena) (d : Dialect) (m : Nat) (name : Name) :
    ∃ decls : List Nat, (t.userFunctions d m name).map (·.declaredAt) = decls.map some ∧
      decls.Pairwise (fun a b : Nat => a < b) := by
  refine ⟨((t.declaredFunctions d m).filter (·.name.sameExpanded name)).map (·.node), ?_, ?_⟩
  · rw [userFunctions, List.map_map, List.map_map]
    rfl
  · exact (h.declaredFunctions_sorted d m).sublist (List.filter_sublist.map _)

theorem Arena.candidateParts (h : t.Arena) (d : Dialect) (r : Option Registry) (i : Nat)
    (hname : name.namespaceUri = some name.space) :
    t.CandidateParts d r i name ((t.module? i).elim [] fun m => t.userFunctions d m name)
      ((t.module? i).elim [] fun m => r.elim [] fun r => t.importedFunctions d r m name)
      (d.builtInFunctions name) where
  user_iff f := h.mem_user_iff hname
  user_sorted := by
    cases t.module? i with
    | none => exact ⟨[], rfl, List.Pairwise.nil⟩
    | some m => exact h.userFunctions_sorted d m name
  imported_iff f := h.mem_imported_iff hname
  builtIn_eq := Dialect.builtInFunctions_eq hname

theorem UserCandidate.name_matches {f : FunctionDeclaration} :
    t.UserCandidate d i name f → f.name.Matches name
  | .intro _ _ _ hmatches => hmatches

theorem ImportedCandidate.name_matches {registry : Registry} {f : FunctionDeclaration} :
    t.ImportedCandidate d registry i name f → f.name.Matches name
  | .intro _ _ _ _ _ _ _ _ _ _ hmatches => hmatches

namespace CandidateParts

theorem matches_of_mem (h : t.CandidateParts d r i name user imported builtIn)
    {f : FunctionDeclaration} (hf : f ∈ user ++ imported ++ builtIn) : f.name.Matches name := by
  rw [List.mem_append, List.mem_append] at hf
  rcases hf with (hf | hf) | hf
  · exact ((h.user_iff f).mp hf).name_matches
  · obtain ⟨registry, -, hcandidate⟩ := (h.imported_iff f).mp hf
    exact hcandidate.name_matches
  · rw [h.builtIn_eq, List.mem_map] at hf
    obtain ⟨entry, hentry, rfl⟩ := hf
    have hoffers := (List.mem_filter.mp hentry).2
    simp only [Dialect.offers, Bool.and_eq_true, beq_iff_eq] at hoffers
    exact ⟨hoffers.1.1.symm, hoffers.1.2⟩

/-- Without a prolog around the node there are built-in candidates only. -/
theorem eq_nil (h : t.CandidateParts d r i name user imported builtIn)
    (hnone : ∀ m p : Nat, t.InnermostModule i m → t.child? .prolog m ≠ some p) :
    user = [] ∧ imported = [] := by
  constructor
  · refine List.eq_nil_iff_forall_not_mem.mpr fun f hf => ?_
    obtain ⟨hm, hp, -, -⟩ := (h.user_iff f).mp hf
    exact hnone _ _ hm hp
  · refine List.eq_nil_iff_forall_not_mem.mpr fun f hf => ?_
    obtain ⟨registry, -, hm, hp, -⟩ := (h.imported_iff f).mp hf
    exact hnone _ _ hm hp

end CandidateParts

end Tree

/-- **Exact candidates.**  In every tree that a builder builds, a node that names no function has no
candidates.  For a name, the candidates are the declarations of the name in the prolog around the
node, then those in the libraries which that prolog imports, then the overloads of the catalog; and
every candidate has the namespace and the local name that were asked for. -/
theorem functions_exact {t : Tree} (ht : t.Built) (d : Dialect) (r : Option Registry) (i : Nat) :
    (t.callName? d i = none → t.functions d r i = []) ∧
    ∀ name, t.callName? d i = some name →
      (∃ user imported builtIn, t.functions d r i = user ++ imported ++ builtIn ∧
        t.CandidateParts d r i name user imported builtIn ∧
        ((∀ m p : Nat, t.InnermostModule i m → t.child? .prolog m ≠ some p) →
          user = [] ∧ imported = [])) ∧
      ∀ f ∈ t.functions d r i, f.name.Matches name := by
  refine ⟨fun hnone => by rw [Tree.functions, hnone], fun name hname => ?_⟩
  have hparts := ht.arena.candidateParts d r i (Tree.namespaceUri_of_callName? hname)
  rw [Tree.functions_eq hname]
  exact ⟨⟨_, _, _, rfl, hparts, hparts.eq_nil⟩, fun f hf => hparts.matches_of_mem hf⟩

/-- A library for `urn:lib` with a function `f` of some parameters. -/
def librarySteps (params : List String) : List Step :=
  [.start .libraryModule, .start .moduleDecl, .token .ncName "p", .token .uriLiteral "urn:lib",
    .finish, .start .prolog, .start .functionDecl, .token .eqName "p:f", .start .paramList] ++
  params.flatMap (fun x => [.start .param, .token .varName x, .finish]) ++
  [.finish, .finish, .finish, .finish]

/-- A query that imports `urn:lib` with a hint, declares `f($x, $y := ..)` there itself, and calls
`f`. -/
def callSteps : List Step :=
  [.start .mainModule, .start .prolog, .start .moduleImport, .token .ncName "q",
    .token .uriLiteral "urn:lib", .token .locationHint "two.xqm", .finish, .start .functionDecl,
    .token .eqName "q:f", .start .paramList, .start .param, .token .varName "x", .finish,
    .start .param, .token .varName "y", .start .expr, .finish, .finish, .finish, .finish, .finish,
    .start .queryBody, .start .functionCall, .token .eqName "Q\x7burn:lib\x7df", .finish, .finish,
    .finish]

/-- The tree of the query: the declaration is node 6, the call node 15. -/
def callTree : Tree := (Builder.run {} callSteps).tree

/-- Two libraries for `urn:lib`: `f` has no parameter in the one, and three in the other. -/
def unlikeLibraries : Registry :=
  ⟨[⟨"urn:lib", [⟨"urn:lib", some "/lib/one.xqm", (Builder.run {} (librarySteps [])).tree⟩,
    ⟨"urn:lib", some "/lib/two.xqm", (Builder.run {} (librarySteps ["x", "y", "z"])).tree⟩]⟩]⟩

/-- The hint picks the second library, so that its `f` is the only one that is imported. -/
theorem callTree_candidates : callTree.Built ∧
    callTree.functions {} (some unlikeLibraries) 15 =
      [⟨⟨some "q", "f", some "urn:lib"⟩, ⟨1, some 2⟩, .userDeclared, some 6, none⟩,
        ⟨⟨some "p", "f", some "urn:lib"⟩, ⟨3, some 3⟩, .moduleImported, some 5,
          some "/lib/two.xqm"⟩] ∧
    ∃ user imported builtIn, callTree.functions {} (some unlikeLibraries) 15 =
        user ++ imported ++ builtIn ∧
      callTree.CandidateParts {} (some unlikeLibraries) 15 ⟨none, "f", some "urn:lib"⟩ user
        imported builtIn := by
  have hbuilt : callTree.Built := ⟨callSteps, rfl⟩
  have hname : callTree.callName? {} 15 = some ⟨none, "f", some "urn:lib"⟩ := by decide +kernel
  obtain ⟨⟨user, imported, builtIn, heq, hparts, -⟩, -⟩ :=
    (functions_exact hbuilt {} (some unlikeLibraries) 15).2 _ hname
  exact ⟨hbuilt, by decide +kernel, user, imported, builtIn, heq, hparts⟩

end XQueryScope
