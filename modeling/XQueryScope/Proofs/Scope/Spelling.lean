import XQueryScope.Proofs.Name.Grammar
import XQueryScope.Proofs.Scope.Candidates

/-!
# Spellings of a function name

A function can be named by a prefix, by the default function namespace or by its namespace itself.
`Tree.Spells` says what each form stands for, and `Tree.spells_iff` that these are all there are.
The candidates do not tell the forms apart (`functions_spelling`): each of the three searches reads
a name by its namespace and its local name only.  For the catalog this takes a fact about the
tables, `Vendor.catalog_bound`: a namespace without a prefix of its own would show the caller's.
-/

namespace XQueryScope

/-! ## 1. Searching by expanded name -/

namespace Name

variable {a b : Name}

theorem sameExpanded_congr (h : a.sameExpanded b = true) (n : Name) :
    n.sameExpanded a = n.sameExpanded b := by
  obtain ⟨hlocal, hspace⟩ := sameExpanded_iff.mp h
  rw [sameExpanded, sameExpanded, hlocal, hspace]

end Name

namespace Tree

variable {t : Tree} {d : Dialect} {a b : Name}

theorem userFunctions_congr (h : a.sameExpanded b = true) (m : Nat) :
    t.userFunctions d m a = t.userFunctions d m b := by
  simp only [userFunctions, Name.sameExpanded_congr h]

theorem importedFunctions_congr (h : a.sameExpanded b = true) (registry : Registry) (m : Nat) :
    t.importedFunctions d registry m a = t.importedFunctions d registry m b := by
  simp only [importedFunctions, LibraryModule.functions, Name.sameExpanded_congr h,
    (Name.sameExpanded_iff.mp h).2]

end Tree

theorem Dialect.builtInFunctions_congr {d : Dialect} {a b : Name}
    (ha : a.namespaceUri = some a.space) (hb : b.namespaceUri = some b.space)
    (h : a.sameExpanded b = true) : d.builtInFunctions a = d.builtInFunctions b := by
  obtain ⟨hspace, hlocal⟩ := (Name.sameExpanded_iff_matches ha hb).mp h
  have hoffers : d.offers a = d.offers b := by
    funext entry
    rw [offers, offers, hspace, hlocal]
  rw [builtInFunctions_eq ha, builtInFunctions_eq hb, hoffers]

namespace Tree

variable {t : Tree} {d : Dialect} {r : Option Registry} {i j token : Nat} {a b : Name}
  {uri localName : String}

theorem functions_congr (hi : t.callName? d i = some a) (hj : t.callName? d j = some b)
    (hsame : a.sameExpanded b = true) (hmodule : t.module? i = t.module? j) :
    t.functions d r i = t.functions d r j := by
  have hbuiltIn : d.builtInFunctions a = d.builtInFunctions b :=
    Dialect.builtInFunctions_congr (namespaceUri_of_callName? hi) (namespaceUri_of_callName? hj)
      hsame
  simp only [functions_eq hi, functions_eq hj, hmodule, userFunctions_congr hsame,
    importedFunctions_congr hsame, hbuiltIn]

/-! ## 2. The three forms -/

/-- `token` is a name of the function `localName` of the namespace `uri`. -/
inductive Spells (t : Tree) (d : Dialect) (token : Nat) (uri localName : String) : Prop where
  | byPrefix {text p : String} {b : NamespaceBinding} : t.text? token = some text →
      Name.parse? text = some ⟨some p, localName, none⟩ → t.resolvePrefix? d token p = some b →
      b.uri = uri → Spells t d token uri localName
  | byDefault {text : String} : t.text? token = some text →
      Name.parse? text = some ⟨none, localName, none⟩ → t.defaultUri .function token = uri →
      Spells t d token uri localName
  | byNamespace {text : String} : t.text? token = some text →
      Name.parse? text = some ⟨none, localName, some uri⟩ → Spells t d token uri localName

/-- **A function name expands to what it spells**, and expands in no other way. -/
theorem spells_iff : t.Spells d token uri localName ↔
    ∃ name, t.expandTokenAs? d .function token = some name ∧
      name.namespaceUri = some uri ∧ name.localName = localName := by
  simp only [expandTokenAs?_eq_some_iff]
  constructor
  · intro h
    cases h with
    | @byPrefix text p b htext hparse hbound huri =>
      refine ⟨⟨some p, localName, some uri⟩, ⟨text, _, htext, hparse, ?_⟩, rfl, rfl⟩
      simp [expand?, Name.isUriQualified, Name.inNamespace, hbound, huri]
    | @byDefault text htext hparse hdefault =>
      refine ⟨⟨none, localName, some uri⟩, ⟨text, _, htext, hparse, ?_⟩, rfl, rfl⟩
      simp [expand?, Name.isUriQualified, NameRole.defaultKind?, Name.inNamespace, hdefault]
    | @byNamespace text htext hparse =>
      exact ⟨⟨none, localName, some uri⟩, ⟨text, _, htext, hparse, rfl⟩, rfl, rfl⟩
  · rintro ⟨name, ⟨text, ⟨nsPrefix, localName, space⟩, htext, hparse, hexpand⟩, huri, rfl⟩
    cases nsPrefix with
    | some p =>
      -- What is written with a prefix has no namespace yet.
      obtain rfl : space = none := (Name.parse?_form hparse).resolve_left (by simp)
      simp only [expand?, Name.isUriQualified, Option.isNone_some, Bool.false_and,
        Bool.false_eq_true, if_false, Option.map_eq_some_iff] at hexpand
      obtain ⟨b, hbound, rfl⟩ := hexpand
      exact .byPrefix htext hparse hbound (Option.some.inj huri)
    | none =>
      cases space with
      | none =>
        cases hexpand
        exact .byDefault htext hparse (Option.some.inj huri)
      | some space =>
        cases hexpand
        cases huri
        exact .byNamespace htext hparse

/-- The call at `i` is a call of the function `localName` of the namespace `uri`. -/
def CallSpells (t : Tree) (d : Dialect) (i : Nat) (uri localName : String) : Prop :=
  ∃ site token, t.callSite? i = some site ∧ t.child? .eqName site = some token ∧
    t.Spells d token uri localName

theorem callSpells_iff : t.CallSpells d i uri localName ↔
    ∃ name, t.callName? d i = some name ∧ name.namespaceUri = some uri ∧
      name.localName = localName := by
  simp only [CallSpells, spells_iff, callName?, Option.bind_eq_bind, Option.bind_eq_some_iff]
  constructor
  · rintro ⟨site, token, hsite, htoken, name, hname, huri, hlocal⟩
    exact ⟨name, ⟨site, hsite, token, htoken, hname⟩, huri, hlocal⟩
  · rintro ⟨name, ⟨site, hsite, token, htoken, hname⟩, huri, hlocal⟩
    exact ⟨site, token, hsite, htoken, name, hname, huri, hlocal⟩

/-! ## 3. The prefix of a built-in function -/

theorem provenance_of_mem_userFunctions {m : Nat} {f : FunctionDeclaration}
    (h : f ∈ t.userFunctions d m a) : f.provenance = .userDeclared := by
  obtain ⟨g, -, rfl⟩ := List.mem_map.mp h
  rfl

theorem provenance_of_mem_importedFunctions {registry : Registry} {m : Nat}
    {f : FunctionDeclaration} (h : f ∈ t.importedFunctions d registry m a) :
    f.provenance = .moduleImported := by
  obtain ⟨imported, -, hf⟩ := List.mem_flatMap.mp h
  obtain ⟨l, -, hf⟩ := List.mem_flatMap.mp hf
  obtain ⟨g, -, rfl⟩ := List.mem_map.mp hf
  rfl

theorem mem_builtInFunctions_of_provenance (h : t.callName? d i = some a)
    {f : FunctionDeclaration} (hf : f ∈ t.functions d r i) (hbuiltIn : f.provenance = .builtIn) :
    f ∈ d.builtInFunctions a := by
  rw [functions_eq h, List.mem_append, List.mem_append] at hf
  rcases hf with (hf | hf) | hf
  · obtain ⟨m, -, hf⟩ := mem_elim_nil_iff.mp hf
    rw [provenance_of_mem_userFunctions hf] at hbuiltIn
    cases hbuiltIn
  · obtain ⟨m, -, hf⟩ := mem_elim_nil_iff.mp hf
    obtain ⟨registry, -, hf⟩ := mem_elim_nil_iff.mp hf
    rw [provenance_of_mem_importedFunctions hf] at hbuiltIn
    cases hbuiltIn
  · exact hf

/-- A built-in candidate has the prefix that the processor binds to its namespace, whatever prefix
the call has. -/
theorem builtIn_name (h : t.callName? d i = some a) {f : FunctionDeclaration}
    (hf : f ∈ t.functions d r i) (hbuiltIn : f.provenance = .builtIn) :
    ∃ p, d.vendor.prefixOf? a.space = some p ∧ f.name = ⟨some p, a.localName, some a.space⟩ := by
  have hname := namespaceUri_of_callName? h
  have hf := mem_builtInFunctions_of_provenance h hf hbuiltIn
  rw [Dialect.builtInFunctions_eq hname, List.mem_map] at hf
  obtain ⟨entry, hentry, rfl⟩ := hf
  obtain ⟨hcatalog, hoffers⟩ := List.mem_filter.mp hentry
  obtain ⟨table, htable, hmem⟩ := List.mem_flatMap.mp hcatalog
  obtain ⟨o, -, rfl⟩ := List.mem_map.mp hmem
  obtain ⟨p, hp⟩ := d.vendor.exists_prefixOf? table htable
  simp only [Dialect.offers, Bool.and_eq_true, beq_iff_eq, hname, Option.some.injEq] at hoffers
  obtain ⟨⟨hspace, hlocal⟩, -⟩ := hoffers
  exact ⟨p, hspace ▸ hp, by simp [Dialect.builtInCandidate, hp, hspace, hlocal]⟩

end Tree

/-- **The spelling of a name does not show.**  Two calls in one module, or both outside of any, have
the same candidates if their names are the same when expanded.  In particular it does not matter by
which prefix, default or namespace they spell a function; the built-in candidates have the
processor's prefix in any case. -/
theorem functions_spelling (t : Tree) (d : Dialect) (r : Option Registry) {i j : Nat}
    (hmodule : t.module? i = t.module? j) :
    (∀ a b, t.callName? d i = some a → t.callName? d j = some b → a.sameExpanded b = true →
      t.functions d r i = t.functions d r j) ∧
    ∀ uri localName, t.CallSpells d i uri localName → t.CallSpells d j uri localName →
      t.functions d r i = t.functions d r j ∧
      ∀ f ∈ t.functions d r i, f.provenance = .builtIn →
        ∃ p, d.vendor.prefixOf? uri = some p ∧ f.name = ⟨some p, localName, some uri⟩ := by
  refine ⟨fun a b hi hj hsame => Tree.functions_congr hi hj hsame hmodule, ?_⟩
  intro uri localName hi hj
  obtain ⟨a, ha, hauri, rfl⟩ := Tree.callSpells_iff.mp hi
  obtain ⟨b, hb, hburi, hlocal⟩ := Tree.callSpells_iff.mp hj
  have hspace : a.space = uri := by rw [Name.space, hauri, Option.getD_some]
  have hsame : a.sameExpanded b = true := by
    rw [Name.sameExpanded_iff, hspace, Name.space, hburi, Option.getD_some]
    exact ⟨hlocal.symm, rfl⟩
  refine ⟨Tree.functions_congr ha hb hsame hmodule, fun f hf hbuiltIn => ?_⟩
  rw [← hspace]
  exact Tree.builtIn_name ha hf hbuiltIn

/-- A query that binds the prefix `x` to the standard functions and calls one of them three
times: as `x:true`, as `true` and by the namespace. -/
def threeCallsSteps : List Step :=
  [.start .mainModule, .start .prolog, .start .namespaceDecl, .token .ncName "x",
    .token .uriLiteral Uri.functions, .finish, .finish, .start .queryBody,
    .start .functionCall, .token .eqName "x:true", .finish,
    .start .functionCall, .token .eqName "true", .finish,
    .start .functionCall,
    .token .eqName "Q\x7bhttp://www.w3.org/2005/xpath-functions\x7dtrue", .finish,
    .finish, .finish]

/-- The tree of the three calls, which are nodes 6, 8 and 10. -/
def threeCallsTree : Tree := (Builder.run {} threeCallsSteps).tree

theorem threeCallsTree_agree :
    (threeCallsTree.functions {} none 6).map (·.name.nsPrefix) = [some "fn"] ∧
    threeCallsTree.functions {} none 6 = threeCallsTree.functions {} none 8 ∧
    threeCallsTree.functions {} none 6 = threeCallsTree.functions {} none 10 := by
  have hprefix : threeCallsTree.CallSpells {} 6 Uri.functions "true" :=
    ⟨6, 7, by decide +kernel, by decide +kernel, .byPrefix (p := "x") rfl (by decide +kernel)
      (b := ⟨"x", Uri.functions, some 2⟩) (by decide +kernel) rfl⟩
  have hdefault : threeCallsTree.CallSpells {} 8 Uri.functions "true" :=
    ⟨8, 9, by decide +kernel, by decide +kernel, .byDefault rfl (by decide +kernel)
      (by decide +kernel)⟩
  have hnamespace : threeCallsTree.CallSpells {} 10 Uri.functions "true" :=
    ⟨10, 11, by decide +kernel, by decide +kernel, .byNamespace rfl (by decide +kernel)⟩
  refine ⟨by decide +kernel, ?_, ?_⟩
  · have hmodule : threeCallsTree.module? 6 = threeCallsTree.module? 8 := by decide +kernel
    exact ((functions_spelling threeCallsTree {} none hmodule).2 _ _ hprefix hdefault).1
  · have hmodule : threeCallsTree.module? 6 = threeCallsTree.module? 10 := by decide +kernel
    exact ((functions_spelling threeCallsTree {} none hmodule).2 _ _ hprefix hnamespace).1

end XQueryScope
