import XQueryScope.Proofs.Json.RoundTrip
import XQueryScope.Proofs.Name.Grammar
import XQueryScope.Proofs.Scope.Drawn
import XQueryScope.Proofs.Scope.Prefixes
import XQueryScope.Proofs.Text.Numeral
import XQueryScope.Sample.Generated

/-!
# What the probe of a generated query sees

A generated query is given by its sizes as an outline, and its tree draws that outline.  So the
probe is reached by following the outline down: from the module to the query body, through one FLWOR
expression after the other (`exists_innermost`, by induction on the depth, with `exists_result` as
its step), and on to the name of the call.  What comes into scope on that way is `visibleNames`, in
the order in which it is listed.

The prolog is gone through by the three sorts of declarations that it has.  They bind the prefixes,
set no default and import nothing, and none of the functions has the name of the probe; nor has any
built-in one.  That the search for the name finds this very token and no other is a fact about the
outline too: `outline_probes` counts the tokens with that name.

The main result is `probe_resolves`.
-/

namespace XQueryScope

/-! ## 1. The names that a generated query spells -/

namespace Name

/-- A name without prefix and namespace. -/
def plain (s : String) : Name := { localName := s }

theorem parse?_plain {s : String} (h : isSimple s.toList = true) : parse? s = some (plain s) := by
  have hpart := isSimple_iff.mp h
  have hbare : Text.Bare ([] ++ s.toList) := hpart.bare_append (by simp)
  refine parse?_eq_some_iff.mpr ⟨s.toList, .plain, Text.trim_eq_iff.mp hbare.trim_eq, ?_⟩
  have hspells := Spells.plain hpart
  rwa [String.ofList_toList] at hspells

theorem isPart_of_isDigit {c : Char} (h : c.isDigit = true) : isPart c = true := by
  obtain ⟨k, hk, rfl⟩ := Text.exists_digitChar h
  have hall : ∀ k < 10, isPart (Nat.digitChar k) = true := by decide +kernel
  exact hall k hk

theorem all_isPart_decimalText (n : Nat) : (Text.decimalText n).toList.all isPart = true := by
  rw [Text.decimalText, String.toList_ofList]
  exact List.all_eq_true.mpr fun _ hc => isPart_of_isDigit (Text.isDigit_of_mem_decimal hc)

/-- A name part stays one with numerals and marks behind it. -/
theorem isSimple_append {s d : String} (hs : isSimple s.toList = true)
    (hd : d.toList.all isPart = true) : isSimple (s ++ d).toList = true := by
  rw [String.toList_append]
  cases hcs : s.toList with
  | nil =>
    rw [hcs] at hs
    cases hs
  | cons c cs =>
    rw [hcs, isSimple, Bool.and_eq_true] at hs
    rw [List.cons_append, isSimple, List.all_append, hs.1, hs.2, hd]
    rfl

end Name

namespace Sample

open Name (plain isSimple isSimple_append all_isPart_decimalText)

theorem isSimple_variableName (depth b : Nat) : isSimple (variableName depth b).toList = true := by
  have hstart : isSimple "v".toList = true := by decide +kernel
  have hmark : "_".toList.all Name.isPart = true := by decide +kernel
  exact isSimple_append (isSimple_append (isSimple_append hstart (all_isPart_decimalText depth))
    hmark) (all_isPart_decimalText b)

theorem parse?_variableName (depth b : Nat) :
    Name.parse? (variableName depth b) = some (plain (variableName depth b)) :=
  Name.parse?_plain (isSimple_variableName depth b)

theorem parse?_positionalName (depth b : Nat) :
    Name.parse? (variableName depth b ++ "_at") = some (plain (variableName depth b ++ "_at")) :=
  Name.parse?_plain (isSimple_append (isSimple_variableName depth b) (by decide +kernel))

/-- The name of the global variable with a number. -/
def globalName (i : Nat) : String := "global" ++ Text.decimalText i

theorem parse?_globalName (i : Nat) : Name.parse? (globalName i) = some (plain (globalName i)) :=
  Name.parse?_plain (isSimple_append (by decide +kernel) (all_isPart_decimalText i))

theorem parse?_probe : Name.parse? probe = some (plain probe) :=
  Name.parse?_plain (by decide +kernel)

/-- The local name of a generated function is not that of the probe. -/
theorem localName_ne_probe {i : Nat} {name : Name}
    (h : Name.parse? ("local:f" ++ Text.decimalText i) = some name) : name.localName ≠ probe := by
  have hpart : isSimple ("f" ++ Text.decimalText i).toList = true :=
    isSimple_append (by decide +kernel) (all_isPart_decimalText i)
  have hbare : Text.Bare ("local:".toList ++ ("f" ++ Text.decimalText i).toList) :=
    (Name.isSimple_iff.mp hpart).bare_append (by simp; decide)
  obtain ⟨written, hwritten, -, hlocal⟩ := Name.parse?_prefixed_iff.mpr
    ⟨show Text.trim ("local:f" ++ Text.decimalText i).toList =
        "local".toList ++ ':' :: ("f" ++ Text.decimalText i).toList by
      simpa using hbare.trim_eq, by decide +kernel, hpart⟩
  rw [h, Option.some.injEq] at hwritten
  rw [hwritten, hlocal]
  intro heq
  have hchars := congrArg String.toList heq
  simp [probe] at hchars

/-! ## 2. The names that come into scope -/

/-- The names of a binding's variables: its own, and behind it the positional one if it has one. -/
def bindingNames (depth b : Nat) : List String :=
  ("v" ++ Text.decimalText depth ++ "_" ++ Text.decimalText b) ::
    if depth % 2 = 0 ∧ b % 2 = 0 then
      ["v" ++ Text.decimalText depth ++ "_" ++ Text.decimalText b ++ "_at"]
    else []

/-- The names of the variables in the clause at a depth. -/
def clauseNames (count depth : Nat) : List String :=
  (List.range count).flatMap (bindingNames depth)

/-- The names of the variables in the clauses at the depths below `depth`, innermost first. -/
def nestNames (count depth : Nat) : List String :=
  (List.range depth).reverse.flatMap (clauseNames count)

theorem nestNames_succ (count depth : Nat) :
    nestNames count (depth + 1) = clauseNames count depth ++ nestNames count depth := by
  rw [nestNames, List.range_succ, List.reverse_append, List.reverse_singleton,
    List.singleton_append, List.flatMap_cons, nestNames]

theorem length_clauseNames (count depth : Nat) : (clauseNames count depth).length =
    count + if depth % 2 = 0 then (count + 1) / 2 else 0 := by
  induction count with
  | zero => simp [clauseNames]
  | succ count ih =>
    rw [clauseNames] at ih ⊢
    rw [List.range_succ, List.flatMap_append, List.length_append, ih, List.flatMap_singleton,
      bindingNames]
    by_cases hdepth : depth % 2 = 0
    · by_cases hcount : count % 2 = 0 <;> simp [hdepth, hcount] <;> omega
    · simp [hdepth]

theorem length_nestNames (count depth : Nat) : (nestNames count depth).length =
    depth * count + (depth + 1) / 2 * ((count + 1) / 2) := by
  induction depth with
  | zero => simp [nestNames]
  | succ depth ih =>
    rw [nestNames_succ, List.length_append, ih, length_clauseNames]
    by_cases hdepth : depth % 2 = 0
    · have hhalf : (depth + 1 + 1) / 2 = (depth + 1) / 2 + 1 := by omega
      rw [if_pos hdepth, hhalf, Nat.succ_mul, Nat.succ_mul]
      omega
    · have hhalf : (depth + 1 + 1) / 2 = (depth + 1) / 2 := by omega
      rw [if_neg hdepth, hhalf, Nat.succ_mul]
      omega

/-- The names of all variables that the probe sees: the clauses from the inside to the outside, each
in order, and then the global variables, the last one first. -/
def visibleNames (s : SampleSizes) : List String :=
  nestNames s.bindingsPerClause s.flworDepth ++
    (List.range s.prologVariables).reverse.map globalName

theorem length_visibleNames (s : SampleSizes) : (visibleNames s).length =
    s.flworDepth * s.bindingsPerClause +
      (s.flworDepth + 1) / 2 * ((s.bindingsPerClause + 1) / 2) + s.prologVariables := by
  rw [visibleNames, List.length_append, length_nestNames, List.length_map, List.length_reverse,
    List.length_range]

example : visibleNames ⟨0, 2, 0, 2, 2⟩ =
    ["v1_0", "v1_1", "v0_0", "v0_0_at", "v0_1", "global1", "global0"] := rfl

theorem bindingNames_binding (depth b : Nat) :
    (binding depth b).bindingNames = (bindingNames depth b).map plain := by
  have hnames : bindingNames depth b = variableName depth b ::
      if depth % 2 = 0 ∧ b % 2 = 0 then [variableName depth b ++ "_at"] else [] := rfl
  rw [binding, hnames]
  by_cases hdepth : depth % 2 = 0 <;> by_cases hb : b % 2 = 0 <;>
    simp [hdepth, hb, Shape.forBinding, Shape.letBinding, Shape.varName, Shape.num,
      Outline.bindingNames, Outline.ownNames, Outline.childText?, Outline.child?, Kind.isBinding,
      parse?_variableName, parse?_positionalName]

end Sample

/-! ## 3. Through the clauses -/

namespace Sample

open Name (plain)

variable {t : Tree} {i : Nat} {body : Outline} {depth count : Nat}

theorem map_clauseVariables (h : t.Arena) (hd : t.Draws i (clause depth count)) :
    (t.clauseVariables i).map (·.name) = (clauseNames count depth).map plain := by
  have hchildren : (clause depth count).children = (List.range count).map (binding depth) := by
    rw [clause]
    split <;> rfl
  have hvariables : t.clauseVariables i = (t.children i).flatMap t.bindingVariables := by
    have hkind := hd.kind?_eq h
    rw [clause] at hkind
    split at hkind <;> simp [Tree.clauseVariables, hkind, Shape.forClause, Shape.letClause]
  have hmap := (hd.map_children h).trans hchildren
  rw [hvariables, Tree.map_flatMap_of_outlines hmap fun c hc =>
    (Tree.Draws.of_mem_children h hc).map_bindingVariables h]
  simp only [clauseNames, List.flatMap_map, List.map_flatMap, bindingNames_binding]

/-- A FLWOR expression shows the variables of its clause to what it returns. -/
theorem exists_result (h : t.Arena) (hd : t.Draws i (Shape.flwor [clause depth count] body))
    (hbody : body.kind.declaresNamespaces = false) :
    ∃ j, t.Draws j body ∧ t.Leads i j ((clauseNames count depth).map plain) := by
  obtain ⟨r, hr, hpr, hbefore⟩ := hd.exists_child h [clause depth count] rfl
  obtain ⟨j, hj, hpj, -⟩ := hr.exists_child h [] rfl
  refine ⟨j, hj, ?_⟩
  have hclause : (t.visibleFrom i r).map (·.name) = (clauseNames count depth).map plain := by
    obtain ⟨c, hone, hc⟩ := List.map_eq_singleton_iff.mp hbefore
    have hlt : c < t.size := by
      obtain ⟨-, p, hp, -⟩ := h.mem_before_iff.mp (hone ▸ List.mem_singleton_self c)
      exact Tree.lt_size_of_parent? hp
    have hvisible : t.visibleFrom i r = t.clauseVariables c := by
      simp [Tree.visibleFrom, hd.kind?_eq h, Shape.flwor, Tree.preceding, hone]
    rw [hvisible]
    exact map_clauseVariables h ⟨hlt, hc⟩
  have hresult : (t.visibleFrom r j).map (·.name) = [] := by
    simp [Tree.visibleFrom, hr.kind?_eq h]
  exact (Tree.Leads.child h hr hpr rfl hclause).trans (.child h hj hpj hbody hresult)

/-- **The nest.**  What stands inside sees the clauses of all depths, the innermost first. -/
theorem exists_innermost (h : t.Arena) (depth : Nat) :
    ∀ {body : Outline}, t.Draws i (nest count depth body) →
      body.kind.declaresNamespaces = false →
        ∃ j, t.Draws j body ∧ t.Leads i j ((nestNames count depth).map plain) := by
  induction depth with
  | zero =>
    intro body hd _
    exact ⟨i, hd, .refl t i⟩
  | succ depth ih =>
    intro body hd hbody
    obtain ⟨outer, houter, hleads⟩ := ih hd rfl
    obtain ⟨j, hj, hinner⟩ := exists_result h houter hbody
    refine ⟨j, hj, ?_⟩
    rw [nestNames_succ, List.map_append]
    exact hleads.trans hinner

end Sample

/-! ## 4. The declarations -/

namespace Sample

open Name (plain)

variable {s : SampleSizes} {o : Outline} {t : Tree}

theorem declarations_outline (s : SampleSizes) : (outline s).declarations = declarations s := by
  rw [outline, Outline.declarations, Shape.mainModule, Shape.prolog]
  cases declarations s with
  | nil => rfl
  | cons o os => rfl

theorem mem_declarations (h : o ∈ declarations s) :
    (∃ i, o = namespaceDecl i) ∨ (∃ i, o = globalVariable i) ∨ ∃ i, o = localFunction i := by
  simp only [declarations, List.mem_append, List.mem_map, or_assoc] at h
  rcases h with ⟨i, -, rfl⟩ | ⟨i, -, rfl⟩ | ⟨i, -, rfl⟩
  · exact .inl ⟨i, rfl⟩
  · exact .inr (.inl ⟨i, rfl⟩)
  · exact .inr (.inr ⟨i, rfl⟩)

theorem ownNames_globalVariable (i : Nat) :
    (globalVariable i).ownNames = [plain (globalName i)] := by
  have hname : (globalVariable i).childText? .varName = some (globalName i) := rfl
  rw [Outline.ownNames, hname, Option.bind_some, parse?_globalName]
  rfl

theorem globals_outline (s : SampleSizes) :
    ((outline s).declarations.filter (·.kind == .varDecl)).reverse.flatMap Outline.ownNames =
      ((List.range s.prologVariables).reverse.map globalName).map plain := by
  have hvariables : (declarations s).filter (·.kind == .varDecl) =
      (List.range s.prologVariables).map globalVariable := by
    have hnamespace (i : Nat) : ((namespaceDecl i).kind == .varDecl) = false := rfl
    have hvariable (i : Nat) : ((globalVariable i).kind == .varDecl) = true := rfl
    have hfunction (i : Nat) : ((localFunction i).kind == .varDecl) = false := rfl
    simp [declarations, List.filter_map, Function.comp_def, hnamespace, hvariable, hfunction]
  rw [declarations_outline, hvariables, ← List.map_reverse, List.flatMap_map, List.map_map,
    List.map_eq_flatMap]
  exact List.flatMap_congr fun i _ => ownNames_globalVariable i

theorem namespaces_outline (s : SampleSizes) :
    (outline s).declarations.reverse.filterMap Outline.declaredPair? =
      (List.range s.namespaceDecls).reverse.map fun i =>
        ("ns" ++ Text.decimalText i, "urn:fixture:" ++ Text.decimalText i) := by
  have hnamespace (i : Nat) : (namespaceDecl i).declaredPair? =
      some ("ns" ++ Text.decimalText i, "urn:fixture:" ++ Text.decimalText i) := rfl
  have hvariable (i : Nat) : (globalVariable i).declaredPair? = none := rfl
  have hfunction (i : Nat) : (localFunction i).declaredPair? = none := rfl
  rw [declarations_outline, declarations]
  simp only [List.reverse_append, ← List.map_reverse, List.filterMap_append, List.filterMap_map,
    Function.comp_def, hnamespace, hvariable, hfunction, List.filterMap_eq_map']
  simp

/-! ## 5. Candidates for the probe -/

/-- No processor has a built-in function with the local name of the probe. -/
theorem builtIns_probe (d : Dialect) (uri : String) : d.builtIns uri probe = [] := by
  have hall : (d.vendor.catalog.all fun table =>
      table.overloads.all fun o => !(o.localName == probe)) = true := by
    cases d.vendor <;> simp only [Vendor.catalog] <;> decide +kernel
  rw [Dialect.builtIns, List.flatMap_eq_nil_iff]
  intro table htable
  have htable := List.all_eq_true.mp hall table (List.mem_of_mem_filter htable)
  refine List.filter_eq_nil_iff.mpr fun o ho => ?_
  have hne := List.all_eq_true.mp htable o ho
  rw [Bool.not_eq_true'] at hne
  simp [hne]

/-- Every declaration is of one of the three sorts. -/
theorem draws_of_mem_declarations (h : t.Arena) (hd : t.Draws 0 (outline s)) {c : Nat}
    (hc : c ∈ t.declarations 0) :
    (∃ i, t.Draws c (namespaceDecl i)) ∨ (∃ i, t.Draws c (globalVariable i)) ∨
      ∃ i, t.Draws c (localFunction i) := by
  have hdraws := Tree.Draws.of_mem_declarations h hc
  have hmem : t.outlineAt c ∈ declarations s := by
    rw [← declarations_outline, ← hd.map_declarations h]
    exact List.mem_map_of_mem hc
  rcases mem_declarations hmem with ⟨i, hi⟩ | ⟨i, hi⟩ | ⟨i, hi⟩
  · exact .inl ⟨i, hi ▸ hdraws⟩
  · exact .inr (.inl ⟨i, hi ▸ hdraws⟩)
  · exact .inr (.inr ⟨i, hi ▸ hdraws⟩)

theorem declaredNamespaces_zero (h : t.Arena) (hd : t.Draws 0 (outline s)) :
    (t.declaredNamespaces 0).map (fun b => (b.nsPrefix, b.uri)) =
      (List.range s.namespaceDecls).reverse.map fun i =>
        ("ns" ++ Text.decimalText i, "urn:fixture:" ++ Text.decimalText i) := by
  have hline : t.lineage 0 = [0] := rfl
  have hkind : t.kind? 0 = some .mainModule := hd.kind?_eq h
  have hnoDecl : t.child? .moduleDecl 0 = none := by
    have hmap := hd.map_child? h .moduleDecl
    have houtline : (outline s).child? .moduleDecl = none := by
      rw [outline, Shape.mainModule, Shape.prolog]
      split <;> rfl
    rwa [houtline, Option.map_eq_none_iff] at hmap
  rw [Tree.declaredNamespaces, hline, List.flatMap_singleton, Tree.namespacesDeclaredBy, hkind]
  simp only [hnoDecl, Option.toList_none, List.append_nil]
  rw [Tree.map_filterMap_of_outlines List.map_reverse fun c hc =>
    (Tree.Draws.of_mem_declarations h (List.mem_reverse.mp hc)).map_declaredNamespace? h,
    hd.map_declarations h, namespaces_outline]

theorem defaultUri_zero (h : t.Arena) (hd : t.Draws 0 (outline s)) :
    t.defaultUri .function 0 = Uri.functions := by
  have hnone : t.defaultsDeclaredBy 0 = [] := by
    have hkind : t.kind? 0 = some .mainModule := hd.kind?_eq h
    rw [Tree.defaultsDeclaredBy, hkind]
    refine List.filterMap_eq_nil_iff.mpr fun c hc => ?_
    rw [Tree.declaredDefault?, Tree.declaredDefaultKind?]
    rcases draws_of_mem_declarations h hd (List.mem_reverse.mp hc) with
      ⟨i, hi⟩ | ⟨i, hi⟩ | ⟨i, hi⟩ <;> rw [hi.kind?_eq h] <;> rfl
  have hline : t.lineage 0 = [0] := rfl
  rw [Tree.defaultUri, Tree.defaults, hline, List.flatMap_singleton, hnone]
  rfl

theorem userFunctions_zero (h : t.Arena) (hd : t.Draws 0 (outline s)) (d : Dialect) {name : Name}
    (hname : name.localName = probe) : t.userFunctions d 0 name = [] := by
  rw [Tree.userFunctions, List.map_eq_nil_iff, List.filter_eq_nil_iff]
  intro f hf hsame
  obtain ⟨p, hp, hdeclares, -⟩ := Tree.mem_declaredFunctions_iff.mp hf
  obtain ⟨token, text, written, htoken, htext, hparse, hexpand⟩ := hdeclares.named
  have hmem := Tree.mem_declarations_iff.mpr ⟨p, hp, hdeclares.inProlog⟩
  have hkind := hdeclares.isFunction
  rcases draws_of_mem_declarations h hd hmem with ⟨i, hi⟩ | ⟨i, hi⟩ | ⟨i, hi⟩
  · rw [hi.kind?_eq h] at hkind
    cases hkind
  · rw [hi.kind?_eq h] at hkind
    cases hkind
  -- only the third sort declares functions, and the name is then not that of the probe
  · have hwritten : t.childText? .eqName f.node = some ("local:f" ++ Text.decimalText i) :=
      hi.childText?_eq h .eqName
    rw [Tree.childText?, htoken, Option.bind_some, htext, Option.some.injEq] at hwritten
    subst hwritten
    have hlocal := (Name.sameExpanded_iff.mp hsame).1
    rw [(Tree.expand?_function hexpand).2, hname] at hlocal
    exact localName_ne_probe hparse hlocal

theorem importsOf_zero (h : t.Arena) (hd : t.Draws 0 (outline s)) (uri : String) :
    t.importsOf 0 uri = [] := by
  refine List.eq_nil_iff_forall_not_mem.mpr fun c hc => ?_
  obtain ⟨p, hp, hmem, hkind, -⟩ := Tree.mem_importsOf_iff.mp hc
  rcases draws_of_mem_declarations h hd (Tree.mem_declarations_iff.mpr ⟨p, hp, hmem⟩) with
    ⟨i, hi⟩ | ⟨i, hi⟩ | ⟨i, hi⟩ <;>
  · rw [hi.kind?_eq h] at hkind
    cases hkind

/-- No candidate has the local name of the probe. -/
theorem functions_probe (h : t.Arena) (hd : t.Draws 0 (outline s)) {p : Nat} {d : Dialect}
    {name : Name} (hmodule : t.module? p = some 0) (hcall : t.callName? d p = some name)
    (hname : name.localName = probe) (r : Option Registry) : t.functions d r p = [] := by
  have hbuiltIn : d.builtInFunctions name = [] := by
    rw [Dialect.builtInFunctions, hname, builtIns_probe]
    rfl
  have himported : (r.elim [] fun r => t.importedFunctions d r 0 name) = [] := by
    cases r with
    | none => rfl
    | some r =>
      rw [Option.elim_some, Tree.importedFunctions, importsOf_zero h hd]
      rfl
  rw [Tree.functions_eq hcall, hmodule, Option.elim_some, Option.elim_some,
    userFunctions_zero h hd d hname, himported, hbuiltIn]
  rfl

end Sample

/-! ## 6. The probe -/

namespace Outline

/-- Whether the node is a name token with the probe's name. -/
def isProbe (o : Outline) : Bool := o.kind == .eqName && o.text == some Sample.probe

/-- The name tokens with the probe's name, in document order. -/
def probes (o : Outline) : List Outline := o.nodes.filter isProbe

@[simp] theorem probes_node (k : Kind) (cs : List Outline) :
    (node k cs).probes = cs.flatMap probes := by
  have hself : (node k cs).isProbe = false := by simp [isProbe]
  rw [probes, nodes_node, List.filter_cons_of_neg (by simp [hself]), List.filter_flatMap]
  rfl

@[simp] theorem probes_token (k : Kind) (s : String) :
    (token k s).probes = if k = .eqName ∧ s = Sample.probe then [token k s] else [] := by
  simp [probes, isProbe, List.filter_singleton]

end Outline

namespace Sample

open Name (plain)

variable {s : SampleSizes} {t : Tree}

/-- A binding is well formed, and has no name token at all. -/
theorem binding_quiet (depth b : Nat) :
    (binding depth b).WellFormed ∧ (binding depth b).probes = [] := by
  rw [binding]
  by_cases hdepth : depth % 2 = 0
  · by_cases hb : b % 2 = 0 <;>
      simp [hdepth, hb, Shape.forBinding, Shape.varName, Shape.num]
  · simp [hdepth, Shape.letBinding, Shape.varName, Shape.num]

theorem clause_quiet (depth count : Nat) :
    (clause depth count).WellFormed ∧ (clause depth count).probes = [] := by
  have hkind : clause depth count =
      .node (if depth % 2 = 0 then .forClause else .letClause)
        ((List.range count).map (binding depth)) := by
    rw [clause]
    split <;> rfl
  simp [hkind, binding_quiet, List.flatMap_map]

theorem nest_keeps (count depth : Nat) : ∀ {body : Outline}, body.WellFormed →
    (nest count depth body).WellFormed ∧ (nest count depth body).probes = body.probes := by
  induction depth with
  | zero =>
    intro body hbody
    exact ⟨hbody, rfl⟩
  | succ depth ih =>
    intro body hbody
    have hwf : (Shape.flwor [clause depth count] body).WellFormed := by
      simp [Shape.flwor, clause_quiet, hbody]
    have hprobes : (Shape.flwor [clause depth count] body).probes = body.probes := by
      simp [Shape.flwor, clause_quiet]
    rw [nest, ← hprobes]
    exact ih hwf

theorem declaration_quiet {o : Outline} (h : o ∈ declarations s) :
    o.WellFormed ∧ o.probes = [] := by
  rcases mem_declarations h with ⟨i, rfl⟩ | ⟨i, rfl⟩ | ⟨i, rfl⟩
  · simp [namespaceDecl, Shape.namespaceDecl, Shape.optionalToken]
  · simp [globalVariable, Shape.varDecl, Shape.varName, Shape.num]
  · have hne : "local:f" ++ Text.decimalText i ≠ probe := by
      intro heq
      have hchars := congrArg String.toList heq
      simp [probe] at hchars
    simp [localFunction, Shape.functionDecl, Shape.param, Shape.varName, Shape.emptyExpr, hne,
      List.flatMap_map]

/-- The outline is well formed, and the only probe in it is that of the innermost call. -/
theorem outline_probes (s : SampleSizes) :
    (outline s).WellFormed ∧ (outline s).probes = [.token .eqName probe] := by
  have hcall : (Shape.call probe []).WellFormed := by simp [Shape.call]
  have hprobe : (Shape.call probe []).probes = [.token .eqName probe] := by simp [Shape.call]
  obtain ⟨hbody, hprobes⟩ := nest_keeps s.bindingsPerClause s.flworDepth hcall
  rw [hprobe] at hprobes
  have hprolog : (∀ o ∈ Shape.prolog (declarations s), o.WellFormed) ∧
      (Shape.prolog (declarations s)).flatMap Outline.probes = [] := by
    rw [Shape.prolog]
    split
    · simp
    · have hall : ∀ o ∈ declarations s, o.probes = [] := fun o ho => (declaration_quiet ho).2
      simp only [List.forall_mem_singleton, List.flatMap_singleton, Outline.wellFormed_node_iff,
        Outline.probes_node, List.flatMap_eq_nil_iff]
      exact ⟨fun o ho => (declaration_quiet ho).1, hall⟩
  rw [outline, Shape.mainModule, Outline.wellFormed_node_iff, Outline.probes_node,
    List.forall_mem_append, List.flatMap_append, hprolog.2]
  refine ⟨⟨hprolog.1, ?_⟩, ?_⟩
  · simp [hbody]
  · simp [hprobes]

/-- The name token of the innermost call `c`. -/
structure IsProbe (t : Tree) (s : SampleSizes) (c p : Nat) : Prop where
  call : t.Draws c (Shape.call probe [])
  token : t.Draws p (.token .eqName probe)
  parent_eq : t.parent? p = some c
  first : t.before p = []
  leads : t.Leads 0 p ((visibleNames s).map plain)

theorem declaresNamespaces_nest (count depth : Nat) : ∀ {body : Outline},
    body.kind.declaresNamespaces = false →
      (nest count depth body).kind.declaresNamespaces = false := by
  induction depth with
  | zero => exact id
  | succ depth ih => exact fun _ => ih rfl

/-- The global variables come into scope at the query body. -/
theorem map_visibleFrom_queryBody (h : t.Arena) (hd : t.Draws 0 (outline s)) {q : Nat}
    (hq : t.is .queryBody q = true) : (t.visibleFrom 0 q).map (·.name) =
      ((List.range s.prologVariables).reverse.map globalName).map plain := by
  have hkind : t.kind? 0 = some .mainModule := hd.kind?_eq h
  rw [← globals_outline, ← hd.map_prologVariables h, Tree.visibleFrom, hkind]
  simp only [hq, if_true]

theorem exists_isProbe (h : t.Arena) (hd : t.Draws 0 (outline s)) : ∃ c p, IsProbe t s c p := by
  -- from the module to the query body `q`, the outermost expression `n`, the call and its name
  obtain ⟨q, hq, hpq, -⟩ := hd.exists_child h (Shape.prolog (declarations s)) rfl
  obtain ⟨n, hn, hpn, -⟩ := hq.exists_child h [] rfl
  obtain ⟨c, hc, hnest⟩ := exists_innermost h s.flworDepth hn rfl
  obtain ⟨p, hp, hpp, hbefore⟩ := hc.exists_child h [] rfl
  refine ⟨c, p, hc, hp, hpp, List.map_eq_nil_iff.mp hbefore, ?_⟩
  have hglobals := Tree.Leads.child h hq hpq rfl
    (map_visibleFrom_queryBody h hd (hq.is_eq h .queryBody))
  have hbody : t.Leads q n [] := .child h hn hpn (declaresNamespaces_nest _ _ rfl)
    (by simp [Tree.visibleFrom, hq.kind?_eq h])
  have htoken : t.Leads c p [] := .child h hp hpp rfl
    (by simp [Tree.visibleFrom, hc.kind?_eq h, Shape.call])
  have hall := ((hglobals.trans hbody).trans hnest).trans htoken
  rw [visibleNames, List.map_append]
  exact hall

namespace IsProbe

variable {c p : Nat}

/-- The search by name finds the probe, since no other token has its name. -/
theorem probeToken?_eq (hp : IsProbe t s c p) (h : t.Rooted) (hd : t.Draws 0 (outline s)) :
    probeToken? t = some p := by
  have hbelow := h.map_outlineAt_below h.size_pos
  rw [hd.outlineAt_eq] at hbelow
  have hlt {m : Nat} (hm : m ∈ t.below 0) : m < t.size :=
    ((h.mem_below_iff h.size_pos).mp hm).1
  -- the search goes by what the outlines of the nodes say
  have htest : (t.below 0).filter (fun m => t.is .eqName m && t.text? m == some probe) =
      (t.below 0).filter (Outline.isProbe ∘ t.outlineAt) := by
    refine List.filter_congr fun m hm => ?_
    have hm : t.Draws m (t.outlineAt m) := ⟨hlt hm, rfl⟩
    rw [hm.is_eq h.toArena, hm.text?_eq h.toArena]
    rfl
  have hone : ((t.below 0).filter (Outline.isProbe ∘ t.outlineAt)).map t.outlineAt =
      [.token .eqName probe] := by
    rw [← List.filter_map, hbelow]
    exact (outline_probes s).2
  obtain ⟨q, hq, -⟩ := List.map_eq_singleton_iff.mp hone
  have hmem : p ∈ (t.below 0).filter (Outline.isProbe ∘ t.outlineAt) := by
    obtain ⟨nodes, hline, -⟩ := hp.leads.way
    have hroot : 0 ∈ t.lineage p := by simp [hline, h.self_mem_lineage]
    refine List.mem_filter.mpr ⟨(h.mem_below_iff h.size_pos).mpr ⟨hp.token.lt_size, hroot⟩, ?_⟩
    rw [Function.comp_apply, hp.token.outlineAt_eq]
    rfl
  rw [hq, List.mem_singleton] at hmem
  rw [probeToken?, Tree.find?, h.root_eq, ← List.head?_filter, htest, hq, hmem]
  rfl

theorem callName?_eq (hp : IsProbe t s c p) (h : t.Arena) (hd : t.Draws 0 (outline s))
    (d : Dialect) : t.callName? d p = some ⟨none, probe, some Uri.functions⟩ := by
  have hsite : t.callSite? p = some c := by
    simp [Tree.callSite?, hp.token.kindIs_eq h, hp.token.is_eq h, hp.parent_eq, Option.filter,
      hp.call.kindIs_eq h, Kind.isCallSite, Shape.call]
  have hname : t.child? .eqName c = some p := by
    obtain ⟨rest, -, hchildren⟩ := h.siblings hp.parent_eq
    rw [Tree.preceding, hp.first] at hchildren
    rw [Tree.child?, ← hchildren, List.reverse_nil, List.reverse_nil, List.nil_append,
      List.find?_cons_of_pos (hp.token.is_eq h .eqName)]
  have hdefault : t.defaultUri .function p = Uri.functions := by
    rw [Tree.defaultUri, hp.leads.defaults_eq]
    exact defaultUri_zero h hd
  have htext : t.text? p = some probe := hp.token.text?_eq h
  simp [Tree.callName?, hsite, hname, Tree.expandTokenAs?, htext, parse?_probe, Tree.expand?,
    Name.isUriQualified, NameRole.defaultKind?, hdefault, plain, Name.inNamespace]

theorem module?_eq (hp : IsProbe t s c p) (h : t.Arena) (hd : t.Draws 0 (outline s)) :
    t.module? p = some 0 := by
  have hmodule : t.kindIs Kind.isModule 0 = true := hd.kindIs_eq h Kind.isModule
  rw [hp.leads.module?_eq]
  exact List.find?_cons_of_pos hmodule

end IsProbe

/-- **What the probe of a generated query sees.**  Whatever the sizes are, the query can be built,
and the search for the probe finds the name of the innermost call.  There the variables are those of
`visibleNames` in that order, the declared prefixes are those of the prolog, the last one first, and
the call has a name in the namespace of functions but no candidate, for every dialect and with every
registry. -/
theorem probe_resolves (s : SampleSizes) : ∃ t c p, tree s = .ok t ∧
    probeToken? t = some p ∧ t.parent? p = some c ∧ t.kind? c = some .functionCall ∧
    (t.inScopeVariables p).map (·.name) = (visibleNames s).map plain ∧
    (t.inScopeVariables p).length = s.flworDepth * s.bindingsPerClause +
      (s.flworDepth + 1) / 2 * ((s.bindingsPerClause + 1) / 2) + s.prologVariables ∧
    ∀ d : Dialect,
      ((t.namespaces d p).filter (·.declaredAt.isSome)).map (fun b => (b.nsPrefix, b.uri)) =
        ((List.range s.namespaceDecls).reverse.map fun i =>
          ("ns" ++ Text.decimalText i, "urn:fixture:" ++ Text.decimalText i)) ∧
      t.callName? d p = some ⟨none, probe, some Uri.functions⟩ ∧
      ∀ r, t.functions d r p = [] := by
  obtain ⟨t, ht, -⟩ := Tree.ofOutline_of_wellFormed (outline_probes s).1
  obtain ⟨hwhole, houtline⟩ := Tree.outlineAt_of_ofOutline ht
  have hd : t.Draws 0 (outline s) := ⟨hwhole.size_pos, houtline⟩
  have h := hwhole.toArena
  obtain ⟨c, p, hp⟩ := exists_isProbe h hd
  have hnames : (t.inScopeVariables p).map (·.name) = (visibleNames s).map plain := by
    rw [hp.leads.names_eq]
    exact List.append_nil _
  refine ⟨t, c, p, ht, hp.probeToken?_eq hwhole.toRooted hd, hp.parent_eq, hp.call.kind?_eq h,
    hnames, ?_, fun d => ⟨?_, hp.callName?_eq h hd d, fun r => ?_⟩⟩
  · rw [← length_visibleNames, ← List.length_map (·.name), hnames, List.length_map]
  · rw [h.filter_declared_namespaces, hp.leads.declaredNamespaces_eq, declaredNamespaces_zero h hd]
  · exact functions_probe h hd (hp.module?_eq h hd) (hp.callName?_eq h hd d) rfl r

end Sample

end XQueryScope