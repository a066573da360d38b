import XQueryScope.Proofs.FirstMatch
import XQueryScope.Proofs.Name.Grammar
import XQueryScope.Proofs.Scope.Candidates

/-!
# What a prefix stands for

The declarations of prefixes, said by rules.  A direct element constructor declares a prefix by an
attribute `xmlns:p` with a value (`Tree.PrefixAttribute`), a module by a declaration of its first
prolog or by its own module declaration (`Tree.BindsPrefix`).  `Tree.ScopeBinds` says which of
several declarations of one prefix in one construct counts: the first attribute, the last
declaration of the prolog, and the module declaration only if the prolog has none.

A prefix stands for what the innermost construct around the node that declares it says, and for what
the processor binds from the start if there is none (`Tree.Resolves`).  The main result is
`resolvePrefix?_innermost`.  Ids are a document order, so "first" and "last" are about ids, and the
lists that the search runs through are sorted by them.
-/

namespace XQueryScope

/-! ## 1. Declarations of a prefix -/

namespace Tree

variable {t : Tree} {d : Dialect} {n m s scope attr decl : Nat} {p uri : String}
  {b : NamespaceBinding}

/-- `attr` is an attribute of the constructor `scope`, in whichever of its attribute lists, its name
is `xmlns:p` but for blanks around it, and it has the value `uri`. -/
structure PrefixAttribute (t : Tree) (scope attr : Nat) (p uri : String) : Prop where
  inList : ∃ list, t.parent? attr = some list ∧ t.kind? list = some .dirAttributeList ∧
    t.parent? list = some scope
  isAttribute : t.kind? attr = some .dirAttribute
  named : ∃ text, t.childText? .attributeName attr = some text ∧
    Text.trim text.toList = "xmlns:".toList ++ p.toList ∧ Name.isSimple p.toList = true
  value : t.childText? .dirAttributeValue attr = some uri

/-- `decl` is a declaration that has both a prefix, `p`, and a namespace, `uri`. -/
structure BindsPrefix (t : Tree) (decl : Nat) (p uri : String) : Prop where
  nsPrefix :
    ((t.kind? decl = some .namespaceDecl ∨ t.kind? decl = some .moduleImport ∨
        t.kind? decl = some .moduleDecl) ∧ t.childText? .ncName decl = some p) ∨
      (t.kind? decl = some .schemaImport ∧
        ∃ part, t.child? .schemaPrefix decl = some part ∧ t.childText? .ncName part = some p)
  uri : t.childText? .uriLiteral decl = some uri

/-- `decl` stands in the first prolog of the module `scope` and binds `p`. -/
structure PrologBinds (t : Tree) (scope decl : Nat) (p uri : String) : Prop where
  inProlog : ∃ prolog, t.child? .prolog scope = some prolog ∧ t.parent? decl = some prolog
  binds : t.BindsPrefix decl p uri

/-- `decl` is a complete declaration of a prefix in the construct `scope`. -/
inductive DeclaresPrefix (t : Tree) (scope : Nat) : Nat → String → String → Prop where
  | onElement {attr : Nat} {p uri : String} : t.kind? scope = some .dirElemConstructor →
      t.PrefixAttribute scope attr p uri → DeclaresPrefix t scope attr p uri
  | inProlog {decl : Nat} {p uri : String} : t.kindIs Kind.isModule scope = true →
      t.PrologBinds scope decl p uri → DeclaresPrefix t scope decl p uri
  | ofModule {decl : Nat} {p uri : String} : t.kindIs Kind.isModule scope = true →
      t.child? .moduleDecl scope = some decl → t.BindsPrefix decl p uri →
      DeclaresPrefix t scope decl p uri

/-- `b` is the binding by which the construct `scope` declares `p`. -/
inductive ScopeBinds (t : Tree) (scope : Nat) (p : String) : NamespaceBinding → Prop where
  /-- The first attribute counts. -/
  | onElement {attr : Nat} {uri : String} : t.kind? scope = some .dirElemConstructor →
      t.PrefixAttribute scope attr p uri →
      (∀ other uri', t.PrefixAttribute scope other p uri' → attr ≤ other) →
      ScopeBinds t scope p ⟨p, uri, some attr⟩
  /-- The last declaration of the prolog counts. -/
  | inProlog {decl : Nat} {uri : String} : t.kindIs Kind.isModule scope = true →
      t.PrologBinds scope decl p uri →
      (∀ other uri', t.PrologBinds scope other p uri' → other ≤ decl) →
      ScopeBinds t scope p ⟨p, uri, some decl⟩
  /-- The module's own declaration counts if the prolog has none. -/
  | ofModule {decl : Nat} {uri : String} : t.kindIs Kind.isModule scope = true →
      (∀ other uri', ¬ t.PrologBinds scope other p uri') →
      t.child? .moduleDecl scope = some decl → t.BindsPrefix decl p uri →
      ScopeBinds t scope p ⟨p, uri, some decl⟩

/-- `b` is what the prefix `p` stands for at the node `n`. -/
inductive Resolves (t : Tree) (d : Dialect) (n : Nat) (p : String) : NamespaceBinding → Prop where
  /-- The innermost construct that declares the prefix counts. -/
  | declared {s : Nat} {b : NamespaceBinding} : s ∈ t.lineage n → t.ScopeBinds s p b →
      (∀ a ∈ t.lineage n, ∀ b', t.ScopeBinds a p b' → a ∈ t.lineage s) → Resolves t d n p b
  /-- If there is none, the processor's own binding counts. -/
  | predefined {uri : String} : (∀ a ∈ t.lineage n, ∀ b, ¬ t.ScopeBinds a p b) →
      (p, uri) ∈ d.vendor.predefined → Resolves t d n p ⟨p, uri, none⟩

/-! ## 2. What a construct lists -/

theorem prefixAttribute?_eq_some_iff : t.prefixAttribute? attr = some b ↔
    (∃ text, t.childText? .attributeName attr = some text ∧
      Text.trim text.toList = "xmlns:".toList ++ b.nsPrefix.toList ∧
      Name.isSimple b.nsPrefix.toList = true) ∧
    t.childText? .dirAttributeValue attr = some b.uri ∧ b.declaredAt = some attr := by
  have hread {text : String} : (Text.trim text.toList = "xmlns:".toList ++ b.nsPrefix.toList ∧
      Name.isSimple b.nsPrefix.toList = true) ↔
      ∃ name, Name.parse? text = some name ∧ name.nsPrefix = some "xmlns" ∧
        name.localName = b.nsPrefix := by
    have hsimple : Name.isSimple "xmlns".toList = true := by decide +kernel
    rw [Name.parse?_prefixed_iff, and_iff_right hsimple]
    rfl
  simp only [hread, prefixAttribute?, attributeName?, Option.bind_eq_bind, Option.bind_eq_some_iff]
  constructor
  · rintro ⟨name, ⟨text, htext, hname⟩, uri, huri, hb⟩
    split at hb
    · rename_i hp
      rw [htext, Option.bind_some, Name.afterColon?_of_parse? hname (beq_iff_eq.mp hp),
        Option.bind_some] at hb
      cases hb
      exact ⟨⟨text, htext, name, hname, beq_iff_eq.mp hp, rfl⟩, huri, rfl⟩
    · cases hb
  · rintro ⟨⟨text, htext, name, hname, hp, hl⟩, huri, hat⟩
    refine ⟨name, ⟨text, htext, hname⟩, b.uri, huri, ?_⟩
    rw [if_pos (beq_iff_eq.mpr hp), htext, Option.bind_some, Name.afterColon?_of_parse? hname hp,
      Option.bind_some, hl, ← hat]

theorem declaredPrefix?_eq_some_iff : t.declaredPrefix? decl = some p ↔
    ((t.kind? decl = some .namespaceDecl ∨ t.kind? decl = some .moduleImport ∨
        t.kind? decl = some .moduleDecl) ∧ t.childText? .ncName decl = some p) ∨
      (t.kind? decl = some .schemaImport ∧
        ∃ part, t.child? .schemaPrefix decl = some part ∧ t.childText? .ncName part = some p) := by
  unfold declaredPrefix?
  split
  · rename_i hk; simp [hk]
  · rename_i hk; simp [hk]
  · rename_i hk; simp [hk]
  · rename_i hk; simp [hk, Option.bind_eq_some_iff]
  · rename_i hnamespace himport hmodule hschema
    simp only [reduceCtorEq, false_iff, not_or, not_and]
    refine ⟨?_, fun hk => absurd hk hschema⟩
    rintro (hk | hk | hk)
    · exact absurd hk hnamespace
    · exact absurd hk himport
    · exact absurd hk hmodule

theorem declaredNamespace?_eq_some_iff : t.declaredNamespace? decl = some b ↔
    t.BindsPrefix decl b.nsPrefix b.uri ∧ b.declaredAt = some decl := by
  simp only [declaredNamespace?, Option.bind_eq_bind, Option.bind_eq_some_iff,
    declaredPrefix?_eq_some_iff]
  constructor
  · rintro ⟨p, hp, uri, huri, hb⟩
    cases hb
    exact ⟨⟨hp, huri⟩, rfl⟩
  · rintro ⟨⟨hp, huri⟩, hat⟩
    exact ⟨_, hp, _, huri, by rw [← hat]⟩

namespace Arena

theorem mem_attributes_iff (h : t.Arena) : attr ∈ t.attributes scope ↔
    (∃ list, t.parent? attr = some list ∧ t.kind? list = some .dirAttributeList ∧
      t.parent? list = some scope) ∧ t.kind? attr = some .dirAttribute := by
  simp only [attributes, List.mem_flatMap, h.mem_childrenOf_iff]
  constructor
  · rintro ⟨list, ⟨hp, hk⟩, hpa, hka⟩
    exact ⟨⟨list, hpa, hk, hp⟩, hka⟩
  · rintro ⟨⟨list, hpa, hk, hp⟩, hka⟩
    exact ⟨list, ⟨hp, hk⟩, hpa, hka⟩

theorem childrenOf_sorted (h : t.Arena) (k : Kind) (i : Nat) :
    (t.childrenOf k i).Pairwise (fun a b : Nat => a < b) :=
  (h.children_sorted i).filter _

/-- The attributes of all attribute lists come in document order. -/
theorem attributes_sorted (h : t.Arena) (scope : Nat) :
    (t.attributes scope).Pairwise (fun a b : Nat => a < b) := by
  refine List.pairwise_flatMap.mpr ⟨fun list _ => h.childrenOf_sorted _ list, ?_⟩
  refine (h.childrenOf_sorted _ scope).imp_of_mem ?_
  intro a e ha he hlt x hx y hy
  exact h.sibling_lt (h.mem_childrenOf_iff.mp ha).1 (h.mem_childrenOf_iff.mp he).1 hlt
    (h.parent_mem_lineage (h.mem_childrenOf_iff.mp hx).1)
    (h.parent_mem_lineage (h.mem_childrenOf_iff.mp hy).1)

theorem mem_declarations_iff_parent (h : t.Arena) : decl ∈ t.declarations scope ↔
    ∃ prolog, t.child? .prolog scope = some prolog ∧ t.parent? decl = some prolog := by
  simp only [mem_declarations_iff, h.mem_children_iff]

end Arena

/-! ## 3. The binding that counts -/

/-- The bindings that `f` gives the members of `l` are the declarations with `P`. -/
def Lists (f : Nat → Option NamespaceBinding) (l : List Nat) (P : Nat → String → String → Prop) :
    Prop :=
  ∀ a b, a ∈ l ∧ f a = some b ↔ P a b.nsPrefix b.uri ∧ b.declaredAt = some a

namespace Lists

variable {f : Nat → Option NamespaceBinding} {l : List Nat} {P : Nat → String → String → Prop}

theorem mem_iff (h : Lists f l P) :
    b ∈ l.filterMap f ↔ ∃ a p uri, P a p uri ∧ b = ⟨p, uri, some a⟩ := by
  rw [List.mem_filterMap]
  constructor
  · rintro ⟨a, ha⟩
    obtain ⟨hP, hat⟩ := (h a b).mp ha
    exact ⟨a, b.nsPrefix, b.uri, hP, by rw [← hat]⟩
  · rintro ⟨a, p, uri, hP, rfl⟩
    exact ⟨a, (h a _).mpr ⟨hP, rfl⟩⟩

theorem find?_eq_none_iff (h : Lists f l P) :
    (l.filterMap f).find? (·.nsPrefix == p) = none ↔ ∀ a uri, ¬ P a p uri := by
  rw [List.find?_eq_none]
  constructor
  · intro hnone a uri hP
    exact hnone ⟨p, uri, some a⟩ (h.mem_iff.mpr ⟨a, p, uri, hP, rfl⟩) (by simp)
  · intro hnone b hb hp
    obtain ⟨a, q, uri, hP, rfl⟩ := h.mem_iff.mp hb
    exact hnone a uri (beq_iff_eq.mp hp ▸ hP)

/-- The binding found for a prefix is that of the first declaration in the order of the list. -/
theorem find?_eq_some_iff (h : Lists f l P) {R : Nat → Nat → Prop}
    (hR : ∀ {a e : Nat}, R a e → ¬ R e a) (hl : l.Pairwise R) :
    (l.filterMap f).find? (·.nsPrefix == p) = some b ↔
      ∃ a uri, b = ⟨p, uri, some a⟩ ∧ P a p uri ∧ ∀ e uri', P e p uri' → a = e ∨ R a e := by
  have hpass {e : Nat} : e ∈ l ∧ (f e).any (·.nsPrefix == p) = true ↔ ∃ uri, P e p uri := by
    simp only [Option.any_eq_true, beq_iff_eq]
    constructor
    · rintro ⟨he, b', hb', rfl⟩
      exact ⟨b'.uri, ((h e b').mp ⟨he, hb'⟩).1⟩
    · rintro ⟨uri, hP⟩
      obtain ⟨he, hb'⟩ := (h e ⟨p, uri, some e⟩).mpr ⟨hP, rfl⟩
      exact ⟨he, _, hb', rfl⟩
  rw [List.find?_filterMap, Option.bind_eq_some_iff]
  simp only [find?_eq_some_iff_of_sorted hR hl]
  constructor
  · rintro ⟨a, ⟨ha, hq, hmin⟩, hb⟩
    obtain ⟨hP, hat⟩ := (h a b).mp ⟨ha, hb⟩
    rw [hb, Option.any_some, beq_iff_eq] at hq
    subst hq
    refine ⟨a, b.uri, by rw [← hat], hP, fun e uri' hPe => ?_⟩
    obtain ⟨he, hqe⟩ := hpass.mpr ⟨uri', hPe⟩
    exact hmin e he hqe
  · rintro ⟨a, uri, rfl, hP, hmin⟩
    obtain ⟨ha, hq⟩ := hpass.mpr ⟨uri, hP⟩
    refine ⟨a, ⟨ha, hq, fun e he hqe => ?_⟩, ((h a _).mpr ⟨hP, rfl⟩).2⟩
    obtain ⟨uri', hPe⟩ := hpass.mp ⟨he, hqe⟩
    exact hmin e uri' hPe

/-- Different members declare at different places. -/
theorem distinct (h : Lists f l P) (hl : l.Nodup) :
    (l.filterMap f).Pairwise fun x y => x.declaredAt ≠ y.declaredAt := by
  refine List.pairwise_filterMap.mpr (List.Pairwise.imp_of_mem ?_ hl)
  intro a e ha he hne x hx y hy heq
  rw [((h a x).mp ⟨ha, hx⟩).2, ((h e y).mp ⟨he, hy⟩).2, Option.some.injEq] at heq
  exact hne heq

end Lists

namespace Arena

theorem lists_attributes (h : t.Arena) (scope : Nat) :
    Lists t.prefixAttribute? (t.attributes scope) (t.PrefixAttribute scope) := by
  intro attr b
  rw [h.mem_attributes_iff, prefixAttribute?_eq_some_iff]
  constructor
  · rintro ⟨⟨hlist, hk⟩, hname, huri, hat⟩
    exact ⟨⟨hlist, hk, hname, huri⟩, hat⟩
  · rintro ⟨⟨hlist, hk, hname, huri⟩, hat⟩
    exact ⟨⟨hlist, hk⟩, hname, huri, hat⟩

theorem lists_declarations (h : t.Arena) (scope : Nat) :
    Lists t.declaredNamespace? (t.declarations scope).reverse (t.PrologBinds scope) := by
  intro decl b
  rw [List.mem_reverse, h.mem_declarations_iff_parent, declaredNamespace?_eq_some_iff]
  constructor
  · rintro ⟨hprolog, hbinds, hat⟩
    exact ⟨⟨hprolog, hbinds⟩, hat⟩
  · rintro ⟨⟨hprolog, hbinds⟩, hat⟩
    exact ⟨hprolog, hbinds, hat⟩

end Arena

theorem lists_moduleDecl (scope : Nat) :
    Lists t.declaredNamespace? (t.child? .moduleDecl scope).toList
      fun decl p uri => t.child? .moduleDecl scope = some decl ∧ t.BindsPrefix decl p uri := by
  intro decl b
  rw [Option.mem_toList, declaredNamespace?_eq_some_iff, and_assoc]

/-- What a construct lists depends on which of the two kinds of scope it is, if it is one. -/
theorem namespacesDeclaredBy_cases (t : Tree) (scope : Nat) :
    (t.kind? scope = some .dirElemConstructor ∧ t.kindIs Kind.isModule scope = false ∧
      t.namespacesDeclaredBy scope = (t.attributes scope).filterMap t.prefixAttribute?) ∨
    (t.kind? scope ≠ some .dirElemConstructor ∧ t.kindIs Kind.isModule scope = true ∧
      t.namespacesDeclaredBy scope =
        (t.declarations scope).reverse.filterMap t.declaredNamespace? ++
          (t.child? .moduleDecl scope).toList.filterMap t.declaredNamespace?) ∨
    (t.kind? scope ≠ some .dirElemConstructor ∧ t.kindIs Kind.isModule scope = false ∧
      t.namespacesDeclaredBy scope = []) := by
  unfold namespacesDeclaredBy kindIs
  split
  · rename_i hk
    exact .inl ⟨hk, by simp [hk, Kind.isModule], rfl⟩
  · rename_i hk
    exact .inr (.inl ⟨by simp [hk], by simp [hk, Kind.isModule], List.filterMap_append⟩)
  · rename_i hk
    exact .inr (.inl ⟨by simp [hk], by simp [hk, Kind.isModule], List.filterMap_append⟩)
  · rename_i hconstructor hmain hlibrary
    refine .inr (.inr ⟨hconstructor, ?_, rfl⟩)
    have hnot := mt Arena.kindIs_isModule_iff.mp (not_or.mpr ⟨hmain, hlibrary⟩)
    exact Bool.eq_false_iff.mpr hnot

namespace Arena

/-- **In one construct**, the binding found for a prefix is the one that counts. -/
theorem find?_namespacesDeclaredBy_iff (h : t.Arena) :
    (t.namespacesDeclaredBy scope).find? (·.nsPrefix == p) = some b ↔ t.ScopeBinds scope p b := by
  rcases t.namespacesDeclaredBy_cases scope with
    ⟨hk, hm, heq⟩ | ⟨hk, hm, heq⟩ | ⟨hk, hm, heq⟩
  · rw [heq, (h.lists_attributes scope).find?_eq_some_iff (by omega) (h.attributes_sorted scope)]
    constructor
    · rintro ⟨attr, uri, rfl, hattr, hfirst⟩
      refine .onElement hk hattr fun other uri' hother => ?_
      rcases hfirst other uri' hother with rfl | hlt <;> omega
    · intro hb
      cases hb with
      | onElement _ hattr hfirst =>
        refine ⟨_, _, rfl, hattr, fun other uri' hother => ?_⟩
        rcases Nat.lt_or_eq_of_le (hfirst other uri' hother) with hlt | rfl
        · exact .inr hlt
        · exact .inl rfl
      | inProlog hm' => exact absurd hm' (by simp [hm])
      | ofModule hm' => exact absurd hm' (by simp [hm])
  · have hsorted : (t.declarations scope).reverse.Pairwise (fun a e : Nat => e < a) :=
      List.pairwise_reverse.mpr (h.declarations_sorted scope)
    have hone : (t.child? .moduleDecl scope).toList.Pairwise (fun a e : Nat => a < e) := by
      cases t.child? .moduleDecl scope <;> simp
    rw [heq, List.find?_append, Option.or_eq_some_iff,
      (h.lists_declarations scope).find?_eq_some_iff (by omega) hsorted,
      (h.lists_declarations scope).find?_eq_none_iff,
      (lists_moduleDecl scope).find?_eq_some_iff (by omega) hone]
    constructor
    · rintro (⟨decl, uri, rfl, hbinds, hlast⟩ | ⟨hnone, decl, uri, rfl, ⟨hdecl, hbinds⟩, -⟩)
      · refine .inProlog hm hbinds fun other uri' hother => ?_
        rcases hlast other uri' hother with rfl | hlt <;> omega
      · exact .ofModule hm hnone hdecl hbinds
    · intro hb
      cases hb with
      | onElement hk' => exact absurd hk' hk
      | inProlog _ hbinds hlast =>
        refine .inl ⟨_, _, rfl, hbinds, fun other uri' hother => ?_⟩
        rcases Nat.lt_or_eq_of_le (hlast other uri' hother) with hlt | rfl
        · exact .inr hlt
        · exact .inl rfl
      | ofModule _ hnone hdecl hbinds =>
        refine .inr ⟨hnone, _, _, rfl, ⟨hdecl, hbinds⟩, ?_⟩
        rintro other uri' ⟨hother, -⟩
        exact .inl (Option.some.inj (hdecl.symm.trans hother))
  · rw [heq, List.find?_nil]
    simp only [reduceCtorEq, false_iff]
    intro hb
    cases hb with
    | onElement hk' => exact hk hk'
    | inProlog hm' => exact absurd hm' (by simp [hm])
    | ofModule hm' => exact absurd hm' (by simp [hm])

/-- A construct lists its complete declarations. -/
theorem mem_namespacesDeclaredBy_iff (h : t.Arena) : b ∈ t.namespacesDeclaredBy scope ↔
    ∃ decl p uri, t.DeclaresPrefix scope decl p uri ∧ b = ⟨p, uri, some decl⟩ := by
  rcases t.namespacesDeclaredBy_cases scope with
    ⟨hk, hm, heq⟩ | ⟨hk, hm, heq⟩ | ⟨hk, hm, heq⟩
  · rw [heq, (h.lists_attributes scope).mem_iff]
    constructor
    · rintro ⟨attr, p, uri, hattr, rfl⟩
      exact ⟨attr, p, uri, .onElement hk hattr, rfl⟩
    · rintro ⟨attr, p, uri, hattr, rfl⟩
      cases hattr with
      | onElement _ hattr => exact ⟨attr, p, uri, hattr, rfl⟩
      | inProlog hm' => exact absurd hm' (by simp [hm])
      | ofModule hm' => exact absurd hm' (by simp [hm])
  · rw [heq, List.mem_append, (h.lists_declarations scope).mem_iff,
      (lists_moduleDecl scope).mem_iff]
    constructor
    · rintro (⟨decl, p, uri, hbinds, rfl⟩ | ⟨decl, p, uri, ⟨hdecl, hbinds⟩, rfl⟩)
      · exact ⟨decl, p, uri, .inProlog hm hbinds, rfl⟩
      · exact ⟨decl, p, uri, .ofModule hm hdecl hbinds, rfl⟩
    · rintro ⟨decl, p, uri, hdecl, rfl⟩
      cases hdecl with
      | onElement hk' => exact absurd hk' hk
      | inProlog _ hbinds => exact .inl ⟨decl, p, uri, hbinds, rfl⟩
      | ofModule _ hdecl hbinds => exact .inr ⟨decl, p, uri, ⟨hdecl, hbinds⟩, rfl⟩
  · rw [heq]
    simp only [List.not_mem_nil, false_iff]
    rintro ⟨decl, p, uri, hdecl, -⟩
    cases hdecl with
    | onElement hk' => exact hk hk'
    | inProlog hm' => exact absurd hm' (by simp [hm])
    | ofModule hm' => exact absurd hm' (by simp [hm])

/-- No construct lists a declaration twice. -/
theorem namespacesDeclaredBy_distinct (h : t.Arena) (scope : Nat) :
    (t.namespacesDeclaredBy scope).Pairwise fun x y => x.declaredAt ≠ y.declaredAt := by
  rcases t.namespacesDeclaredBy_cases scope with
    ⟨hk, hm, heq⟩ | ⟨hk, hm, heq⟩ | ⟨hk, hm, heq⟩
  · rw [heq]
    exact (h.lists_attributes scope).distinct ((h.attributes_sorted scope).imp Nat.ne_of_lt)
  · have hnodup : (t.declarations scope).reverse.Nodup :=
      List.pairwise_reverse.mpr ((h.declarations_sorted scope).imp Nat.ne_of_gt)
    have hone : (t.child? .moduleDecl scope).toList.Nodup := by
      cases t.child? .moduleDecl scope <;> simp
    rw [heq, List.pairwise_append]
    refine ⟨(h.lists_declarations scope).distinct hnodup,
      (lists_moduleDecl scope).distinct hone, ?_⟩
    -- what stands in the prolog has the prolog as its parent, the module declaration the module
    intro x hx y hy hsame
    obtain ⟨decl, p, uri, ⟨⟨prolog, hprolog, hp⟩, -⟩, rfl⟩ :=
      (h.lists_declarations scope).mem_iff.mp hx
    obtain ⟨other, p', uri', ⟨hother, -⟩, rfl⟩ := (lists_moduleDecl scope).mem_iff.mp hy
    obtain rfl := Option.some.inj hsame
    rw [h.child?_parent hother, Option.some.injEq] at hp
    have hlt := h.parent_lt (h.child?_parent hprolog)
    omega
  · rw [heq]
    exact List.Pairwise.nil

/-! ## 4. The constructs around a node -/

/-- What the ancestors of a node are asked for: the innermost answer counts. -/
theorem findSome?_lineage_iff (h : t.Arena) {β : Type} {f : Nat → Option β} {x : β} :
    (t.lineage n).findSome? f = some x ↔ ∃ s ∈ t.lineage n, f s = some x ∧
      ∀ a ∈ t.lineage n, ∀ y, f a = some y → a ∈ t.lineage s := by
  have hfirst {x : β} (hx : (t.lineage n).findSome? f = some x) : ∃ s ∈ t.lineage n,
      f s = some x ∧ ∀ a ∈ t.lineage n, ∀ y, f a = some y → a ∈ t.lineage s := by
    obtain ⟨before, s, after, hline, hs, hbefore⟩ := List.findSome?_eq_some_iff.mp hx
    have hown : s :: after = t.lineage s := h.eq_lineage_of_suffix n ⟨before, hline.symm⟩
    refine ⟨s, by rw [hline]; simp, hs, fun a ha y hy => ?_⟩
    rw [hline, List.mem_append] at ha
    rcases ha with ha | ha
    · rw [hbefore a ha] at hy
      exact absurd hy (by simp)
    · exact hown ▸ ha
  refine ⟨hfirst, ?_⟩
  rintro ⟨s, hs, hx, hinner⟩
  cases hfind : (t.lineage n).findSome? f with
  | none =>
    rw [List.findSome?_eq_none_iff.mp hfind s hs] at hx
    exact absurd hx (by simp)
  | some y =>
    -- each of two innermost constructs holds the other
    obtain ⟨r, hr, hy, hinner'⟩ := hfirst hfind
    have hrs := h.le_of_mem_lineage (hinner r hr y hy)
    have hsr := h.le_of_mem_lineage (hinner' s hs x hx)
    rw [Nat.le_antisymm hsr hrs, hy] at hx
    exact hx

theorem find?_declaredNamespaces_iff (h : t.Arena) :
    (t.declaredNamespaces n).find? (·.nsPrefix == p) = some b ↔
      ∃ s ∈ t.lineage n, t.ScopeBinds s p b ∧
        ∀ a ∈ t.lineage n, ∀ b', t.ScopeBinds a p b' → a ∈ t.lineage s := by
  rw [declaredNamespaces, List.find?_flatMap, h.findSome?_lineage_iff]
  simp only [h.find?_namespacesDeclaredBy_iff]

theorem find?_declaredNamespaces_eq_none_iff (h : t.Arena) :
    (t.declaredNamespaces n).find? (·.nsPrefix == p) = none ↔
      ∀ a ∈ t.lineage n, ∀ b, ¬ t.ScopeBinds a p b := by
  rw [declaredNamespaces, List.find?_flatMap, List.findSome?_eq_none_iff]
  simp only [Option.eq_none_iff_forall_ne_some, Ne, h.find?_namespacesDeclaredBy_iff]

theorem mem_declaredNamespaces_iff (h : t.Arena) : b ∈ t.declaredNamespaces n ↔
    ∃ s ∈ t.lineage n, ∃ decl p uri, t.DeclaresPrefix s decl p uri ∧ b = ⟨p, uri, some decl⟩ := by
  simp only [declaredNamespaces, List.mem_flatMap, h.mem_namespacesDeclaredBy_iff]

/-- A declaration stands right below the module that it belongs to, or two steps below its scope and
below no module in between. -/
theorem parent_of_declaresPrefix (h : t.Arena) (hd : t.DeclaresPrefix scope decl p uri) :
    ∃ q, t.parent? decl = some q ∧
      ((t.kindIs Kind.isModule q = true ∧ q = scope) ∨
        (t.kindIs Kind.isModule q = false ∧ t.parent? q = some scope)) := by
  cases hd with
  | onElement _ hattr =>
    obtain ⟨list, hp, hk, hscope⟩ := hattr.inList
    exact ⟨list, hp, .inr ⟨by simp [kindIs, hk, Kind.isModule], hscope⟩⟩
  | inProlog _ hbinds =>
    obtain ⟨prolog, hprolog, hp⟩ := hbinds.inProlog
    exact ⟨prolog, hp,
      .inr ⟨by simp [kindIs, child?_kind hprolog, Kind.isModule], h.child?_parent hprolog⟩⟩
  | ofModule hm hdecl _ => exact ⟨scope, h.child?_parent hdecl, .inl ⟨hm, rfl⟩⟩

/-- So it belongs to one scope only. -/
theorem scope_eq_of_declaresPrefix (h : t.Arena) {p' uri' : String}
    (hd : t.DeclaresPrefix scope decl p uri) (hd' : t.DeclaresPrefix s decl p' uri') :
    scope = s := by
  obtain ⟨q, hq, hscope⟩ := h.parent_of_declaresPrefix hd
  obtain ⟨q', hq', hs⟩ := h.parent_of_declaresPrefix hd'
  obtain rfl := Option.some.inj (hq.symm.trans hq')
  rcases hscope with ⟨hm, rfl⟩ | ⟨hm, hp⟩
  · rcases hs with ⟨-, rfl⟩ | ⟨hm', -⟩
    · rfl
    · exact absurd hm (by simp [hm'])
  · rcases hs with ⟨hm', -⟩ | ⟨-, hp'⟩
    · exact absurd hm' (by simp [hm])
    · exact Option.some.inj (hp.symm.trans hp')

/-- **Each declaration around a node is listed once.** -/
theorem declaredNamespaces_distinct (h : t.Arena) (n : Nat) :
    ((t.declaredNamespaces n).map (·.declaredAt)).Nodup := by
  refine List.pairwise_map.mpr (List.pairwise_flatMap.mpr ⟨?_, ?_⟩)
  · intro scope _
    exact h.namespacesDeclaredBy_distinct scope
  · refine (h.lineage_sorted n).imp ?_
    intro outer inner hlt x hx y hy hsame
    obtain ⟨decl, p, uri, hd, rfl⟩ := h.mem_namespacesDeclaredBy_iff.mp hx
    obtain ⟨other, p', uri', hd', rfl⟩ := h.mem_namespacesDeclaredBy_iff.mp hy
    obtain rfl := Option.some.inj hsame
    have heq := h.scope_eq_of_declaresPrefix hd hd'
    omega

/-- What is in scope around a node stays in scope, behind what the node itself declares. -/
theorem namespaces_suffix (h : t.Arena) (hp : t.parent? n = some m) :
    t.namespaces d m <:+ t.namespaces d n := by
  refine ⟨t.namespacesDeclaredBy n, ?_⟩
  rw [namespaces, namespaces, declaredNamespaces, declaredNamespaces, h.lineage_child hp,
    List.flatMap_cons, List.append_assoc]

end Arena

end Tree

/-! ## 5. Predefined prefixes -/

namespace Vendor

variable {v : Vendor} {b : NamespaceBinding} {p : String}

/-- No processor binds a prefix twice. -/
theorem predefined_distinct (v : Vendor) : (v.predefined.map (·.1)).Nodup := by
  have hmerge {a b : List (String × String)} (h : ((a ++ b).map (·.1)).Nodup) :
      ((Predefined.merge a b).map (·.1)).Nodup :=
    ((List.merge_perm_append _).map _).nodup_iff.mpr h
  cases v with
  | w3c => decide +kernel
  | marklogic release => exact hmerge (by decide +kernel)
  | basex => exact hmerge (by decide +kernel)
  | saxon => exact hmerge (by decide +kernel)
  | existDb => exact hmerge (by decide +kernel)

theorem find?_bindings_iff : v.bindings.find? (·.nsPrefix == p) = some b ↔
    ∃ uri, (p, uri) ∈ v.predefined ∧ b = ⟨p, uri, none⟩ := by
  have hkey : (fun b : NamespaceBinding => b.nsPrefix == p) ∘
      (fun e : String × String => (⟨e.1, e.2, none⟩ : NamespaceBinding)) =
        fun e => decide (e.1 = p) := by
    funext e
    exact Bool.beq_eq_decide_eq e.1 p
  rw [bindings, List.find?_map, hkey, Option.map_eq_some_iff]
  simp only [find?_eq_some_iff_of_distinct v.predefined_distinct]
  constructor
  · rintro ⟨⟨q, uri⟩, ⟨hmem, rfl⟩, rfl⟩
    exact ⟨uri, hmem, rfl⟩
  · rintro ⟨uri, hmem, rfl⟩
    exact ⟨(p, uri), ⟨hmem, rfl⟩, rfl⟩

end Vendor

/-! ## 6. What a prefix stands for -/

namespace Tree.Arena

variable {t : Tree} {d : Dialect} {n : Nat} {p : String} {b : NamespaceBinding}

theorem resolvePrefix?_eq_some_iff (h : t.Arena) :
    t.resolvePrefix? d n p = some b ↔ t.Resolves d n p b := by
  rw [resolvePrefix?, namespaces, List.find?_append, Option.or_eq_some_iff,
    h.find?_declaredNamespaces_iff, h.find?_declaredNamespaces_eq_none_iff,
    Vendor.find?_bindings_iff]
  constructor
  · rintro (⟨s, hs, hbinds, hinner⟩ | ⟨hnone, uri, hmem, rfl⟩)
    · exact .declared hs hbinds hinner
    · exact .predefined hnone hmem
  · intro hb
    cases hb with
    | declared hs hbinds hinner => exact .inl ⟨_, hs, hbinds, hinner⟩
    | predefined hnone hmem => exact .inr ⟨hnone, _, hmem, rfl⟩

theorem resolvePrefix?_eq_none_iff (h : t.Arena) : t.resolvePrefix? d n p = none ↔
    (∀ a ∈ t.lineage n, ∀ b, ¬ t.ScopeBinds a p b) ∧ ∀ uri, (p, uri) ∉ d.vendor.predefined := by
  rw [resolvePrefix?, namespaces, List.find?_append, Option.or_eq_none_iff,
    h.find?_declaredNamespaces_eq_none_iff]
  refine and_congr_right fun _ => ?_
  simp only [Option.eq_none_iff_forall_ne_some, Ne, Vendor.find?_bindings_iff, not_exists, not_and]
  constructor
  · intro hnone uri hmem
    exact hnone _ uri hmem rfl
  · intro hnone b uri hmem _
    exact hnone uri hmem

/-- Only the bindings that a processor starts with are declared nowhere. -/
theorem filter_declared_namespaces (h : t.Arena) (d : Dialect) (n : Nat) :
    (t.namespaces d n).filter (·.declaredAt.isSome) = t.declaredNamespaces n := by
  have hdeclared : ∀ b ∈ t.declaredNamespaces n, b.declaredAt.isSome = true := by
    intro b hb
    obtain ⟨-, -, decl, p, uri, -, rfl⟩ := h.mem_declaredNamespaces_iff.mp hb
    rfl
  have hpredefined : ∀ b ∈ d.vendor.bindings, ¬ b.declaredAt.isSome = true := by
    intro b hb
    obtain ⟨pair, -, rfl⟩ := List.mem_map.mp hb
    exact Bool.false_ne_true
  rw [namespaces, List.filter_append, List.filter_eq_self.mpr hdeclared,
    List.filter_eq_nil_iff.mpr hpredefined, List.append_nil]

end Tree.Arena

/-- **A prefix stands for its innermost declaration.**  In every tree that a builder builds, a
prefix resolves to the binding of the innermost construct, from the node itself outwards, that
declares it, else to the processor's own, else to nothing.  What is in scope at a node is what is in
scope at its parent with more in front; it lists every complete declaration around the node once,
nothing else that is declared, and the processor's whole table at the end. -/
theorem resolvePrefix?_innermost {t : Tree} (ht : t.Built) (d : Dialect) (n : Nat) :
    (∀ p b, t.resolvePrefix? d n p = some b ↔ t.Resolves d n p b) ∧
    (∀ p, t.resolvePrefix? d n p = none ↔ (∀ a ∈ t.lineage n, ∀ b, ¬ t.ScopeBinds a p b) ∧
      ∀ uri, (p, uri) ∉ d.vendor.predefined) ∧
    (∀ m, t.parent? n = some m → t.namespaces d m <:+ t.namespaces d n) ∧
    ∃ declared, t.namespaces d n = declared ++ d.vendor.predefined.map (fun e => ⟨e.1, e.2, none⟩) ∧
      (∀ b, b ∈ declared ↔ ∃ s ∈ t.lineage n, ∃ decl p uri,
        t.DeclaresPrefix s decl p uri ∧ b = ⟨p, uri, some decl⟩) ∧
      (declared.map (·.declaredAt)).Nodup := by
  have h := ht.arena
  refine ⟨fun _ _ => h.resolvePrefix?_eq_some_iff, fun _ => h.resolvePrefix?_eq_none_iff,
    fun _ => h.namespaces_suffix, t.declaredNamespaces n, rfl, ?_, h.declaredNamespaces_distinct n⟩
  exact fun _ => h.mem_declaredNamespaces_iff

/-- A module whose prolog binds `p` twice and once more without a namespace, and in its query an
element with two lists of attributes that bind `p`, around another element. -/
def nestedScopesSteps : List Step :=
  [.start .mainModule, .start .moduleDecl, .token .ncName "p", .token .uriLiteral "urn:own",
    .finish, .start .prolog, .start .namespaceDecl, .token .ncName "p", .token .uriLiteral "urn:a",
    .finish, .start .moduleImport, .token .ncName "p", .token .uriLiteral "urn:b", .finish,
    .start .namespaceDecl, .token .ncName "p", .finish, .finish, .start .queryBody,
    .start .dirElemConstructor, .start .dirAttributeList, .start .dirAttribute,
    .token .attributeName "xmlns:p", .finish, .finish, .start .dirAttributeList,
    .start .dirAttribute, .token .attributeName " xmlns:p ", .token .dirAttributeValue "urn:x",
    .finish, .start .dirAttribute, .token .attributeName "xmlns:p",
    .token .dirAttributeValue "urn:y", .finish, .finish, .start .dirElemConstructor, .finish,
    .finish, .finish, .finish]

/-- The tree of the module: the query body is node 13, the inner element node 25. -/
def nestedScopesTree : Tree := (Builder.run {} nestedScopesSteps).tree

theorem nestedScopesTree_resolves : nestedScopesTree.Built ∧
    nestedScopesTree.Resolves {} 13 "p" ⟨"p", "urn:b", some 8⟩ ∧
    nestedScopesTree.Resolves {} 25 "p" ⟨"p", "urn:x", some 19⟩ := by
  have hbuilt : nestedScopesTree.Built := ⟨nestedScopesSteps, rfl⟩
  refine ⟨hbuilt, ?_, ?_⟩
  · exact ((resolvePrefix?_innermost hbuilt {} 13).1 _ _).mp (by decide +kernel)
  · exact ((resolvePrefix?_innermost hbuilt {} 25).1 _ _).mp (by decide +kernel)

end XQueryScope
