import XQueryScope.Proofs.Scope.Prefixes

/-!
# The stack of default namespaces

The declarations of a default namespace, said by rules.  A direct element constructor declares the
default for elements and types by an attribute `xmlns` with a value (`Tree.DefaultAttribute`), a
module declares either default in its first prolog (`Tree.PrologDefault`).  A construct with several
declarations has an order for them (`Tree.CountsBefore`): on an element the first attribute counts,
in a prolog the last declaration does.

The defaults of a kind at a node form a stack.  The main result is `defaults_stack`: the stack lists
the declarations around the node, each of them once, from the innermost construct outwards
(`Tree.Outranks`), and one fallback under them.  So what it has on top is the default that is in
force (`Tree.DefaultsTo`).  Incomplete declarations are no declarations here: they neither stand in
the stack nor end it.
-/

namespace XQueryScope

namespace Tree

variable {t : Tree} {n m s scope attr decl : Nat} {kind : DefaultKind} {uri : String}
  {e : DefaultNamespace}

/-! ## 1. Declarations of a default -/

/-- `attr` is an attribute of the constructor `scope`, in whichever of its attribute lists, its name
is `xmlns` without a prefix, and it has the value `uri`. -/
structure DefaultAttribute (t : Tree) (scope attr : Nat) (uri : String) : Prop where
  inList : ∃ list, t.parent? attr = some list ∧ t.kind? list = some .dirAttributeList ∧
    t.parent? list = some scope
  isAttribute : t.kind? attr = some .dirAttribute
  named : ∃ text name, t.childText? .attributeName attr = some text ∧
    Name.parse? text = some name ∧ name.nsPrefix = none ∧ name.localName = "xmlns"
  value : t.childText? .dirAttributeValue attr = some uri

/-- `decl` is about the default of a kind.  A schema import is about elements and types only. -/
inductive IsAbout (t : Tree) (decl : Nat) : DefaultKind → Prop where
  | element : t.kind? decl = some .defaultNamespaceDecl →
      t.childText? .defaultNamespaceKind decl = some "element" → IsAbout t decl .elementOrType
  | function : t.kind? decl = some .defaultNamespaceDecl →
      t.childText? .defaultNamespaceKind decl = some "function" → IsAbout t decl .function
  | schema {part : Nat} : t.kind? decl = some .schemaImport →
      t.child? .schemaPrefix decl = some part →
      t.childText? .defaultNamespaceKind part = some "element" → IsAbout t decl .elementOrType

/-- `decl` stands in the first prolog of the module `scope`, is about the default of a kind, and has
the namespace `uri`. -/
structure PrologDefault (t : Tree) (scope decl : Nat) (kind : DefaultKind) (uri : String) :
    Prop where
  inProlog : ∃ prolog, t.child? .prolog scope = some prolog ∧ t.parent? decl = some prolog
  isAbout : t.IsAbout decl kind
  uri : t.childText? .uriLiteral decl = some uri

/-- `decl` is a complete declaration of a default in the construct `scope`. -/
inductive DeclaresDefault (t : Tree) (scope : Nat) : Nat → DefaultKind → String → Prop where
  | onElement {attr : Nat} {uri : String} : t.kind? scope = some .dirElemConstructor →
      t.DefaultAttribute scope attr uri → DeclaresDefault t scope attr .elementOrType uri
  | inProlog {decl : Nat} {kind : DefaultKind} {uri : String} :
      t.kindIs Kind.isModule scope = true → t.PrologDefault scope decl kind uri →
      DeclaresDefault t scope decl kind uri

/-- Of two declarations in the construct `scope`, `a` counts before `b`. -/
inductive CountsBefore (t : Tree) (scope a b : Nat) : Prop where
  | onElement : t.kind? scope = some .dirElemConstructor → a < b → CountsBefore t scope a b
  | inProlog : t.kindIs Kind.isModule scope = true → b < a → CountsBefore t scope a b

/-- `e` and `e'` are declared defaults, `e` in a construct further in, or in the same construct and
so that it counts before `e'`. -/
inductive Outranks (t : Tree) (e e' : DefaultNamespace) : Prop where
  | intro {s s' decl decl' : Nat} : t.DeclaresDefault s decl e.kind e.uri →
      e.declaredAt = some decl → t.DeclaresDefault s' decl' e'.kind e'.uri →
      e'.declaredAt = some decl' →
      (s' ≠ s ∧ s' ∈ t.lineage s) ∨ (s' = s ∧ t.CountsBefore s decl decl') → Outranks t e e'

/-- `e` is the default of a kind that is in force at the node `n`. -/
inductive DefaultsTo (t : Tree) (kind : DefaultKind) (n : Nat) : DefaultNamespace → Prop where
  /-- The innermost construct with a declaration counts, and in it the declaration that counts
  before all others. -/
  | declared {s decl : Nat} {uri : String} : s ∈ t.lineage n →
      t.DeclaresDefault s decl kind uri →
      (∀ a ∈ t.lineage n, ∀ other uri', t.DeclaresDefault a other kind uri' → a ∈ t.lineage s) →
      (∀ other uri', t.DeclaresDefault s other kind uri' →
        other = decl ∨ t.CountsBefore s decl other) →
      DefaultsTo t kind n ⟨kind, uri, some decl⟩
  /-- If there is none, the fallback counts. -/
  | fallback : (∀ a ∈ t.lineage n, ∀ decl uri, ¬ t.DeclaresDefault a decl kind uri) →
      DefaultsTo t kind n kind.fallback

/-! ## 2. What a construct lists -/

theorem defaultAttribute?_eq_some_iff : t.defaultAttribute? attr = some e ↔
    (∃ text name, t.childText? .attributeName attr = some text ∧ Name.parse? text = some name ∧
      name.nsPrefix = none ∧ name.localName = "xmlns") ∧
    t.childText? .dirAttributeValue attr = some e.uri ∧
    e = ⟨.elementOrType, e.uri, some attr⟩ := by
  simp only [defaultAttribute?, attributeName?, Option.bind_eq_bind, Option.bind_eq_some_iff]
  constructor
  · rintro ⟨name, ⟨text, htext, hname⟩, uri, huri, he⟩
    split at he
    · rename_i hxmlns
      cases he
      simp only [Bool.and_eq_true, Option.isNone_iff_eq_none, beq_iff_eq] at hxmlns
      exact ⟨⟨text, name, htext, hname, hxmlns⟩, huri, rfl⟩
    · cases he
  · rintro ⟨⟨text, name, htext, hname, hbare, hlocal⟩, huri, he⟩
    refine ⟨name, ⟨text, htext, hname⟩, e.uri, huri, ?_⟩
    rw [he]
    simp [hbare, hlocal]

theorem declaredDefaultKind?_eq_some_iff : t.declaredDefaultKind? decl = some kind ↔
    t.IsAbout decl kind := by
  constructor
  · intro h
    unfold declaredDefaultKind? at h
    split at h
    · rename_i hk
      split at h
      · rename_i htext
        cases h
        exact .element hk htext
      · rename_i htext
        cases h
        exact .function hk htext
      · cases h
    · rename_i hk
      split at h
      · rename_i htext
        cases h
        obtain ⟨part, hpart, htext⟩ := Option.bind_eq_some_iff.mp htext
        exact .schema hk hpart htext
      · cases h
    · cases h
  · intro h
    cases h with
    | element hk htext => simp [declaredDefaultKind?, hk, htext]
    | function hk htext => simp [declaredDefaultKind?, hk, htext]
    | schema hk hpart htext => simp [declaredDefaultKind?, hk, hpart, htext]

theorem declaredDefault?_eq_some_iff : t.declaredDefault? decl = some e ↔
    t.IsAbout decl e.kind ∧ t.childText? .uriLiteral decl = some e.uri ∧
      e.declaredAt = some decl := by
  simp only [declaredDefault?, Option.bind_eq_bind, Option.bind_eq_some_iff,
    declaredDefaultKind?_eq_some_iff]
  constructor
  · rintro ⟨kind, hkind, uri, huri, he⟩
    cases he
    exact ⟨hkind, huri, rfl⟩
  · rintro ⟨hkind, huri, hat⟩
    exact ⟨_, hkind, _, huri, by rw [← hat]⟩

/-- What a construct lists depends on which of the two kinds of scope it is, if it is one. -/
theorem defaultsDeclaredBy_cases (t : Tree) (scope : Nat) :
    (t.kind? scope = some .dirElemConstructor ∧ t.kindIs Kind.isModule scope = false ∧
      t.defaultsDeclaredBy scope = (t.attributes scope).filterMap t.defaultAttribute?) ∨
    (t.kind? scope ≠ some .dirElemConstructor ∧ t.kindIs Kind.isModule scope = true ∧
      t.defaultsDeclaredBy scope =
        (t.declarations scope).reverse.filterMap t.declaredDefault?) ∨
    (t.kind? scope ≠ some .dirElemConstructor ∧ t.kindIs Kind.isModule scope = false ∧
      t.defaultsDeclaredBy scope = []) := by
  unfold defaultsDeclaredBy kindIs
  split
  · rename_i hk
    exact .inl ⟨hk, by simp [hk, Kind.isModule], rfl⟩
  · rename_i hk
    exact .inr (.inl ⟨by simp [hk], by simp [hk, Kind.isModule], rfl⟩)
  · rename_i hk
    exact .inr (.inl ⟨by simp [hk], by simp [hk, Kind.isModule], rfl⟩)
  · rename_i hconstructor hmain hlibrary
    refine .inr (.inr ⟨hconstructor, ?_, rfl⟩)
    have hnot := mt Arena.kindIs_isModule_iff.mp (not_or.mpr ⟨hmain, hlibrary⟩)
    exact Bool.eq_false_iff.mpr hnot

namespace Arena

/-- A construct lists its complete declarations. -/
theorem mem_defaultsDeclaredBy_iff (h : t.Arena) : e ∈ t.defaultsDeclaredBy scope ↔
    ∃ decl, t.DeclaresDefault scope decl e.kind e.uri ∧ e.declaredAt = some decl := by
  rcases t.defaultsDeclaredBy_cases scope with ⟨hk, hm, heq⟩ | ⟨hk, hm, heq⟩ | ⟨hk, hm, heq⟩
  · simp only [heq, List.mem_filterMap, h.mem_attributes_iff, defaultAttribute?_eq_some_iff]
    constructor
    · rintro ⟨attr, ⟨hlist, hattr⟩, hname, huri, he⟩
      rw [he]
      exact ⟨attr, .onElement hk ⟨hlist, hattr, hname, huri⟩, rfl⟩
    · rintro ⟨decl, hd, hat⟩
      generalize hkind : e.kind = kind at hd
      cases hd with
      | onElement _ hattr =>
        refine ⟨decl, ⟨hattr.inList, hattr.isAttribute⟩, hattr.named, hattr.value, ?_⟩
        rw [← hkind, ← hat]
      | inProlog hm' => simp [hm] at hm'
  · simp only [heq, List.mem_filterMap, List.mem_reverse, h.mem_declarations_iff_parent,
      declaredDefault?_eq_some_iff]
    constructor
    · rintro ⟨decl, hprolog, hkind, huri, hat⟩
      exact ⟨decl, .inProlog hm ⟨hprolog, hkind, huri⟩, hat⟩
    · rintro ⟨decl, hd, hat⟩
      generalize e.kind = kind at hd ⊢
      cases hd with
      | onElement hk' => exact absurd hk' hk
      | inProlog _ hdecl => exact ⟨decl, hdecl.inProlog, hdecl.isAbout, hdecl.uri, hat⟩
  · simp only [heq, List.not_mem_nil, false_iff]
    rintro ⟨decl, hd, -⟩
    generalize e.kind = kind at hd
    cases hd with
    | onElement hk' => exact hk hk'
    | inProlog hm' => simp [hm] at hm'

/-- It lists them so that each counts before those behind it. -/
theorem defaultsDeclaredBy_ordered (h : t.Arena) (scope : Nat) :
    (t.defaultsDeclaredBy scope).Pairwise fun e e' => ∀ a b : Nat, e.declaredAt = some a →
      e'.declaredAt = some b → t.CountsBefore scope a b := by
  rcases t.defaultsDeclaredBy_cases scope with ⟨hk, hm, heq⟩ | ⟨hk, hm, heq⟩ | ⟨hk, hm, heq⟩
  · rw [heq]
    refine List.pairwise_filterMap.mpr ((h.attributes_sorted scope).imp ?_)
    intro attr other hlt e he e' he' a b ha hb
    rw [(defaultAttribute?_eq_some_iff.mp he).2.2] at ha
    rw [(defaultAttribute?_eq_some_iff.mp he').2.2] at hb
    cases ha
    cases hb
    exact .onElement hk hlt
  · rw [heq]
    refine List.pairwise_filterMap.mpr (List.pairwise_reverse.mpr
      ((h.declarations_sorted scope).imp ?_))
    intro other decl hlt e he e' he' a b ha hb
    rw [(declaredDefault?_eq_some_iff.mp he).2.2] at ha
    rw [(declaredDefault?_eq_some_iff.mp he').2.2] at hb
    cases ha
    cases hb
    exact .inProlog hm hlt
  · rw [heq]
    exact List.Pairwise.nil

/-! ## 3. The constructs around a node -/

/-- A declaration stands two steps below its scope, so it has one scope only. -/
theorem scope_eq_of_declaresDefault (h : t.Arena) {kind' : DefaultKind} {uri' : String}
    (hd : t.DeclaresDefault scope decl kind uri) (hd' : t.DeclaresDefault s decl kind' uri') :
    scope = s := by
  have hsteps {scope : Nat} {kind : DefaultKind} {uri : String}
      (hd : t.DeclaresDefault scope decl kind uri) :
      (t.parent? decl).bind t.parent? = some scope := by
    cases hd with
    | onElement _ hattr =>
      obtain ⟨list, hp, -, hscope⟩ := hattr.inList
      rw [hp, Option.bind_some, hscope]
    | inProlog _ hdecl =>
      obtain ⟨prolog, hprolog, hp⟩ := hdecl.inProlog
      rw [hp, Option.bind_some, h.child?_parent hprolog]
  exact Option.some.inj ((hsteps hd).symm.trans (hsteps hd'))

end Arena

/-- The declared defaults of a kind in the stack at a node. -/
def declaredDefaults (t : Tree) (kind : DefaultKind) (n : NodeId) : List DefaultNamespace :=
  ((t.lineage n).flatMap t.defaultsDeclaredBy).filter (·.kind == kind)

theorem defaults_eq : t.defaults kind n = t.declaredDefaults kind n ++ [kind.fallback] := rfl

namespace Arena

theorem mem_declaredDefaults_iff (h : t.Arena) : e ∈ t.declaredDefaults kind n ↔
    ∃ s ∈ t.lineage n, ∃ decl uri, t.DeclaresDefault s decl kind uri ∧
      e = ⟨kind, uri, some decl⟩ := by
  simp only [declaredDefaults, List.mem_filter, List.mem_flatMap, h.mem_defaultsDeclaredBy_iff,
    beq_iff_eq]
  constructor
  · rintro ⟨⟨s, hs, decl, hd, hat⟩, rfl⟩
    exact ⟨s, hs, decl, e.uri, hd, by rw [← hat]⟩
  · rintro ⟨s, hs, decl, uri, hd, rfl⟩
    exact ⟨⟨s, hs, decl, hd, rfl⟩, rfl⟩

/-- **The order of the stack.**  Inside a construct it is the construct's order, and a later
construct is further out. -/
theorem declaredDefaults_ordered (h : t.Arena) (kind : DefaultKind) (n : Nat) :
    (t.declaredDefaults kind n).Pairwise t.Outranks := by
  refine List.Pairwise.filter _ (List.pairwise_flatMap.mpr ⟨?_, ?_⟩)
  · intro s _
    refine (h.defaultsDeclaredBy_ordered s).imp_of_mem ?_
    intro e e' he he' hcounts
    obtain ⟨decl, hd, hat⟩ := h.mem_defaultsDeclaredBy_iff.mp he
    obtain ⟨decl', hd', hat'⟩ := h.mem_defaultsDeclaredBy_iff.mp he'
    exact .intro hd hat hd' hat' (.inr ⟨rfl, hcounts decl decl' hat hat'⟩)
  · refine List.Pairwise.imp_of_mem ?_ (h.lineage_sorted n)
    intro s s' hs hs' hlt e he e' he'
    obtain ⟨decl, hd, hat⟩ := h.mem_defaultsDeclaredBy_iff.mp he
    obtain ⟨decl', hd', hat'⟩ := h.mem_defaultsDeclaredBy_iff.mp he'
    have hout : s' ∈ t.lineage s := by
      rcases h.lineage_total hs hs' with hin | hin
      · have hle := h.le_of_mem_lineage hin
        omega
      · exact hin
    exact .intro hd hat hd' hat' (.inl ⟨Nat.ne_of_lt hlt, hout⟩)

/-- How two declarations are ranked, given the scopes that they belong to. -/
theorem rank_of_outranks (h : t.Arena) {s' decl' : Nat} {kind' : DefaultKind} {uri' : String}
    (hd : t.DeclaresDefault s decl kind uri) (hd' : t.DeclaresDefault s' decl' kind' uri')
    (ho : t.Outranks ⟨kind, uri, some decl⟩ ⟨kind', uri', some decl'⟩) :
    (s' ≠ s ∧ s' ∈ t.lineage s) ∨ (s' = s ∧ t.CountsBefore s decl decl') := by
  cases ho with
  | intro ha hat hb hat' hrank =>
    cases hat
    cases hat'
    obtain rfl := h.scope_eq_of_declaresDefault ha hd
    obtain rfl := h.scope_eq_of_declaresDefault hb hd'
    exact hrank

theorem declaredAt_ne_of_outranks (h : t.Arena) {e e' : DefaultNamespace} (ho : t.Outranks e e') :
    e.declaredAt ≠ e'.declaredAt := by
  intro hsame
  cases ho with
  | intro hd hat hd' hat' hrank =>
    rw [hat, hat', Option.some.injEq] at hsame
    subst hsame
    rcases hrank with ⟨hne, -⟩ | ⟨-, hcounts⟩
    · exact hne (h.scope_eq_of_declaresDefault hd' hd)
    · cases hcounts with
      | onElement _ hlt => omega
      | inProlog _ hlt => omega

/-- Each declaration around a node is in the stack once. -/
theorem declaredDefaults_distinct (h : t.Arena) (kind : DefaultKind) (n : Nat) :
    ((t.declaredDefaults kind n).map (·.declaredAt)).Nodup := by
  refine List.pairwise_map.mpr ((h.declaredDefaults_ordered kind n).imp ?_)
  intro e e' ho
  exact h.declaredAt_ne_of_outranks ho

/-- The stack around a node is the end of the stack at the node. -/
theorem defaults_suffix (h : t.Arena) (hp : t.parent? n = some m) :
    t.defaults kind m <:+ t.defaults kind n := by
  refine ⟨(t.defaultsDeclaredBy n).filter (·.kind == kind), ?_⟩
  rw [defaults, defaults, h.lineage_child hp, List.flatMap_cons, List.filter_append,
    List.append_assoc]

/-! ## 4. The top of the stack -/

/-- Where another declaration stands that is in scope together with the top of the stack. -/
theorem rank_under_top (h : t.Arena) {rest : List DefaultNamespace}
    (hstack : t.declaredDefaults kind n = ⟨kind, uri, some decl⟩ :: rest)
    (hd : t.DeclaresDefault s decl kind uri) {a other : Nat} {uri' : String}
    (ha : a ∈ t.lineage n) (hother : t.DeclaresDefault a other kind uri') :
    (a = s ∧ other = decl) ∨ (a ≠ s ∧ a ∈ t.lineage s) ∨
      (a = s ∧ t.CountsBefore s decl other) := by
  have hordered := h.declaredDefaults_ordered kind n
  have hmem := h.mem_declaredDefaults_iff.mpr ⟨a, ha, other, uri', hother, rfl⟩
  rw [hstack] at hordered hmem
  rcases List.mem_cons.mp hmem with hsame | hrest
  · cases hsame
    exact .inl ⟨h.scope_eq_of_declaresDefault hother hd, rfl⟩
  · exact .inr (h.rank_of_outranks hd hother ((List.pairwise_cons.mp hordered).1 _ hrest))

/-- **The top of the stack is the default in force.** -/
theorem head?_defaults (h : t.Arena) (kind : DefaultKind) (n : Nat) :
    ∃ e, (t.defaults kind n).head? = some e ∧ t.DefaultsTo kind n e := by
  rw [defaults_eq]
  cases hstack : t.declaredDefaults kind n with
  | nil =>
    refine ⟨kind.fallback, rfl, .fallback ?_⟩
    intro a ha decl uri hd
    have hmem := h.mem_declaredDefaults_iff.mpr ⟨a, ha, decl, uri, hd, rfl⟩
    rw [hstack] at hmem
    exact List.not_mem_nil hmem
  | cons top rest =>
    have htop : top ∈ t.declaredDefaults kind n := by simp [hstack]
    obtain ⟨s, hs, decl, uri, hd, rfl⟩ := h.mem_declaredDefaults_iff.mp htop
    refine ⟨⟨kind, uri, some decl⟩, rfl, .declared hs hd ?_ ?_⟩
    · intro a ha other uri' hother
      rcases h.rank_under_top hstack hd ha hother with ⟨rfl, -⟩ | ⟨-, hout⟩ | ⟨rfl, -⟩
      · exact h.self_mem_lineage a
      · exact hout
      · exact h.self_mem_lineage a
    · intro other uri' hother
      rcases h.rank_under_top hstack hd hs hother with ⟨-, rfl⟩ | ⟨hne, -⟩ | ⟨-, hcounts⟩
      · exact .inl rfl
      · exact absurd rfl hne
      · exact .inr hcounts

end Arena

end Tree

/-- **The stack of defaults.**  In every tree that a builder builds, the defaults of a kind at a
node are its complete declarations around the node and one fallback under them.  Each declaration is
there once, those of inner constructs before those of outer ones; the stack of the parent is the end
of the stack; and on top is the declaration that counts of the innermost construct that has one, or
the fallback if none has. -/
theorem defaults_stack {t : Tree} (ht : t.Built) (kind : DefaultKind) (n : Nat) :
    (∃ declared, t.defaults kind n = declared ++ [kind.fallback] ∧
      (∀ e, e ∈ declared ↔ ∃ s ∈ t.lineage n, ∃ decl uri,
        t.DeclaresDefault s decl kind uri ∧ e = ⟨kind, uri, some decl⟩) ∧
      (declared.map (·.declaredAt)).Nodup ∧ declared.Pairwise t.Outranks) ∧
    (kind.fallback.kind = kind ∧ kind.fallback.declaredAt = none ∧
      DefaultKind.elementOrType.fallback.uri = "" ∧
      DefaultKind.function.fallback.uri = "http://www.w3.org/2005/xpath-functions") ∧
    (∀ m, t.parent? n = some m → t.defaults kind m <:+ t.defaults kind n) ∧
    ∃ e, (t.defaults kind n).head? = some e ∧ t.DefaultsTo kind n e := by
  have h := ht.arena
  refine ⟨⟨t.declaredDefaults kind n, rfl, fun _ => h.mem_declaredDefaults_iff,
    h.declaredDefaults_distinct kind n, h.declaredDefaults_ordered kind n⟩, ?_,
    fun _ => h.defaults_suffix, h.head?_defaults kind n⟩
  cases kind <;> exact ⟨rfl, rfl, rfl, rfl⟩

/-- A module that declares the default for elements, imports a schema as that default, declares it
once more without a namespace, and declares the default for functions.  In its query stands an
element with `xmlns` in each of two lists of attributes, first for no namespace, around another
element. -/
def layeredSteps : List Step :=
  [.start .mainModule, .start .prolog,
    .start .defaultNamespaceDecl, .token .defaultNamespaceKind "element",
    .token .uriLiteral "urn:a", .finish,
    .start .schemaImport, .start .schemaPrefix, .token .defaultNamespaceKind "element", .finish,
    .token .uriLiteral "urn:b", .finish,
    .start .defaultNamespaceDecl, .token .defaultNamespaceKind "element", .finish,
    .start .defaultNamespaceDecl, .token .defaultNamespaceKind "function",
    .token .uriLiteral "urn:f", .finish, .finish,
    .start .queryBody, .start .dirElemConstructor,
    .start .dirAttributeList, .start .dirAttribute, .token .attributeName "xmlns",
    .token .dirAttributeValue "", .finish, .finish,
    .start .dirAttributeList, .start .dirAttribute, .token .attributeName "xmlns",
    .token .dirAttributeValue "urn:c", .finish, .finish,
    .start .dirElemConstructor, .finish, .finish, .finish, .finish]

/-- The tree of the module: the inner element is node 24. -/
def layeredTree : Tree := (Builder.run {} layeredSteps).tree

theorem layeredTree_stacks : layeredTree.Built ∧
    (layeredTree.defaults .elementOrType 24).map (fun e => (e.uri, e.declaredAt)) =
      [("", some 17), ("urn:c", some 21), ("urn:b", some 5), ("urn:a", some 2), ("", none)] ∧
    (layeredTree.defaults .function 24).map (·.declaredAt) = [some 11, none] ∧
    layeredTree.DefaultsTo .elementOrType 24 ⟨.elementOrType, "", some 17⟩ := by
  have hbuilt : layeredTree.Built := ⟨layeredSteps, rfl⟩
  obtain ⟨-, -, -, e, he, hdefault⟩ := defaults_stack hbuilt .elementOrType 24
  have htop : (layeredTree.defaults .elementOrType 24).head? =
      some ⟨.elementOrType, "", some 17⟩ := by decide +kernel
  cases he.symm.trans htop
  exact ⟨hbuilt, by decide +kernel, by decide +kernel, hdefault⟩

end XQueryScope
