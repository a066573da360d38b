import XQueryScope.Proofs.Scope.DefaultStack

/-!
# What an attribute declares

An attribute of a direct element constructor declares a prefix, a default namespace, or nothing, and
its name as it is written decides which.  `Tree.PrefixForm` is the form `xmlns:p`,
`Tree.DefaultForm` the form of a default.  The main result is `attribute_declares`: an attribute
with a value adds to what is in scope inside its element exactly what the form of its name says, and
nothing outside.

A name is read twice: by the grammar of names, which tells the form, and by a cut at the first
colon, which gives the prefix that is declared.  The two agree on every name of the form `xmlns:p`.
The grammar has a form that neither the cut nor the rule for defaults looks at: of `Q{uri}xmlns`
only the local part counts, so it is a default like `xmlns` (`braced_xmlns_is_default`).
-/

namespace XQueryScope

namespace Tree

variable {t : Tree} {d : Dialect} {n s element attr : Nat} {p u uri : String} {kind : DefaultKind}

/-! ## 1. The form of a name -/

/-- `core` is the name of an attribute as it is written, without the blanks around it. -/
def Written (t : Tree) (attr : Nat) (core : List Char) : Prop :=
  ∃ text, t.childText? .attributeName attr = some text ∧ Text.Strips text.toList core

/-- The name of an attribute is `xmlns:p`. -/
structure PrefixForm (t : Tree) (attr : Nat) (p : String) : Prop where
  written : t.Written attr ("xmlns:".toList ++ p.toList)
  isPart : Name.Part p.toList

/-- The name of an attribute is `xmlns`, alone or behind a namespace in braces. -/
inductive DefaultForm (t : Tree) (attr : Nat) : Prop where
  | plain : t.Written attr "xmlns".toList → DefaultForm t attr
  | braced {space : List Char} : '\x7b' ∉ space → '\x7d' ∉ space →
      t.Written attr ('Q' :: '\x7b' :: (space ++ '\x7d' :: "xmlns".toList)) → DefaultForm t attr

theorem prefixForm_iff : t.PrefixForm attr p ↔
    ∃ text, t.childText? .attributeName attr = some text ∧
      Text.trim text.toList = "xmlns:".toList ++ p.toList ∧ Name.isSimple p.toList = true := by
  simp only [Text.trim_eq_iff, Name.isSimple_iff]
  constructor
  · rintro ⟨⟨text, htext, hstrips⟩, hpart⟩
    exact ⟨text, htext, hstrips, hpart⟩
  · rintro ⟨text, htext, hstrips, hpart⟩
    exact ⟨⟨text, htext, hstrips⟩, hpart⟩

theorem defaultForm_iff : t.DefaultForm attr ↔
    ∃ text name, t.childText? .attributeName attr = some text ∧ Name.parse? text = some name ∧
      name.nsPrefix = none ∧ name.localName = "xmlns" := by
  have hpart : Name.Part "xmlns".toList := Name.isSimple_iff.mp (by decide +kernel)
  constructor
  · intro h
    cases h with
    | plain hwritten =>
      obtain ⟨text, htext, hstrips⟩ := hwritten
      obtain ⟨name, hname, hform⟩ := Name.parse?_unprefixed_iff.mpr ⟨hpart, .inl hstrips⟩
      exact ⟨text, name, htext, hname, hform⟩
    | braced hopen hclose hwritten =>
      obtain ⟨text, htext, hstrips⟩ := hwritten
      obtain ⟨name, hname, hform⟩ :=
        Name.parse?_unprefixed_iff.mpr ⟨hpart, .inr ⟨_, hopen, hclose, hstrips⟩⟩
      exact ⟨text, name, htext, hname, hform⟩
  · rintro ⟨text, name, htext, hname, hform⟩
    obtain ⟨-, hstrips | ⟨space, hopen, hclose, hstrips⟩⟩ :=
      Name.parse?_unprefixed_iff.mp ⟨name, hname, hform⟩
    · exact .plain ⟨text, htext, hstrips⟩
    · exact .braced hopen hclose ⟨text, htext, hstrips⟩

/-- **The two readings of `xmlns:p` agree**: the grammar finds the prefix `xmlns` and the local name
that the cut at the first colon finds. -/
theorem PrefixForm.readings (h : t.PrefixForm attr p) :
    ∃ text name, t.childText? .attributeName attr = some text ∧ Name.parse? text = some name ∧
      name.nsPrefix = some "xmlns" ∧ name.localName = p ∧ Name.afterColon? text = some p := by
  obtain ⟨text, htext, htrim, hsimple⟩ := prefixForm_iff.mp h
  have hxmlns : Name.isSimple "xmlns".toList = true := by decide +kernel
  obtain ⟨name, hname, hprefix, rfl⟩ := Name.parse?_prefixed_iff.mpr ⟨htrim, hxmlns, hsimple⟩
  exact ⟨text, name, htext, hname, hprefix, rfl, Name.afterColon?_of_parse? hname hprefix⟩

/-! ## 2. The declarations of an attribute -/

/-- An attribute stands in a list of one element. -/
theorem element_eq
    (hs : ∃ list, t.parent? attr = some list ∧ t.kind? list = some .dirAttributeList ∧
      t.parent? list = some s)
    (helement : ∃ list, t.parent? attr = some list ∧ t.kind? list = some .dirAttributeList ∧
      t.parent? list = some element) : s = element := by
  obtain ⟨list, hlist, -, hs⟩ := hs
  obtain ⟨list', hlist', -, helement⟩ := helement
  cases hlist.symm.trans hlist'
  exact Option.some.inj (hs.symm.trans helement)

namespace Arena

/-- An attribute declares for its own element only, and no prefix but the one in its name. -/
theorem declaresPrefix_iff (h : t.Arena) (helement : t.kind? element = some .dirElemConstructor)
    (hattr : attr ∈ t.attributes element)
    (hvalue : t.childText? .dirAttributeValue attr = some uri) :
    t.DeclaresPrefix s attr p u ↔ s = element ∧ u = uri ∧ t.PrefixForm attr p := by
  obtain ⟨hlist, hkind⟩ := h.mem_attributes_iff.mp hattr
  rw [prefixForm_iff]
  constructor
  · intro hd
    -- a declaration of a module is of another kind than an attribute
    have hother : ¬ t.BindsPrefix attr p u := by
      intro hbinds
      have hnot := hbinds.nsPrefix
      simp [hkind] at hnot
    cases hd with
    | onElement _ hd =>
      exact ⟨element_eq hd.inList hlist, Option.some.inj (hd.value.symm.trans hvalue), hd.named⟩
    | inProlog _ hd => exact absurd hd.binds hother
    | ofModule _ _ hd => exact absurd hd hother
  · rintro ⟨rfl, rfl, hnamed⟩
    exact .onElement helement ⟨hlist, hkind, hnamed, hvalue⟩

/-- The same for defaults: an attribute declares the one for elements and types. -/
theorem declaresDefault_iff (h : t.Arena) (helement : t.kind? element = some .dirElemConstructor)
    (hattr : attr ∈ t.attributes element)
    (hvalue : t.childText? .dirAttributeValue attr = some uri) :
    t.DeclaresDefault s attr kind u ↔
      kind = .elementOrType ∧ s = element ∧ u = uri ∧ t.DefaultForm attr := by
  obtain ⟨hlist, hkind⟩ := h.mem_attributes_iff.mp hattr
  rw [defaultForm_iff]
  constructor
  · intro hd
    cases hd with
    | onElement _ hd =>
      exact ⟨rfl, element_eq hd.inList hlist, Option.some.inj (hd.value.symm.trans hvalue),
        hd.named⟩
    | inProlog _ hd =>
      cases hd.isAbout with
      | element hk => simp [hkind] at hk
      | function hk => simp [hkind] at hk
      | schema hk => simp [hkind] at hk
  · rintro ⟨rfl, rfl, rfl, hnamed⟩
    exact .onElement helement ⟨hlist, hkind, hnamed, hvalue⟩

/-- The bindings in scope that a node declares. -/
theorem mem_namespaces_iff (h : t.Arena) : ⟨p, u, some attr⟩ ∈ t.namespaces d n ↔
    ∃ s ∈ t.lineage n, t.DeclaresPrefix s attr p u := by
  have hpredefined : ⟨p, u, some attr⟩ ∉ d.vendor.bindings := by
    simp [Vendor.bindings]
  rw [namespaces, List.mem_append, or_iff_left hpredefined, h.mem_declaredNamespaces_iff]
  constructor
  · rintro ⟨s, hs, decl, q, v, hd, hb⟩
    cases hb
    exact ⟨s, hs, hd⟩
  · rintro ⟨s, hs, hd⟩
    exact ⟨s, hs, attr, p, u, hd, rfl⟩

/-- The defaults in force that a node declares. -/
theorem mem_defaults_iff (h : t.Arena) {e : DefaultKind} : ⟨e, u, some attr⟩ ∈ t.defaults kind n ↔
    e = kind ∧ ∃ s ∈ t.lineage n, t.DeclaresDefault s attr kind u := by
  have hfallback : ⟨e, u, some attr⟩ ∉ [kind.fallback] := by
    cases kind <;> simp [DefaultKind.fallback]
  rw [defaults_eq, List.mem_append, or_iff_left hfallback, h.mem_declaredDefaults_iff]
  constructor
  · rintro ⟨s, hs, decl, v, hd, he⟩
    cases he
    exact ⟨rfl, s, hs, hd⟩
  · rintro ⟨rfl, s, hs, hd⟩
    exact ⟨s, hs, attr, u, hd, rfl⟩

end Arena

end Tree

/-! ## 3. What is in scope -/

/-- **What an attribute declares.**  In every tree that a builder builds, let an attribute of a
direct element constructor have a value.  Then at the nodes inside the element, and nowhere else, it
binds the prefix `p` to its value iff its name is `xmlns:p`, blanks around it aside; that `p` is
what stands behind the first colon, and it is the local name that the grammar finds.  There and
nowhere else its value is a default for elements and types iff its name is `xmlns` or `Q{uri}xmlns`.
With any other name, or with none, it declares nothing. -/
theorem attribute_declares {t : Tree} (ht : t.Built) {element attr : Nat} {uri : String}
    (helement : t.kind? element = some .dirElemConstructor) (hattr : attr ∈ t.attributes element)
    (hvalue : t.childText? .dirAttributeValue attr = some uri) (d : Dialect) (n : Nat) :
    (∀ p u, ⟨p, u, some attr⟩ ∈ t.namespaces d n ↔
      element ∈ t.lineage n ∧ u = uri ∧ t.PrefixForm attr p) ∧
    (∀ p u, ⟨p, u, some attr⟩ ∈ t.namespaces d n →
      ∃ text name, t.childText? .attributeName attr = some text ∧ Name.parse? text = some name ∧
        name.nsPrefix = some "xmlns" ∧ name.localName = p ∧ Name.afterColon? text = some p) ∧
    (∀ wanted kind u, ⟨kind, u, some attr⟩ ∈ t.defaults wanted n ↔
      wanted = .elementOrType ∧ kind = .elementOrType ∧ element ∈ t.lineage n ∧ u = uri ∧
        t.DefaultForm attr) ∧
    ((∀ p, ¬ t.PrefixForm attr p) → ¬ t.DefaultForm attr →
      (∀ b ∈ t.namespaces d n, b.declaredAt ≠ some attr) ∧
        ∀ wanted, ∀ e ∈ t.defaults wanted n, e.declaredAt ≠ some attr) := by
  have h := ht.arena
  have hlisted {p u : String} : ⟨p, u, some attr⟩ ∈ t.namespaces d n ↔
      element ∈ t.lineage n ∧ u = uri ∧ t.PrefixForm attr p := by
    rw [h.mem_namespaces_iff]
    simp only [h.declaresPrefix_iff helement hattr hvalue]
    constructor
    · rintro ⟨s, hs, rfl, hform⟩
      exact ⟨hs, hform⟩
    · rintro ⟨hs, hform⟩
      exact ⟨element, hs, rfl, hform⟩
  have hdefault {wanted kind : DefaultKind} {u : String} :
      ⟨kind, u, some attr⟩ ∈ t.defaults wanted n ↔ wanted = .elementOrType ∧
        kind = .elementOrType ∧ element ∈ t.lineage n ∧ u = uri ∧ t.DefaultForm attr := by
    rw [h.mem_defaults_iff]
    simp only [h.declaresDefault_iff helement hattr hvalue]
    constructor
    · rintro ⟨rfl, s, hs, rfl, rfl, hform⟩
      exact ⟨rfl, rfl, hs, hform⟩
    · rintro ⟨rfl, rfl, hs, hform⟩
      exact ⟨rfl, element, hs, rfl, rfl, hform⟩
  refine ⟨fun p u => hlisted, fun p u hb => (hlisted.mp hb).2.2.readings,
    fun wanted kind u => hdefault, fun hno hnone => ⟨?_, ?_⟩⟩
  · rintro ⟨p, u, place⟩ hb hat
    cases hat
    exact hno p (hlisted.mp hb).2.2
  · rintro wanted ⟨kind, u, place⟩ he hat
    cases hat
    exact hnone (hdefault.mp he).2.2.2.2

/-- A query that is an element with two attributes: `xmlns:p` between blanks, and `xmlns` behind a
namespace in braces. -/
def attributedSteps : List Step :=
  [.start .mainModule, .start .queryBody, .start .dirElemConstructor, .start .dirAttributeList,
    .start .dirAttribute, .token .attributeName " xmlns:p\n", .token .dirAttributeValue "urn:p",
    .finish, .start .dirAttribute, .token .attributeName "Q\x7burn:x\x7dxmlns",
    .token .dirAttributeValue "urn:y", .finish, .finish, .finish, .finish, .finish]

/-- The tree of the query: the element is node 2, the attributes are nodes 4 and 7. -/
def attributedTree : Tree := (Builder.run {} attributedSteps).tree

theorem attributedTree_declares : attributedTree.Built ∧
    attributedTree.kind? 2 = some .dirElemConstructor ∧ 4 ∈ attributedTree.attributes 2 ∧
    attributedTree.childText? .dirAttributeValue 4 = some "urn:p" ∧
    attributedTree.PrefixForm 4 "p" ∧ ¬ attributedTree.DefaultForm 4 := by
  have hbuilt : attributedTree.Built := ⟨attributedSteps, rfl⟩
  have helement : attributedTree.kind? 2 = some .dirElemConstructor := by decide +kernel
  have hattr : 4 ∈ attributedTree.attributes 2 := by decide +kernel
  have hvalue : attributedTree.childText? .dirAttributeValue 4 = some "urn:p" := by decide +kernel
  obtain ⟨hlisted, -, hdefault, -⟩ := attribute_declares hbuilt helement hattr hvalue {} 2
  refine ⟨hbuilt, helement, hattr, hvalue, ?_, ?_⟩
  · exact ((hlisted "p" "urn:p").mp (by decide +kernel)).2.2
  · intro hform
    have hmem := (hdefault .elementOrType .elementOrType "urn:p").mpr
      ⟨rfl, rfl, by decide +kernel, rfl, hform⟩
    exact absurd hmem (by decide +kernel)

/-- **`Q{urn:x}xmlns` sets a default**, though it is not `xmlns`. -/
theorem braced_xmlns_is_default :
    attributedTree.childText? .attributeName 7 = some "Q\x7burn:x\x7dxmlns" ∧
    7 ∈ attributedTree.attributes 2 ∧
    attributedTree.childText? .dirAttributeValue 7 = some "urn:y" ∧
    ¬ (⟨.elementOrType, "urn:y", some 7⟩ ∈ attributedTree.defaults .elementOrType 2 ↔
      attributedTree.Written 7 "xmlns".toList) := by
  have htext : attributedTree.childText? .attributeName 7 = some "Q\x7burn:x\x7dxmlns" := by
    decide +kernel
  refine ⟨htext, by decide +kernel, by decide +kernel, fun hiff => ?_⟩
  obtain ⟨text, htext', hstrips⟩ := hiff.mp (by decide +kernel)
  cases htext.symm.trans htext'
  exact absurd (Text.trim_eq_iff.mpr hstrips) (by decide +kernel)

end XQueryScope
