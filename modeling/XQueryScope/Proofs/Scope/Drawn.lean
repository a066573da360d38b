import Mathlib.Data.List.Basic
import XQueryScope.Proofs.Scope.Candidates
import XQueryScope.Proofs.Scope.Order
import XQueryScope.Proofs.Tree.Subtree

/-!
# Scopes read off an outline

What a tree shows at a node can be read off the outline that it draws there.  For every resolver
whose answer depends on the shape of a construct there is a function on outlines, and a lemma that
the two agree: the names of the variables of a binding (`Draws.map_bindingVariables`), and the
declarations of a module with their prefixes and variables (`Draws.map_declarations`,
`Draws.map_declaredNamespace?`, `Draws.map_prologVariables`).

`Tree.Leads` says what comes into scope between a node and one below it.  It composes, so what a
nest of constructs shows follows from what a single one shows (`Leads.child`, `Leads.trans`); and
since nothing on the way declares a namespace, the declared prefixes, the defaults and the module
are the same at both ends.
-/

namespace XQueryScope

/-! ## 1. Variables -/

namespace Outline

/-- The names of the variable that a declaration has: one, or none. -/
def ownNames (o : Outline) : List Name := ((o.childText? .varName).bind Name.parse?).toList

/-- The names of a binding's variables. -/
def bindingNames (o : Outline) : List Name :=
  if o.kind.isBinding then o.ownNames ++ (o.child? .positionalVar).elim [] ownNames else []

end Outline

namespace Tree

variable {t : Tree} {i : Nat} {o : Outline}

/-- What nodes list one after the other is what their outlines list. -/
theorem map_flatMap_of_outlines {α β : Type} {as : List Nat} {os : List Outline}
    (hmap : as.map t.outlineAt = os) {f : Nat → List α} {g : Outline → List β} {e : α → β}
    (hf : ∀ a ∈ as, (f a).map e = g (t.outlineAt a)) : (as.flatMap f).map e = os.flatMap g := by
  rw [← hmap, List.map_flatMap, List.flatMap_map]
  exact List.flatMap_congr hf

namespace Draws

theorem map_ownVariable (hd : t.Draws i o) (h : t.Arena) :
    (t.ownVariable i).map (·.name) = o.ownNames := by
  rw [Outline.ownNames, ← hd.childText?_eq h, childText?, ownVariable]
  cases t.child? .varName i with
  | none => rfl
  | some token =>
    simp only [Option.bind_some]
    cases (t.text? token).bind Name.parse? with
    | none => rfl
    | some name => rfl

theorem map_bindingVariables (hd : t.Draws i o) (h : t.Arena) :
    (t.bindingVariables i).map (·.name) = o.bindingNames := by
  rw [bindingVariables, Outline.bindingNames, hd.kindIs_eq h]
  split
  · rw [List.map_append, hd.map_ownVariable h]
    congr 1
    rcases hd.child?_cases h .positionalVar with ⟨hc, hx⟩ | ⟨c, x, hc, hx, hcx⟩
    · rw [hc, hx]
      rfl
    · rw [hc, hx]
      exact hcx.map_ownVariable h
  · rfl

end Draws

end Tree

/-! ## 2. Declarations of a prolog -/

namespace Outline

/-- The declarations of a module: the children of its first prolog. -/
def declarations (o : Outline) : List Outline := (o.child? .prolog).elim [] children

/-- The prefix that a declaration binds. -/
def declaredPrefix? (o : Outline) : Option String :=
  match o.kind with
  | .namespaceDecl | .moduleImport | .moduleDecl => o.childText? .ncName
  | .schemaImport => (o.child? .schemaPrefix).bind (childText? .ncName)
  | _ => none

/-- The prefix and the URI of a declaration that has both. -/
def declaredPair? (o : Outline) : Option (String × String) := do
  let p ← o.declaredPrefix?
  let uri ← o.childText? .uriLiteral
  some (p, uri)

end Outline

namespace Tree

variable {t : Tree} {i c : Nat} {o : Outline}

/-- What some nodes give one after the other is what their outlines give. -/
theorem map_filterMap_of_outlines {α β : Type} {as : List Nat} {os : List Outline}
    (hmap : as.map t.outlineAt = os) {f : Nat → Option α} {g : Outline → Option β} {e : α → β}
    (hf : ∀ a ∈ as, (f a).map e = g (t.outlineAt a)) :
    (as.filterMap f).map e = os.filterMap g := by
  rw [← hmap, List.map_filterMap, List.filterMap_map]
  exact List.filterMap_congr hf

theorem Draws.of_mem_declarations (h : t.Arena) (hc : c ∈ t.declarations i) :
    t.Draws c (t.outlineAt c) := by
  obtain ⟨p, -, hmem⟩ := mem_declarations_iff.mp hc
  exact .of_mem_children h hmem

namespace Draws

theorem map_declarations (hd : t.Draws i o) (h : t.Arena) :
    (t.declarations i).map t.outlineAt = o.declarations := by
  rw [declarations, Outline.declarations]
  rcases hd.child?_cases h .prolog with ⟨hc, hx⟩ | ⟨c, x, hc, hx, hcx⟩
  · rw [hc, hx]
    rfl
  · rw [hc, hx]
    exact hcx.map_children h

theorem declaredPrefix?_eq (hd : t.Draws i o) (h : t.Arena) :
    t.declaredPrefix? i = o.declaredPrefix? := by
  rw [declaredPrefix?, Outline.declaredPrefix?, hd.kind?_eq h, hd.childText?_eq h]
  have hschema : (t.child? .schemaPrefix i).bind (t.childText? .ncName) =
      (o.child? .schemaPrefix).bind (Outline.childText? .ncName) := by
    rcases hd.child?_cases h .schemaPrefix with ⟨hc, hx⟩ | ⟨c, x, hc, hx, hcx⟩
    · rw [hc, hx]
      rfl
    · rw [hc, hx]
      exact hcx.childText?_eq h .ncName
  rw [hschema]
  cases o.kind <;> rfl

theorem map_declaredNamespace? (hd : t.Draws i o) (h : t.Arena) :
    (t.declaredNamespace? i).map (fun b => (b.nsPrefix, b.uri)) = o.declaredPair? := by
  rw [declaredNamespace?, Outline.declaredPair?, hd.declaredPrefix?_eq h, hd.childText?_eq h]
  cases o.declaredPrefix? with
  | none => rfl
  | some p =>
    cases o.childText? .uriLiteral with
    | none => rfl
    | some uri => rfl

/-- The query body sees the variables of the prolog, the last one first. -/
theorem map_prologVariables (hd : t.Draws i o) (h : t.Arena) :
    ((t.child? .prolog i).elim [] t.prologVariables).map (·.name) =
      (o.declarations.filter (·.kind == .varDecl)).reverse.flatMap Outline.ownNames := by
  have hprolog : (t.child? .prolog i).elim [] t.prologVariables =
      ((t.declarations i).filter (t.is .varDecl)).reverse.flatMap t.ownVariable := by
    rw [declarations]
    cases t.child? .prolog i with
    | none => rfl
    | some p => rfl
  have hfilter : (t.declarations i).filter (t.is .varDecl) =
      (t.declarations i).filter ((·.kind == .varDecl) ∘ t.outlineAt) :=
    List.filter_congr fun c hc => (of_mem_declarations h hc).is_eq h .varDecl
  rw [hprolog, map_flatMap_of_outlines (List.map_reverse) fun c hc =>
    (of_mem_declarations h (List.mem_of_mem_filter (List.mem_reverse.mp hc))).map_ownVariable h,
    hfilter, ← List.filter_map, hd.map_declarations h]

end Draws

end Tree

/-! ## 3. The way down to a node -/

/-- The kinds that declare prefixes or default namespaces. -/
def Kind.declaresNamespaces : Kind → Bool
  | dirElemConstructor | mainModule | libraryModule => true
  | _ => false

namespace Tree

variable {t : Tree} {i j m : Nat} {o : Outline} {names names' : List Name}

/-- On the way from `i` down to `j` variables with these names come into scope, innermost first, and
no namespaces. -/
structure Leads (t : Tree) (i j : Nat) (names : List Name) : Prop where
  names_eq : (t.inScopeVariables j).map (·.name) = names ++ (t.inScopeVariables i).map (·.name)
  way : ∃ nodes, t.lineage j = nodes ++ t.lineage i ∧
    ∀ a ∈ nodes, t.kindIs Kind.declaresNamespaces a = false

namespace Leads

theorem refl (t : Tree) (i : Nat) : t.Leads i i [] :=
  ⟨rfl, [], rfl, by simp⟩

theorem trans (hij : t.Leads i j names) (hjm : t.Leads j m names') :
    t.Leads i m (names' ++ names) := by
  obtain ⟨upper, hupper, hplain⟩ := hij.way
  obtain ⟨lower, hlower, hplain'⟩ := hjm.way
  refine ⟨by rw [hjm.names_eq, hij.names_eq, List.append_assoc], lower ++ upper, ?_, ?_⟩
  · rw [hlower, hupper, List.append_assoc]
  · rw [List.forall_mem_append]
    exact ⟨hplain', hplain⟩

/-- One step down: the parent decides which of its variables the child sees. -/
theorem child (h : t.Arena) (hd : t.Draws j o) (hp : t.parent? j = some i)
    (hk : o.kind.declaresNamespaces = false)
    (hshown : (t.visibleFrom i j).map (·.name) = names) : t.Leads i j names := by
  refine ⟨?_, [j], h.lineage_child hp, ?_⟩
  · rw [h.inScopeVariables_child hp, List.map_append, hshown]
  · rw [List.forall_mem_singleton, hd.kindIs_eq h]
    exact hk

end Leads

theorem declares_none (hk : t.kindIs Kind.declaresNamespaces i = false) :
    t.namespacesDeclaredBy i = [] ∧ t.defaultsDeclaredBy i = [] ∧
      t.kindIs Kind.isModule i = false := by
  unfold kindIs at hk ⊢
  rw [namespacesDeclaredBy, defaultsDeclaredBy]
  cases hkind : t.kind? i with
  | none => exact ⟨rfl, rfl, rfl⟩
  | some k =>
    rw [hkind] at hk
    cases k with
    | dirElemConstructor | mainModule | libraryModule => cases hk
    | _ => exact ⟨rfl, rfl, rfl⟩

namespace Leads

theorem declaredNamespaces_eq (hl : t.Leads i j names) :
    t.declaredNamespaces j = t.declaredNamespaces i := by
  obtain ⟨nodes, hline, hplain⟩ := hl.way
  rw [declaredNamespaces, hline, List.flatMap_append,
    List.flatMap_eq_nil_iff.mpr fun a ha => (declares_none (hplain a ha)).1]
  rfl

theorem defaults_eq (hl : t.Leads i j names) (kind : DefaultKind) :
    t.defaults kind j = t.defaults kind i := by
  obtain ⟨nodes, hline, hplain⟩ := hl.way
  rw [defaults, hline, List.flatMap_append,
    List.flatMap_eq_nil_iff.mpr fun a ha => (declares_none (hplain a ha)).2.1]
  rfl

theorem module?_eq (hl : t.Leads i j names) : t.module? j = t.module? i := by
  obtain ⟨nodes, hline, hplain⟩ := hl.way
  rw [module?, hline, List.find?_append, List.find?_eq_none.mpr fun a ha => ?_]
  · rfl
  · rw [(declares_none (hplain a ha)).2.2]
    exact Bool.false_ne_true

end Leads

end Tree

end XQueryScope
