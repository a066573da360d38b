import XQueryScope.Proofs.Scope.Visibility

/-!
# The order of the variables in scope

The list of the variables in scope goes from the inside to the outside, and every construct has an
order of its own for the variables that it shows: some list them as they were declared, some last
first, and a FLWOR expression lists its clauses last first and what one clause binds as declared.
`Tree.Ordered` says which.  The main result is `inScopeVariables_order`: no token is listed twice,
the list of the parent is the end of the list, and of two variables the one that is listed first has
the inner scope, or the same scope and the place that `Tree.Ordered` gives it.

That no token is listed twice holds of every tree, the order inside a scope only if the parts of a
construct stand where they should (`Tree.Laid`).  `Tree.Apart` carries both at once, so each
construct is gone through once.
-/

namespace XQueryScope

/-! ## 1. Layouts -/

/-- What may stand for an expression: everything but the parts that have a place of their own. -/
def Kind.isOperand : Kind → Bool
  | varName | positionalVar | typeDeclaration | windowStartCondition | windowEndCondition
  | quantifiedBinding => false
  | _ => true

/-- The parts of a construct in the order in which they stand; each may be missing.  Only the kinds
are here whose layout has a say in the order of variables: how the children of other kinds stand
makes no difference. -/
def Kind.layout? : Kind → Option (List (Kind → Bool))
  | forBinding => some [(· == varName), (· == positionalVar), (· == typeDeclaration), isOperand]
  | letBinding | groupingSpec | quantifiedBinding | blockVarDeclEntry =>
    some [(· == varName), (· == typeDeclaration), isOperand]
  | tumblingWindowClause | slidingWindowClause =>
    some [(· == varName), (· == typeDeclaration), isOperand, (· == windowStartCondition),
      (· == windowEndCondition)]
  | quantifiedExpr => some [(· == quantifiedBinding), isOperand]
  | _ => none

namespace Tree

variable {t : Tree} {i n d scope c : Nat} {b b' : VariableBinding} {k : Kind}
  {parts : List (Kind → Bool)}

/-- The place of a node among the parts of a layout. -/
def place (t : Tree) (parts : List (Kind → Bool)) (i : NodeId) : Nat :=
  parts.findIdx fun p => t.kindIs p i

/-- The children of a node are parts of a layout, and stand in its order. -/
def Follows (t : Tree) (parts : List (Kind → Bool)) (i : NodeId) : Prop :=
  ∀ a ∈ t.children i, t.place parts a < parts.length ∧
    ∀ e ∈ t.children i, a < e → t.place parts a ≤ t.place parts e

/-- Every node follows the layout of its kind, if that is one of those above. -/
def Laid (t : Tree) : Prop :=
  ∀ i < t.size, ∀ parts ∈ (t.kind? i).bind Kind.layout?, t.Follows parts i

instance (t : Tree) (parts : List (Kind → Bool)) (i : NodeId) : Decidable (t.Follows parts i) :=
  inferInstanceAs (Decidable (∀ a ∈ t.children i, t.place parts a < parts.length ∧
    ∀ e ∈ t.children i, a < e → t.place parts a ≤ t.place parts e))

instance (t : Tree) : Decidable t.Laid :=
  inferInstanceAs (Decidable (∀ i < t.size, ∀ parts ∈ (t.kind? i).bind Kind.layout?,
    t.Follows parts i))

theorem place_eq (hk : t.kind? i = some k) : t.place parts i = parts.findIdx fun p => p k := by
  simp only [place, kindIs, hk, Option.any_some]

namespace Laid

theorem follows (hl : t.Laid) (hk : t.kind? i = some k) (hparts : k.layout? = some parts) :
    t.Follows parts i := by
  have hi : i < t.size := by
    rcases Nat.lt_or_ge i t.size with hlt | hge
    · exact hlt
    · rw [kind?, node?_eq_none_iff.mpr hge] at hk
      exact absurd hk (by simp)
  exact hl i hi parts (by rw [hk, Option.bind_some, hparts]; rfl)

/-- Of two parts of a construct, the one with the lower place comes first. -/
theorem lt_of_place (hl : t.Laid) (h : t.Arena) (hk : t.kind? i = some k)
    (hparts : k.layout? = some parts) {ka ke : Kind} {a e : Nat} (ha : t.parent? a = some i)
    (hka : t.kind? a = some ka) (he : t.parent? e = some i) (hke : t.kind? e = some ke)
    (hplace : (parts.findIdx fun p => p ka) < parts.findIdx fun p => p ke) : a < e := by
  have hle := (hl.follows hk hparts e (h.mem_children_iff.mpr he)).2 a (h.mem_children_iff.mpr ha)
  rw [place_eq hka, place_eq hke] at hle
  rcases Nat.lt_trichotomy a e with hlt | heq | hgt
  · exact hlt
  · have hkinds : ka = ke := by
      rw [← Option.some.injEq, ← hka, ← hke, heq]
    exact absurd hplace (hkinds ▸ Nat.lt_irrefl _)
  · exact absurd (hle hgt) (Nat.not_le_of_gt hplace)

theorem child?_lt (hl : t.Laid) (h : t.Arena) (hk : t.kind? i = some k)
    (hparts : k.layout? = some parts) {ka ke : Kind} {a e : Nat} (ha : t.child? ka i = some a)
    (he : t.child? ke i = some e)
    (hplace : (parts.findIdx fun p => p ka) < parts.findIdx fun p => p ke) : a < e :=
  hl.lt_of_place h hk hparts (h.child?_parent ha) (child?_kind ha) (h.child?_parent he)
    (child?_kind he) hplace

theorem varName_lt_positionalVar (hl : t.Laid) (h : t.Arena)
    (hbinding : t.kindIs Kind.isBinding i = true) {v p : Nat} (hv : t.child? .varName i = some v)
    (hp : t.child? .positionalVar i = some p) : v < p := by
  obtain ⟨k, hk, hkb⟩ := (Option.any_eq_true _ _).mp hbinding
  cases k with
  | forBinding | letBinding | groupingSpec | quantifiedBinding | blockVarDeclEntry =>
    exact hl.child?_lt h hk rfl hv hp (by decide)
  | _ => exact absurd hkb (by decide)

theorem child?_positionalVar (hl : t.Laid) (h : t.Arena)
    (hk : t.kind? i = some .quantifiedBinding) : t.child? .positionalVar i = none := by
  rw [Option.eq_none_iff_forall_ne_some]
  intro p hp
  have hplace := (hl.follows hk rfl p (h.mem_children_iff.mpr (h.child?_parent hp))).1
  rw [place_eq (child?_kind hp)] at hplace
  exact absurd hplace (by decide)

/-- Before a quantified binding there is nothing but quantified bindings. -/
theorem kind?_of_lt (hl : t.Laid) (h : t.Arena) (hk : t.kind? scope = some .quantifiedExpr)
    (hc : t.parent? c = some scope) (hkc : t.kind? c = some .quantifiedBinding)
    (hi : t.parent? i = some scope) (hlt : i < c) : t.kind? i = some .quantifiedBinding := by
  have hle := (hl.follows hk rfl i (h.mem_children_iff.mpr hi)).2 c (h.mem_children_iff.mpr hc) hlt
  have hzero : t.place [(· == .quantifiedBinding), Kind.isOperand] c = 0 := by
    rw [place_eq hkc]
    rfl
  rw [hzero] at hle
  by_cases hki : t.kindIs (· == .quantifiedBinding) i = true
  · obtain ⟨k, hkind, heq⟩ := (Option.any_eq_true _ _).mp hki
    rw [hkind, beq_iff_eq.mp heq]
  · rw [place, List.findIdx_cons, Bool.eq_false_iff.mpr hki] at hle
    exact absurd hle (Nat.not_succ_le_zero _)

end Laid

/-! ## 2. The order of each construct -/

/-- A variable of a later clause comes first; in one clause the one that is declared first does. -/
def ClauseOrder (t : Tree) (scope v w : Nat) : Prop :=
  ∃ k l : Nat, t.parent? k = some scope ∧ t.parent? l = some scope ∧ k ∈ t.lineage v ∧
    l ∈ t.lineage w ∧ (l < k ∨ (k = l ∧ v < w))

/-- The order in which the constructs of a kind list variables, given their tokens. -/
def orderOf (t : Tree) (scope : Nat) : Kind → Nat → Nat → Prop
  | .forClause | .letClause | .groupByClause | .blockVarDecl | .block | .tumblingWindowClause
  | .slidingWindowClause | .windowStartCondition | .windowEndCondition | .functionDecl
  | .inlineFunctionExpr => (· < ·)
  | .quantifiedExpr | .prolog | .mainModule | .libraryModule => (· > ·)
  | .flworExpr => t.ClauseOrder scope
  | _ => fun _ _ => True

/-- The tokens `v` and `w` are in the order of the construct. -/
def Ordered (t : Tree) (scope v w : Nat) : Prop :=
  ∀ k, t.kind? scope = some k → t.orderOf scope k v w

/-- Two variables that a construct lists have tokens of their own, which are in the relation `R` if
the tree is laid out. -/
def Apart (t : Tree) (R : Nat → Nat → Prop) (b b' : VariableBinding) : Prop :=
  b.declaredAt ≠ b'.declaredAt ∧ (t.Laid → R b.declaredAt b'.declaredAt)

theorem apart_of_lt (hlt : b.declaredAt < b'.declaredAt) : t.Apart (· < ·) b b' :=
  ⟨Nat.ne_of_lt hlt, fun _ => hlt⟩

theorem apart_of_gt (hlt : b'.declaredAt < b.declaredAt) : t.Apart (· > ·) b b' :=
  ⟨Nat.ne_of_gt hlt, fun _ => hlt⟩

/-- `f` gives variables for nodes that stand under `scope` in document order, and each node is above
what `f` gives for it. -/
structure Groups (t : Tree) (scope : Nat) (l : List Nat) (f : Nat → List VariableBinding) :
    Prop where
  sorted : l.Pairwise fun a e => a < e
  child : ∀ i ∈ l, t.parent? i = some scope
  below : ∀ i ∈ l, ∀ b ∈ f i, i ∈ t.lineage b.declaredAt

namespace Groups

variable {l : List Nat} {f : Nat → List VariableBinding}

theorem filter (hg : t.Groups scope l f) (p : Nat → Bool) : t.Groups scope (l.filter p) f where
  sorted := hg.sorted.filter p
  child := fun i hi => hg.child i (List.mem_filter.mp hi).1
  below := fun i hi => hg.below i (List.mem_filter.mp hi).1

theorem declaredAt_lt (hg : t.Groups scope l f) (h : t.Arena) {i j : Nat} (hi : i ∈ l)
    (hj : j ∈ l) (hlt : i < j) (hb : b ∈ f i) (hb' : b' ∈ f j) : b.declaredAt < b'.declaredAt :=
  h.sibling_lt (hg.child i hi) (hg.child j hj) hlt (hg.below i hi b hb) (hg.below j hj b' hb')

theorem ascending (hg : t.Groups scope l f) (h : t.Arena)
    (hin : ∀ i ∈ l, (f i).Pairwise (t.Apart (· < ·))) :
    (l.flatMap f).Pairwise (t.Apart (· < ·)) := by
  refine List.pairwise_flatMap.mpr ⟨hin, hg.sorted.imp_of_mem ?_⟩
  intro i j hi hj hlt b hb b' hb'
  exact apart_of_lt (hg.declaredAt_lt h hi hj hlt hb hb')

theorem descending (hg : t.Groups scope l f) (h : t.Arena)
    (hin : ∀ i ∈ l, (f i).Pairwise (t.Apart (· > ·))) :
    (l.reverse.flatMap f).Pairwise (t.Apart (· > ·)) := by
  refine List.pairwise_flatMap.mpr ⟨fun i hi => hin i (List.mem_reverse.mp hi), ?_⟩
  refine List.pairwise_reverse.mpr (hg.sorted.imp_of_mem ?_)
  intro i j hi hj hlt b hb b' hb'
  exact apart_of_gt (hg.declaredAt_lt h hi hj hlt hb' hb)

/-- Groups that are each in order, the last group first. -/
theorem byClause (hg : t.Groups scope l f) (h : t.Arena)
    (hin : ∀ i ∈ l, (f i).Pairwise (t.Apart (· < ·))) :
    (l.reverse.flatMap f).Pairwise (t.Apart (t.ClauseOrder scope)) := by
  refine List.pairwise_flatMap.mpr ⟨fun i hi => ?_, ?_⟩
  · have hi := List.mem_reverse.mp hi
    refine (hin i hi).imp_of_mem ?_
    rintro b b' hb hb' ⟨hne, hlt⟩
    exact ⟨hne, fun hl => ⟨i, i, hg.child i hi, hg.child i hi, hg.below i hi b hb,
      hg.below i hi b' hb', .inr ⟨rfl, hlt hl⟩⟩⟩
  · refine List.pairwise_reverse.mpr (hg.sorted.imp_of_mem ?_)
    intro i j hi hj hlt b hb b' hb'
    exact ⟨Nat.ne_of_gt (hg.declaredAt_lt h hi hj hlt hb' hb), fun _ => ⟨j, i, hg.child j hj,
      hg.child i hi, hg.below j hj b hb, hg.below i hi b' hb', .inl hlt⟩⟩

end Groups

/-! ## 3. What each construct lists -/

theorem ownVariable_pairwise (t : Tree) (R : VariableBinding → VariableBinding → Prop) (d : Nat) :
    (t.ownVariable d).Pairwise R := by
  unfold ownVariable
  split
  · split
    · exact List.pairwise_singleton _ _
    · exact List.Pairwise.nil
  · exact List.Pairwise.nil

namespace Arena

theorem declares_below (h : t.Arena) (hd : t.Declares d b) : d ∈ t.lineage b.declaredAt :=
  h.parent_mem_lineage (h.child?_parent hd.token)

theorem ownVariable_below (h : t.Arena) (hb : b ∈ t.ownVariable d) : d ∈ t.lineage b.declaredAt :=
  h.declares_below (mem_ownVariable_iff.mp hb)

theorem bindingVariables_below (h : t.Arena) (hb : b ∈ t.bindingVariables i) :
    i ∈ t.lineage b.declaredAt := by
  obtain ⟨d, hd, hb⟩ := mem_bindingVariables_iff.mp hb
  exact h.lineage_trans (h.binds_below hd) (h.declares_below hb)

theorem conditionVariables_below (h : t.Arena) (hb : b ∈ t.conditionVariables i) :
    i ∈ t.lineage b.declaredAt := by
  obtain ⟨d, hd, hb⟩ := h.mem_conditionVariables_iff.mp hb
  exact h.lineage_trans (h.conditionHolds_below hd) (h.declares_below hb)

theorem clauseVariables_below (h : t.Arena) (hb : b ∈ t.clauseVariables i) :
    i ∈ t.lineage b.declaredAt := by
  obtain ⟨d, hd, hb⟩ := h.mem_clauseVariables_iff.mp hb
  exact h.lineage_trans (h.handsOn_below hd) (h.declares_below hb)

theorem blockVariables_below (h : t.Arena) (hb : b ∈ t.blockVariables i) :
    i ∈ t.lineage b.declaredAt := by
  obtain ⟨d, hp, -, hb⟩ := h.mem_blockVariables_iff.mp hb
  exact h.lineage_trans (h.parent_mem_lineage hp) (h.declares_below hb)

theorem groups_children (h : t.Arena) {f : Nat → List VariableBinding}
    (hf : ∀ {i : Nat} {b}, b ∈ f i → i ∈ t.lineage b.declaredAt) (scope : Nat) :
    t.Groups scope (t.children scope) f where
  sorted := h.children_sorted scope
  child := fun _ hi => h.mem_children_iff.mp hi
  below := fun _ _ _ hb => hf hb

theorem before_sorted (h : t.Arena) (hc : t.parent? c = some scope) :
    (t.before c).Pairwise fun a e => a < e := by
  obtain ⟨k, hk⟩ := exists_slot? (lt_size_of_parent? hc)
  rw [before_eq hc hk]
  exact List.Pairwise.sublist (List.take_sublist _ _) (h.children_sorted scope)

theorem groups_before (h : t.Arena) {f : Nat → List VariableBinding}
    (hf : ∀ {i : Nat} {b}, b ∈ f i → i ∈ t.lineage b.declaredAt) (hc : t.parent? c = some scope) :
    t.Groups scope (t.before c) f where
  sorted := h.before_sorted hc
  child := fun _ hi => ((h.mem_before_child_iff hc).mp hi).1
  below := fun _ _ _ hb => hf hb

theorem conditionVariables_ascending (h : t.Arena) (i : Nat) :
    (t.conditionVariables i).Pairwise (t.Apart (· < ·)) := by
  unfold conditionVariables
  cases t.child? .windowVars i with
  | none => exact List.Pairwise.nil
  | some vars =>
    exact (h.groups_children h.ownVariable_below vars).ascending h
      fun d _ => t.ownVariable_pairwise _ d

theorem elim_conditionVariables_ascending (h : t.Arena) (condition : Option Nat) :
    (condition.elim [] t.conditionVariables).Pairwise (t.Apart (· < ·)) := by
  cases condition with
  | none => exact List.Pairwise.nil
  | some i => exact h.conditionVariables_ascending i

/-- What stands below two parts of a construct is as the parts are. -/
theorem apart_of_parts (h : t.Arena) {ka ke : Kind} {a e : Nat} (ha : t.child? ka i = some a)
    (he : t.child? ke i = some e) (hne : ka ≠ ke) (hlt : t.Laid → a < e)
    (hb : a ∈ t.lineage b.declaredAt) (hb' : e ∈ t.lineage b'.declaredAt) :
    t.Apart (· < ·) b b' := by
  have hpa := h.child?_parent ha
  have hpe := h.child?_parent he
  refine ⟨fun heq => ?_, fun hl => h.sibling_lt hpa hpe (hlt hl) hb hb'⟩
  have hkind := child?_kind ha
  rw [h.sibling_eq hpa hpe (heq ▸ hb) hb', child?_kind he, Option.some.injEq] at hkind
  exact hne hkind.symm

/-- The variable of a binding stands before its positional one. -/
theorem bindingVariables_ascending (h : t.Arena) (i : Nat) :
    (t.bindingVariables i).Pairwise (t.Apart (· < ·)) := by
  unfold bindingVariables
  split
  · rename_i hbinding
    cases hp : t.child? .positionalVar i with
    | none =>
      rw [Option.elim_none, List.append_nil]
      exact t.ownVariable_pairwise _ i
    | some p =>
      refine List.pairwise_append.mpr ⟨t.ownVariable_pairwise _ i, t.ownVariable_pairwise _ p, ?_⟩
      intro b hb b' hb'
      have hv := (mem_ownVariable_iff.mp hb).token
      exact h.apart_of_parts hv hp (by decide)
        (fun hl => hl.varName_lt_positionalVar h hbinding hv hp) (h.self_mem_lineage _)
        (h.ownVariable_below hb')
  · exact List.Pairwise.nil

theorem mem_elim_conditionVariables (h : t.Arena)
    (hb : b ∈ (t.child? k i).elim [] t.conditionVariables) :
    ∃ condition, t.child? k i = some condition ∧ condition ∈ t.lineage b.declaredAt := by
  cases hc : t.child? k i with
  | none =>
    rw [hc] at hb
    exact absurd hb List.not_mem_nil
  | some condition =>
    rw [hc] at hb
    exact ⟨condition, rfl, h.conditionVariables_below hb⟩

/-- What a window clause hands on: its variable, those of the start, those of the end. -/
theorem windowVariables_ascending (h : t.Arena) (hw : t.kindIs Kind.isWindow i = true) :
    (t.ownVariable i ++ (t.child? .windowStartCondition i).elim [] t.conditionVariables ++
      (t.child? .windowEndCondition i).elim [] t.conditionVariables).Pairwise
        (t.Apart (· < ·)) := by
  have hown {k : Kind} (hk : k = .windowStartCondition ∨ k = .windowEndCondition)
      {b b' : VariableBinding} (hb : b ∈ t.ownVariable i)
      (hb' : b' ∈ (t.child? k i).elim [] t.conditionVariables) : t.Apart (· < ·) b b' := by
    have hv := (mem_ownVariable_iff.mp hb).token
    obtain ⟨condition, hcond, hbelow⟩ := h.mem_elim_conditionVariables hb'
    refine h.apart_of_parts hv hcond ?_ (fun hl => ?_) (h.self_mem_lineage _) hbelow
    · rcases hk with rfl | rfl <;> decide
    · rcases hk with rfl | rfl <;> rcases kindIs_isWindow_iff.mp hw with hw | hw <;>
        exact hl.child?_lt h hw rfl hv hcond (by decide)
  refine List.pairwise_append.mpr ⟨List.pairwise_append.mpr ⟨t.ownVariable_pairwise _ i,
    h.elim_conditionVariables_ascending _, fun b hb b' hb' => hown (.inl rfl) hb hb'⟩,
    h.elim_conditionVariables_ascending _, fun b hb b' hb' => ?_⟩
  rcases List.mem_append.mp hb with hb | hb
  · exact hown (.inr rfl) hb hb'
  · obtain ⟨first, hfirst, hbelow⟩ := h.mem_elim_conditionVariables hb
    obtain ⟨last, hlast, hbelow'⟩ := h.mem_elim_conditionVariables hb'
    refine h.apart_of_parts hfirst hlast (by decide) (fun hl => ?_) hbelow hbelow'
    rcases kindIs_isWindow_iff.mp hw with hw | hw <;>
      exact hl.child?_lt h hw rfl hfirst hlast (by decide)

theorem clauseVariables_ascending (h : t.Arena) (i : Nat) :
    (t.clauseVariables i).Pairwise (t.Apart (· < ·)) := by
  have hbound : ((t.children i).flatMap t.bindingVariables).Pairwise (t.Apart (· < ·)) :=
    (h.groups_children h.bindingVariables_below i).ascending h
      fun j _ => h.bindingVariables_ascending j
  unfold clauseVariables
  split
  · exact hbound
  · exact hbound
  · exact hbound
  · rename_i hk; exact h.windowVariables_ascending (kindIs_isWindow_iff.mpr (.inl hk))
  · rename_i hk; exact h.windowVariables_ascending (kindIs_isWindow_iff.mpr (.inr hk))
  · exact t.ownVariable_pairwise _ i
  · exact List.Pairwise.nil

theorem prologVariables_descending (h : t.Arena) (i : Nat) :
    (t.prologVariables i).Pairwise (t.Apart (· > ·)) :=
  ((h.groups_children h.ownVariable_below i).filter _).descending h
    fun d _ => t.ownVariable_pairwise _ d

theorem blockVariables_ascending (h : t.Arena) (i : Nat) :
    (t.blockVariables i).Pairwise (t.Apart (· < ·)) :=
  ((h.groups_children h.ownVariable_below i).filter _).ascending h
    fun d _ => t.ownVariable_pairwise _ d

theorem parameterVariables_ascending (h : t.Arena) (i : Nat) :
    ((t.parameters i).flatMap t.ownVariable).Pairwise (t.Apart (· < ·)) := by
  unfold parameters
  cases t.child? .paramList i with
  | none => exact List.Pairwise.nil
  | some params =>
    exact ((h.groups_children h.ownVariable_below params).filter _).ascending h
      fun d _ => t.ownVariable_pairwise _ d

/-- The bindings of a quantified expression, last first.  None has a positional variable, which
would stand before its own. -/
theorem quantifiedVariables_descending (h : t.Arena) {l : List Nat}
    (hg : t.Groups scope l t.bindingVariables)
    (hkind : t.Laid → ∀ i ∈ l, t.kind? i = some .quantifiedBinding) :
    (l.reverse.flatMap t.bindingVariables).Pairwise (t.Apart (· > ·)) := by
  refine hg.descending h fun i hi => (h.bindingVariables_ascending i).imp_of_mem ?_
  rintro b b' hb hb' ⟨hne, -⟩
  refine ⟨hne, fun hl => ?_⟩
  have hnone := hl.child?_positionalVar h (hkind hl i hi)
  have hown {b : VariableBinding} (hb : b ∈ t.bindingVariables i) :
      t.child? .varName i = some b.declaredAt := by
    obtain ⟨d, ⟨-, hd⟩, hdecl⟩ := mem_bindingVariables_iff.mp hb
    rcases hd with rfl | hd
    · exact hdecl.token
    · exact absurd (hnone.symm.trans hd) (by simp)
  exact absurd (Option.some.inj ((hown hb).symm.trans (hown hb'))) hne

theorem visibleFrom_window (h : t.Arena) (scope c : Nat) :
    (if t.is .windowEndCondition c then
      (t.child? .windowStartCondition scope).elim [] t.conditionVariables else []).Pairwise
        (t.Apart (· < ·)) := by
  split
  · exact h.elim_conditionVariables_ascending _
  · exact List.Pairwise.nil

theorem visibleFrom_condition (h : t.Arena) (scope c : Nat) :
    (if t.is .windowVars c then [] else t.conditionVariables scope).Pairwise
      (t.Apart (· < ·)) := by
  split
  · exact List.Pairwise.nil
  · exact h.conditionVariables_ascending scope

theorem visibleFrom_quantified (h : t.Arena) (hc : t.parent? c = some scope)
    (hk : t.kind? scope = some .quantifiedExpr) :
    (if t.is .quantifiedBinding c then (t.preceding c).flatMap t.bindingVariables
      else (t.childrenOf .quantifiedBinding scope).reverse.flatMap t.bindingVariables).Pairwise
        (t.Apart (· > ·)) := by
  split
  · rename_i hkc
    refine h.quantifiedVariables_descending (h.groups_before h.bindingVariables_below hc) ?_
    intro hl i hi
    obtain ⟨hp, hlt⟩ := (h.mem_before_child_iff hc).mp hi
    exact hl.kind?_of_lt h hk hc (is_iff.mp hkc) hp hlt
  · refine h.quantifiedVariables_descending
      ((h.groups_children h.bindingVariables_below scope).filter _) ?_
    exact fun _ i hi => is_iff.mp (List.mem_filter.mp hi).2

theorem visibleFrom_branch (R : VariableBinding → VariableBinding → Prop) (scope c : Nat) :
    (if t.is .varName c || t.is .sequenceType c then [] else t.ownVariable scope).Pairwise R := by
  split
  · exact List.Pairwise.nil
  · exact t.ownVariable_pairwise R scope

theorem visibleFrom_function (h : t.Arena) (scope c : Nat) :
    (if t.is .functionBody c then (t.parameters scope).flatMap t.ownVariable else []).Pairwise
      (t.Apart (· < ·)) := by
  split
  · exact h.parameterVariables_ascending scope
  · exact List.Pairwise.nil

theorem visibleFrom_prolog (h : t.Arena) (hc : t.parent? c = some scope) :
    (if t.is .varDecl c then ((t.preceding c).filter (t.is .varDecl)).flatMap t.ownVariable
      else if t.is .functionDecl c then t.prologVariables scope else []).Pairwise
        (t.Apart (· > ·)) := by
  split
  · rw [preceding, List.filter_reverse]
    exact ((h.groups_before h.ownVariable_below hc).filter _).descending h
      fun d _ => t.ownVariable_pairwise _ d
  · split
    · exact h.prologVariables_descending scope
    · exact List.Pairwise.nil

theorem visibleFrom_module (h : t.Arena) (scope c : Nat) :
    (if t.is .queryBody c then (t.child? .prolog scope).elim [] t.prologVariables else []).Pairwise
      (t.Apart (· > ·)) := by
  split
  · cases t.child? .prolog scope with
    | none => exact List.Pairwise.nil
    | some prolog => exact h.prologVariables_descending prolog
  · exact List.Pairwise.nil

theorem visibleFrom_block (h : t.Arena) (hc : t.parent? c = some scope) :
    (if t.is .blockVarDecl c then (t.before c).flatMap t.blockVariables
      else (t.childrenOf .blockVarDecl scope).flatMap t.blockVariables).Pairwise
        (t.Apart (· < ·)) := by
  split
  · exact (h.groups_before h.blockVariables_below hc).ascending h
      fun i _ => h.blockVariables_ascending i
  · exact ((h.groups_children h.blockVariables_below scope).filter _).ascending h
      fun i _ => h.blockVariables_ascending i

/-! ## 4. The whole walk -/

/-- **One step.**  What a construct shows to a child is listed once and in the construct's order. -/
theorem visibleFrom_ordered (h : t.Arena) (hc : t.parent? c = some scope) :
    (t.visibleFrom scope c).Pairwise (t.Apart (t.Ordered scope)) := by
  have hearlier := (h.groups_before h.bindingVariables_below hc).ascending h
    fun i _ => h.bindingVariables_ascending i
  have hkind {k : Kind} (hk : t.kind? scope = some k) {l : List VariableBinding}
      (hl : l.Pairwise (t.Apart (t.orderOf scope k))) : l.Pairwise (t.Apart (t.Ordered scope)) := by
    refine hl.imp fun hb => ⟨hb.1, fun hlaid k' hk' => ?_⟩
    rw [hk, Option.some.injEq] at hk'
    exact hk' ▸ hb.2 hlaid
  unfold visibleFrom
  split
  · rename_i hk
    exact hkind hk ((h.groups_before h.clauseVariables_below hc).byClause h
      fun i _ => h.clauseVariables_ascending i)
  · rename_i hk; exact hkind hk hearlier
  · rename_i hk; exact hkind hk hearlier
  · rename_i hk; exact hkind hk hearlier
  · rename_i hk; exact hkind hk hearlier
  · rename_i hk; exact hkind hk (h.visibleFrom_window scope c)
  · rename_i hk; exact hkind hk (h.visibleFrom_window scope c)
  · rename_i hk; exact hkind hk (h.visibleFrom_condition scope c)
  · rename_i hk; exact hkind hk (h.visibleFrom_condition scope c)
  · rename_i hk; exact hkind hk (h.visibleFrom_quantified hc hk)
  · exact visibleFrom_branch _ scope c
  · exact visibleFrom_branch _ scope c
  · rename_i hk; exact hkind hk (h.visibleFrom_function scope c)
  · rename_i hk; exact hkind hk (h.visibleFrom_function scope c)
  · rename_i hk; exact hkind hk (h.visibleFrom_prolog hc)
  · rename_i hk; exact hkind hk (h.visibleFrom_module scope c)
  · rename_i hk; exact hkind hk (h.visibleFrom_module scope c)
  · rename_i hk; exact hkind hk (h.visibleFrom_block hc)
  · exact List.Pairwise.nil

theorem lowestCommon_unique (h : t.Arena) {v s s' : Nat} (hs : t.LowestCommon v n s)
    (hs' : t.LowestCommon v n s') : s = s' :=
  Nat.le_antisymm (h.le_of_mem_lineage (hs'.lowest s hs.left hs.right))
    (h.le_of_mem_lineage (hs.lowest s' hs'.left hs'.right))

theorem lowestCommon_of_mem_visibleFrom (h : t.Arena) (hc : c ∈ t.lineage n)
    (hp : t.parent? c = some scope) (hb : b ∈ t.visibleFrom scope c) :
    t.LowestCommon b.declaredAt n scope := by
  obtain ⟨d, hs, hd⟩ := h.shows_of_mem hp hb
  exact h.lowestCommon_of_shows hc hp hs hd.token

/-- The scopes on the way out: each is a proper ancestor of those before it. -/
theorem steps_outward (h : t.Arena) (n : Nat) :
    (t.steps n).Pairwise fun x y => y.2 ∈ t.lineage x.2 ∧ y.2 < x.2 := by
  induction n using Nat.strongRecOn with
  | ind n ih =>
    cases hp : t.parent? n with
    | none =>
      rw [h.steps_top hp]
      exact List.Pairwise.nil
    | some p =>
      rw [h.steps_child hp, List.pairwise_cons]
      refine ⟨fun y hy => ?_, ih p (h.parent_lt hp)⟩
      obtain ⟨hmem, hparent⟩ := (h.mem_steps_iff p).mp hy
      have hlt := h.parent_lt hparent
      have hle := h.le_of_mem_lineage hmem
      exact ⟨h.lineage_trans (h.parent_mem_lineage hparent) hmem, Nat.lt_of_lt_of_le hlt hle⟩

/-- The variables at a node are those that the parent shows to it, and then those at the parent. -/
theorem inScopeVariables_child (h : t.Arena) {p : Nat} (hp : t.parent? n = some p) :
    t.inScopeVariables n = t.visibleFrom p n ++ t.inScopeVariables p := by
  rw [inScopeVariables, h.steps_child hp, List.flatMap_cons]
  rfl

end Arena

/-- What is true of a variable in scope at `n` and one that is listed after it. -/
structure ListedBefore (t : Tree) (n : Nat) (b b' : VariableBinding) : Prop where
  ne : b.declaredAt ≠ b'.declaredAt
  nearest : ∀ s s' : Nat, t.LowestCommon b.declaredAt n s → t.LowestCommon b'.declaredAt n s' →
    s' ∈ t.lineage s
  ordered : t.Laid → ∀ s : Nat, t.LowestCommon b.declaredAt n s →
    t.LowestCommon b'.declaredAt n s → t.Ordered s b.declaredAt b'.declaredAt

/-- **The whole walk.**  Inside a step the construct has its order, and the scope of a later step is
further out. -/
theorem Arena.inScopeVariables_listedBefore (h : t.Arena) (n : Nat) :
    (t.inScopeVariables n).Pairwise (t.ListedBefore n) := by
  have hscope {x : Nat × Nat} (hx : x ∈ t.steps n) {b : VariableBinding}
      (hb : b ∈ t.visibleFrom x.2 x.1) : t.LowestCommon b.declaredAt n x.2 := by
    obtain ⟨hc, hp⟩ := (h.mem_steps_iff n).mp hx
    exact h.lowestCommon_of_mem_visibleFrom hc hp hb
  refine List.pairwise_flatMap.mpr ⟨fun x hx => ?_, (h.steps_outward n).imp_of_mem ?_⟩
  · refine (h.visibleFrom_ordered ((h.mem_steps_iff n).mp hx).2).imp_of_mem ?_
    rintro b b' hb hb' ⟨hne, hord⟩
    refine ⟨hne, fun s s' hs hs' => ?_, fun hl s hs _ => ?_⟩
    · rw [h.lowestCommon_unique hs (hscope hx hb), h.lowestCommon_unique hs' (hscope hx hb')]
      exact h.self_mem_lineage _
    · rw [h.lowestCommon_unique hs (hscope hx hb)]
      exact hord hl
  · rintro x y hx hy ⟨hmem, hlt⟩ b hb b' hb'
    have hxs := hscope hx hb
    have hys := hscope hy hb'
    refine ⟨fun heq => ?_, fun s s' hs hs' => ?_, fun _ s hs hs' => ?_⟩
    · exact absurd (h.lowestCommon_unique (heq ▸ hxs) hys) (Nat.ne_of_gt hlt)
    · rwa [h.lowestCommon_unique hs hxs, h.lowestCommon_unique hs' hys]
    · have heq := (h.lowestCommon_unique hs hxs).symm.trans (h.lowestCommon_unique hs' hys)
      exact absurd heq (Nat.ne_of_gt hlt)

end Tree

/-- **Nearest scope first.**  In every tree that a builder builds, the variables in scope at a node
have different tokens, those at the parent are the end of the list, each has a lowest common
ancestor with the node, and it lies no further out than that of a variable listed later.  If the
tree is laid out, variables with the same one are in the order of that construct. -/
theorem inScopeVariables_order {t : Tree} (ht : t.Built) (n : Nat) :
    ((t.inScopeVariables n).map (·.declaredAt)).Nodup ∧
    (∀ p, t.parent? n = some p → t.inScopeVariables p <:+ t.inScopeVariables n) ∧
    (∀ b ∈ t.inScopeVariables n, ∃ s, t.LowestCommon b.declaredAt n s) ∧
    ((t.inScopeVariables n).Pairwise fun b b' => ∀ s s' : Nat,
      t.LowestCommon b.declaredAt n s → t.LowestCommon b'.declaredAt n s' → s' ∈ t.lineage s) ∧
    (t.Laid → (t.inScopeVariables n).Pairwise fun b b' => ∀ s : Nat,
      t.LowestCommon b.declaredAt n s → t.LowestCommon b'.declaredAt n s →
        t.Ordered s b.declaredAt b'.declaredAt) := by
  have h := ht.arena
  have hlist := h.inScopeVariables_listedBefore n
  refine ⟨List.pairwise_map.mpr (hlist.imp fun hb => hb.ne), fun p hp => ?_, fun b hb => ?_,
    hlist.imp fun hb => hb.nearest, fun hl => hlist.imp fun hb => hb.ordered hl⟩
  · rw [h.inScopeVariables_child hp]
    exact List.suffix_append _ _
  · obtain ⟨s, c, d, hc, hp, hs, hd⟩ := h.mem_inScopeVariables_iff_shows.mp hb
    exact ⟨s, h.lowestCommon_of_shows hc hp hs hd.token⟩

/-- `for $a at $i in 1, $b in 2 let $a := 3 return some $p in 4, $q in 5 satisfies $q`. -/
def shadowSteps : List Step :=
  [.start .flworExpr, .start .forClause,
    .start .forBinding, .token .varName "a", .start .positionalVar, .token .varName "i", .finish,
    .token .numericLiteral "1", .finish,
    .start .forBinding, .token .varName "b", .token .numericLiteral "2", .finish, .finish,
    .start .letClause, .start .letBinding, .token .varName "a", .token .numericLiteral "3",
    .finish, .finish,
    .start .returnClause, .start .quantifiedExpr,
    .start .quantifiedBinding, .token .varName "p", .token .numericLiteral "4", .finish,
    .start .quantifiedBinding, .token .varName "q", .token .numericLiteral "5", .finish,
    .start .varRef, .token .varName "q", .finish, .finish, .finish, .finish]

/-- The tree of the expression: what is tested is node 22. -/
def shadowTree : Tree := (Builder.run {} shadowSteps).tree

theorem shadowTree_order : shadowTree.Built ∧ shadowTree.Laid ∧
    (shadowTree.inScopeVariables 22).map (·.declaredAt) = [20, 17, 12, 3, 5, 8] ∧
    ((shadowTree.inScopeVariables 22).map (·.declaredAt)).Nodup ∧
    (shadowTree.inScopeVariables 22).Pairwise fun b b' => ∀ s : Nat,
      shadowTree.LowestCommon b.declaredAt 22 s → shadowTree.LowestCommon b'.declaredAt 22 s →
        shadowTree.Ordered s b.declaredAt b'.declaredAt := by
  have hbuilt : shadowTree.Built := ⟨shadowSteps, rfl⟩
  have hlaid : shadowTree.Laid := by decide +kernel
  obtain ⟨hnodup, -, -, -, hordered⟩ := inScopeVariables_order hbuilt 22
  exact ⟨hbuilt, hlaid, by decide +kernel, hnodup, hordered hlaid⟩

end XQueryScope
