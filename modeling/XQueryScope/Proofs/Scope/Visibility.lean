import XQueryScope.Proofs.Tree.Building
import XQueryScope.Scope.Variables

/-!
# Which variables are visible where

The rules of scope, said without a walk.  `Tree.Shows t scope c d` lists them: what a construct
`scope` lets its child `c` see of the declarations `d` inside it.  A variable is visible at a node
iff its token is the first name of a declaration, spells a name, and the lowest common ancestor of
the token and the node shows the declaration to the child on the way to the node
(`declared_in_scope_iff`).

The walk of `Tree.inScopeVariables` asks every ancestor of the node, so what has to be shown is that
an ancestor which shows a declaration is the lowest one that holds both
(`Arena.lowestCommon_of_shows`).
-/

namespace XQueryScope

namespace Tree

variable {t : Tree} {i n v d scope c : Nat} {b : VariableBinding}

/-! ## 1. The rules -/

/-- `d` declares the variable `b`: its first name token spells the name. -/
structure Declares (t : Tree) (d : Nat) (b : VariableBinding) : Prop where
  token : t.child? .varName d = some b.declaredAt
  name : (t.text? b.declaredAt).bind Name.parse? = some b.name

/-- `i` is a binding, and `d` is `i` or its first positional variable. -/
structure Binds (t : Tree) (i d : Nat) : Prop where
  binding : t.kindIs Kind.isBinding i = true
  declared : d = i ∨ t.child? .positionalVar i = some d

/-- `d` stands under the first variables of a window condition. -/
def ConditionHolds (t : Tree) (condition d : Nat) : Prop :=
  ∃ vars, t.child? .windowVars condition = some vars ∧ t.parent? d = some vars

/-- What a FLWOR clause hands on to the clauses after it. -/
inductive HandsOn (t : Tree) (clause : Nat) : Nat → Prop where
  | bound {i d : Nat} :
      t.kind? clause = some .forClause ∨ t.kind? clause = some .letClause ∨
        t.kind? clause = some .groupByClause →
      t.parent? i = some clause → t.Binds i d → HandsOn t clause d
  | count : t.kind? clause = some .countClause → HandsOn t clause clause
  | window : t.kindIs Kind.isWindow clause = true → HandsOn t clause clause
  | condition {condition d : Nat} : t.kindIs Kind.isWindow clause = true →
      t.child? .windowStartCondition clause = some condition ∨
        t.child? .windowEndCondition clause = some condition →
      t.ConditionHolds condition d → HandsOn t clause d

/-- `scope` shows the declaration `d` to its child `c`. -/
inductive Shows (t : Tree) (scope c : Nat) : Nat → Prop where
  /-- A clause sees what the clauses before it hand on. -/
  | flwor {clause d : Nat} : t.kind? scope = some .flworExpr →
      t.parent? clause = some scope → clause < c → t.HandsOn clause d → Shows t scope c d
  /-- A binding sees the bindings before it in its clause. -/
  | sameClause {i d : Nat} :
      t.kind? scope = some .forClause ∨ t.kind? scope = some .letClause ∨
        t.kind? scope = some .groupByClause ∨ t.kind? scope = some .blockVarDecl →
      t.parent? i = some scope → i < c → t.Binds i d → Shows t scope c d
  /-- The end condition of a window sees the variables of the start condition. -/
  | windowEnd {condition d : Nat} : t.kindIs Kind.isWindow scope = true →
      t.kind? c = some .windowEndCondition →
      t.child? .windowStartCondition scope = some condition → t.ConditionHolds condition d →
      Shows t scope c d
  /-- What a condition tests sees the condition's own variables. -/
  | condition {d : Nat} :
      t.kind? scope = some .windowStartCondition ∨ t.kind? scope = some .windowEndCondition →
      t.kind? c ≠ some .windowVars → t.ConditionHolds scope d → Shows t scope c d
  /-- A quantified binding sees the bindings before it. -/
  | quantifiedBinding {i d : Nat} : t.kind? scope = some .quantifiedExpr →
      t.kind? c = some .quantifiedBinding → t.parent? i = some scope → i < c → t.Binds i d →
      Shows t scope c d
  /-- The body of a quantified expression sees all its quantified bindings. -/
  | quantifiedBody {i d : Nat} : t.kind? scope = some .quantifiedExpr →
      t.kind? c ≠ some .quantifiedBinding → t.parent? i = some scope →
      t.kind? i = some .quantifiedBinding → t.Binds i d → Shows t scope c d
  /-- The result of a typeswitch branch sees the branch's variable. -/
  | branch : t.kind? scope = some .typeswitchCase ∨ t.kind? scope = some .typeswitchDefault →
      t.kind? c ≠ some .varName → t.kind? c ≠ some .sequenceType → Shows t scope c scope
  /-- The body of a function sees its parameters. -/
  | parameter {params d : Nat} :
      t.kind? scope = some .functionDecl ∨ t.kind? scope = some .inlineFunctionExpr →
      t.kind? c = some .functionBody → t.child? .paramList scope = some params →
      t.parent? d = some params → t.kind? d = some .param → Shows t scope c d
  /-- A variable of a prolog sees the variables before it. -/
  | prologVariable {d : Nat} : t.kind? scope = some .prolog → t.kind? c = some .varDecl →
      t.parent? d = some scope → d < c → t.kind? d = some .varDecl → Shows t scope c d
  /-- A function of a prolog sees all its variables. -/
  | prologFunction {d : Nat} : t.kind? scope = some .prolog → t.kind? c = some .functionDecl →
      t.parent? d = some scope → t.kind? d = some .varDecl → Shows t scope c d
  /-- The query body sees all variables of the first prolog. -/
  | queryBody {prolog d : Nat} : t.kindIs Kind.isModule scope = true →
      t.kind? c = some .queryBody → t.child? .prolog scope = some prolog →
      t.parent? d = some prolog → t.kind? d = some .varDecl → Shows t scope c d
  /-- A declaration in a block sees the entries of what stands before it. -/
  | blockDeclaration {decl d : Nat} : t.kind? scope = some .block →
      t.kind? c = some .blockVarDecl → t.parent? decl = some scope → decl < c →
      t.parent? d = some decl → t.kind? d = some .blockVarDeclEntry → Shows t scope c d
  /-- Everything else in a block sees the entries of all its declarations. -/
  | blockBody {decl d : Nat} : t.kind? scope = some .block →
      t.kind? c ≠ some .blockVarDecl → t.parent? decl = some scope →
      t.kind? decl = some .blockVarDecl → t.parent? d = some decl →
      t.kind? d = some .blockVarDeclEntry → Shows t scope c d

/-- `s` is the innermost node that holds both `v` and `n`. -/
structure LowestCommon (t : Tree) (v n s : Nat) : Prop where
  left : s ∈ t.lineage v
  right : s ∈ t.lineage n
  lowest : ∀ a : Nat, a ∈ t.lineage v → a ∈ t.lineage n → a ∈ t.lineage s

/-! ## 2. What each construct lists -/

theorem is_iff {k : Kind} : t.is k i = true ↔ t.kind? i = some k := by
  simp [is]

theorem child?_kind {k : Kind} (h : t.child? k i = some c) : t.kind? c = some k :=
  is_iff.mp (List.find?_some h)

namespace Arena

theorem child?_parent (h : t.Arena) {k : Kind} (hc : t.child? k i = some c) :
    t.parent? c = some i :=
  h.mem_children_iff.mp (List.mem_of_find?_eq_some hc)

theorem mem_childrenOf_iff (h : t.Arena) {k : Kind} :
    c ∈ t.childrenOf k i ↔ t.parent? c = some i ∧ t.kind? c = some k := by
  rw [childrenOf, List.mem_filter, h.mem_children_iff, is_iff]

end Arena

theorem mem_ownVariable_iff : b ∈ t.ownVariable d ↔ t.Declares d b := by
  unfold ownVariable
  constructor
  · intro hb
    split at hb
    · rename_i token htoken
      split at hb
      · rename_i name hname
        rw [List.mem_singleton.mp hb]
        exact ⟨htoken, hname⟩
      · exact absurd hb (by simp)
    · exact absurd hb (by simp)
  · rintro ⟨htoken, hname⟩
    simp [htoken, hname]

theorem mem_bindingVariables_iff :
    b ∈ t.bindingVariables i ↔ ∃ d, t.Binds i d ∧ t.Declares d b := by
  unfold bindingVariables
  constructor
  · intro hb
    split at hb
    · rename_i hk
      rcases List.mem_append.mp hb with hb | hb
      · exact ⟨i, ⟨hk, .inl rfl⟩, mem_ownVariable_iff.mp hb⟩
      · cases hp : t.child? .positionalVar i with
        | none => rw [hp] at hb; exact absurd hb (by simp)
        | some d =>
          rw [hp] at hb
          exact ⟨d, ⟨hk, .inr hp⟩, mem_ownVariable_iff.mp hb⟩
    · exact absurd hb (by simp)
  · rintro ⟨d, ⟨hk, hd⟩, hdecl⟩
    rw [if_pos hk, List.mem_append]
    rcases hd with rfl | hd
    · exact .inl (mem_ownVariable_iff.mpr hdecl)
    · rw [hd]
      exact .inr (mem_ownVariable_iff.mpr hdecl)

namespace Arena

theorem mem_conditionVariables_iff (h : t.Arena) :
    b ∈ t.conditionVariables i ↔ ∃ d, t.ConditionHolds i d ∧ t.Declares d b := by
  unfold conditionVariables
  cases hv : t.child? .windowVars i with
  | none => simp [ConditionHolds, hv]
  | some vars =>
    simp only [Option.elim_some, List.mem_flatMap, mem_ownVariable_iff, h.mem_children_iff]
    constructor
    · rintro ⟨d, hd, hdecl⟩
      exact ⟨d, ⟨vars, hv, hd⟩, hdecl⟩
    · rintro ⟨d, ⟨vars', hv', hd⟩, hdecl⟩
      rw [hv, Option.some.injEq] at hv'
      exact ⟨d, hv' ▸ hd, hdecl⟩

/-- The variables of the first condition of a kind. -/
theorem mem_elim_conditionVariables_iff (h : t.Arena) {k : Kind} :
    b ∈ (t.child? k i).elim [] t.conditionVariables ↔
      ∃ condition d, t.child? k i = some condition ∧ t.ConditionHolds condition d ∧
        t.Declares d b := by
  cases hc : t.child? k i with
  | none => simp
  | some condition => simp [h.mem_conditionVariables_iff]

theorem mem_flatMap_bindingVariables_iff (h : t.Arena) :
    b ∈ (t.children i).flatMap t.bindingVariables ↔
      ∃ j d, t.parent? j = some i ∧ t.Binds j d ∧ t.Declares d b := by
  simp only [List.mem_flatMap, h.mem_children_iff, mem_bindingVariables_iff]
  constructor
  · rintro ⟨j, hj, d, hb, hd⟩
    exact ⟨j, d, hj, hb, hd⟩
  · rintro ⟨j, d, hj, hb, hd⟩
    exact ⟨j, hj, d, hb, hd⟩

theorem kindIs_isWindow_iff : t.kindIs Kind.isWindow i = true ↔
    t.kind? i = some .tumblingWindowClause ∨ t.kind? i = some .slidingWindowClause := by
  unfold kindIs
  cases hk : t.kind? i with
  | none => simp
  | some k => cases k <;> simp [Kind.isWindow]

theorem mem_windowVariables_iff (h : t.Arena) (hw : t.kindIs Kind.isWindow i = true) :
    b ∈ t.ownVariable i ++
        (t.child? .windowStartCondition i).elim [] t.conditionVariables ++
        (t.child? .windowEndCondition i).elim [] t.conditionVariables ↔
      ∃ d, t.HandsOn i d ∧ t.Declares d b := by
  rw [List.mem_append, List.mem_append, mem_ownVariable_iff, h.mem_elim_conditionVariables_iff,
    h.mem_elim_conditionVariables_iff]
  constructor
  · rintro ((hb | ⟨condition, d, hc, hd, hb⟩) | ⟨condition, d, hc, hd, hb⟩)
    · exact ⟨i, .window hw, hb⟩
    · exact ⟨d, .condition hw (.inl hc) hd, hb⟩
    · exact ⟨d, .condition hw (.inr hc) hd, hb⟩
  · rintro ⟨d, hd, hb⟩
    cases hd with
    | bound hk => rcases kindIs_isWindow_iff.mp hw with hw | hw <;> simp [hw] at hk
    | count hk => rcases kindIs_isWindow_iff.mp hw with hw | hw <;> simp [hw] at hk
    | window => exact .inl (.inl hb)
    | condition _ hc hd =>
      rcases hc with hc | hc
      · exact .inl (.inr ⟨_, d, hc, hd, hb⟩)
      · exact .inr ⟨_, d, hc, hd, hb⟩

/-- A clause lists exactly what it hands on. -/
theorem mem_clauseVariables_iff (h : t.Arena) :
    b ∈ t.clauseVariables i ↔ ∃ d, t.HandsOn i d ∧ t.Declares d b := by
  have hbound : (t.kind? i = some .forClause ∨ t.kind? i = some .letClause ∨
      t.kind? i = some .groupByClause) →
      (b ∈ (t.children i).flatMap t.bindingVariables ↔ ∃ d, t.HandsOn i d ∧ t.Declares d b) := by
    intro hk
    rw [h.mem_flatMap_bindingVariables_iff]
    constructor
    · rintro ⟨j, d, hj, hb, hd⟩
      exact ⟨d, .bound hk hj hb, hd⟩
    · rintro ⟨d, hd, hb⟩
      cases hd with
      | bound _ hj hd => exact ⟨_, d, hj, hd, hb⟩
      | count hc => simp [hc] at hk
      | window hw => rcases kindIs_isWindow_iff.mp hw with hw | hw <;> simp [hw] at hk
      | condition hw => rcases kindIs_isWindow_iff.mp hw with hw | hw <;> simp [hw] at hk
  unfold clauseVariables
  split
  · rename_i hk; exact hbound (.inl hk)
  · rename_i hk; exact hbound (.inr (.inl hk))
  · rename_i hk; exact hbound (.inr (.inr hk))
  · rename_i hk; exact h.mem_windowVariables_iff (kindIs_isWindow_iff.mpr (.inl hk))
  · rename_i hk; exact h.mem_windowVariables_iff (kindIs_isWindow_iff.mpr (.inr hk))
  · rename_i hk
    rw [mem_ownVariable_iff]
    constructor
    · intro hb
      exact ⟨i, .count hk, hb⟩
    · rintro ⟨d, hd, hb⟩
      cases hd with
      | bound hk' => simp [hk] at hk'
      | count => exact hb
      | window => exact hb
      | condition hw => rcases kindIs_isWindow_iff.mp hw with hw | hw <;> simp [hw] at hk
  · rename_i hfor hlet hgroup htumbling hsliding hcount
    simp only [List.not_mem_nil, false_iff]
    rintro ⟨d, hd, -⟩
    cases hd with
    | bound hk =>
      rcases hk with hk | hk | hk
      · exact hfor hk
      · exact hlet hk
      · exact hgroup hk
    | count hk => exact hcount hk
    | window hw => exact (kindIs_isWindow_iff.mp hw).elim htumbling hsliding
    | condition hw => exact (kindIs_isWindow_iff.mp hw).elim htumbling hsliding

theorem mem_prologVariables_iff (h : t.Arena) :
    b ∈ t.prologVariables i ↔
      ∃ d, t.parent? d = some i ∧ t.kind? d = some .varDecl ∧ t.Declares d b := by
  simp only [prologVariables, List.mem_flatMap, List.mem_reverse, h.mem_childrenOf_iff,
    mem_ownVariable_iff, and_assoc]

theorem mem_blockVariables_iff (h : t.Arena) :
    b ∈ t.blockVariables i ↔
      ∃ d, t.parent? d = some i ∧ t.kind? d = some .blockVarDeclEntry ∧ t.Declares d b := by
  simp only [blockVariables, List.mem_flatMap, h.mem_childrenOf_iff, mem_ownVariable_iff,
    and_assoc]

/-- The siblings before a child of `scope`. -/
theorem mem_before_child_iff (h : t.Arena) (hc : t.parent? c = some scope) :
    i ∈ t.before c ↔ t.parent? i = some scope ∧ i < c := by
  rw [h.mem_before_iff, hc]
  constructor
  · rintro ⟨hlt, p, hp, heq⟩
    rw [Option.some.injEq] at heq
    exact ⟨heq ▸ hp, hlt⟩
  · rintro ⟨hp, hlt⟩
    exact ⟨hlt, scope, hp, rfl⟩

theorem mem_earlierBindings_iff (h : t.Arena) (hc : t.parent? c = some scope) :
    b ∈ (t.before c).flatMap t.bindingVariables ↔
      ∃ i d, t.parent? i = some scope ∧ i < c ∧ t.Binds i d ∧ t.Declares d b := by
  simp only [List.mem_flatMap, h.mem_before_child_iff hc, mem_bindingVariables_iff]
  constructor
  · rintro ⟨i, ⟨hi, hlt⟩, d, hd, hb⟩
    exact ⟨i, d, hi, hlt, hd, hb⟩
  · rintro ⟨i, d, hi, hlt, hd, hb⟩
    exact ⟨i, ⟨hi, hlt⟩, d, hd, hb⟩

theorem mem_parameterVariables_iff (h : t.Arena) :
    b ∈ (t.parameters i).flatMap t.ownVariable ↔
      ∃ params d, t.child? .paramList i = some params ∧ t.parent? d = some params ∧
        t.kind? d = some .param ∧ t.Declares d b := by
  unfold parameters
  cases hp : t.child? .paramList i with
  | none => simp
  | some params =>
    simp [h.mem_childrenOf_iff, mem_ownVariable_iff, and_assoc]

theorem mem_elim_prologVariables_iff (h : t.Arena) :
    b ∈ (t.child? .prolog i).elim [] t.prologVariables ↔
      ∃ prolog d, t.child? .prolog i = some prolog ∧ t.parent? d = some prolog ∧
        t.kind? d = some .varDecl ∧ t.Declares d b := by
  cases hp : t.child? .prolog i with
  | none => simp
  | some prolog => simp [h.mem_prologVariables_iff]

theorem kindIs_isModule_iff : t.kindIs Kind.isModule i = true ↔
    t.kind? i = some .mainModule ∨ t.kind? i = some .libraryModule := by
  unfold kindIs
  cases hk : t.kind? i with
  | none => simp
  | some k => cases k <;> simp [Kind.isModule]

/-! ## 3. One step of the walk -/

theorem shows_of_mem_clause (h : t.Arena) (hc : t.parent? c = some scope)
    (hk : t.kind? scope = some .forClause ∨ t.kind? scope = some .letClause ∨
      t.kind? scope = some .groupByClause ∨ t.kind? scope = some .blockVarDecl)
    (hb : b ∈ (t.before c).flatMap t.bindingVariables) :
    ∃ d, t.Shows scope c d ∧ t.Declares d b := by
  obtain ⟨i, d, hi, hlt, hd, hb⟩ := (h.mem_earlierBindings_iff hc).mp hb
  exact ⟨d, .sameClause hk hi hlt hd, hb⟩

theorem shows_of_mem_window (h : t.Arena) (hk : t.kindIs Kind.isWindow scope = true)
    (hb : b ∈ if t.is .windowEndCondition c then
      (t.child? .windowStartCondition scope).elim [] t.conditionVariables else []) :
    ∃ d, t.Shows scope c d ∧ t.Declares d b := by
  split at hb
  · rename_i hend
    obtain ⟨condition, d, hcond, hd, hb⟩ := h.mem_elim_conditionVariables_iff.mp hb
    exact ⟨d, .windowEnd hk (is_iff.mp hend) hcond hd, hb⟩
  · exact absurd hb (by simp)

theorem shows_of_mem_condition (h : t.Arena)
    (hk : t.kind? scope = some .windowStartCondition ∨
      t.kind? scope = some .windowEndCondition)
    (hb : b ∈ if t.is .windowVars c then [] else t.conditionVariables scope) :
    ∃ d, t.Shows scope c d ∧ t.Declares d b := by
  split at hb
  · exact absurd hb (by simp)
  · rename_i hvars
    obtain ⟨d, hd, hb⟩ := h.mem_conditionVariables_iff.mp hb
    exact ⟨d, .condition hk (fun hk => hvars (is_iff.mpr hk)) hd, hb⟩

theorem shows_of_mem_quantified (h : t.Arena) (hc : t.parent? c = some scope)
    (hk : t.kind? scope = some .quantifiedExpr)
    (hb : b ∈ if t.is .quantifiedBinding c then (t.preceding c).flatMap t.bindingVariables
      else (t.childrenOf .quantifiedBinding scope).reverse.flatMap t.bindingVariables) :
    ∃ d, t.Shows scope c d ∧ t.Declares d b := by
  split at hb
  · rename_i hbinding
    obtain ⟨i, hi, hb⟩ := List.mem_flatMap.mp hb
    obtain ⟨hpi, hlt⟩ := (h.mem_before_child_iff hc).mp (List.mem_reverse.mp hi)
    obtain ⟨d, hd, hb⟩ := mem_bindingVariables_iff.mp hb
    exact ⟨d, .quantifiedBinding hk (is_iff.mp hbinding) hpi hlt hd, hb⟩
  · rename_i hbinding
    obtain ⟨i, hi, hb⟩ := List.mem_flatMap.mp hb
    obtain ⟨hpi, hki⟩ := h.mem_childrenOf_iff.mp (List.mem_reverse.mp hi)
    obtain ⟨d, hd, hb⟩ := mem_bindingVariables_iff.mp hb
    exact ⟨d, .quantifiedBody hk (fun hk => hbinding (is_iff.mpr hk)) hpi hki hd, hb⟩

theorem shows_of_mem_branch
    (hk : t.kind? scope = some .typeswitchCase ∨ t.kind? scope = some .typeswitchDefault)
    (hb : b ∈ if t.is .varName c || t.is .sequenceType c then [] else t.ownVariable scope) :
    ∃ d, t.Shows scope c d ∧ t.Declares d b := by
  split at hb
  · exact absurd hb (by simp)
  · rename_i hnot
    simp only [Bool.or_eq_true, is_iff, not_or] at hnot
    exact ⟨scope, .branch hk hnot.1 hnot.2, mem_ownVariable_iff.mp hb⟩

theorem shows_of_mem_function (h : t.Arena)
    (hk : t.kind? scope = some .functionDecl ∨ t.kind? scope = some .inlineFunctionExpr)
    (hb : b ∈ if t.is .functionBody c then (t.parameters scope).flatMap t.ownVariable else []) :
    ∃ d, t.Shows scope c d ∧ t.Declares d b := by
  split at hb
  · rename_i hbody
    obtain ⟨params, d, hp, hd, hkd, hb⟩ := h.mem_parameterVariables_iff.mp hb
    exact ⟨d, .parameter hk (is_iff.mp hbody) hp hd hkd, hb⟩
  · exact absurd hb (by simp)

theorem shows_of_mem_prolog (h : t.Arena) (hc : t.parent? c = some scope)
    (hk : t.kind? scope = some .prolog)
    (hb : b ∈ if t.is .varDecl c then
        ((t.preceding c).filter (t.is .varDecl)).flatMap t.ownVariable
      else if t.is .functionDecl c then t.prologVariables scope else []) :
    ∃ d, t.Shows scope c d ∧ t.Declares d b := by
  split at hb
  · rename_i hvar
    obtain ⟨d, hd, hb⟩ := List.mem_flatMap.mp hb
    obtain ⟨hd, hkd⟩ := List.mem_filter.mp hd
    obtain ⟨hp, hlt⟩ := (h.mem_before_child_iff hc).mp (List.mem_reverse.mp hd)
    exact ⟨d, .prologVariable hk (is_iff.mp hvar) hp hlt (is_iff.mp hkd),
      mem_ownVariable_iff.mp hb⟩
  · split at hb
    · rename_i hfun
      obtain ⟨d, hp, hkd, hb⟩ := h.mem_prologVariables_iff.mp hb
      exact ⟨d, .prologFunction hk (is_iff.mp hfun) hp hkd, hb⟩
    · exact absurd hb (by simp)

theorem shows_of_mem_module (h : t.Arena) (hk : t.kindIs Kind.isModule scope = true)
    (hb : b ∈ if t.is .queryBody c then (t.child? .prolog scope).elim [] t.prologVariables
      else []) : ∃ d, t.Shows scope c d ∧ t.Declares d b := by
  split at hb
  · rename_i hbody
    obtain ⟨prolog, d, hp, hd, hkd, hb⟩ := h.mem_elim_prologVariables_iff.mp hb
    exact ⟨d, .queryBody hk (is_iff.mp hbody) hp hd hkd, hb⟩
  · exact absurd hb (by simp)

theorem shows_of_mem_block (h : t.Arena) (hc : t.parent? c = some scope)
    (hk : t.kind? scope = some .block)
    (hb : b ∈ if t.is .blockVarDecl c then (t.before c).flatMap t.blockVariables
      else (t.childrenOf .blockVarDecl scope).flatMap t.blockVariables) :
    ∃ d, t.Shows scope c d ∧ t.Declares d b := by
  split at hb
  · rename_i hdecl
    obtain ⟨decl, hd, hb⟩ := List.mem_flatMap.mp hb
    obtain ⟨hp, hlt⟩ := (h.mem_before_child_iff hc).mp hd
    obtain ⟨d, hpd, hkd, hb⟩ := h.mem_blockVariables_iff.mp hb
    exact ⟨d, .blockDeclaration hk (is_iff.mp hdecl) hp hlt hpd hkd, hb⟩
  · rename_i hdecl
    obtain ⟨decl, hd, hb⟩ := List.mem_flatMap.mp hb
    obtain ⟨hp, hkdecl⟩ := h.mem_childrenOf_iff.mp hd
    obtain ⟨d, hpd, hkd, hb⟩ := h.mem_blockVariables_iff.mp hb
    exact ⟨d, .blockBody hk (fun hk => hdecl (is_iff.mpr hk)) hp hkdecl hpd hkd, hb⟩

/-- **Soundness of a step.**  What a construct lists for a child, it shows to it. -/
theorem shows_of_mem (h : t.Arena) (hc : t.parent? c = some scope)
    (hb : b ∈ t.visibleFrom scope c) : ∃ d, t.Shows scope c d ∧ t.Declares d b := by
  unfold visibleFrom at hb
  split at hb
  · rename_i hk
    obtain ⟨clause, hclause, hb⟩ := List.mem_flatMap.mp hb
    obtain ⟨hp, hlt⟩ := (h.mem_before_child_iff hc).mp (List.mem_reverse.mp hclause)
    obtain ⟨d, hd, hb⟩ := h.mem_clauseVariables_iff.mp hb
    exact ⟨d, .flwor hk hp hlt hd, hb⟩
  · rename_i hk; exact h.shows_of_mem_clause hc (.inl hk) hb
  · rename_i hk; exact h.shows_of_mem_clause hc (.inr (.inl hk)) hb
  · rename_i hk; exact h.shows_of_mem_clause hc (.inr (.inr (.inl hk))) hb
  · rename_i hk; exact h.shows_of_mem_clause hc (.inr (.inr (.inr hk))) hb
  · rename_i hk; exact h.shows_of_mem_window (kindIs_isWindow_iff.mpr (.inl hk)) hb
  · rename_i hk; exact h.shows_of_mem_window (kindIs_isWindow_iff.mpr (.inr hk)) hb
  · rename_i hk; exact h.shows_of_mem_condition (.inl hk) hb
  · rename_i hk; exact h.shows_of_mem_condition (.inr hk) hb
  · rename_i hk; exact h.shows_of_mem_quantified hc hk hb
  · rename_i hk; exact shows_of_mem_branch (.inl hk) hb
  · rename_i hk; exact shows_of_mem_branch (.inr hk) hb
  · rename_i hk; exact h.shows_of_mem_function (.inl hk) hb
  · rename_i hk; exact h.shows_of_mem_function (.inr hk) hb
  · rename_i hk; exact h.shows_of_mem_prolog hc hk hb
  · rename_i hk; exact h.shows_of_mem_module (kindIs_isModule_iff.mpr (.inl hk)) hb
  · rename_i hk; exact h.shows_of_mem_module (kindIs_isModule_iff.mpr (.inr hk)) hb
  · rename_i hk; exact h.shows_of_mem_block hc hk hb
  · exact absurd hb (by simp)

/-- **Completeness of a step.**  What a construct shows to a child, it lists for it. -/
theorem mem_of_shows (h : t.Arena) (hc : t.parent? c = some scope) (hs : t.Shows scope c d)
    (hd : t.Declares d b) : b ∈ t.visibleFrom scope c := by
  cases hs with
  | @flwor clause _ hk hp hlt hon =>
    simp only [visibleFrom, hk]
    have hbefore : clause ∈ t.before c := (h.mem_before_child_iff hc).mpr ⟨hp, hlt⟩
    exact List.mem_flatMap.mpr ⟨clause, List.mem_reverse.mpr hbefore,
      h.mem_clauseVariables_iff.mpr ⟨d, hon, hd⟩⟩
  | @sameClause i _ hk hp hlt hbinds =>
    have hmem := (h.mem_earlierBindings_iff hc).mpr ⟨i, d, hp, hlt, hbinds, hd⟩
    rcases hk with hk | hk | hk | hk <;> simpa only [visibleFrom, hk] using hmem
  | @windowEnd condition _ hk hend hcond hholds =>
    have hmem := h.mem_elim_conditionVariables_iff.mpr ⟨condition, d, hcond, hholds, hd⟩
    rcases kindIs_isWindow_iff.mp hk with hk | hk <;>
      simpa only [visibleFrom, hk, is_iff.mpr hend, if_true] using hmem
  | condition hk hvars hholds =>
    have hmem := h.mem_conditionVariables_iff.mpr ⟨d, hholds, hd⟩
    rcases hk with hk | hk <;>
      simpa only [visibleFrom, hk, is_iff, hvars, if_false] using hmem
  | @quantifiedBinding i _ hk hkc hp hlt hbinds =>
    have hbefore : i ∈ t.before c := (h.mem_before_child_iff hc).mpr ⟨hp, hlt⟩
    simp only [visibleFrom, hk, is_iff.mpr hkc, if_true]
    exact List.mem_flatMap.mpr ⟨i, List.mem_reverse.mpr hbefore,
      mem_bindingVariables_iff.mpr ⟨d, hbinds, hd⟩⟩
  | @quantifiedBody i _ hk hkc hp hki hbinds =>
    simp only [visibleFrom, hk, is_iff, hkc, if_false]
    exact List.mem_flatMap.mpr ⟨i, List.mem_reverse.mpr (h.mem_childrenOf_iff.mpr ⟨hp, hki⟩),
      mem_bindingVariables_iff.mpr ⟨d, hbinds, hd⟩⟩
  | branch hk hvar htype =>
    have hmem := mem_ownVariable_iff.mpr hd
    rcases hk with hk | hk <;>
      simpa only [visibleFrom, hk, Bool.or_eq_true, is_iff, hvar, htype, or_self, if_false]
        using hmem
  | @parameter params _ hk hbody hps hp hkd =>
    have hmem := h.mem_parameterVariables_iff.mpr ⟨params, d, hps, hp, hkd, hd⟩
    rcases hk with hk | hk <;>
      simpa only [visibleFrom, hk, is_iff.mpr hbody, if_true] using hmem
  | prologVariable hk hkc hp hlt hkd =>
    have hbefore : d ∈ t.before c := (h.mem_before_child_iff hc).mpr ⟨hp, hlt⟩
    simp only [visibleFrom, hk, is_iff.mpr hkc, if_true]
    refine List.mem_flatMap.mpr ⟨d, List.mem_filter.mpr ⟨?_, is_iff.mpr hkd⟩,
      mem_ownVariable_iff.mpr hd⟩
    exact List.mem_reverse.mpr hbefore
  | prologFunction hk hkc hp hkd =>
    simp only [visibleFrom, hk, is_iff, hkc, Option.some.injEq, reduceCtorEq, if_false, if_true]
    exact h.mem_prologVariables_iff.mpr ⟨d, hp, hkd, hd⟩
  | @queryBody prolog _ hk hbody hprolog hp hkd =>
    have hmem := h.mem_elim_prologVariables_iff.mpr ⟨prolog, d, hprolog, hp, hkd, hd⟩
    rcases kindIs_isModule_iff.mp hk with hk | hk <;>
      simpa only [visibleFrom, hk, is_iff.mpr hbody, if_true] using hmem
  | @blockDeclaration decl _ hk hkc hpdecl hlt hp hkd =>
    simp only [visibleFrom, hk, is_iff.mpr hkc, if_true]
    exact List.mem_flatMap.mpr ⟨decl, (h.mem_before_child_iff hc).mpr ⟨hpdecl, hlt⟩,
      h.mem_blockVariables_iff.mpr ⟨d, hp, hkd, hd⟩⟩
  | @blockBody decl _ hk hkc hpdecl hkdecl hp hkd =>
    simp only [visibleFrom, hk, is_iff, hkc, if_false]
    exact List.mem_flatMap.mpr ⟨decl, h.mem_childrenOf_iff.mpr ⟨hpdecl, hkdecl⟩,
      h.mem_blockVariables_iff.mpr ⟨d, hp, hkd, hd⟩⟩

/-! ## 4. The whole walk -/

theorem steps_child (h : t.Arena) {p : Nat} (hp : t.parent? n = some p) :
    t.steps n = (n, p) :: t.steps p := by
  rw [steps, h.lineage_child hp, List.tail_cons, lineage_eq h.parent_lt p, List.zip_cons_cons,
    ← lineage_eq h.parent_lt p]
  simp only [steps]
  rw [lineage_eq h.parent_lt p, List.tail_cons]

theorem steps_top (h : t.Arena) (hp : t.parent? n = none) : t.steps n = [] := by
  rw [steps, h.lineage_top hp, List.tail_cons, List.zip_nil_right]

/-- The steps of the walk are the nodes on the way that have a parent, with it. -/
theorem mem_steps_iff (h : t.Arena) (n : Nat) :
    ∀ {c s : Nat}, (c, s) ∈ t.steps n ↔ c ∈ t.lineage n ∧ t.parent? c = some s := by
  induction n using Nat.strongRecOn with
  | ind n ih =>
    intro c s
    cases hp : t.parent? n with
    | none =>
      simp only [h.steps_top hp, h.lineage_top hp, List.not_mem_nil, List.mem_singleton, false_iff,
        not_and]
      rintro rfl hs
      rw [hp] at hs
      exact absurd hs (by simp)
    | some p =>
      rw [h.steps_child hp, List.mem_cons, ih p (h.parent_lt hp), h.lineage_child hp, List.mem_cons]
      constructor
      · rintro (heq | ⟨hc, hs⟩)
        · obtain ⟨rfl, rfl⟩ := Prod.mk.inj heq
          exact ⟨.inl rfl, hp⟩
        · exact ⟨.inr hc, hs⟩
      · rintro ⟨rfl | hc, hs⟩
        · rw [hp, Option.some.injEq] at hs
          exact .inl (by rw [hs])
        · exact .inr ⟨hc, hs⟩

/-- A variable is listed at a node iff some ancestor shows its declaration on the way there. -/
theorem mem_inScopeVariables_iff_shows (h : t.Arena) :
    b ∈ t.inScopeVariables n ↔ ∃ s c d : Nat,
      c ∈ t.lineage n ∧ t.parent? c = some s ∧ t.Shows s c d ∧ t.Declares d b := by
  unfold inScopeVariables
  rw [List.mem_flatMap]
  constructor
  · rintro ⟨⟨c, s⟩, hmem, hb⟩
    obtain ⟨hc, hs⟩ := (h.mem_steps_iff n).mp hmem
    obtain ⟨d, hd, hb⟩ := h.shows_of_mem hs hb
    exact ⟨s, c, d, hc, hs, hd, hb⟩
  · rintro ⟨s, c, d, hc, hs, hd, hb⟩
    exact ⟨(c, s), (h.mem_steps_iff n).mpr ⟨hc, hs⟩, h.mem_of_shows hs hd hb⟩

/-! ## 5. The lowest common ancestor -/

/-- Of two ancestors of one node, one is an ancestor of the other. -/
theorem lineage_total (h : t.Arena) {a e : Nat} (ha : a ∈ t.lineage n) (he : e ∈ t.lineage n) :
    a ∈ t.lineage e ∨ e ∈ t.lineage a := by
  rcases List.suffix_or_suffix_of_suffix (h.lineage_suffix n ha) (h.lineage_suffix n he)
    with hs | hs
  · exact .inl (hs.subset (h.self_mem_lineage a))
  · exact .inr (hs.subset (h.self_mem_lineage e))

/-- Nothing lies below two children of one node. -/
theorem sibling_eq (h : t.Arena) {a e : Nat} (hpa : t.parent? a = some scope)
    (hpe : t.parent? e = some scope) (ha : a ∈ t.lineage d) (he : e ∈ t.lineage d) : a = e := by
  -- a sibling that is a proper ancestor would be one of their parent, and come before it
  have hnot {x y : Nat} (hx : t.parent? x = some scope) (hy : t.parent? y = some scope)
      (hxy : x ∈ t.lineage y) : x = y := by
    by_cases heq : x = y
    · exact heq
    · have hle := h.le_of_mem_lineage (h.mem_lineage_parent hy hxy heq)
      have hlt := h.parent_lt hx
      omega
  rcases h.lineage_total ha he with hae | hea
  · exact hnot hpa hpe hae
  · exact (hnot hpe hpa hea).symm

/-- What lies below a sibling comes before what lies below a later one. -/
theorem sibling_lt (h : t.Arena) {a e x y : Nat} (hpa : t.parent? a = some scope)
    (hpe : t.parent? e = some scope) (hlt : a < e) (hx : a ∈ t.lineage x) (hy : e ∈ t.lineage y) :
    x < y := by
  rcases Nat.lt_or_ge x y with hxy | hyx
  · exact hxy
  · have hey := h.le_of_mem_lineage hy
    have hay := h.mem_lineage_of_between hx (by omega) hyx
    have heq := h.sibling_eq hpa hpe hay hy
    omega

theorem binds_below (h : t.Arena) (hb : t.Binds i d) : i ∈ t.lineage d := by
  rcases hb.declared with rfl | hd
  · exact h.self_mem_lineage d
  · exact h.parent_mem_lineage (h.child?_parent hd)

theorem conditionHolds_below (h : t.Arena) (hd : t.ConditionHolds i d) : i ∈ t.lineage d := by
  obtain ⟨vars, hvars, hp⟩ := hd
  exact h.lineage_trans (h.parent_mem_lineage (h.child?_parent hvars)) (h.parent_mem_lineage hp)

theorem handsOn_below (h : t.Arena) (hon : t.HandsOn i d) : i ∈ t.lineage d := by
  cases hon with
  | bound _ hp hb => exact h.lineage_trans (h.parent_mem_lineage hp) (h.binds_below hb)
  | count => exact h.self_mem_lineage _
  | window => exact h.self_mem_lineage _
  | condition _ hcond hd =>
    rcases hcond with hcond | hcond <;>
      exact h.lineage_trans (h.parent_mem_lineage (h.child?_parent hcond))
        (h.conditionHolds_below hd)

/-- What a construct shows to a child lies below another of its children, or is the construct. -/
theorem shows_apart (h : t.Arena) (hs : t.Shows scope c d) :
    (d = scope ∧ t.kind? c ≠ some .varName) ∨
      ∃ e : Nat, t.parent? e = some scope ∧ e ≠ c ∧ e ∈ t.lineage d := by
  have hkinds {e : Nat} {k l : Kind} (he : t.kind? e = some k) (hc : t.kind? c = some l)
      (hkl : k ≠ l) : e ≠ c := by
    rintro rfl
    rw [he, Option.some.injEq] at hc
    exact hkl hc
  cases hs with
  | @flwor clause _ _ hp hlt hon =>
    exact .inr ⟨clause, hp, Nat.ne_of_lt hlt, h.handsOn_below hon⟩
  | @sameClause i _ _ hp hlt hb => exact .inr ⟨i, hp, Nat.ne_of_lt hlt, h.binds_below hb⟩
  | @windowEnd condition _ _ hend hcond hd =>
    exact .inr ⟨condition, h.child?_parent hcond,
      hkinds (child?_kind hcond) hend (by decide), h.conditionHolds_below hd⟩
  | condition _ hnot hd =>
    obtain ⟨vars, hvars, hp⟩ := hd
    exact .inr ⟨vars, h.child?_parent hvars, fun heq => hnot (heq ▸ child?_kind hvars),
      h.parent_mem_lineage hp⟩
  | @quantifiedBinding i _ _ _ hp hlt hb => exact .inr ⟨i, hp, Nat.ne_of_lt hlt, h.binds_below hb⟩
  | @quantifiedBody i _ _ hnot hp hki hb =>
    exact .inr ⟨i, hp, fun heq => hnot (heq ▸ hki), h.binds_below hb⟩
  | branch _ hvar _ => exact .inl ⟨rfl, hvar⟩
  | @parameter params _ _ hbody hps hp _ =>
    exact .inr ⟨params, h.child?_parent hps, hkinds (child?_kind hps) hbody (by decide),
      h.parent_mem_lineage hp⟩
  | prologVariable _ _ hp hlt _ => exact .inr ⟨d, hp, Nat.ne_of_lt hlt, h.self_mem_lineage d⟩
  | prologFunction _ hfun hp hkd =>
    exact .inr ⟨d, hp, hkinds hkd hfun (by decide), h.self_mem_lineage d⟩
  | @queryBody prolog _ _ hbody hprolog hp _ =>
    exact .inr ⟨prolog, h.child?_parent hprolog,
      hkinds (child?_kind hprolog) hbody (by decide), h.parent_mem_lineage hp⟩
  | @blockDeclaration decl _ _ _ hpd hlt hp _ =>
    exact .inr ⟨decl, hpd, Nat.ne_of_lt hlt, h.parent_mem_lineage hp⟩
  | @blockBody decl _ _ hnot hpd hkd hp _ =>
    exact .inr ⟨decl, hpd, fun heq => hnot (heq ▸ hkd), h.parent_mem_lineage hp⟩

/-- **The scope is the lowest common ancestor** of what it shows and of the node it is shown to. -/
theorem lowestCommon_of_shows (h : t.Arena) (hc : c ∈ t.lineage n) (hp : t.parent? c = some scope)
    (hs : t.Shows scope c d) (hv : t.child? .varName d = some v) :
    t.LowestCommon v n scope := by
  have hpv : t.parent? v = some d := h.child?_parent hv
  have hdv : d ∈ t.lineage v := h.parent_mem_lineage hpv
  have hapart : scope ∈ t.lineage d ∧ c ∉ t.lineage v := by
    rcases h.shows_apart hs with ⟨rfl, hkc⟩ | ⟨e, hpe, hne, he⟩
    · refine ⟨h.self_mem_lineage d, fun hcv => ?_⟩
      have hcv : c = v := h.sibling_eq hp hpv hcv (h.self_mem_lineage v)
      exact hkc (hcv ▸ child?_kind hv)
    · exact ⟨h.lineage_trans (h.parent_mem_lineage hpe) he,
        fun hcv => hne (h.sibling_eq hpe hp (h.lineage_trans he hdv) hcv)⟩
  refine ⟨h.lineage_trans hapart.1 hdv, h.lineage_trans (h.parent_mem_lineage hp) hc, ?_⟩
  intro a hav han
  rcases h.lineage_total han hc with hac | hca
  · refine h.mem_lineage_parent hp hac ?_
    rintro rfl
    exact hapart.2 hav
  · exact absurd (h.lineage_trans hca hav) hapart.2

end Arena

end Tree

/-- **Exact visibility.**  In every tree that a builder builds, a token `v` declares a variable in
scope at `n` iff it is the first name of its parent `d` and spells a name, and the lowest common
ancestor of `v` and `n`, which is a proper ancestor of `n`, shows `d` to its child on the way to
`n`. -/
theorem declared_in_scope_iff {t : Tree} (ht : t.Built) (n v : Nat) :
    (∃ b ∈ t.inScopeVariables n, b.declaredAt = v) ↔
      ∃ d : Nat, t.parent? v = some d ∧ t.child? .varName d = some v ∧
        (∃ text name, t.text? v = some text ∧ Name.parse? text = some name) ∧
        ∃ s c : Nat, t.LowestCommon v n s ∧ s ≠ n ∧ t.parent? c = some s ∧ c ∈ t.lineage n ∧
          t.Shows s c d := by
  have h := ht.arena
  constructor
  · rintro ⟨b, hb, rfl⟩
    obtain ⟨s, c, d, hc, hp, hs, hd⟩ := h.mem_inScopeVariables_iff_shows.mp hb
    obtain ⟨text, htext, hname⟩ := Option.bind_eq_some_iff.mp hd.name
    refine ⟨d, h.child?_parent hd.token, hd.token, ⟨text, b.name, htext, hname⟩, s, c,
      h.lowestCommon_of_shows hc hp hs hd.token, ?_, hp, hc, hs⟩
    have hlt := h.parent_lt hp
    have hle := h.le_of_mem_lineage hc
    omega
  · rintro ⟨d, -, htoken, ⟨text, name, htext, hname⟩, s, c, -, -, hp, hc, hs⟩
    refine ⟨⟨name, v⟩, h.mem_inScopeVariables_iff_shows.mpr ⟨s, c, d, hc, hp, hs, htoken, ?_⟩, rfl⟩
    rw [htext, Option.bind_some, hname]

/-- `for $x in .. return $y`, without the loop's operand. -/
def loopSteps : List Step :=
  [.start .flworExpr, .start .forClause, .start .forBinding, .token .varName "x", .finish, .finish,
    .start .returnClause, .token .varName "y", .finish, .finish]

/-- The tree of a loop: the variable is node 3, and node 5 stands in the result. -/
def loopTree : Tree := (Builder.run {} loopSteps).tree

theorem loopTree_shows : loopTree.Built ∧ (∃ b ∈ loopTree.inScopeVariables 5, b.declaredAt = 3) ∧
    ∃ d s c : Nat, loopTree.child? .varName d = some 3 ∧ loopTree.LowestCommon 3 5 s ∧
      loopTree.Shows s c d := by
  have hbuilt : loopTree.Built := ⟨loopSteps, rfl⟩
  have hmem : ∃ b ∈ loopTree.inScopeVariables 5, b.declaredAt = 3 := by decide +kernel
  obtain ⟨d, -, htoken, -, s, c, hlow, -, -, -, hs⟩ := (declared_in_scope_iff hbuilt 5 3).mp hmem
  exact ⟨hbuilt, hmem, d, s, c, htoken, hlow, hs⟩

end XQueryScope
