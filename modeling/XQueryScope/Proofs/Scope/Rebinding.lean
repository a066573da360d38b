import XQueryScope.Proofs.Scope.Order

/-!
# Two variables of one construct

A clause or a block can declare one name twice, and the later declaration is then the one that a
reference denotes.  In the list of the variables in scope it does not come first: seen from outside,
a construct lists its variables as it declares them.  The order turns around only for a node in a
part of the construct that has variables of its own, the end condition of a window or one
declaration of a block: what that part declares comes before what stood earlier.

The main result is `sameConstruct_order`, which says for any two variables of one construct which
one is listed first.  That the first variable of a name need not be the one a reference denotes is
`first_listed_not_latest`.

The argument compares the scopes at which the walk finds the two variables (`Tree.FoundAt`).  If
they are one, its order decides (`Arena.lt_of_scope_eq`).  If not, the outer one is the construct
itself and the inner one lies in a part of it (`Arena.nearer_of_scope_ne`).
-/

namespace XQueryScope

/-- The kinds that stand between a construct and the names it declares.  They show nothing. -/
def Kind.isInert : Kind → Bool
  | varName | positionalVar | windowVars => true
  | k => k.isBinding

namespace Tree

variable {t : Tree} {n d d' i k p s s' c c' x y : Nat} {b b' : VariableBinding}

/-! ## 1. What a construct declares -/

/-- A clause owns what it hands on, and a block the entries of its declarations. -/
inductive Owns (t : Tree) (k : Nat) : Nat → Prop where
  | clause {d : Nat} : t.HandsOn k d → Owns t k d
  | block {decl d : Nat} : t.kind? k = some .block → t.parent? decl = some k →
      t.kind? decl = some .blockVarDecl → t.parent? d = some decl →
      t.kind? d = some .blockVarDeclEntry → Owns t k d

/-- The clause or block `k` declares the variable. -/
def DeclaredIn (t : Tree) (k : Nat) (b : VariableBinding) : Prop :=
  ∃ d, t.Owns k d ∧ t.Declares d b

/-- `part` is a condition of the window `k`, or a declaration of the block `k`. -/
structure Part (t : Tree) (k part : Nat) : Prop where
  parent : t.parent? part = some k
  kinds : (t.kindIs Kind.isWindow k = true ∧
      (t.kind? part = some .windowStartCondition ∨ t.kind? part = some .windowEndCondition)) ∨
    (t.kind? k = some .block ∧ t.kind? part = some .blockVarDecl)

/-- The node and the variable `b` are in one end condition or declaration of `k`, and `b'` is
not. -/
def Nearer (t : Tree) (n k : Nat) (b b' : VariableBinding) : Prop :=
  ∃ part, t.parent? part = some k ∧
    (t.kind? part = some .windowEndCondition ∨ t.kind? part = some .blockVarDecl) ∧
    part ∈ t.lineage n ∧ part ∈ t.lineage b.declaredAt ∧ part ∉ t.lineage b'.declaredAt

/-- The walk from `n` finds the variable on its step from `c` to `s`, which shows the declaration
`d`. -/
structure FoundAt (t : Tree) (n s c d : Nat) (b : VariableBinding) : Prop where
  way : c ∈ t.lineage n
  step : t.parent? c = some s
  shows : t.Shows s c d
  declares : t.Declares d b

theorem visibleFrom_inert (hs : t.kindIs Kind.isInert s = true) : t.visibleFrom s c = [] := by
  obtain ⟨kind, hkind, hinert⟩ := (Option.any_eq_true _ _).mp hs
  cases kind with
  | varName | positionalVar | windowVars | forBinding | letBinding | groupingSpec
  | quantifiedBinding | blockVarDeclEntry => simp only [visibleFrom, hkind]
  | _ => exact absurd hinert (by decide)

theorem kindIs_of_kind? {kind : Kind} {f : Kind → Bool} (hk : t.kind? i = some kind)
    (hf : f kind = true) : t.kindIs f i = true := by
  simp [kindIs, hk, hf]

theorem kindIs_isInert_of_isBinding (hi : t.kindIs Kind.isBinding i = true) :
    t.kindIs Kind.isInert i = true := by
  obtain ⟨kind, hkind, hbinding⟩ := (Option.any_eq_true _ _).mp hi
  refine kindIs_of_kind? hkind ?_
  cases kind <;> first | rfl | exact absurd hbinding (by decide)

theorem Owns.kind?_ne_flworExpr (hd : t.Owns k d) : t.kind? k ≠ some .flworExpr := by
  intro hkind
  cases hd with
  | clause hon =>
    cases hon with
    | bound hk => rcases hk with hk | hk | hk <;> simp [hk] at hkind
    | count hk => simp [hk] at hkind
    | window hw => rcases Arena.kindIs_isWindow_iff.mp hw with hk | hk <;> simp [hk] at hkind
    | condition hw => rcases Arena.kindIs_isWindow_iff.mp hw with hk | hk <;> simp [hk] at hkind
  | block hk => simp [hk] at hkind

/-- The bindings of a quantified expression and the variables of a prolog are of no clause and no
block. -/
theorem not_owns (hp : t.parent? d = some p)
    (hkinds : (t.kind? d = some .quantifiedBinding ∧ t.kind? p = some .quantifiedExpr) ∨
      (t.kind? d = some .varDecl ∧ t.kind? p = some .prolog)) : ¬ t.Owns k d := by
  intro hd
  cases hd with
  | clause hon =>
    cases hon with
    | bound hk hpi hbinds =>
      rcases hbinds.declared with rfl | hpos
      · rw [hp, Option.some.injEq] at hpi
        subst hpi
        rcases hk with hk | hk | hk <;> simp [hk] at hkinds
      · simp [child?_kind hpos] at hkinds
    | count hk => simp [hk] at hkinds
    | window hw => rcases Arena.kindIs_isWindow_iff.mp hw with hk | hk <;> simp [hk] at hkinds
    | condition _ _ hholds =>
      obtain ⟨vars, hvars, hpd⟩ := hholds
      rw [hp, Option.some.injEq] at hpd
      subst hpd
      simp [child?_kind hvars] at hkinds
  | block _ _ _ _ hkd => simp [hkd] at hkinds

namespace Arena

theorem owns_below (h : t.Arena) (hd : t.Owns k d) : k ∈ t.lineage d := by
  cases hd with
  | clause hon => exact h.handsOn_below hon
  | block _ hdecl _ hp _ =>
    exact h.lineage_trans (h.parent_mem_lineage hdecl) (h.parent_mem_lineage hp)

/-- A binding of a quantified expression binds itself only. -/
theorem not_owns_of_binds (h : t.Arena) (hl : t.Laid) (hk : t.kind? s = some .quantifiedExpr)
    (hp : t.parent? i = some s) (hki : t.kind? i = some .quantifiedBinding) (hb : t.Binds i d) :
    ¬ t.Owns k d := by
  rcases hb.declared with rfl | hpos
  · exact not_owns hp (.inl ⟨hki, hk⟩)
  · rw [hl.child?_positionalVar h hki] at hpos
    exact absurd hpos (by simp)

theorem exists_foundAt (h : t.Arena) (hb : b ∈ t.inScopeVariables n) (hk : t.DeclaredIn k b) :
    ∃ s c d, t.Owns k d ∧ t.FoundAt n s c d b := by
  obtain ⟨s, c, d, hway, hstep, hshows, hdecl⟩ := h.mem_inScopeVariables_iff_shows.mp hb
  obtain ⟨d', hholds, hdecl'⟩ := hk
  have hparent := h.child?_parent hdecl'.token
  rw [h.child?_parent hdecl.token, Option.some.injEq] at hparent
  exact ⟨s, c, d, hparent ▸ hholds, hway, hstep, hshows, hdecl⟩

theorem foundAt_listed (h : t.Arena) (hf : t.FoundAt n s c d b) : b ∈ t.visibleFrom s c :=
  h.mem_of_shows hf.step hf.shows hf.declares

theorem lowestCommon_of_foundAt (h : t.Arena) (hf : t.FoundAt n s c d b) :
    t.LowestCommon b.declaredAt n s :=
  h.lowestCommon_of_shows hf.way hf.step hf.shows hf.declares.token

/-- The construct that declares a variable lies above its token. -/
theorem foundAt_below (h : t.Arena) (hf : t.FoundAt n s c d b) (hd : t.Owns k d) :
    k ∈ t.lineage b.declaredAt :=
  h.lineage_trans (h.owns_below hd) (h.declares_below hf.declares)

/-! ## 2. Where the scopes lie -/

theorem lineage_antisymm (h : t.Arena) (hxy : x ∈ t.lineage y) (hyx : y ∈ t.lineage x) : x = y :=
  Nat.le_antisymm (h.le_of_mem_lineage hxy) (h.le_of_mem_lineage hyx)

theorem eq_or_mem_lineage_parent (h : t.Arena) (hp : t.parent? i = some p) (hx : x ∈ t.lineage i) :
    x = i ∨ x ∈ t.lineage p := by
  rwa [h.lineage_child hp, List.mem_cons] at hx

end Arena

/-- Where a scope in `k` that shows the declaration `d` of `k` can lie: it is `k`, or a part of `k`,
or `d` itself, among the variables of a condition. -/
inductive Seat (t : Tree) (k d : Nat) : Nat → Prop where
  | own : Seat t k d k
  | part {part : Nat} : t.Part k part → Seat t k d part
  | windowVariable {part vars : Nat} : t.kindIs Kind.isWindow k = true → t.Part k part →
      t.parent? vars = some part → t.kind? vars = some .windowVars → t.parent? d = some vars →
      Seat t k d d

namespace Arena

theorem seat (h : t.Arena) (hf : t.FoundAt n s c d b) (hd : t.Owns k d) (hks : k ∈ t.lineage s) :
    t.Seat k d s := by
  -- from the token up, the scope passes every inert node
  have hup {i p : Nat} (hp : t.parent? i = some p) (hi : t.kindIs Kind.isInert i = true)
      (hs : s ∈ t.lineage i) : s ∈ t.lineage p := by
    refine h.mem_lineage_parent hp hs ?_
    rintro rfl
    have hlisted := h.foundAt_listed hf
    rw [visibleFrom_inert hi] at hlisted
    exact absurd hlisted (by simp)
  have hown (hs : s ∈ t.lineage k) : t.Seat k d s := h.lineage_antisymm hks hs ▸ .own
  have htoken := hf.declares.token
  have hsd : s ∈ t.lineage d := hup (h.child?_parent htoken)
    (kindIs_of_kind? (child?_kind htoken) rfl) (h.lowestCommon_of_foundAt hf).left
  cases hd with
  | clause hon =>
    cases hon with
    | bound _ hp hbinds =>
      have hi := kindIs_isInert_of_isBinding hbinds.binding
      rcases hbinds.declared with rfl | hpos
      · exact hown (hup hp hi hsd)
      · have hd := kindIs_of_kind? (f := Kind.isInert) (child?_kind hpos) rfl
        exact hown (hup hp hi (hup (h.child?_parent hpos) hd hsd))
    | count => exact hown hsd
    | window => exact hown hsd
    | @condition condition _ hw hcond hholds =>
      obtain ⟨vars, hvars, hpd⟩ := hholds
      have hpart : t.Part k condition := by
        rcases hcond with hcond | hcond
        · exact ⟨h.child?_parent hcond, .inl ⟨hw, .inl (child?_kind hcond)⟩⟩
        · exact ⟨h.child?_parent hcond, .inl ⟨hw, .inr (child?_kind hcond)⟩⟩
      have hpv := h.child?_parent hvars
      have hkv := child?_kind hvars
      rcases h.eq_or_mem_lineage_parent hpd hsd with rfl | hsv
      · exact .windowVariable hw hpart hpv hkv hpd
      · have hsc := hup hpv (kindIs_of_kind? hkv rfl) hsv
        rcases h.eq_or_mem_lineage_parent hpart.parent hsc with rfl | hsk
        · exact .part hpart
        · exact hown hsk
  | block hblock hpdecl hkdecl hpd hkd =>
    have hsdecl := hup hpd (kindIs_of_kind? hkd rfl) hsd
    rcases h.eq_or_mem_lineage_parent hpdecl hsdecl with rfl | hsk
    · exact .part ⟨hpdecl, .inr ⟨hblock, hkdecl⟩⟩
    · exact hown hsk

/-- A scope inside of the construct lies in a part of it. -/
theorem seat_part (h : t.Arena) (hseat : t.Seat k d s) (hne : s ≠ k) :
    ∃ part, t.Part k part ∧ part ∈ t.lineage s := by
  cases hseat with
  | own => exact absurd rfl hne
  | part hpart => exact ⟨s, hpart, h.self_mem_lineage s⟩
  | @windowVariable part vars _ hpart hvars _ hparent =>
    exact ⟨part, hpart, h.lineage_trans (h.parent_mem_lineage hvars) (h.parent_mem_lineage hparent)⟩

/-! ## 3. One scope -/

/-- A FLWOR expression that shows two variables of one clause found them in the same of its
clauses, and so it lists them as they are declared. -/
theorem lt_of_clauseOrder (h : t.Arena) {clause : Nat} (hkind : t.kind? s = some .flworExpr)
    (hf : t.FoundAt n s c d b) (hclause : t.parent? clause = some s) (hon : t.HandsOn clause d)
    (hd : t.Owns k d) (hbelow' : k ∈ t.lineage b'.declaredAt)
    (hord : t.ClauseOrder s b.declaredAt b'.declaredAt) : b.declaredAt < b'.declaredAt := by
  have hbelow := h.foundAt_below hf hd
  have houtside : k ∉ t.lineage s := by
    intro hks
    cases h.seat hf hd hks with
    | own => exact hd.kind?_ne_flworExpr hkind
    | part hpart => rcases hpart.kinds with ⟨-, hs | hs⟩ | ⟨-, hs⟩ <;> simp [hs] at hkind
    | windowVariable =>
      have hlt := h.parent_lt hclause
      have hle := h.le_of_mem_lineage (h.handsOn_below hon)
      omega
  obtain ⟨e, l, hpe, hpl, he, hl, hcase⟩ := hord
  have hek : e ∈ t.lineage k := by
    rcases h.lineage_total he hbelow with hek | hke
    · exact hek
    · rcases h.eq_or_mem_lineage_parent hpe hke with rfl | hks
      · exact h.self_mem_lineage k
      · exact absurd hks houtside
  have heq : e = l := h.sibling_eq hpe hpl (h.lineage_trans hek hbelow') hl
  rcases hcase with hlt | ⟨-, hlt⟩
  · exact absurd heq (Nat.ne_of_gt hlt)
  · exact hlt

theorem lt_of_scope_eq (h : t.Arena) (hl : t.Laid) (hf : t.FoundAt n s c d b)
    (hf' : t.FoundAt n s c' d' b') (hd : t.Owns k d) (hd' : t.Owns k d')
    (hne : b.declaredAt ≠ b'.declaredAt) (hord : t.Ordered s b.declaredAt b'.declaredAt) :
    b.declaredAt < b'.declaredAt := by
  have hc := hf.step
  have hdecl := hf.declares
  cases hf.shows with
  | flwor hk hp _ hon =>
    exact h.lt_of_clauseOrder hk hf hp hon hd (h.foundAt_below hf' hd') (hord _ hk)
  | sameClause hk => rcases hk with hk | hk | hk | hk <;> exact hord _ hk
  | windowEnd hw => rcases kindIs_isWindow_iff.mp hw with hk | hk <;> exact hord _ hk
  | condition hk => rcases hk with hk | hk <;> exact hord _ hk
  | quantifiedBinding hk hkc hp hlt hbinds =>
    exact absurd hd (h.not_owns_of_binds hl hk hp (hl.kind?_of_lt h hk hc hkc hp hlt) hbinds)
  | quantifiedBody hk _ hp hki hbinds => exact absurd hd (h.not_owns_of_binds hl hk hp hki hbinds)
  | branch hk =>
    have hlisted := h.foundAt_listed hf'
    have hown : b' ∈ t.ownVariable d := by
      rcases hk with hk | hk <;> simp only [visibleFrom, hk] at hlisted <;> split at hlisted
      · exact absurd hlisted (by simp)
      · exact hlisted
      · exact absurd hlisted (by simp)
      · exact hlisted
    have htoken := (mem_ownVariable_iff.mp hown).token
    rw [hdecl.token, Option.some.injEq] at htoken
    exact absurd htoken hne
  | parameter hk => rcases hk with hk | hk <;> exact hord _ hk
  | prologVariable hk _ hp _ hkd => exact absurd hd (not_owns hp (.inr ⟨hkd, hk⟩))
  | prologFunction hk _ hp hkd => exact absurd hd (not_owns hp (.inr ⟨hkd, hk⟩))
  | queryBody _ _ hprolog hp hkd =>
    exact absurd hd (not_owns hp (.inr ⟨hkd, child?_kind hprolog⟩))
  | blockDeclaration hk => exact hord _ hk
  | blockBody hk => exact hord _ hk

theorem not_nearer_of_scope_eq (h : t.Arena) (hs : t.LowestCommon b.declaredAt n s)
    (hs' : t.LowestCommon b'.declaredAt n s) : ¬ t.Nearer n k b b' := by
  rintro ⟨part, -, -, hn, hb, hb'⟩
  exact hb' (h.lineage_trans (hs.lowest part hb hn) hs'.left)

/-! ## 4. Two scopes -/

/-- The inner scope lies in the construct, and so does the outer one. -/
theorem mem_lineage_of_scope_ne (h : t.Arena) (hf : t.FoundAt n s c d b)
    (hf' : t.FoundAt n s' c' d' b') (hd : t.Owns k d) (hd' : t.Owns k d')
    (hmem : s' ∈ t.lineage s) (hne : s' ≠ s) : k ∈ t.lineage s' := by
  have hs := h.lowestCommon_of_foundAt hf
  have hs' := h.lowestCommon_of_foundAt hf'
  have hbelow' := h.foundAt_below hf' hd'
  rcases h.lineage_total (h.foundAt_below hf hd) hs.left with hks | hsk
  · exact hs'.lowest k hbelow' (h.lineage_trans hks hs.right)
  · have hss' := hs'.lowest s (h.lineage_trans hsk hbelow') hs.right
    exact absurd (h.lineage_antisymm hmem hss') hne

/-- The walk comes to the outer scope through the child that holds the inner one. -/
theorem child_mem_lineage (h : t.Arena) (hf : t.FoundAt n s c d b)
    (hf' : t.FoundAt n s' c' d' b') (hmem : s' ∈ t.lineage s) (hne : s' ≠ s) :
    c' ∈ t.lineage s := by
  rcases h.lineage_total hf'.way (h.lowestCommon_of_foundAt hf).right with hcs | hsc
  · exact hcs
  · rcases h.eq_or_mem_lineage_parent hf'.step hsc with rfl | hss'
    · exact h.self_mem_lineage s
    · exact absurd (h.lineage_antisymm hmem hss') hne

/-- A condition shows nothing to its variables. -/
theorem kind?_ne_windowVars (h : t.Arena) (hf : t.FoundAt n s c d b) (hpart : t.Part k s)
    (hw : t.kindIs Kind.isWindow k = true) : t.kind? c ≠ some .windowVars := by
  intro hc
  have hlisted := h.foundAt_listed hf
  rcases hpart.kinds with ⟨-, hs⟩ | ⟨hblock, -⟩
  · rcases hs with hs | hs <;>
      simp only [visibleFrom, hs, is_iff.mpr hc, if_true, List.not_mem_nil] at hlisted
  · rcases kindIs_isWindow_iff.mp hw with hw | hw <;> simp [hw] at hblock

/-- **The outer scope is the construct**: of two scopes inside of it that show variables of it,
neither holds the other. -/
theorem outer_scope_eq (h : t.Arena) (hf : t.FoundAt n s c d b) (hf' : t.FoundAt n s' c' d' b')
    (hd : t.Owns k d) (hd' : t.Owns k d') (hmem : s' ∈ t.lineage s) (hne : s' ≠ s) : s' = k := by
  have hks' := h.mem_lineage_of_scope_ne hf hf' hd hd' hmem hne
  have hseat' := h.seat hf' hd' hks'
  have hself := h.self_mem_lineage s
  by_cases hk : s' = k
  · exact hk
  cases h.seat hf hd (h.lineage_trans hks' hmem) with
  | own => exact absurd (h.lineage_antisymm hmem hks') hne
  | part hpart =>
    obtain ⟨part', hpart', hbelow'⟩ := h.seat_part hseat' hk
    have heq : part' = s :=
      h.sibling_eq hpart'.parent hpart.parent (h.lineage_trans hbelow' hmem) hself
    exact absurd (h.lineage_antisymm hmem (heq ▸ hbelow')) hne
  | @windowVariable part vars hw hpart hvars hkvars hparent =>
    have hvarsd := h.parent_mem_lineage hparent
    have hpartd := h.lineage_trans (h.parent_mem_lineage hvars) hvarsd
    cases hseat' with
    | own => rfl
    | part hpart' =>
      -- the walk comes out of the variables of the condition, which it does not show to them
      have heq : part = s' := h.sibling_eq hpart.parent hpart'.parent hpartd hmem
      have hcs := h.child_mem_lineage hf hf' hmem hne
      have hcvars : vars = c' := h.sibling_eq hvars (heq ▸ hf'.step) hvarsd hcs
      exact absurd (hcvars ▸ hkvars) (h.kind?_ne_windowVars hf' hpart' hw)
    | windowVariable _ hpart' hvars' _ hparent' =>
      have hvarsd' := h.lineage_trans (h.parent_mem_lineage hparent') hmem
      have hpartd' := h.lineage_trans (h.parent_mem_lineage hvars') hvarsd'
      have heq := h.sibling_eq hpart'.parent hpart.parent hpartd' hpartd
      have hvars_eq := h.sibling_eq hvars' (heq ▸ hvars) hvarsd' hvarsd
      exact absurd (h.sibling_eq hparent' (hvars_eq ▸ hparent) hmem hself) hne

theorem part_of_scope_ne (h : t.Arena) (hf : t.FoundAt n s c d b) (hf' : t.FoundAt n k c' d' b')
    (hd : t.Owns k d) (hmem : k ∈ t.lineage s) (hne : k ≠ s) : t.Part k c' := by
  obtain ⟨part, hpart, hbelow⟩ := h.seat_part (h.seat hf hd hmem) hne.symm
  have heq := h.sibling_eq hpart.parent hf'.step hbelow (h.child_mem_lineage hf hf' hmem hne)
  exact heq ▸ hpart

/-- What a construct shows to a part of it was declared before that part, and stands outside. -/
theorem declared_before_part (h : t.Arena) (hl : t.Laid) (hf : t.FoundAt n k c d b)
    (hpart : t.Part k c) :
    (t.kind? c = some .windowEndCondition ∨ t.kind? c = some .blockVarDecl) ∧
      ∃ e, t.parent? e = some k ∧ e < c ∧ e ∈ t.lineage b.declaredAt := by
  have hlisted := h.foundAt_listed hf
  rcases hpart.kinds with ⟨hw, -⟩ | ⟨hblock, hkc⟩
  · have hshown : t.kind? c = some .windowEndCondition ∧
        b ∈ (t.child? .windowStartCondition k).elim [] t.conditionVariables := by
      rcases kindIs_isWindow_iff.mp hw with hk | hk <;>
        simpa only [visibleFrom, hk, List.mem_ite_nil_right, is_iff] using hlisted
    obtain ⟨hkc, hb⟩ := hshown
    obtain ⟨start, hstart, hbelow⟩ := h.mem_elim_conditionVariables hb
    have hps := h.child?_parent hstart
    have hks := child?_kind hstart
    refine ⟨.inl hkc, start, hps, ?_, hbelow⟩
    rcases kindIs_isWindow_iff.mp hw with hk | hk <;>
      exact hl.lt_of_place h hk rfl hps hks hf.step hkc (by decide)
  · simp only [visibleFrom, hblock, is_iff.mpr hkc, if_true] at hlisted
    obtain ⟨decl, hdecl, hb⟩ := List.mem_flatMap.mp hlisted
    obtain ⟨hp, hlt⟩ := (h.mem_before_child_iff hf.step).mp hdecl
    exact ⟨.inr hkc, decl, hp, hlt, h.blockVariables_below hb⟩

theorem nearer_of_scope_ne (h : t.Arena) (hl : t.Laid) (hf : t.FoundAt n s c d b)
    (hf' : t.FoundAt n s' c' d' b') (hd : t.Owns k d) (hd' : t.Owns k d')
    (hmem : s' ∈ t.lineage s) (hne : s' ≠ s) :
    t.Nearer n k b b' ∧ b'.declaredAt < b.declaredAt := by
  obtain rfl := h.outer_scope_eq hf hf' hd hd' hmem hne
  have hcb : c' ∈ t.lineage b.declaredAt := h.lineage_trans
    (h.child_mem_lineage hf hf' hmem hne) (h.lowestCommon_of_foundAt hf).left
  obtain ⟨hkc, e, hpe, hlt, hbelow⟩ :=
    h.declared_before_part hl hf' (h.part_of_scope_ne hf hf' hd hmem hne)
  have hcb' : c' ∉ t.lineage b'.declaredAt := by
    intro hcb'
    exact absurd (h.sibling_eq hpe hf'.step hbelow hcb') (Nat.ne_of_lt hlt)
  exact ⟨⟨c', hf'.step, hkc, hf'.way, hcb, hcb'⟩, h.sibling_lt hpe hf'.step hlt hbelow hcb⟩

end Arena

end Tree

/-- **Two variables of one construct.**  In every tree that a builder builds and that is laid out,
let `b` be listed before `b'` among the variables in scope at a node, both declared in one clause or
one block.  They are different tokens, and `b` is the later one iff the node stands in an end
condition or a declaration in a block that declares `b` and not `b'`. -/
theorem sameConstruct_order {t : Tree} (ht : t.Built) (hl : t.Laid) (n : Nat) :
    (t.inScopeVariables n).Pairwise fun b b' => ∀ k : Nat, t.DeclaredIn k b → t.DeclaredIn k b' →
      b.declaredAt ≠ b'.declaredAt ∧ (b'.declaredAt < b.declaredAt ↔ t.Nearer n k b b') := by
  have h := ht.arena
  refine (h.inScopeVariables_listedBefore n).imp_of_mem ?_
  intro b b' hb hb' hlisted k hk hk'
  obtain ⟨s, c, d, hd, hf⟩ := h.exists_foundAt hb hk
  obtain ⟨s', c', d', hd', hf'⟩ := h.exists_foundAt hb' hk'
  have hs := h.lowestCommon_of_foundAt hf
  have hs' := h.lowestCommon_of_foundAt hf'
  refine ⟨hlisted.ne, ?_⟩
  by_cases heq : s' = s
  · subst heq
    have hlt := h.lt_of_scope_eq hl hf hf' hd hd' hlisted.ne (hlisted.ordered hl s' hs hs')
    constructor
    · intro hgt
      exact absurd hgt (Nat.lt_asymm hlt)
    · intro hnear
      exact absurd hnear (h.not_nearer_of_scope_eq hs hs')
  · obtain ⟨hnear, hlt⟩ := h.nearer_of_scope_ne hl hf hf' hd hd' (hlisted.nearest s s' hs hs') heq
    exact ⟨fun _ => hnear, fun _ => hlt⟩

/-- A block that declares `$x := 1, $x := 2`, and then `$x := 3, $y := $x`. -/
def redeclaredSteps : List Step :=
  [.start .block,
    .start .blockVarDecl,
    .start .blockVarDeclEntry, .token .varName "x", .token .numericLiteral "1", .finish,
    .start .blockVarDeclEntry, .token .varName "x", .token .numericLiteral "2", .finish, .finish,
    .start .blockVarDecl,
    .start .blockVarDeclEntry, .token .varName "x", .token .numericLiteral "3", .finish,
    .start .blockVarDeclEntry, .token .varName "y",
    .start .varRef, .token .varName "x", .finish, .finish, .finish, .finish]

/-- The tree of the block: the reference is node 14. -/
def redeclaredTree : Tree := (Builder.run {} redeclaredSteps).tree

/-- The third variable comes first, as the reference is in its declaration, and the second one comes
after the first. -/
theorem redeclaredTree_order : redeclaredTree.Built ∧ redeclaredTree.Laid ∧
    ∃ b b' b'' : VariableBinding, redeclaredTree.inScopeVariables 14 = [b, b', b''] ∧
      redeclaredTree.Nearer 14 0 b b' ∧ ¬ redeclaredTree.Nearer 14 0 b' b'' := by
  have hbuilt : redeclaredTree.Built := ⟨redeclaredSteps, rfl⟩
  have hlaid : redeclaredTree.Laid := by decide +kernel
  have hlist : redeclaredTree.inScopeVariables 14 =
      [⟨⟨none, "x", none⟩, 10⟩, ⟨⟨none, "x", none⟩, 3⟩, ⟨⟨none, "x", none⟩, 6⟩] := by decide +kernel
  have hdeclared {v : Nat} (decl d : Nat) (hp : redeclaredTree.parent? decl = some 0)
      (hk : redeclaredTree.kind? decl = some .blockVarDecl)
      (hpd : redeclaredTree.parent? d = some decl)
      (hkd : redeclaredTree.kind? d = some .blockVarDeclEntry)
      (hv : redeclaredTree.child? .varName d = some v)
      (hname : (redeclaredTree.text? v).bind Name.parse? = some ⟨none, "x", none⟩) :
      redeclaredTree.DeclaredIn 0 ⟨⟨none, "x", none⟩, v⟩ :=
    ⟨d, .block (by decide +kernel) hp hk hpd hkd, hv, hname⟩
  have hthird : redeclaredTree.DeclaredIn 0 ⟨⟨none, "x", none⟩, 10⟩ := by
    apply hdeclared 8 9 <;> decide +kernel
  have hfirst : redeclaredTree.DeclaredIn 0 ⟨⟨none, "x", none⟩, 3⟩ := by
    apply hdeclared 1 2 <;> decide +kernel
  have hsecond : redeclaredTree.DeclaredIn 0 ⟨⟨none, "x", none⟩, 6⟩ := by
    apply hdeclared 1 5 <;> decide +kernel
  have horder := sameConstruct_order hbuilt hlaid 14
  rw [hlist, List.pairwise_cons, List.pairwise_cons] at horder
  refine ⟨hbuilt, hlaid, _, _, _, hlist, ?_, ?_⟩
  · exact (horder.1 _ (by simp) 0 hthird hfirst).2.mp (by decide)
  · intro hnear
    exact absurd ((horder.2.1 _ (by simp) 0 hfirst hsecond).2.mpr hnear) (by decide)

/-- `for $x in 1, $x in 2 return $x`. -/
def rebindingSteps : List Step :=
  [.start .flworExpr, .start .forClause,
    .start .forBinding, .token .varName "x", .token .numericLiteral "1", .finish,
    .start .forBinding, .token .varName "x", .token .numericLiteral "2", .finish, .finish,
    .start .returnClause, .start .varRef, .token .varName "x", .finish, .finish, .finish]

/-- The tree of the loop: the reference is node 9. -/
def rebindingTree : Tree := (Builder.run {} rebindingSteps).tree

/-- The first variable of the name is not the one that a reference denotes: one clause declares
both, and the earlier one comes first. -/
theorem first_listed_not_latest : rebindingTree.Built ∧ rebindingTree.Laid ∧
    ∃ b b' : VariableBinding, rebindingTree.inScopeVariables 9 = [b, b'] ∧ b.name = b'.name ∧
      rebindingTree.kind? 1 = some .forClause ∧ rebindingTree.DeclaredIn 1 b ∧
      rebindingTree.DeclaredIn 1 b' ∧ ¬ b'.declaredAt < b.declaredAt := by
  refine ⟨⟨rebindingSteps, rfl⟩, by decide +kernel, ⟨⟨none, "x", none⟩, 3⟩,
    ⟨⟨none, "x", none⟩, 6⟩, by decide +kernel, rfl, by decide +kernel, ?_, ?_, by decide⟩
  · exact ⟨2, .clause (.bound (.inl (by decide +kernel)) (by decide +kernel)
      ⟨by decide +kernel, .inl rfl⟩), by decide +kernel, by decide +kernel⟩
  · exact ⟨5, .clause (.bound (.inl (by decide +kernel)) (by decide +kernel)
      ⟨by decide +kernel, .inl rfl⟩), by decide +kernel, by decide +kernel⟩

end XQueryScope
