import XQueryScope.Tree.Basic

/-!
# Arenas

What the redundant links of a tree have to do with each other.  `Tree.Arena` says it in terms of
`parent?` alone: a parent comes before its children, the children of a node are the nodes that name
it as their parent, and the parent of a node is the node before it or one of that node's ancestors
(`Arena.preorder`).  The last is what makes ids a document order.  From it follow

* the line of ancestors is finite, runs down the ids and ends at a node without parent
  (`Arena.lineage_chain`, `Arena.lineage_sorted`);
* a node's siblings are the two parts of its parent's children (`Arena.siblings`);
* what lies below a node is a stretch of ids that starts with its own (`Arena.below_eq_range'`).
-/

namespace XQueryScope.Tree

variable {t u : Tree} {i j m n p c : Nat}

/-- The place that a node has among its parent's children. -/
def slot? (t : Tree) (i : Nat) : Option Nat := (t.node? i).map (·.slot)

/-- The links of a tree agree with each other, and its ids are a document order. -/
structure Arena (t : Tree) : Prop where
  parent_lt : ∀ {i p : Nat}, t.parent? i = some p → p < i
  mem_children_iff : ∀ {p c : Nat}, c ∈ t.children p ↔ t.parent? c = some p
  children_sorted : ∀ p : Nat, (t.children p).Pairwise (fun a b : Nat => a < b)
  slot_child : ∀ {c p k : Nat}, t.parent? c = some p → t.slot? c = some k →
    (t.children p)[k]? = some c
  slot_top : ∀ {c k : Nat}, t.parent? c = none → t.slot? c = some k → k = 0
  preorder : ∀ {i p : Nat}, t.parent? (i + 1) = some p → p ∈ t.lineage i
  token_leaf : ∀ {i : Nat} {s}, t.text? i = some s → t.children i = []

/-! ## 1. Nodes -/

theorem node?_eq_none_iff : t.node? i = none ↔ t.size ≤ i := by
  simp [node?, size]

theorem parent?_of_size_le (h : t.size ≤ i) : t.parent? i = none := by
  simp [parent?, node?_eq_none_iff.mpr h]

theorem children_of_size_le (h : t.size ≤ i) : t.children i = [] := by
  simp [children, node?_eq_none_iff.mpr h]

theorem lt_size_of_parent? (h : t.parent? i = some p) : i < t.size := by
  rcases Nat.lt_or_ge i t.size with hlt | hge
  · exact hlt
  · rw [parent?_of_size_le hge] at h
    exact absurd h (by simp)

theorem exists_slot? (h : i < t.size) : ∃ k, t.slot? i = some k := by
  cases hn : t.node? i with
  | none => exact absurd (node?_eq_none_iff.mp hn) (by omega)
  | some n => exact ⟨n.slot, by simp [slot?, hn]⟩

/-! ## 2. The line of ancestors -/

theorem climb_congr (hlt : ∀ {i p : Nat}, t.parent? i = some p → p < i) :
    ∀ (k : Nat) {i : Nat}, (∀ j : Nat, j ≤ i → u.parent? j = t.parent? j) →
      u.climb k i = t.climb k i
  | 0, _, _ => rfl
  | k + 1, i, h => by
    simp only [climb, h i (Nat.le_refl i)]
    cases hp : t.parent? i with
    | none => rfl
    | some p =>
      have hpi := hlt hp
      simp only [Option.elim_some]
      rw [climb_congr hlt k (fun j hj => h j (by omega))]

/-- The steps that `lineage` allows are enough: more of them find nothing more. -/
theorem climb_eq_lineage (hlt : ∀ {i p : Nat}, t.parent? i = some p → p < i) :
    ∀ (k : Nat) {i : Nat}, i ≤ k → t.climb k i = t.lineage i
  | 0, i, h => by rw [Nat.le_zero.mp h]; rfl
  | k + 1, i, h => by
    cases i with
    | zero =>
      have hp : t.parent? 0 = none := by
        cases hp : t.parent? 0 with
        | none => rfl
        | some p => exact absurd (hlt hp) (by omega)
      simp [climb, lineage, hp]
    | succ i =>
      simp only [lineage, climb]
      cases hp : t.parent? (i + 1) with
      | none => rfl
      | some p =>
        have hpi := hlt hp
        simp only [Option.elim_some]
        rw [climb_eq_lineage hlt k (by omega), climb_eq_lineage hlt i (by omega)]

theorem lineage_eq (hlt : ∀ {i p : Nat}, t.parent? i = some p → p < i) (i : Nat) :
    t.lineage i = i :: (t.parent? i).elim [] t.lineage := by
  rw [← climb_eq_lineage hlt (i + 1) (Nat.le_succ i), climb]
  cases hp : t.parent? i with
  | none => rfl
  | some p =>
    have hpi := hlt hp
    simp only [Option.elim_some]
    rw [climb_eq_lineage hlt i (by omega)]

/-- The ancestors of a node depend on the parents of the nodes up to it alone. -/
theorem lineage_congr (hlt : ∀ {i p : Nat}, t.parent? i = some p → p < i)
    (h : ∀ j : Nat, j ≤ i → u.parent? j = t.parent? j) : u.lineage i = t.lineage i :=
  climb_congr hlt i h

namespace Arena

theorem lineage_top (h : t.Arena) (hp : t.parent? i = none) : t.lineage i = [i] := by
  rw [lineage_eq h.parent_lt, hp]; rfl

theorem lineage_child (h : t.Arena) (hp : t.parent? i = some p) :
    t.lineage i = i :: t.lineage p := by
  rw [lineage_eq h.parent_lt, hp]; rfl

theorem self_mem_lineage (h : t.Arena) (i : Nat) : i ∈ t.lineage i := by
  rw [lineage_eq h.parent_lt]
  exact List.mem_cons_self

theorem parent_mem_lineage (h : t.Arena) (hp : t.parent? i = some p) : p ∈ t.lineage i := by
  rw [h.lineage_child hp]
  exact List.mem_cons_of_mem _ (h.self_mem_lineage p)

/-- The ancestors of an ancestor end the line. -/
theorem lineage_suffix (h : t.Arena) (i : Nat) :
    ∀ {a : Nat}, a ∈ t.lineage i → t.lineage a <:+ t.lineage i := by
  induction i using Nat.strongRecOn with
  | ind i ih =>
    intro a ha
    cases hp : t.parent? i with
    | none =>
      rw [h.lineage_top hp, List.mem_singleton] at ha
      exact ha ▸ List.suffix_refl _
    | some p =>
      rw [h.lineage_child hp] at ha ⊢
      rcases List.mem_cons.mp ha with rfl | ha
      · exact h.lineage_child hp ▸ List.suffix_refl _
      · exact (ih p (h.parent_lt hp) ha).trans (List.suffix_cons _ _)

theorem lineage_trans (h : t.Arena) (hij : i ∈ t.lineage j) (hjm : j ∈ t.lineage m) :
    i ∈ t.lineage m :=
  (h.lineage_suffix m hjm).subset hij

theorem le_of_mem_lineage (h : t.Arena) : ∀ {a : Nat}, a ∈ t.lineage i → a ≤ i := by
  induction i using Nat.strongRecOn with
  | ind i ih =>
    intro a ha
    cases hp : t.parent? i with
    | none =>
      rw [h.lineage_top hp, List.mem_singleton] at ha
      omega
    | some p =>
      rw [h.lineage_child hp] at ha
      have hpi := h.parent_lt hp
      rcases List.mem_cons.mp ha with rfl | ha
      · exact Nat.le_refl _
      · have := ih p hpi ha
        omega

/-- An ancestor that is not the node itself is one of its parent. -/
theorem mem_lineage_parent (h : t.Arena) (hp : t.parent? i = some p) (ha : m ∈ t.lineage i)
    (hne : m ≠ i) : m ∈ t.lineage p := by
  rw [h.lineage_child hp] at ha
  exact (List.mem_cons.mp ha).resolve_left hne

theorem exists_parent_of_mem_lineage (h : t.Arena) (ha : m ∈ t.lineage i) (hne : m ≠ i) :
    ∃ p, t.parent? i = some p ∧ m ∈ t.lineage p := by
  cases hp : t.parent? i with
  | none =>
    rw [h.lineage_top hp, List.mem_singleton] at ha
    exact absurd ha hne
  | some p => exact ⟨p, rfl, h.mem_lineage_parent hp ha hne⟩

theorem lineage_sorted (h : t.Arena) (i : Nat) :
    (t.lineage i).Pairwise (fun a b : Nat => b < a) := by
  induction i using Nat.strongRecOn with
  | ind i ih =>
    cases hp : t.parent? i with
    | none =>
      rw [h.lineage_top hp]
      exact List.pairwise_singleton _ _
    | some p =>
      have hpi := h.parent_lt hp
      rw [h.lineage_child hp, List.pairwise_cons]
      refine ⟨fun a ha => ?_, ih p hpi⟩
      have := h.le_of_mem_lineage ha
      omega

end Arena

/-- The nodes that one reaches from a node by going from parent to parent. -/
inductive ParentChain (t : Tree) : Nat → List Nat → Prop where
  | top {i : Nat} : t.parent? i = none → ParentChain t i [i]
  | up {i p : Nat} {rest : List Nat} :
      t.parent? i = some p → ParentChain t p rest → ParentChain t i (i :: rest)

namespace Arena

theorem lineage_chain (h : t.Arena) (i : Nat) : t.ParentChain i (t.lineage i) := by
  induction i using Nat.strongRecOn with
  | ind i ih =>
    cases hp : t.parent? i with
    | none =>
      rw [h.lineage_top hp]
      exact .top hp
    | some p =>
      rw [h.lineage_child hp]
      exact .up hp (ih p (h.parent_lt hp))

end Arena

/-- Going from parent to parent ends at a node without one. -/
theorem ParentChain.ends {l : List Nat} (h : t.ParentChain i l) :
    ∃ top, l.getLast? = some top ∧ t.parent? top = none := by
  induction h with
  | @top i hp => exact ⟨i, rfl, hp⟩
  | @up i p rest _ hrest ih =>
    obtain ⟨top, hlast, htop⟩ := ih
    refine ⟨top, ?_, htop⟩
    rw [List.getLast?_cons, hlast]
    rfl

/-! ## 3. Siblings -/

/-- The nodes that one reaches from a node by going from sibling to next sibling. -/
inductive NextChain (t : Tree) : Nat → List Nat → Prop where
  | last {i : Nat} : t.next? i = none → NextChain t i []
  | next {i j : Nat} {rest : List Nat} :
      t.next? i = some j → NextChain t j rest → NextChain t i (j :: rest)

theorem before_eq (hp : t.parent? i = some p) {k : Nat} (hk : t.slot? i = some k) :
    t.before i = (t.children p).take k := by
  unfold before
  cases hn : t.node? i with
  | none => simp [slot?, hn] at hk
  | some n =>
    simp only [parent?, hn, Option.bind_some] at hp
    simp only [slot?, hn, Option.map_some, Option.some.injEq] at hk
    simp [hp, hk]

theorem before_top (hp : t.parent? i = none) : t.before i = [] := by
  unfold before
  cases hn : t.node? i with
  | none => rfl
  | some n =>
    simp only [parent?, hn, Option.bind_some] at hp
    simp [hp]

theorem next?_eq (hp : t.parent? i = some p) {k : Nat} (hk : t.slot? i = some k) :
    t.next? i = (t.children p)[k + 1]? := by
  unfold next?
  cases hn : t.node? i with
  | none => simp [slot?, hn] at hk
  | some n =>
    simp only [parent?, hn, Option.bind_some] at hp
    simp only [slot?, hn, Option.map_some, Option.some.injEq] at hk
    simp [hp, hk]

theorem next?_top (hp : t.parent? i = none) : t.next? i = none := by
  unfold next?
  cases hn : t.node? i with
  | none => rfl
  | some n =>
    simp only [parent?, hn, Option.bind_some] at hp
    simp [hp]

namespace Arena

theorem getElem?_children_iff (h : t.Arena) (hp : t.parent? c = some p) {k : Nat} :
    (t.children p)[k]? = some c ↔ t.slot? c = some k := by
  obtain ⟨s, hs⟩ := exists_slot? (lt_size_of_parent? hp)
  have hsc := h.slot_child hp hs
  constructor
  · intro hk
    have hnd : (t.children p).Nodup := (h.children_sorted p).imp Nat.ne_of_lt
    have hlt : k < (t.children p).length := (List.getElem?_eq_some_iff.mp hk).1
    have : k = s := (List.getElem?_inj hlt hnd).mp (hk.trans hsc.symm)
    rw [this, hs]
  · intro hk
    exact h.slot_child hp hk

/-- From a node on, going to the next sibling gives what the parent's children have behind it. -/
theorem next_chain (h : t.Arena) : ∀ (rest : List Nat) {c k : Nat}, t.parent? c = some p →
    t.slot? c = some k → (t.children p).drop (k + 1) = rest → t.NextChain c rest
  | [], c, k, hp, hk, hd => by
    refine .last ?_
    rw [next?_eq hp hk, ← List.head?_drop, hd]
    rfl
  | j :: rest, c, k, hp, hk, hd => by
    have hj : (t.children p)[k + 1]? = some j := by rw [← List.head?_drop, hd]; rfl
    have hpj : t.parent? j = some p := h.mem_children_iff.mp (List.mem_of_getElem? hj)
    refine .next (by rw [next?_eq hp hk, hj]) ?_
    refine next_chain h rest hpj ((h.getElem?_children_iff hpj).mp hj) ?_
    rw [← List.drop_drop, hd]
    rfl

/-- **Siblings.**  The siblings before a node, the node and those that follow it are the children of
its parent. -/
theorem siblings (h : t.Arena) (hp : t.parent? i = some p) :
    ∃ rest, t.NextChain i rest ∧ (t.preceding i).reverse ++ i :: rest = t.children p := by
  obtain ⟨k, hk⟩ := exists_slot? (lt_size_of_parent? hp)
  refine ⟨(t.children p).drop (k + 1), h.next_chain _ hp hk rfl, ?_⟩
  obtain ⟨hlt, hget⟩ := List.getElem?_eq_some_iff.mp (h.slot_child hp hk)
  rw [preceding, List.reverse_reverse, before_eq hp hk]
  calc (t.children p).take k ++ i :: (t.children p).drop (k + 1)
      = (t.children p).take k ++ (t.children p).drop k := by
        rw [List.drop_eq_getElem_cons hlt, hget]
    _ = t.children p := List.take_append_drop k _

/-- The next sibling is the child that its parent has right behind the node. -/
theorem next?_eq_some_iff (h : t.Arena) : t.next? i = some j ↔
    ∃ p front rest, t.children p = front ++ i :: j :: rest := by
  constructor
  · intro hj
    cases hp : t.parent? i with
    | none =>
      rw [next?_top hp] at hj
      exact absurd hj (by simp)
    | some p =>
      obtain ⟨rest, hchain, heq⟩ := h.siblings hp
      cases hchain with
      | last hnone =>
        rw [hnone] at hj
        exact absurd hj (by simp)
      | next hnext _ =>
        cases hnext.symm.trans hj
        exact ⟨p, _, _, heq.symm⟩
  · rintro ⟨p, front, rest, heq⟩
    have hp : t.parent? i = some p := h.mem_children_iff.mp (by simp [heq])
    have hslot : t.slot? i = some front.length :=
      (h.getElem?_children_iff hp).mp (by simp [heq])
    rw [next?_eq hp hslot, heq, List.getElem?_append_right (by omega)]
    simp

theorem mem_before_iff (h : t.Arena) : m ∈ t.before i ↔
    m < i ∧ ∃ p, t.parent? m = some p ∧ t.parent? i = some p := by
  cases hp : t.parent? i with
  | none => simp [before_top hp]
  | some p =>
    obtain ⟨rest, -, heq⟩ := h.siblings hp
    rw [preceding, List.reverse_reverse] at heq
    have hs := h.children_sorted p
    rw [← heq, List.pairwise_append, List.pairwise_cons] at hs
    have hmem : m ∈ t.before i ++ i :: rest ↔ t.parent? m = some p := by
      rw [heq]; exact h.mem_children_iff
    rw [List.mem_append, List.mem_cons] at hmem
    constructor
    · intro hm
      exact ⟨hs.2.2 m hm i List.mem_cons_self, p, hmem.mp (.inl hm), rfl⟩
    · rintro ⟨hlt, q, hq, hpq⟩
      rw [Option.some.injEq] at hpq
      rcases hmem.mpr (hpq ▸ hq) with hm | rfl | hm
      · exact hm
      · omega
      · have := hs.2.1.1 m hm
        omega

end Arena

/-! ## 4. What lies below a node -/

/-- Taking nodes off a stack, each for its children, until the stack is empty. -/
inductive StackWalk (t : Tree) : List Nat → List Nat → Prop where
  | done : StackWalk t [] []
  | take {i : Nat} {stack rest : List Nat} :
      StackWalk t (t.children i ++ stack) rest → StackWalk t (i :: stack) (i :: rest)

theorem StackWalk.append {s r a b : List Nat} (hs : t.StackWalk s a) (hr : t.StackWalk r b) :
    t.StackWalk (s ++ r) (a ++ b) := by
  induction hs with
  | done => exact hr
  | take _ ih => exact .take (by simpa using ih)

theorem StackWalk.unique {s a b : List Nat} (ha : t.StackWalk s a) (hb : t.StackWalk s b) :
    a = b := by
  induction ha generalizing b with
  | done => cases hb; rfl
  | take _ ih =>
    cases hb with
    | take hb => rw [ih hb]

/-- Nodes in document order, none below another. -/
def Forest (t : Tree) (l : List Nat) : Prop :=
  l.Pairwise fun a b : Nat => a < b ∧ a ∉ t.lineage b

theorem contains_iff : t.contains i j = true ↔ i ∈ t.lineage j := by
  simp [contains]

/-- An increasing list of numbers from `n` on without gaps is a stretch of numbers. -/
theorem eq_range'_of_sorted : ∀ (l : List Nat) (n : Nat), l.Pairwise (fun a b : Nat => a < b) →
    (∀ a ∈ l, n ≤ a) → (∀ a ∈ l, ∀ b, n ≤ b → b ≤ a → b ∈ l) → l = List.range' n l.length
  | [], _, _, _, _ => rfl
  | a :: l, n, hs, hle, hgap => by
    obtain ⟨ha, hl⟩ := List.pairwise_cons.mp hs
    have hna : n = a := by
      have hn := hgap a List.mem_cons_self n (Nat.le_refl n) (hle a List.mem_cons_self)
      rcases List.mem_cons.mp hn with h | h
      · exact h
      · have := ha n h
        have := hle a List.mem_cons_self
        omega
    subst hna
    rw [List.length_cons, List.range'_succ]
    congr 1
    refine eq_range'_of_sorted l (n + 1) hl (fun b hb => ha b hb) ?_
    intro b hb d hnd hdb
    rcases List.mem_cons.mp (hgap b (List.mem_cons_of_mem _ hb) d (by omega) hdb) with h | h
    · omega
    · exact h

namespace Arena

/-- **No gaps.**  If `n` is an ancestor of `j`, it is one of every node between the two. -/
theorem mem_lineage_of_between (h : t.Arena) (hj : n ∈ t.lineage j) (hnm : n ≤ m) (hmj : m ≤ j) :
    n ∈ t.lineage m := by
  induction j with
  | zero =>
    have : m = 0 := by omega
    rw [this]
    exact hj
  | succ j ih =>
    rcases Nat.lt_or_eq_of_le hmj with hlt | rfl
    · -- the parent of `j + 1` is an ancestor of `j`, and `n` one of that parent
      obtain ⟨p, hp, hnp⟩ := h.exists_parent_of_mem_lineage hj (by omega)
      exact ih (h.lineage_trans hnp (h.preorder hp)) (by omega)
    · exact hj

/-- The children of the first node of a forest can stand in its place. -/
theorem forest_children (h : t.Arena) {stack : List Nat} (hf : t.Forest (i :: stack)) :
    t.Forest (t.children i ++ stack) := by
  obtain ⟨hi, hstack⟩ := List.pairwise_cons.mp hf
  refine List.pairwise_append.mpr ⟨?_, hstack, ?_⟩
  · refine (h.children_sorted i).imp_of_mem ?_
    intro a b ha hb hab
    refine ⟨hab, fun hanc => ?_⟩
    have hia := h.parent_lt (h.mem_children_iff.mp ha)
    have hai := h.le_of_mem_lineage
      (h.mem_lineage_parent (h.mem_children_iff.mp hb) hanc (by omega))
    omega
  · intro a ha b hb
    have hpa := h.mem_children_iff.mp ha
    obtain ⟨hib, hnot⟩ := hi b hb
    refine ⟨?_, fun hanc => hnot (h.lineage_trans (h.parent_mem_lineage hpa) hanc)⟩
    rcases Nat.lt_or_ge a b with hab | hba
    · exact hab
    · exact absurd (h.mem_lineage_of_between (h.parent_mem_lineage hpa) (Nat.le_of_lt hib) hba) hnot

/-- A node is below `i` if it is `i` or below one of the children. -/
theorem mem_lineage_iff_children (h : t.Arena) :
    i ∈ t.lineage m ↔ m = i ∨ ∃ c ∈ t.children i, c ∈ t.lineage m := by
  constructor
  · intro him
    induction m using Nat.strongRecOn with
    | ind m ih =>
      by_cases heq : m = i
      · exact .inl heq
      · obtain ⟨p, hp, hip⟩ := h.exists_parent_of_mem_lineage him (Ne.symm heq)
        rcases ih p (h.parent_lt hp) hip with rfl | ⟨c, hc, hcp⟩
        · exact .inr ⟨m, h.mem_children_iff.mpr hp, h.self_mem_lineage m⟩
        · exact .inr ⟨c, hc, h.lineage_trans hcp (h.parent_mem_lineage hp)⟩
  · rintro (rfl | ⟨c, hc, hcm⟩)
    · exact h.self_mem_lineage m
    · exact h.lineage_trans (h.parent_mem_lineage (h.mem_children_iff.mp hc)) hcm

/-- What a walk from a forest takes: every node below one of the forest, in increasing order. -/
structure Taken (t : Tree) (stack out : List Nat) : Prop where
  walked : t.StackWalk stack out
  sorted : out.Pairwise (fun a b : Nat => a < b)
  mem_iff : ∀ {m : Nat}, m ∈ out ↔ m < t.size ∧ ∃ a ∈ stack, a ∈ t.lineage m

theorem walk_taken (h : t.Arena) : ∀ (steps : Nat) (stack : List Nat), t.Forest stack →
    (∀ a ∈ stack, a < t.size) → (∀ a ∈ stack, t.size ≤ a + steps) →
    Taken t stack (t.walk steps stack)
  | 0, [], _, _, _ => ⟨.done, List.Pairwise.nil, by simp [walk]⟩
  | _ + 1, [], _, _, _ => ⟨.done, List.Pairwise.nil, by simp [walk]⟩
  | 0, a :: stack, _, hlt, hsteps => by
    have h1 := hlt a List.mem_cons_self
    have h2 := hsteps a List.mem_cons_self
    omega
  | steps + 1, i :: stack, hf, hlt, hsteps => by
    have hi := hsteps i List.mem_cons_self
    have habove : ∀ a ∈ t.children i ++ stack, i < a := by
      intro a ha
      rcases List.mem_append.mp ha with ha | ha
      · exact h.parent_lt (h.mem_children_iff.mp ha)
      · exact ((List.pairwise_cons.mp hf).1 a ha).1
    have ih := walk_taken h steps (t.children i ++ stack) (h.forest_children hf)
      (fun a ha => by
        rcases List.mem_append.mp ha with ha | ha
        · exact lt_size_of_parent? (h.mem_children_iff.mp ha)
        · exact hlt a (List.mem_cons_of_mem _ ha))
      (fun a ha => by have := habove a ha; omega)
    refine ⟨.take ih.walked, List.pairwise_cons.mpr ⟨fun m hm => ?_, ih.sorted⟩, ?_⟩
    · obtain ⟨a, ha, ham⟩ := (ih.mem_iff.mp hm).2
      exact Nat.lt_of_lt_of_le (habove a ha) (h.le_of_mem_lineage ham)
    · intro m
      rw [walk, List.mem_cons, ih.mem_iff]
      constructor
      · rintro (rfl | ⟨hm, a, ha, ham⟩)
        · exact ⟨hlt m List.mem_cons_self, m, List.mem_cons_self, h.self_mem_lineage m⟩
        · refine ⟨hm, ?_⟩
          rcases List.mem_append.mp ha with ha | ha
          · exact ⟨i, List.mem_cons_self, h.mem_lineage_iff_children.mpr (.inr ⟨a, ha, ham⟩)⟩
          · exact ⟨a, List.mem_cons_of_mem _ ha, ham⟩
      · rintro ⟨hm, a, ha, ham⟩
        rcases List.mem_cons.mp ha with rfl | ha
        · rcases h.mem_lineage_iff_children.mp ham with rfl | ⟨c, hc, hcm⟩
          · exact .inl rfl
          · exact .inr ⟨hm, c, List.mem_append_left _ hc, hcm⟩
        · exact .inr ⟨hm, a, List.mem_append_right _ ha, ham⟩

theorem below_taken (h : t.Arena) (hi : i < t.size) : Taken t [i] (t.below i) :=
  h.walk_taken (t.size - i) [i] (List.pairwise_singleton _ _) (by simpa using hi)
    (by simp; omega)

theorem mem_below_iff (h : t.Arena) (hi : i < t.size) :
    m ∈ t.below i ↔ m < t.size ∧ i ∈ t.lineage m := by
  simp [(h.below_taken hi).mem_iff]

/-- **What lies below a node is a stretch of ids that starts with its own.** -/
theorem below_eq_range' (h : t.Arena) (hi : i < t.size) :
    t.below i = List.range' i (t.below i).length := by
  refine eq_range'_of_sorted _ i (h.below_taken hi).sorted ?_ ?_
  · intro a ha
    exact h.le_of_mem_lineage ((h.mem_below_iff hi).mp ha).2
  · intro a ha b hib hba
    obtain ⟨has, hia⟩ := (h.mem_below_iff hi).mp ha
    exact (h.mem_below_iff hi).mpr ⟨by omega, h.mem_lineage_of_between hia hib hba⟩

/-- Below a node lies what lies below its children, one after the other. -/
theorem below_eq_cons (h : t.Arena) (hi : i < t.size) :
    t.below i = i :: (t.children i).flatMap t.below := by
  have hwalk (cs : List Nat) (hcs : ∀ c ∈ cs, c < t.size) :
      t.StackWalk cs (cs.flatMap t.below) := by
    induction cs with
    | nil => exact .done
    | cons c cs ih =>
      rw [List.forall_mem_cons] at hcs
      exact (h.below_taken hcs.1).walked.append (ih hcs.2)
  refine (h.below_taken hi).walked.unique (.take ?_)
  rw [List.append_nil]
  exact hwalk _ fun c hc => lt_size_of_parent? (h.mem_children_iff.mp hc)

end Arena

end XQueryScope.Tree
