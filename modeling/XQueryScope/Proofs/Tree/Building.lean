import XQueryScope.Proofs.Tree.Arena
import XQueryScope.Tree.Builder

/-!
# What builders build

`Builder.Sound` is the invariant of a builder: its nodes form an arena, the first of them is the
root, and the open nodes end the line of ancestors of the node that was added last.  Adding a node
keeps it (`Sound.push`, `Sound.start`), and so does closing any number of open ones
(`Sound.close`), so every run keeps it (`Sound.run`).  What a run ends in is told by its steps
(`Builder.finish_run_isOk_iff`), and the links of the tree follow from the invariant alone
(`finish_run_wellLinked`).
-/

namespace XQueryScope

namespace Builder

variable {b : Builder} {kind : Kind} {text : Option String} {i p : Nat}

/-- The nodes so far, as a tree. -/
def tree (b : Builder) : Tree := ⟨b.nodes, 0⟩

/-- The line of ancestors of the node that was added last. -/
def lastLineage (b : Builder) : List Nat :=
  match b.nodes.size with
  | 0 => []
  | last + 1 => b.tree.lineage last

/-! ## 1. What adding a node does to the links -/

@[simp] theorem size_push : (b.push kind text).nodes.size = b.nodes.size + 1 := by
  unfold push
  split <;> simp

@[simp] theorem opened_push : (b.push kind text).opened = b.opened := by
  unfold push
  split <;> rfl

@[simp] theorem nodes_start : (b.start kind).nodes = (b.push kind none).nodes := rfl

@[simp] theorem opened_start : (b.start kind).opened = b.nodes.size :: b.opened := rfl

theorem tree_start : (b.start kind).tree = (b.push kind none).tree := rfl

@[simp] theorem size_tree : b.tree.size = b.nodes.size := rfl

/-- The node that a builder adds. -/
def added (b : Builder) (kind : Kind) (text : Option String) : Node :=
  ⟨kind, text, b.opened.head?, #[], b.opened.head?.elim 0 b.childCount⟩

/-- A node with one more child. -/
def withChild (n : Node) (c : Nat) : Node := { n with children := n.children.push c }

/-- Every node stays what it was, but for the parent of the new one. -/
theorem node?_push : (b.push kind text).tree.node? i =
    if i = b.nodes.size then some (b.added kind text)
    else if b.opened.head? = some i then (b.tree.node? i).map (withChild · b.nodes.size)
    else b.tree.node? i := by
  unfold push added Tree.node? tree
  cases hop : b.opened with
  | nil => simp [Array.getElem?_push]
  | cons p rest =>
    simp only [Array.getElem?_push, Array.size_modify, Array.getElem?_modify, List.head?_cons,
      Option.some.injEq, Option.elim_some]
    by_cases hi : i = b.nodes.size
    · simp [hi]
    · by_cases hp : p = i
      · simp only [hi, if_false, hp, if_true]
        cases b.nodes[i]? <;> rfl
      · simp [hi, hp]

/-- So a node's data stays what it was, but for its children. -/
theorem bind_node?_push {α : Type} (f : Node → Option α)
    (hf : ∀ (n : Node) (c : Nat), f (withChild n c) = f n) :
    ((b.push kind text).tree.node? i).bind f =
      if i = b.nodes.size then f (b.added kind text) else (b.tree.node? i).bind f := by
  rw [node?_push]
  split
  · rfl
  · split
    · cases b.tree.node? i with
      | none => rfl
      | some n => exact hf n b.nodes.size
    · rfl

theorem kind?_push : (b.push kind text).tree.kind? i =
    if i = b.nodes.size then some kind else b.tree.kind? i := by
  simp only [Tree.kind?, Option.map_eq_bind]
  exact bind_node?_push _ fun _ _ => rfl

theorem parent?_push : (b.push kind text).tree.parent? i =
    if i = b.nodes.size then b.opened.head? else b.tree.parent? i :=
  bind_node?_push _ fun _ _ => rfl

theorem text?_push : (b.push kind text).tree.text? i =
    if i = b.nodes.size then text else b.tree.text? i :=
  bind_node?_push _ fun _ _ => rfl

theorem slot?_push : (b.push kind text).tree.slot? i =
    if i = b.nodes.size then some (b.opened.head?.elim 0 b.childCount) else b.tree.slot? i := by
  simp only [Tree.slot?, Option.map_eq_bind]
  exact bind_node?_push _ fun _ _ => rfl

theorem childCount_eq : b.childCount i = (b.tree.children i).length := by
  unfold childCount Tree.children Tree.node? tree
  cases b.nodes[i]? <;> simp

theorem children_push (hlt : ∀ p : Nat, b.opened.head? = some p → p < b.nodes.size) :
    (b.push kind text).tree.children i =
      if b.opened.head? = some i then b.tree.children i ++ [b.nodes.size]
      else b.tree.children i := by
  unfold Tree.children
  rw [node?_push]
  by_cases hi : i = b.nodes.size
  · have hne : b.opened.head? ≠ some i := fun h => absurd (hlt i h) (by omega)
    have hnone : b.tree.node? i = none := Tree.node?_eq_none_iff.mpr (by simp [hi])
    simp [hi, hi ▸ hne, hi ▸ hnone, added]
  · rw [if_neg hi]
    by_cases hp : b.opened.head? = some i
    · rw [if_pos hp, if_pos hp]
      have hn : b.tree.node? i ≠ none := by
        rw [Ne, Tree.node?_eq_none_iff, size_tree]
        have := hlt i hp
        omega
      cases hni : b.tree.node? i with
      | none => exact absurd hni hn
      | some n => simp [withChild]
    · rw [if_neg hp, if_neg hp]

theorem root_push : (b.push kind text).root =
    if b.opened = [] then b.root.or (some b.nodes.size) else b.root := by
  unfold push
  split
  · rename_i h; simp [h]
  · rename_i h; simp [h]

/-! ## 2. The invariant -/

/-- The invariant of a builder. -/
structure Sound (b : Builder) : Prop where
  arena : b.tree.Arena
  root_eq : b.root = if b.nodes.size = 0 then none else some 0
  opened_suffix : b.opened <:+ b.lastLineage
  opened_text : ∀ {i : Nat}, i ∈ b.opened → b.tree.text? i = none

theorem lastLineage_of_size {last : Nat} (h : b.nodes.size = last + 1) :
    b.lastLineage = b.tree.lineage last := by
  simp [lastLineage, h]

theorem lastLineage_of_empty (h : b.nodes.size = 0) : b.lastLineage = [] := by
  simp [lastLineage, h]

namespace Sound

theorem empty : Sound {} where
  arena := {
    parent_lt := by simp [Tree.parent?, Tree.node?, tree]
    mem_children_iff := by simp [Tree.parent?, Tree.children, Tree.node?, tree]
    children_sorted := by simp [Tree.children, Tree.node?, tree]
    slot_child := by simp [Tree.parent?, Tree.node?, tree]
    slot_top := by simp [Tree.slot?, Tree.node?, tree]
    preorder := by simp [Tree.parent?, Tree.node?, tree]
    token_leaf := by simp [Tree.text?, Tree.node?, tree] }
  root_eq := rfl
  opened_suffix := List.suffix_refl _
  opened_text := by simp

theorem opened_lt (h : b.Sound) (hi : i ∈ b.opened) : i < b.nodes.size := by
  have hmem := h.opened_suffix.subset hi
  cases hn : b.nodes.size with
  | zero =>
    rw [lastLineage_of_empty hn] at hmem
    exact absurd hmem (by simp)
  | succ last =>
    rw [lastLineage_of_size hn] at hmem
    have := h.arena.le_of_mem_lineage hmem
    omega

theorem head_lt (h : b.Sound) (p : Nat) (hp : b.opened.head? = some p) : p < b.nodes.size :=
  h.opened_lt (List.mem_of_head? hp)

theorem opened_of_empty (h : b.Sound) (hn : b.nodes.size = 0) : b.opened = [] := by
  have hs := h.opened_suffix
  rw [lastLineage_of_empty hn] at hs
  exact List.eq_nil_of_suffix_nil hs

/-- Closing open nodes changes no node. -/
theorem close (h : b.Sound) {opened : List NodeId} (hs : opened <:+ b.opened) :
    Sound { b with opened } where
  arena := h.arena
  root_eq := h.root_eq
  opened_suffix := hs.trans h.opened_suffix
  opened_text hi := h.opened_text (hs.subset hi)

end Sound

end Builder

/-- What a line of ancestors ends with, from one node on, is that node's own. -/
theorem Tree.Arena.eq_lineage_of_suffix {t : Tree} (h : t.Arena) {p : Nat} {rest : List Nat}
    (i : Nat) : p :: rest <:+ t.lineage i → p :: rest = t.lineage p := by
  induction i using Nat.strongRecOn with
  | ind i ih =>
    intro hs
    cases hp : t.parent? i with
    | none =>
      rw [h.lineage_top hp] at hs
      rcases List.suffix_cons_iff.mp hs with heq | hnil
      · obtain ⟨rfl, rfl⟩ := List.cons.inj heq
        rw [h.lineage_top hp]
      · exact absurd (List.eq_nil_of_suffix_nil hnil) (by simp)
    | some q =>
      rw [h.lineage_child hp] at hs
      rcases List.suffix_cons_iff.mp hs with heq | htail
      · obtain ⟨rfl, rfl⟩ := List.cons.inj heq
        rw [h.lineage_child hp]
      · exact ih q (h.parent_lt hp) htail

namespace Builder

variable {b : Builder} {kind : Kind} {text : Option String} {i p : Nat}

namespace Sound

/-- The open nodes are the innermost one and its ancestors. -/
theorem opened_eq_lineage (h : b.Sound) (hp : b.opened.head? = some p) :
    b.opened = b.tree.lineage p := by
  obtain ⟨rest, hop⟩ : ∃ rest, b.opened = p :: rest := by
    cases hb : b.opened with
    | nil => rw [hb] at hp; exact absurd hp (by simp)
    | cons q rest => rw [hb] at hp; exact ⟨rest, by simpa using hp⟩
  have hs := h.opened_suffix
  cases hn : b.nodes.size with
  | zero => exact absurd (h.head_lt p hp) (by omega)
  | succ last =>
    rw [lastLineage_of_size hn, hop] at hs
    rw [hop]
    exact h.arena.eq_lineage_of_suffix last hs

theorem parent_lt_push (h : b.Sound) (hp : (b.push kind text).tree.parent? i = some p) :
    p < i := by
  rw [parent?_push] at hp
  split at hp
  · rename_i hi
    rw [hi]
    exact h.head_lt p hp
  · exact h.arena.parent_lt hp

theorem lineage_push (h : b.Sound) (hi : i < b.nodes.size) :
    (b.push kind text).tree.lineage i = b.tree.lineage i := by
  refine Tree.lineage_congr h.arena.parent_lt ?_
  intro j hj
  rw [parent?_push, if_neg (by omega)]

/-- The new node's ancestors are the open nodes. -/
theorem lastLineage_push (h : b.Sound) :
    (b.push kind text).lastLineage = b.nodes.size :: b.opened := by
  rw [lastLineage_of_size size_push, Tree.lineage_eq (parent_lt_push h), parent?_push, if_pos rfl]
  cases hp : b.opened.head? with
  | none =>
    rw [List.head?_eq_none_iff.mp hp]
    rfl
  | some p =>
    simp only [Option.elim_some]
    rw [h.lineage_push (h.head_lt p hp), h.opened_eq_lineage hp]

theorem mem_children_push_iff (h : b.Sound) {c : Nat} :
    c ∈ (b.push kind text).tree.children p ↔ (b.push kind text).tree.parent? c = some p := by
  rw [children_push h.head_lt, parent?_push]
  by_cases hc : c = b.nodes.size
  · have hnot : c ∉ b.tree.children p := by
      rw [h.arena.mem_children_iff, Tree.parent?_of_size_le (by simp [hc])]
      simp
    rw [if_pos hc]
    split
    · rename_i hp; simp [hc, hp]
    · rename_i hp; simp [hp, hnot]
  · rw [if_neg hc]
    split
    · simp [hc, h.arena.mem_children_iff]
    · exact h.arena.mem_children_iff

theorem children_sorted_push (h : b.Sound) (p : Nat) :
    ((b.push kind text).tree.children p).Pairwise (fun a b : Nat => a < b) := by
  rw [children_push h.head_lt]
  split
  · refine List.pairwise_append.mpr ⟨h.arena.children_sorted p, List.pairwise_singleton _ _, ?_⟩
    intro c hc d hd
    rw [List.mem_singleton.mp hd]
    exact Tree.lt_size_of_parent? (h.arena.mem_children_iff.mp hc)
  · exact h.arena.children_sorted p

theorem slot_child_push (h : b.Sound) {c k : Nat}
    (hp : (b.push kind text).tree.parent? c = some p)
    (hk : (b.push kind text).tree.slot? c = some k) :
    ((b.push kind text).tree.children p)[k]? = some c := by
  rw [parent?_push] at hp
  rw [slot?_push] at hk
  rw [children_push h.head_lt]
  by_cases hc : c = b.nodes.size
  · -- the new node stands behind the children that its parent had
    rw [if_pos hc] at hp hk
    rw [if_pos hp]
    rw [hp, Option.elim_some, Option.some.injEq, childCount_eq] at hk
    rw [← hk, hc]
    exact List.getElem?_concat_length
  · rw [if_neg hc] at hp hk
    have hold := h.arena.slot_child hp hk
    split
    · rw [List.getElem?_append_left (List.getElem?_eq_some_iff.mp hold).1]
      exact hold
    · exact hold

theorem slot_top_push (h : b.Sound) {c k : Nat}
    (hp : (b.push kind text).tree.parent? c = none)
    (hk : (b.push kind text).tree.slot? c = some k) : k = 0 := by
  rw [parent?_push] at hp
  rw [slot?_push] at hk
  split at hp
  · rename_i hc
    rw [if_pos hc, hp] at hk
    simpa using hk.symm
  · rename_i hc
    rw [if_neg hc] at hk
    exact h.arena.slot_top hp hk

theorem preorder_push (h : b.Sound) (hp : (b.push kind text).tree.parent? (i + 1) = some p) :
    p ∈ (b.push kind text).tree.lineage i := by
  rw [parent?_push] at hp
  split at hp
  · rename_i hi
    rw [h.lineage_push (by omega), ← lastLineage_of_size hi.symm]
    exact h.opened_suffix.subset (List.mem_of_head? hp)
  · have hlt := Tree.lt_size_of_parent? hp
    rw [size_tree] at hlt
    rw [h.lineage_push (by omega)]
    exact h.arena.preorder hp

theorem token_leaf_push (h : b.Sound) {s : String}
    (hs : (b.push kind text).tree.text? i = some s) : (b.push kind text).tree.children i = [] := by
  rw [text?_push] at hs
  rw [children_push h.head_lt]
  by_cases hi : i = b.nodes.size
  · have hne : b.opened.head? ≠ some i := fun hp => absurd (h.head_lt i hp) (by omega)
    rw [if_neg hne]
    exact Tree.children_of_size_le (by simp [hi])
  · rw [if_neg hi] at hs
    have hne : b.opened.head? ≠ some i := fun hp => by
      rw [h.opened_text (List.mem_of_head? hp)] at hs
      exact absurd hs (by simp)
    rw [if_neg hne]
    exact h.arena.token_leaf hs

theorem root_eq_push (h : b.Sound) : (b.push kind text).root = some 0 := by
  rw [root_push, h.root_eq]
  by_cases hn : b.nodes.size = 0
  · simp [hn, h.opened_of_empty hn]
  · rw [if_neg hn]
    split <;> rfl

/-- Adding a node keeps the invariant. -/
theorem push (h : b.Sound) (kind : Kind) (text : Option String) : (b.push kind text).Sound where
  arena := {
    parent_lt := h.parent_lt_push
    mem_children_iff := h.mem_children_push_iff
    children_sorted := h.children_sorted_push
    slot_child := h.slot_child_push
    slot_top := h.slot_top_push
    preorder := h.preorder_push
    token_leaf := h.token_leaf_push }
  root_eq := by rw [h.root_eq_push, size_push, if_neg (Nat.succ_ne_zero _)]
  opened_suffix := by
    rw [h.lastLineage_push, opened_push]
    exact List.suffix_cons _ _
  opened_text := by
    intro i hi
    rw [opened_push] at hi
    have hlt := h.opened_lt hi
    rw [text?_push, if_neg (by omega)]
    exact h.opened_text hi

/-- So does adding a node and opening it. -/
theorem start (h : b.Sound) (kind : Kind) : (b.start kind).Sound where
  arena := (h.push kind none).arena
  root_eq := (h.push kind none).root_eq
  opened_suffix := by
    show b.nodes.size :: b.opened <:+ (b.push kind none).lastLineage
    exact h.lastLineage_push ▸ List.suffix_refl _
  opened_text := by
    intro i hi
    rw [tree_start, text?_push]
    split
    · rfl
    · rename_i hne
      rw [opened_start] at hi
      exact h.opened_text ((List.mem_cons.mp hi).resolve_left hne)

/-- One step keeps the invariant, whether it fails or not. -/
theorem apply (h : b.Sound) (s : Step) : (b.apply s).1.Sound := by
  cases s with
  | start kind => exact h.start kind
  | token kind text => exact h.push kind (some text)
  | empty kind => exact h.push kind none
  | finish =>
    unfold Builder.apply
    cases hop : b.opened with
    | nil => exact h
    | cons i outer => exact h.close (hop ▸ List.suffix_cons _ _)

/-- Every run keeps the invariant. -/
theorem run (h : b.Sound) (steps : List Step) : (b.run steps).Sound := by
  unfold Builder.run
  induction steps generalizing b with
  | nil => exact h
  | cons s steps ih => exact ih (h.apply s)

end Sound

end Builder

/-! ## 3. When there is a tree -/

/-- Whether a step adds a node. -/
def Step.adds : Step → Bool
  | .finish => false
  | _ => true

/-- How many nodes are open after a step, if `depth` were open before. -/
def Step.depthAfter (depth : Nat) : Step → Nat
  | .start _ => depth + 1
  | .finish => depth - 1
  | _ => depth

/-- How many of the nodes that steps start are still open at the end. -/
def Step.depth (steps : List Step) : Nat :=
  steps.foldl Step.depthAfter 0

namespace Builder

variable {b : Builder}

theorem apply_error {s : Step} {e : TreeError} (h : (b.apply s).2 = .error e) :
    (b.apply s).1 = b := by
  cases s with
  | finish =>
    unfold apply at h ⊢
    cases hop : b.opened with
    | nil => rfl
    | cons i outer => simp [hop] at h
  | _ => simp [apply] at h

theorem size_apply (s : Step) :
    (b.apply s).1.nodes.size = b.nodes.size + if s.adds then 1 else 0 := by
  cases s with
  | finish =>
    unfold apply
    cases hop : b.opened <;> rfl
  | _ => simp [apply, Step.adds]

theorem depth_apply (s : Step) :
    (b.apply s).1.opened.length = s.depthAfter b.opened.length := by
  cases s with
  | finish =>
    unfold apply
    cases hop : b.opened <;> simp [Step.depthAfter, hop]
  | _ => simp [apply, Step.depthAfter]

theorem size_run (steps : List Step) :
    (b.run steps).nodes.size = b.nodes.size + steps.countP Step.adds := by
  unfold run
  induction steps generalizing b with
  | nil => rfl
  | cons s steps ih =>
    rw [List.foldl_cons, ih, size_apply, List.countP_cons]
    omega

theorem depth_run (steps : List Step) :
    (b.run steps).opened.length = steps.foldl Step.depthAfter b.opened.length := by
  unfold run
  induction steps generalizing b with
  | nil => rfl
  | cons s steps ih => rw [List.foldl_cons, ih, depth_apply, List.foldl_cons]

theorem finish_eq_ok_iff {t : Tree} :
    b.finish = .ok t ↔ b.opened = [] ∧ b.root = some t.root ∧ b.nodes = t.nodes := by
  unfold finish
  cases hop : b.opened with
  | cons i outer => simp
  | nil =>
    cases hr : b.root with
    | none => simp
    | some r => cases t; simp [and_comm]

/-- A run that starts from nothing ends in a tree iff it added a node and left none open. -/
theorem finish_run_isOk_iff (steps : List Step) :
    (∃ t, (run {} steps).finish = .ok t) ↔
      (∃ s ∈ steps, s.adds = true) ∧ Step.depth steps = 0 := by
  have hsound := Sound.empty.run steps
  have hsize := size_run (b := {}) steps
  have hdepth : (run {} steps).opened.length = Step.depth steps := depth_run (b := {}) steps
  have hadds : 0 < steps.countP Step.adds ↔ ∃ s ∈ steps, s.adds = true := List.countP_pos_iff
  simp only [List.size_toArray, List.length_nil, Nat.zero_add] at hsize
  rw [← hadds, ← hsize, ← hdepth, List.length_eq_zero_iff]
  constructor
  · rintro ⟨t, ht⟩
    obtain ⟨hop, hroot, -⟩ := finish_eq_ok_iff.mp ht
    rw [hsound.root_eq] at hroot
    refine ⟨Nat.pos_of_ne_zero fun h0 => ?_, hop⟩
    rw [if_pos h0] at hroot
    exact absurd hroot (by simp)
  · rintro ⟨hpos, hop⟩
    refine ⟨⟨(run {} steps).nodes, 0⟩, finish_eq_ok_iff.mpr ⟨hop, ?_, rfl⟩⟩
    rw [hsound.root_eq, if_neg (by omega)]

/-- A tree that a sound builder hands over is what the builder holds. -/
theorem Sound.tree_eq (h : b.Sound) {t : Tree} (ht : b.finish = .ok t) :
    t = b.tree ∧ 0 < t.size := by
  obtain ⟨-, hroot, hnodes⟩ := finish_eq_ok_iff.mp ht
  rw [h.root_eq] at hroot
  by_cases hn : b.nodes.size = 0
  · rw [if_pos hn] at hroot
    exact absurd hroot (by simp)
  · rw [if_neg hn, Option.some.injEq] at hroot
    have hteq : t = b.tree := by cases t; simp_all [tree]
    exact ⟨hteq, by rw [hteq, size_tree]; omega⟩

end Builder

/-- An arena whose first node is its root. -/
structure Tree.Rooted (t : Tree) : Prop extends t.Arena where
  root_eq : t.root = 0
  size_pos : 0 < t.size

theorem Builder.Sound.rooted {b : Builder} (h : b.Sound) {t : Tree} (ht : b.finish = .ok t) :
    t.Rooted := by
  obtain ⟨rfl, hpos⟩ := h.tree_eq ht
  exact ⟨h.arena, rfl, hpos⟩

/-- A builder builds the tree in some run. -/
def Tree.Built (t : Tree) : Prop := ∃ steps, (Builder.run {} steps).finish = .ok t

theorem Tree.Built.rooted {t : Tree} (h : t.Built) : t.Rooted := by
  obtain ⟨steps, ht⟩ := h
  exact (Builder.Sound.empty.run steps).rooted ht

theorem Tree.Built.arena {t : Tree} (h : t.Built) : t.Arena := h.rooted.toArena

/-! ## 4. The links of a tree -/

/-- How the links of a tree hang together. -/
structure Tree.WellLinked (t : Tree) : Prop where
  /-- The root is the first node. -/
  root_first : t.root = 0 ∧ 0 < t.size
  parent_smaller : ∀ c p : Nat, t.parent? c = some p → p < c
  child_iff : ∀ p c : Nat, c ∈ t.children p ↔ t.parent? c = some p
  child_once : ∀ p c : Nat, t.parent? c = some p → (t.children p).count c = 1
  /-- A node stands at its slot and nowhere else. -/
  child_at_slot : ∀ p c k : Nat, t.parent? c = some p →
    ((t.children p)[k]? = some c ↔ t.slot? c = some k)
  children_increase : ∀ p : Nat, (t.children p).Pairwise (fun a b : Nat => a < b)
  siblings_around : ∀ n p : Nat, t.parent? n = some p →
    ∃ after, t.NextChain n after ∧ (t.preceding n).reverse ++ [n] ++ after = t.children p
  top_alone : ∀ n : Nat, t.parent? n = none → t.preceding n = [] ∧ t.next? n = none
  /-- Going from parent to parent ends, and the line of ancestors is what it meets. -/
  ancestors_end : ∀ n : Nat, t.ParentChain n (t.lineage n) ∧
    ∃ top, (t.lineage n).getLast? = some top ∧ t.parent? top = none
  ancestors_decrease : ∀ n : Nat, (t.lineage n).Pairwise (fun a b : Nat => b < a)
  /-- The walk with a stack ends, and takes a stretch of ids: the nodes that `n` contains. -/
  below_stretch : ∀ n : Nat, n < t.size → t.StackWalk [n] (t.below n) ∧
    (∃ k, 1 ≤ k ∧ t.below n = List.range' n k) ∧
    ∀ m : Nat, m < t.size → (m ∈ t.below n ↔ t.contains n m = true)
  /-- The nodes of the root's subtree come before all others. -/
  root_stretch : ∃ k, 1 ≤ k ∧ k ≤ t.size ∧ t.below t.root = List.range k

theorem Tree.Arena.length_below {t : Tree} (h : t.Arena) {i : Nat} (hi : i < t.size) :
    1 ≤ (t.below i).length ∧ i + (t.below i).length ≤ t.size := by
  have hself : i ∈ t.below i := (h.mem_below_iff hi).mpr ⟨hi, h.self_mem_lineage i⟩
  have hpos : 0 < (t.below i).length := List.length_pos_of_mem hself
  have hlast : i + ((t.below i).length - 1) ∈ t.below i := by
    rw [h.below_eq_range' hi, List.mem_range'_1, List.length_range']
    omega
  have := ((h.mem_below_iff hi).mp hlast).1
  omega

/-- How many nodes the root's subtree has. -/
def Tree.span (t : Tree) : Nat := (t.below t.root).length

namespace Tree.Rooted

variable {t : Tree}

theorem span_le (h : t.Rooted) : 1 ≤ t.span ∧ t.span ≤ t.size := by
  have hlen := h.toArena.length_below h.size_pos
  rw [span, h.root_eq]
  omega

theorem below_root (h : t.Rooted) : t.below t.root = List.range t.span := by
  rw [List.range_eq_range', span, h.root_eq]
  exact h.toArena.below_eq_range' h.size_pos

theorem lt_span_iff (h : t.Rooted) {i : Nat} : i < t.span ↔ i < t.size ∧ 0 ∈ t.lineage i := by
  rw [← h.toArena.mem_below_iff h.size_pos, ← List.mem_range, ← h.below_root, h.root_eq]

theorem wellLinked (h : t.Rooted) : t.WellLinked where
  root_first := ⟨h.root_eq, h.size_pos⟩
  parent_smaller _ _ := h.parent_lt
  child_iff _ _ := h.mem_children_iff
  child_once p c hp := by
    have hnd : (t.children p).Nodup := (h.children_sorted p).imp Nat.ne_of_lt
    rw [List.Nodup.count hnd, if_pos (h.mem_children_iff.mpr hp)]
  child_at_slot _ _ _ hp := h.getElem?_children_iff hp
  children_increase := h.children_sorted
  siblings_around n p hp := by
    obtain ⟨after, hchain, heq⟩ := h.siblings hp
    exact ⟨after, hchain, by simpa using heq⟩
  top_alone n hp := ⟨by simp [preceding, before_top hp], next?_top hp⟩
  ancestors_end n := ⟨h.lineage_chain n, (h.lineage_chain n).ends⟩
  ancestors_decrease := h.lineage_sorted
  below_stretch n hn := by
    refine ⟨(h.below_taken hn).walked, ⟨_, (h.length_below hn).1, h.below_eq_range' hn⟩, ?_⟩
    intro m hm
    simp [h.mem_below_iff hn, hm, contains_iff]
  root_stretch := ⟨t.span, h.span_le.1, h.span_le.2, h.below_root⟩

end Tree.Rooted

/-- **The arena of every run.**  A step that fails changes nothing; a run ends in a tree iff it
added a node and every node it started is finished; and the tree has as many nodes as were added,
well linked. -/
theorem finish_run_wellLinked (steps : List Step) :
    (∀ (b : Builder) (s : Step) (e : TreeError), (b.apply s).2 = .error e → (b.apply s).1 = b) ∧
    ((∃ t, (Builder.run {} steps).finish = .ok t) ↔
      (∃ s ∈ steps, s.adds = true) ∧ Step.depth steps = 0) ∧
    ∀ t, (Builder.run {} steps).finish = .ok t →
      t.size = steps.countP Step.adds ∧ t.WellLinked := by
  refine ⟨fun _ _ _ => Builder.apply_error, Builder.finish_run_isOk_iff steps, ?_⟩
  intro t ht
  have hsound := Builder.Sound.empty.run steps
  refine ⟨?_, (hsound.rooted ht).wellLinked⟩
  rw [(hsound.tree_eq ht).1, Builder.size_tree, Builder.size_run]
  simp

/-- A run with a step that fails and with a second node on top. -/
def unevenSteps : List Step :=
  [.start .flworExpr, .start .letClause, .finish, .token .varName "x", .finish, .finish,
    .empty .expr]

theorem unevenSteps_wellLinked : ∃ t, (Builder.run {} unevenSteps).finish = .ok t ∧
    t.size = 4 ∧ t.WellLinked :=
  ⟨_, rfl, (finish_run_wellLinked unevenSteps).2.2 _ rfl⟩

end XQueryScope
