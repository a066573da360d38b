import Mathlib.Data.List.Basic
import Mathlib.Data.List.Find
import XQueryScope.Proofs.Tree.Outline

/-!
# The outline of a subtree

`Tree.outlineAt` is the outline of what lies below a node, by recursion into the children.  At the
root it is what `Tree.toOutline` puts together in a table (`Rooted.outlineAt_zero`), so that a tree
which is read from an outline has that outline there (`outlineAt_of_ofOutline`), and the nodes below
have the parts of it in document order (`Arena.map_outlineAt_below`).

With that, what a node says can be read off an outline.  `Tree.Draws` is the relation, and its
lemmas say for one function on trees after the other what it finds.
-/

namespace XQueryScope

namespace Outline

section Shapes

variable (k : Kind) (s : String) (cs : List Outline)

@[simp] theorem kind_node : (node k cs).kind = k := rfl

@[simp] theorem text_node : (node k cs).text = none := rfl

@[simp] theorem children_node : (node k cs).children = cs := rfl

@[simp] theorem kind_token : (token k s).kind = k := rfl

@[simp] theorem text_token : (token k s).text = some s := rfl

@[simp] theorem children_token : (token k s).children = [] := rfl

end Shapes

/-- The first child of a kind. -/
def child? (k : Kind) (o : Outline) : Option Outline := o.children.find? (·.kind == k)

/-- The text of the first child of a kind. -/
def childText? (k : Kind) (o : Outline) : Option String := (o.child? k).bind text

theorem allNodes_eq (cs : List Outline) : allNodes cs = cs.flatMap nodes := by
  induction cs with
  | nil => rfl
  | cons c cs ih => rw [allNodes, ih, List.flatMap_cons]

@[simp] theorem nodes_node (k : Kind) (cs : List Outline) :
    (node k cs).nodes = node k cs :: cs.flatMap nodes := by
  rw [← allNodes_eq]
  rfl

@[simp] theorem nodes_token (k : Kind) (s : String) : (token k s).nodes = [token k s] := rfl

@[simp] theorem wellFormed_node_iff {k : Kind} {cs : List Outline} :
    (node k cs).WellFormed ↔ ∀ c ∈ cs, c.WellFormed := by
  simp [node, wellFormed_mk_iff]

@[simp] theorem wellFormed_token (k : Kind) (s : String) : (token k s).WellFormed := by
  simp [token, wellFormed_mk_iff]

end Outline

namespace Tree

variable {t : Tree} {o x : Outline} {i c : Nat}

/-! ## 1. Unfolding a node -/

/-- The outline of a node, with at most `steps` generations below it. -/
def unfold (t : Tree) : Nat → NodeId → Outline
  | 0, i => .mk ((t.kind? i).getD .error) (t.text? i) []
  | steps + 1, i => .mk ((t.kind? i).getD .error) (t.text? i) ((t.children i).map (t.unfold steps))

/-- The outline of a node.  Children have larger ids, so there are no more generations below it than
ids behind its own. -/
def outlineAt (t : Tree) (i : NodeId) : Outline := t.unfold (t.size - i) i

namespace Arena

/-- The steps that `outlineAt` allows are enough. -/
theorem unfold_eq_outlineAt (h : t.Arena) (steps : Nat) :
    ∀ {i : Nat}, t.size ≤ i + steps → t.unfold steps i = t.outlineAt i := by
  have hmore : ∀ (a b : Nat) {i : Nat}, t.size ≤ i + a → t.size ≤ i + b →
      t.unfold a i = t.unfold b i := by
    intro a
    induction a with
    | zero =>
      intro b i ha _
      cases b with
      | zero => rfl
      | succ b => rw [unfold, unfold, children_of_size_le (by omega), List.map_nil]
    | succ a ih =>
      intro b i ha hb
      cases b with
      | zero => rw [unfold, unfold, children_of_size_le (by omega), List.map_nil]
      | succ b =>
        rw [unfold, unfold]
        congr 1
        refine List.map_congr_left fun c hc => ?_
        have hlt := h.parent_lt (h.mem_children_iff.mp hc)
        exact ih b (by omega) (by omega)
  intro i hi
  exact hmore steps (t.size - i) hi (by omega)

theorem outlineAt_eq (h : t.Arena) (i : Nat) : t.outlineAt i =
    .mk ((t.kind? i).getD .error) (t.text? i) ((t.children i).map t.outlineAt) := by
  rw [← h.unfold_eq_outlineAt (t.size - i + 1) (by omega), unfold]
  congr 1
  refine List.map_congr_left fun c hc => h.unfold_eq_outlineAt _ ?_
  have hlt := h.parent_lt (h.mem_children_iff.mp hc)
  omega

/-- **The outline of a node lists what lies below it.** -/
theorem described_outlineAt (h : t.Arena) (hi : i < t.size) : t.Described i (t.outlineAt i) := by
  -- from the last node to the first: the table of all outlines holds those of the children
  induction hn : t.size - i using Nat.strongRecOn generalizing i with
  | ind n ih =>
    let table := Array.ofFn fun j : Fin t.size => some (t.outlineAt j)
    have htable {c : Nat} (hc : c < t.size) : table[c]? = some (some (t.outlineAt c)) := by
      simp [table, hc]
    have hchild {c : Nat} (hc : c ∈ t.children i) : c < t.size ∧ i < c := by
      have hp := h.mem_children_iff.mp hc
      exact ⟨lt_size_of_parent? hp, h.parent_lt hp⟩
    have hholds : ∀ c ∈ t.children i, t.Holds table c := by
      intro c hc
      obtain ⟨hsize, hlt⟩ := hchild hc
      exact ⟨_, htable hsize, ih (t.size - c) (by omega) hsize rfl⟩
    have hall : descriptions table (t.children i) = (t.children i).map t.outlineAt := by
      rw [descriptions, ← List.filterMap_eq_map]
      refine List.filterMap_congr fun c hc => ?_
      rw [htable (hchild hc).1]
      rfl
    rw [h.outlineAt_eq, ← hall]
    exact described_node h hi hholds

theorem map_outlineAt_below (h : t.Arena) (hi : i < t.size) :
    (t.below i).map t.outlineAt = (t.outlineAt i).nodes := by
  induction hn : t.size - i using Nat.strongRecOn generalizing i with
  | ind n ih =>
    have hchildren : (t.children i).flatMap (fun c => (t.below c).map t.outlineAt) =
        (t.children i).flatMap fun c => (t.outlineAt c).nodes := by
      refine List.flatMap_congr fun c hc => ?_
      have hp := h.mem_children_iff.mp hc
      have hsize := lt_size_of_parent? hp
      have hlt := h.parent_lt hp
      exact ih (t.size - c) (by omega) hsize rfl
    have hnodes : (t.outlineAt i).nodes =
        t.outlineAt i :: (t.children i).flatMap fun c => (t.outlineAt c).nodes := by
      rw [h.outlineAt_eq i, Outline.nodes, Outline.allNodes_eq, List.flatMap_map]
    rw [h.below_eq_cons hi, List.map_cons, List.map_flatMap, hchildren, hnodes]

end Arena

/-- Recursion and the table describe the root alike. -/
theorem Rooted.outlineAt_zero (h : t.Rooted) : t.outlineAt 0 = t.toOutline := by
  have htop : t.parent? 0 = none := by
    cases hp : t.parent? 0 with
    | none => rfl
    | some p => exact absurd (h.parent_lt hp) (Nat.not_lt_zero p)
  have hentries := (h.described_outlineAt h.size_pos).entries_eq
  rw [htop] at hentries
  refine Outline.eq_of_listing_eq ?_
  rw [h.toOutline_described.2, h.toListing_eq, ← h.below_root, h.root_eq]
  exact hentries

/-- **What is read from an outline has that outline.** -/
theorem outlineAt_of_ofOutline (h : ofOutline o = .ok t) : t.Whole ∧ t.outlineAt 0 = o := by
  obtain ⟨-, hwhole, -⟩ := wellFormed_of_ofOutline h
  exact ⟨hwhole, hwhole.outlineAt_zero.trans (toOutline_of_ofOutline h)⟩

/-! ## 2. Nodes as an outline has them -/

/-- The node and what lies below it are as the outline says. -/
structure Draws (t : Tree) (i : Nat) (o : Outline) : Prop where
  lt_size : i < t.size
  outlineAt_eq : t.outlineAt i = o

namespace Draws

theorem kind?_eq (hd : t.Draws i o) (h : t.Arena) : t.kind? i = some o.kind := by
  obtain ⟨kind, hkind⟩ := Option.isSome_iff_exists.mp (kind?_isSome hd.lt_size)
  rw [← hd.outlineAt_eq, h.outlineAt_eq, hkind]
  rfl

theorem text?_eq (hd : t.Draws i o) (h : t.Arena) : t.text? i = o.text := by
  rw [← hd.outlineAt_eq, h.outlineAt_eq]
  rfl

theorem is_eq (hd : t.Draws i o) (h : t.Arena) (k : Kind) : t.is k i = (o.kind == k) := by
  rw [is, hd.kind?_eq h]
  rfl

theorem kindIs_eq (hd : t.Draws i o) (h : t.Arena) (p : Kind → Bool) :
    t.kindIs p i = p o.kind := by
  rw [kindIs, hd.kind?_eq h]
  rfl

theorem map_children (hd : t.Draws i o) (h : t.Arena) :
    (t.children i).map t.outlineAt = o.children := by
  rw [← hd.outlineAt_eq, h.outlineAt_eq]
  rfl

theorem of_mem_children (h : t.Arena) (hc : c ∈ t.children i) : t.Draws c (t.outlineAt c) :=
  ⟨lt_size_of_parent? (h.mem_children_iff.mp hc), rfl⟩

/-- The first child of a kind is drawn by the first one of that kind in the outline. -/
theorem map_child? (hd : t.Draws i o) (h : t.Arena) (k : Kind) :
    (t.child? k i).map t.outlineAt = o.child? k := by
  rw [Outline.child?, ← hd.map_children h, List.find?_map, child?]
  congr 1
  refine List.find?_congr fun c hc => ?_
  exact (of_mem_children h hc).is_eq h k

theorem child?_cases (hd : t.Draws i o) (h : t.Arena) (k : Kind) :
    (t.child? k i = none ∧ o.child? k = none) ∨
      ∃ c x, t.child? k i = some c ∧ o.child? k = some x ∧ t.Draws c x := by
  rw [← hd.map_child? h k]
  cases hc : t.child? k i with
  | none => exact .inl ⟨rfl, rfl⟩
  | some c => exact .inr ⟨c, _, rfl, rfl, of_mem_children h (List.mem_of_find?_eq_some hc)⟩

theorem childText?_eq (hd : t.Draws i o) (h : t.Arena) (k : Kind) :
    t.childText? k i = o.childText? k := by
  rw [childText?, Outline.childText?]
  rcases hd.child?_cases h k with ⟨hc, hx⟩ | ⟨c, x, hc, hx, hcx⟩
  · rw [hc, hx]
    rfl
  · rw [hc, hx]
    exact hcx.text?_eq h

/-- A child in the outline is one in the tree, with the siblings before it in the same order. -/
theorem exists_child (hd : t.Draws i o) (h : t.Arena) (front : List Outline) {rest : List Outline}
    (ho : o.children = front ++ x :: rest) :
    ∃ j, t.Draws j x ∧ t.parent? j = some i ∧ (t.before j).map t.outlineAt = front := by
  have hsplit := hd.map_children h
  rw [ho, List.map_eq_append_iff] at hsplit
  obtain ⟨before, behind, hchildren, hfront, hbehind⟩ := hsplit
  obtain ⟨j, after, rfl, hj, -⟩ := List.map_eq_cons_iff.mp hbehind
  have hmem : j ∈ t.children i := by simp [hchildren]
  have hp := h.mem_children_iff.mp hmem
  refine ⟨j, ⟨lt_size_of_parent? hp, hj⟩, hp, ?_⟩
  have hslot : t.slot? j = some before.length :=
    (h.getElem?_children_iff hp).mp (by simp [hchildren])
  rw [before_eq hp hslot, hchildren, List.take_left, hfront]

end Draws

end Tree

end XQueryScope
