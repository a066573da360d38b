import XQueryScope.Proofs.Tree.Building
import XQueryScope.Tree.Listing

/-!
# Listing a tree and building it again

The loader keeps fewer promises than a builder that is told when a node ends: it closes a node only
when a later one names a parent further out, and a node without text stays open even if nothing is
to come below it.  That no node is taken in by the wrong parent rests on the order of the ids alone:
the parent of a node is in the line of ancestors of the node before (`Arena.preorder`), and a node
with children has no text (`Arena.token_leaf`), so the loader still has the parent open
(`Follows.addEntry`).

What is built has the entries of what was listed.  In an arena these determine every link
(`Arena.node?_eq_of_entry_eq`), so the two have the same nodes (`Arena.ofListing_toListing`).
-/

namespace XQueryScope

namespace Tree

variable {t u : Tree} {i j p c : Nat}

/-! ## 1. Parents determine the links -/

/-- What a listing tells about a node. -/
def entry (t : Tree) (i : Nat) : Entry :=
  { kind := (t.kind? i).getD .error, text := t.text? i, parent := t.parent? i }

theorem kind?_isSome (h : i < t.size) : (t.kind? i).isSome = true := by
  cases hn : t.node? i with
  | none => exact absurd (node?_eq_none_iff.mp hn) (by omega)
  | some n => simp [kind?, hn]

theorem kind?_eq_of_entry_eq (h : u.entry i = t.entry i) (ht : i < t.size) (hu : i < u.size) :
    u.kind? i = t.kind? i := by
  have hkind : (u.kind? i).getD .error = (t.kind? i).getD .error := congrArg Entry.kind h
  obtain ⟨k, hk⟩ := Option.isSome_iff_exists.mp (kind?_isSome ht)
  obtain ⟨l, hl⟩ := Option.isSome_iff_exists.mp (kind?_isSome hu)
  rw [hk, hl] at hkind ⊢
  exact congrArg some hkind

theorem node?_ext (hkind : u.kind? i = t.kind? i) (htext : u.text? i = t.text? i)
    (hparent : u.parent? i = t.parent? i) (hchildren : u.children i = t.children i)
    (hslot : u.slot? i = t.slot? i) : u.node? i = t.node? i := by
  unfold kind? at hkind
  unfold text? at htext
  unfold parent? at hparent
  unfold children at hchildren
  unfold slot? at hslot
  cases hu : u.node? i with
  | none =>
    rw [hu] at hkind
    exact (Option.map_eq_none_iff.mp hkind.symm).symm
  | some m =>
    cases ht : t.node? i with
    | none => simp [hu, ht] at hkind
    | some n =>
      rw [hu, ht] at hkind htext hparent hchildren hslot
      simp only [Option.map_some, Option.some.injEq, Option.bind_some, Option.elim_some,
        Array.toList_inj] at hkind htext hparent hchildren hslot
      cases m
      cases n
      simp_all

namespace Arena

/-- The children of a node are told by the parents of the others. -/
theorem children_eq (ht : t.Arena) (hu : u.Arena)
    (h : ∀ c : Nat, u.parent? c = some p ↔ t.parent? c = some p) : u.children p = t.children p := by
  have hmem (c : Nat) : c ∈ u.children p ↔ c ∈ t.children p := by
    rw [hu.mem_children_iff, ht.mem_children_iff, h]
  have hsu := hu.children_sorted p
  have hst := ht.children_sorted p
  have hperm : (u.children p).Perm (t.children p) :=
    (List.perm_ext_iff_of_nodup (hsu.imp Nat.ne_of_lt) (hst.imp Nat.ne_of_lt)).mpr hmem
  exact hperm.eq_of_pairwise (fun a b _ _ hab hba => absurd hab (Nat.lt_asymm hba)) hsu hst

theorem slot?_eq (ht : t.Arena) (hu : u.Arena) (hit : i < t.size) (hiu : i < u.size)
    (hparent : u.parent? i = t.parent? i)
    (hsiblings : ∀ p : Nat, t.parent? i = some p → u.children p = t.children p) :
    u.slot? i = t.slot? i := by
  obtain ⟨k, hk⟩ := exists_slot? hit
  obtain ⟨l, hl⟩ := exists_slot? hiu
  cases hp : t.parent? i with
  | none => rw [hk, hl, ht.slot_top hp hk, hu.slot_top (hparent.trans hp) hl]
  | some p =>
    have hat := ht.slot_child hp hk
    rw [← hsiblings p hp] at hat
    rw [hk]
    exact (hu.getElem?_children_iff (hparent.trans hp)).mp hat

/-- An arena whose entries are the first ones of another has the first nodes of the other, if no
later node is a child of one of these. -/
theorem node?_eq_of_entry_eq (ht : t.Arena) (hu : u.Arena) (hsize : u.size ≤ t.size)
    (hclosed : ∀ {c p : Nat}, t.parent? c = some p → p < u.size → c < u.size)
    (h : ∀ i : Nat, i < u.size → u.entry i = t.entry i) (hi : i < u.size) :
    u.node? i = t.node? i := by
  have hparent (c : Nat) (hc : c < u.size) : u.parent? c = t.parent? c :=
    congrArg Entry.parent (h c hc)
  have hchildren (p : Nat) (hp : p < u.size) : u.children p = t.children p := by
    refine ht.children_eq hu fun c => ⟨fun hc => ?_, fun hc => ?_⟩
    · rw [← hparent c (lt_size_of_parent? hc)]
      exact hc
    · rw [hparent c (hclosed hc hp)]
      exact hc
  have hit : i < t.size := by omega
  refine node?_ext (kind?_eq_of_entry_eq (h i hi) hit hi) (congrArg Entry.text (h i hi))
    (hparent i hi) (hchildren i hi) (ht.slot?_eq hu hit hi (hparent i hi) fun p hp => ?_)
  have hlt := ht.parent_lt hp
  exact hchildren p (by omega)

end Arena

/-! ## 2. The listing of a tree -/

/-- The first `j` nodes are listed, each at the place of its id. -/
structure Numbered (t : Tree) (j : Nat) (l : Numbering) : Prop where
  entries_eq : l.entries.toList = (List.range j).map t.entry
  places_eq : ∀ i : Nat, i < t.size → l.places[i]? = some (if i < j then some i else none)

theorem Numbered.empty (t : Tree) : Numbered t 0 ⟨Array.replicate t.size none, #[]⟩ where
  entries_eq := rfl
  places_eq i hi := by simp [hi]

theorem Numbered.number (ht : t.Arena) {l : Numbering} (h : Numbered t j l) (hj : j < t.size) :
    Numbered t (j + 1) (t.number l j) := by
  have hlen : l.entries.size = j := by
    have := congrArg List.length h.entries_eq
    simpa using this
  have hin : j < l.places.size := by
    have hplace := h.places_eq j hj
    exact (Array.getElem?_eq_some_iff.mp hplace).1
  have hplaces (i : Nat) (hi : i < t.size) :
      (l.places.setIfInBounds j (some j))[i]? = some (if i < j + 1 then some i else none) := by
    rw [Array.getElem?_setIfInBounds]
    by_cases hij : j = i
    · simp [hij, hij ▸ hin]
    · have hlt : i < j + 1 ↔ i < j := by omega
      simp [hij, h.places_eq i hi, hlt]
  refine ⟨?_, fun i hi => by simpa only [Tree.number, hlen] using hplaces i hi⟩
  -- the parent of the new node has its place already
  have hparent : ((t.parent? j).bind fun p =>
      (l.places.setIfInBounds j (some j))[p]?.join) = t.parent? j := by
    cases hp : t.parent? j with
    | none => rfl
    | some p =>
      have hlt := ht.parent_lt hp
      rw [Option.bind_some, hplaces p (by omega), if_pos (by omega)]
      rfl
  simp [Tree.number, hlen, hparent, h.entries_eq, List.range_succ, entry]

theorem numbered_range (ht : t.Arena) (hj : j ≤ t.size) :
    Numbered t j ((List.range j).foldl t.number ⟨Array.replicate t.size none, #[]⟩) := by
  induction j with
  | zero => exact Numbered.empty t
  | succ j ih =>
    rw [List.range_succ, List.foldl_append]
    exact (ih (by omega)).number ht (by omega)

/-- The listing has the nodes of the root's subtree, each at the place of its id. -/
theorem Rooted.toListing_eq (h : t.Rooted) : t.toListing = (List.range t.span).map t.entry := by
  rw [toListing, h.below_root]
  exact (numbered_range h.toArena h.span_le.2).entries_eq

end Tree

/-! ## 3. What the loader does -/

namespace Builder

variable {b b' : Builder} {e : Entry} {t : Tree} {i p : Nat}

theorem dropWhile_ne_of_mem {l : List Nat} (h : p ∈ l) :
    ∃ rest, l.dropWhile (· != p) = p :: rest := by
  induction l with
  | nil => exact absurd h (by simp)
  | cons a l ih =>
    by_cases ha : a = p
    · exact ⟨l, by simp [ha]⟩
    · obtain ⟨rest, hrest⟩ := ih ((List.mem_cons.mp h).resolve_left (Ne.symm ha))
      exact ⟨rest, by simp [ha, hrest]⟩

/-- An open node is reached by closing those inside it. -/
theorem enter_of_mem (h : p ∈ b.opened) :
    ∃ rest, b.enter (some p) = .ok { b with opened := p :: rest } ∧ p :: rest <:+ b.opened := by
  obtain ⟨rest, hrest⟩ := dropWhile_ne_of_mem h
  refine ⟨rest, ?_, hrest ▸ List.dropWhile_suffix _⟩
  simp [enter, hrest]

/-- Adds the node of an entry below the innermost open one. -/
def place (b : Builder) (e : Entry) : Builder :=
  match e.text with
  | some text => b.push e.kind (some text)
  | none => b.start e.kind

theorem addEntry_of_enter (h : b.enter e.parent = .ok b') : b.addEntry e = .ok (b'.place e) := by
  unfold addEntry place
  rw [h]
  cases e.text <;> rfl

theorem nodes_place : (b.place e).nodes = (b.push e.kind e.text).nodes := by
  unfold place
  cases e.text <;> rfl

theorem tree_place : (b.place e).tree = (b.push e.kind e.text).tree := by
  rw [tree, tree, nodes_place]

theorem lastLineage_place : (b.place e).lastLineage = (b.push e.kind e.text).lastLineage := by
  rw [lastLineage, lastLineage, nodes_place, tree_place]

theorem opened_place :
    (b.place e).opened = if e.text.isSome then b.opened else b.nodes.size :: b.opened := by
  unfold place
  cases e.text <;> simp

theorem Sound.place (h : b.Sound) (e : Entry) : (b.place e).Sound := by
  unfold Builder.place
  cases e.text with
  | none => exact h.start e.kind
  | some text => exact h.push e.kind (some text)

theorem entry_place : (b.place e).tree.entry i =
    if i = b.nodes.size then { e with parent := b.opened.head? } else b.tree.entry i := by
  simp only [Tree.entry, tree_place, kind?_push, text?_push, parent?_push]
  split <;> rfl

/-- The builder of a loader that has read the first entries of a tree. -/
structure Follows (b : Builder) (t : Tree) : Prop where
  sound : b.Sound
  entry_eq : ∀ i : Nat, i < b.nodes.size → b.tree.entry i = t.entry i
  /-- Nothing was closed but what could not be the parent of the next node. -/
  still_open : ∀ i ∈ b.lastLineage, b.tree.text? i = none → i ∈ b.opened

theorem Follows.empty (t : Tree) : Follows {} t where
  sound := Sound.empty
  entry_eq i hi := absurd hi (by simp)
  still_open i hi := absurd hi (by simp [lastLineage])

namespace Follows

/-- The next node, once the loader has closed what is not its ancestor. -/
theorem place (h : b.Follows t) {opened : List NodeId} (hs : opened <:+ b.opened)
    (hhead : opened.head? = t.parent? b.nodes.size) :
    (Builder.place { b with opened } (t.entry b.nodes.size)).Follows t where
  sound := (h.sound.close hs).place _
  entry_eq i hi := by
    rw [nodes_place, size_push] at hi
    rw [entry_place]
    split
    · rename_i hi'
      rw [hi', hhead]
      rfl
    · rename_i hne
      exact h.entry_eq i (by simp only at hi hne; omega)
  still_open i hi htext := by
    rw [lastLineage_place, (h.sound.close hs).lastLineage_push] at hi
    rw [tree_place, text?_push] at htext
    rw [opened_place]
    split
    · rename_i hsome
      refine (List.mem_cons.mp hi).resolve_left fun hi' => ?_
      rw [if_pos hi'] at htext
      simp [htext] at hsome
    · exact hi

/-- The loader has the parent of the next node open. -/
theorem parent_mem_opened (h : b.Follows t) (ht : t.Arena) (hp : t.parent? b.nodes.size = some p) :
    p ∈ b.opened := by
  have hlt := ht.parent_lt hp
  obtain ⟨last, hlast⟩ : ∃ last, b.nodes.size = last + 1 := ⟨b.nodes.size - 1, by omega⟩
  have hparents (j : Nat) (hj : j ≤ last) : t.parent? j = b.tree.parent? j :=
    (congrArg Entry.parent (h.entry_eq j (by omega))).symm
  have hmem : p ∈ b.lastLineage := by
    rw [lastLineage_of_size hlast, ← Tree.lineage_congr h.sound.arena.parent_lt hparents]
    exact ht.preorder (hlast ▸ hp)
  have htext : b.tree.text? p = none := by
    have heq : b.tree.text? p = t.text? p := congrArg Entry.text (h.entry_eq p hlt)
    rw [heq]
    cases hs : t.text? p with
    | none => rfl
    | some s =>
      have hchild := ht.mem_children_iff.mpr hp
      rw [ht.token_leaf hs] at hchild
      exact absurd hchild (by simp)
  exact h.still_open p hmem htext

/-- Reading the next entry of a tree. -/
theorem addEntry (h : b.Follows t) (ht : t.Rooted) (hj : b.nodes.size < t.span) :
    ∃ b', b.addEntry (t.entry b.nodes.size) = .ok b' ∧ b'.Follows t ∧
      b'.nodes.size = b.nodes.size + 1 := by
  cases hp : t.parent? b.nodes.size with
  | none =>
    -- only the root has no parent
    have hzero : 0 = b.nodes.size := by
      by_cases hne : 0 = b.nodes.size
      · exact hne
      · obtain ⟨p, hparent⟩ := ht.exists_parent_of_mem_lineage (ht.lt_span_iff.mp hj).2 hne
        rw [hp] at hparent
        exact absurd hparent (by simp)
    have henter : b.enter (t.entry b.nodes.size).parent = .ok b := by
      simp only [Tree.entry, hp, enter, if_pos hzero.symm]
    refine ⟨_, addEntry_of_enter henter, ?_, by rw [nodes_place, size_push]⟩
    exact h.place (List.suffix_refl _) (by rw [h.sound.opened_of_empty hzero.symm, hp]; rfl)
  | some p =>
    obtain ⟨rest, henter, hs⟩ := enter_of_mem (h.parent_mem_opened ht.toArena hp)
    have hentry : b.enter (t.entry b.nodes.size).parent = .ok { b with opened := p :: rest } := by
      simpa [Tree.entry, hp] using henter
    refine ⟨_, addEntry_of_enter hentry, ?_, by rw [nodes_place, size_push]⟩
    exact h.place hs (by rw [hp]; rfl)

/-- Reading the entries that are left. -/
theorem addEntries (ht : t.Rooted) : ∀ (n : Nat) {b : Builder}, b.Follows t →
    b.nodes.size + n = t.span →
    ∃ b', b.addEntries ((List.range' b.nodes.size n).map t.entry) = .ok b' ∧ b'.Follows t ∧
      b'.nodes.size = t.span
  | 0, b, h, hn => ⟨b, rfl, h, by omega⟩
  | n + 1, b, h, hn => by
    obtain ⟨b₁, hadd, hfollows, hsize⟩ := h.addEntry ht (by omega)
    obtain ⟨b₂, hrest, hdone⟩ := addEntries ht n hfollows (by omega)
    refine ⟨b₂, ?_, hdone⟩
    rw [hsize] at hrest
    rw [List.range'_succ, List.map_cons, Builder.addEntries, hadd]
    exact hrest

end Follows

end Builder

/-! ## 4. Loading what was listed -/

namespace Tree

variable {t u : Tree}

/-- No node outside the root's subtree is the child of one inside. -/
theorem Rooted.lt_span_of_parent (h : t.Rooted) {c p : Nat} (hp : t.parent? c = some p)
    (hlt : p < t.span) : c < t.span := by
  refine h.lt_span_iff.mpr ⟨lt_size_of_parent? hp, ?_⟩
  exact h.lineage_trans (h.lt_span_iff.mp hlt).2 (h.parent_mem_lineage hp)

/-- `u` consists of the root's subtree of `t`, with the ids of `t`. -/
structure RootPart (u t : Tree) : Prop where
  rooted : u.Rooted
  size_eq : u.size = t.span
  node_eq : ∀ i : Nat, i < u.size → u.node? i = t.node? i

theorem RootPart.span_eq (h : RootPart u t) (ht : t.Rooted) : u.span = t.span := by
  have hle := h.rooted.span_le.2
  have hpos := h.rooted.size_pos
  have hsize := h.size_eq
  -- the last node is below the root in `t`, and its ancestors are those that it has there
  have hlast : u.size - 1 < u.span := by
    refine h.rooted.lt_span_iff.mpr ⟨by omega, ?_⟩
    have hline : u.lineage (u.size - 1) = t.lineage (u.size - 1) := by
      refine lineage_congr ht.parent_lt fun j hj => ?_
      rw [parent?, parent?, h.node_eq j (by omega)]
    rw [hline]
    exact (ht.lt_span_iff.mp (by omega)).2
  omega

theorem RootPart.toListing_eq (h : RootPart u t) (ht : t.Rooted) : u.toListing = t.toListing := by
  rw [h.rooted.toListing_eq, ht.toListing_eq, h.span_eq ht]
  refine List.map_congr_left fun i hi => ?_
  have hnode := h.node_eq i (by rw [h.size_eq]; exact List.mem_range.mp hi)
  simp [entry, kind?, text?, parent?, hnode]

/-- **Loading what was listed** gives the root's subtree back, with the ids that it had. -/
theorem Rooted.ofListing_toListing (ht : t.Rooted) :
    ∃ u, ofListing t.toListing = .ok u ∧ RootPart u t := by
  obtain ⟨b, hadd, hfollows, hsize⟩ :=
    Builder.Follows.addEntries ht t.span (Builder.Follows.empty t) (by simp)
  have hspan := ht.span_le
  have hclosed : Builder.Sound { b with opened := [] } := hfollows.sound.close (List.nil_suffix)
  have hfinish : Builder.finish { b with opened := [] } = .ok b.tree := by
    refine Builder.finish_eq_ok_iff.mpr ⟨rfl, ?_, rfl⟩
    rw [hclosed.root_eq, if_neg (by simp only; omega)]
    rfl
  refine ⟨b.tree, ?_, hclosed.rooted hfinish, hsize, fun i hi => ?_⟩
  · rw [ht.toListing_eq, ofListing, List.range_eq_range']
    have hrun : Builder.addEntries {} ((List.range' 0 t.span).map t.entry) = .ok b := hadd
    rw [hrun]
    exact hfinish
  · have hsize' : b.tree.size = t.span := hsize
    refine ht.node?_eq_of_entry_eq hfollows.sound.arena (by omega) ?_ hfollows.entry_eq hi
    intro c p hp hlt
    rw [hsize'] at hlt ⊢
    exact ht.lt_span_of_parent hp hlt

end Tree

end XQueryScope
