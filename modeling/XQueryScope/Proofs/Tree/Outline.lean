import XQueryScope.Proofs.Tree.Listing
import XQueryScope.Session

/-!
# Reading and writing outlines

An outline has a listing: its nodes in document order, each with the place of its parent.  The
listing tells the outline (`Outline.eq_of_listing_eq`), so that trees and outlines can be compared
by what they list.

The loader adds nodes from a stack.  What it has built and what is still on the stack are together
the listing, before and after every turn of the loop (`Builder.expected_addOutline`), and the first
node of the outline with a text and with children is the one at which it stops
(`Builder.loads_addPending`).  The writer goes through the nodes from the back.  Once it has come to
a node, the table holds an outline for every node behind it whose parent it has not come to
(`Tree.Drafted`), and these list what lies below them.

So a tree that is read from an outline is written as that outline, and a tree that a builder built
is read from its outline (`outline_roundTrip`).
-/

namespace XQueryScope

namespace Outline

variable {o a b : Outline}

/-! ## 1. The nodes of an outline -/

/-- The text of the described node. -/
def text : Outline → Option String
  | mk _ s _ => s

/-- What is described below the node. -/
def children : Outline → List Outline
  | mk _ _ cs => cs

/-- Whether the node is described with a text and with children. -/
def clashes (o : Outline) : Bool := o.text.isSome && !o.children.isEmpty

mutual

/-- The node and everything below it, in document order. -/
def nodes : Outline → List Outline
  | mk kind text cs => mk kind text cs :: allNodes cs

/-- The nodes of a list of outlines, in document order. -/
def allNodes : List Outline → List Outline
  | [] => []
  | c :: cs => c.nodes ++ allNodes cs

end

/-- No node is described with a text and with children. -/
def WellFormed (o : Outline) : Prop := ∀ n ∈ o.nodes, n.clashes = false

instance (o : Outline) : Decidable o.WellFormed :=
  decidable_of_iff (o.nodes.all fun n => !n.clashes) (by simp [WellFormed])

theorem mem_allNodes_iff {cs : List Outline} : a ∈ allNodes cs ↔ ∃ c ∈ cs, a ∈ c.nodes := by
  induction cs with
  | nil => simp [allNodes]
  | cons c cs ih => simp [allNodes, ih]

theorem wellFormed_mk_iff {kind : Kind} {text : Option String} {cs : List Outline} :
    (mk kind text cs).WellFormed ↔ (text = none ∨ cs = []) ∧ ∀ c ∈ cs, c.WellFormed := by
  have hself : (mk kind text cs).clashes = false ↔ text = none ∨ cs = [] := by
    cases text <;> cases cs <;> simp [clashes, Outline.text, children]
  simp only [WellFormed, nodes, List.forall_mem_cons, hself, mem_allNodes_iff]
  exact and_congr_right' ⟨fun h c hc n hn => h n ⟨c, hc, hn⟩, fun h n ⟨c, hc, hn⟩ => h c hc n hn⟩

/-! ## 2. The listing of an outline -/

mutual

/-- The entries of a node at place `n` below `parent`, and of everything below the node. -/
def entriesAt (parent : Option Nat) (n : Nat) : Outline → List Entry
  | mk kind text cs => ⟨kind, text, parent⟩ :: allEntriesAt n (n + 1) cs

/-- The entries of nodes that stand one after the other below `parent`, from place `n` on. -/
def allEntriesAt (parent n : Nat) : List Outline → List Entry
  | [] => []
  | c :: cs => c.entriesAt (some parent) n ++ allEntriesAt parent (n + c.nodes.length) cs

end

/-- The nodes in document order, each with the place of its parent. -/
def listing (o : Outline) : List Entry := o.entriesAt none 0

mutual

theorem length_entriesAt (o : Outline) (parent : Option Nat) (n : Nat) :
    (o.entriesAt parent n).length = o.nodes.length := by
  cases o with
  | mk kind text cs => simp [entriesAt, nodes, length_allEntriesAt cs]

theorem length_allEntriesAt (cs : List Outline) (parent n : Nat) :
    (allEntriesAt parent n cs).length = (allNodes cs).length := by
  cases cs with
  | nil => rfl
  | cons c cs => simp [allEntriesAt, allNodes, length_entriesAt c, length_allEntriesAt cs]

end

mutual

theorem parent_isSome_entriesAt (o : Outline) (parent n : Nat) :
    ∀ e ∈ o.entriesAt (some parent) n, e.parent.isSome = true := by
  cases o with
  | mk kind text cs =>
    rw [entriesAt, List.forall_mem_cons]
    exact ⟨rfl, parent_isSome_allEntriesAt cs n (n + 1)⟩

/-- Every node below another names its parent. -/
theorem parent_isSome_allEntriesAt (cs : List Outline) (parent n : Nat) :
    ∀ e ∈ allEntriesAt parent n cs, e.parent.isSome = true := by
  cases cs with
  | nil => simp [allEntriesAt]
  | cons c cs =>
    rw [allEntriesAt, List.forall_mem_append]
    exact ⟨parent_isSome_entriesAt c parent n, parent_isSome_allEntriesAt cs parent _⟩

end

/-- The entries go on outside of what lies below place `n`: the next one has no parent from there
on. -/
def Outside (n : Nat) (rest : List Entry) : Prop :=
  ∀ e ∈ rest.head?, ∀ p ∈ e.parent, p < n

theorem Outside.mono {m n : Nat} {rest : List Entry} (h : Outside m rest) (hmn : m ≤ n) :
    Outside n rest :=
  fun e he p hp => Nat.lt_of_lt_of_le (h e he p hp) hmn

/-- Behind a child come the other children, or what is outside of the parent. -/
theorem Outside.siblings {parent m n : Nat} {rest : List Entry} (h : Outside parent rest)
    (hlt : parent < n) (cs : List Outline) : Outside n (allEntriesAt parent m cs ++ rest) := by
  cases cs with
  | nil => exact h.mono (Nat.le_of_lt hlt)
  | cons c cs =>
    cases c with
    | mk kind text ds =>
      intro e he p hp
      simp only [allEntriesAt, entriesAt, List.cons_append, List.head?_cons, Option.mem_def,
        Option.some.injEq] at he
      subst he
      rw [← Option.some.inj hp]
      exact hlt

mutual

/-- The entries of a node tell it, and where what lies below it ends. -/
theorem eq_of_entriesAt : ∀ (a b : Outline) (parent : Option Nat) (n : Nat) (r s : List Entry),
    Outside n r → Outside n s → a.entriesAt parent n ++ r = b.entriesAt parent n ++ s →
    a = b ∧ r = s
  | mk kind text cs, mk kind' text' ds, parent, n, r, s, hr, hs, h => by
    simp only [entriesAt, List.cons_append, List.cons.injEq, Entry.mk.injEq] at h
    obtain ⟨⟨hkind, htext, -⟩, hrest⟩ := h
    obtain ⟨hchildren, hbehind⟩ :=
      eq_of_allEntriesAt cs ds n (n + 1) r s (Nat.lt_succ_self n) hr hs hrest
    exact ⟨by rw [hkind, htext, hchildren], hbehind⟩

theorem eq_of_allEntriesAt : ∀ (cs ds : List Outline) (parent n : Nat) (r s : List Entry),
    parent < n → Outside parent r → Outside parent s →
    allEntriesAt parent n cs ++ r = allEntriesAt parent n ds ++ s → cs = ds ∧ r = s
  | [], [], _, _, _, _, _, _, _, h => ⟨rfl, h⟩
  | [], mk _ _ _ :: _, parent, _, r, _, _, hr, _, h => by
    -- the next entry would have to be a child and to be outside of the parent
    simp only [allEntriesAt, entriesAt, List.nil_append, List.cons_append] at h
    exact absurd (hr _ (by rw [h]; rfl) parent rfl) (Nat.lt_irrefl parent)
  | mk _ _ _ :: _, [], parent, _, _, s, _, _, hs, h => by
    simp only [allEntriesAt, entriesAt, List.nil_append, List.cons_append] at h
    exact absurd (hs _ (by rw [← h]; rfl) parent rfl) (Nat.lt_irrefl parent)
  | c :: cs, d :: ds, parent, n, r, s, hlt, hr, hs, h => by
    simp only [allEntriesAt, List.append_assoc] at h
    obtain ⟨rfl, hrest⟩ := eq_of_entriesAt c d (some parent) n _ _ (hr.siblings hlt cs)
      (hs.siblings hlt ds) h
    obtain ⟨rfl, hbehind⟩ := eq_of_allEntriesAt cs ds parent (n + c.nodes.length) r s (by omega)
      hr hs hrest
    exact ⟨rfl, hbehind⟩

end

/-- **The listing of an outline tells the outline.** -/
theorem eq_of_listing_eq (h : a.listing = b.listing) : a = b := by
  have hnil : Outside 0 [] := fun e he => absurd he (by simp)
  exact (eq_of_entriesAt a b none 0 [] [] hnil hnil (congrArg (· ++ []) h)).1

end Outline

/-! ## 3. The loader -/

namespace Builder

variable {b b' : Builder} {o : Outline} {pending pending' : List (List Outline)}

/-- The entries of the nodes so far. -/
def entries (b : Builder) : List Entry := (List.range b.nodes.size).map b.tree.entry

theorem entries_push (kind : Kind) (text : Option String) :
    (b.push kind text).entries = b.entries ++ [⟨kind, text, b.opened.head?⟩] := by
  rw [entries, size_push, List.range_succ, List.map_append, entries]
  congr 1
  · refine List.map_congr_left fun i hi => ?_
    have hne : i ≠ b.nodes.size := Nat.ne_of_lt (List.mem_range.mp hi)
    simp only [Tree.entry, kind?_push, text?_push, parent?_push, if_neg hne]
  · simp [Tree.entry, kind?_push, text?_push, parent?_push]

theorem entries_start (kind : Kind) :
    (b.start kind).entries = b.entries ++ [⟨kind, none, b.opened.head?⟩] :=
  entries_push kind none

/-- The entries that are pending below the open nodes, from place `n` on. -/
def pendingEntries (n : Nat) : List NodeId → List (List Outline) → List Entry
  | p :: opened, cs :: outer =>
    Outline.allEntriesAt p n cs ++
      pendingEntries (n + (Outline.allNodes cs).length) opened outer
  | _, _ => []

/-- What the tree lists once everything pending is added. -/
def expected (b : Builder) (pending : List (List Outline)) : List Entry :=
  b.entries ++ pendingEntries b.nodes.size b.opened pending

/-- Adding a node moves its entry from what is pending to what is built. -/
theorem expected_addOutline (h : b.addOutline pending o = .ok (b', pending')) :
    b'.expected pending' = b.entries ++ (o.entriesAt b.opened.head? b.nodes.size ++
      pendingEntries (b.nodes.size + o.nodes.length) b.opened pending) := by
  unfold addOutline at h
  split at h
  · cases h
    simp [expected, entries_push, Outline.entriesAt, Outline.allEntriesAt, Outline.nodes,
      Outline.allNodes]
  · cases h
    simp [expected, entries_start, pendingEntries, Outline.entriesAt, Outline.nodes,
      Nat.add_assoc, Nat.add_comm 1]
  · cases h

/-- A node that is added has no text, or nothing below it; what lies below it is pending next, and
a node is open for each list that is pending. -/
theorem addOutline_ok (h : b.addOutline pending o = .ok (b', pending'))
    (hlen : b.opened.length = pending.length) :
    o.clashes = false ∧ b'.opened.length = pending'.length ∧
      o.nodes ++ pending.flatMap Outline.allNodes = o :: pending'.flatMap Outline.allNodes := by
  unfold addOutline at h
  split at h
  · cases h
    simp [Outline.clashes, Outline.children, Outline.nodes, Outline.allNodes, hlen]
  · cases h
    simp [Outline.clashes, Outline.text, Outline.nodes, hlen]
  · cases h

/-- A node is refused only for its text and children. -/
theorem addOutline_error {e : TreeError} (h : b.addOutline pending o = .error e) :
    o.clashes = true ∧ e = .textAndChildren o.kind := by
  unfold addOutline at h
  split at h
  · cases h
  · cases h
  · cases h
    exact ⟨rfl, rfl⟩

theorem Sound.addOutline (hb : b.Sound) (h : b.addOutline pending o = .ok (b', pending')) :
    b'.Sound := by
  unfold Builder.addOutline at h
  split at h
  · cases h
    exact hb.push _ _
  · cases h
    exact hb.start _
  · cases h

/-- What comes of adding nodes, in document order.  The first of them with a text and with children
is refused; if there is none, every node is closed in the end, and the tree lists `es`. -/
inductive Loads (nodes : List Outline) (es : List Entry) : Except TreeError Builder → Prop where
  | refused {n : Outline} : nodes.find? Outline.clashes = some n →
      Loads nodes es (.error (.textAndChildren n.kind))
  | loaded {b : Builder} : nodes.find? Outline.clashes = none → b.Sound → b.opened = [] →
      b.entries = es → Loads nodes es (.ok b)

theorem Loads.cons {nodes : List Outline} {es : List Entry} {r : Except TreeError Builder}
    (h : Loads nodes es r) (ho : o.clashes = false) : Loads (o :: nodes) es r := by
  have hfind : (o :: nodes).find? Outline.clashes = nodes.find? Outline.clashes := by
    rw [List.find?_cons, ho]
  cases h with
  | refused hn => exact .refused (hfind.trans hn)
  | loaded hn hsound hopened hentries => exact .loaded (hfind.trans hn) hsound hopened hentries

/-- **The loop.**  As long as a node is open for each list that is pending, what is built and what
is pending stay together the same. -/
theorem loads_addPending (b : Builder) (pending : List (List Outline)) (hb : b.Sound)
    (hlen : b.opened.length = pending.length) :
    Loads (pending.flatMap Outline.allNodes) (b.expected pending) (b.addPending pending) := by
  fun_induction addPending b pending with
  | case1 b =>
    exact .loaded rfl hb (List.length_eq_zero_iff.mp hlen) (by simp [expected, pendingEntries])
  | case2 b outer b' id hfinish ih =>
    obtain ⟨p, opened, hop⟩ := List.exists_cons_of_length_eq_add_one hlen
    simp only [apply, hop, Prod.mk.injEq] at hfinish
    obtain ⟨rfl, -⟩ := hfinish
    have hrest := ih (hb.close (hop ▸ List.suffix_cons p opened)) (by simpa [hop] using hlen)
    have hsame : expected { b with opened } outer = b.expected ([] :: outer) := by
      simp only [expected, hop, pendingEntries, Outline.allEntriesAt, Outline.allNodes]
      rfl
    exact hsame ▸ hrest
  | case3 b outer b' e hfinish =>
    obtain ⟨p, opened, hop⟩ := List.exists_cons_of_length_eq_add_one hlen
    simp [apply, hop] at hfinish
  | case4 b o os outer b' pending' hadd _ ih =>
    obtain ⟨p, opened, hop⟩ := List.exists_cons_of_length_eq_add_one hlen
    obtain ⟨hclash, hlen', hnodes⟩ := addOutline_ok hadd hlen
    have hsame : b'.expected pending' = b.expected ((o :: os) :: outer) := by
      rw [expected_addOutline hadd]
      simp [expected, hop, pendingEntries, Outline.allEntriesAt, Outline.allNodes, Nat.add_assoc]
    have hall : ((o :: os) :: outer).flatMap Outline.allNodes =
        o :: pending'.flatMap Outline.allNodes := by
      rw [← hnodes]
      simp [Outline.allNodes]
    rw [hall, ← hsame]
    exact (ih (hb.addOutline hadd) hlen').cons hclash
  | case5 b o os outer e hadd =>
    obtain ⟨hclash, rfl⟩ := addOutline_error hadd
    refine .refused ?_
    cases o with
    | mk kind text cs => simp [Outline.allNodes, Outline.nodes, hclash]

end Builder

/-! ## 4. Trees of one piece -/

/-- A tree without nodes outside the root's subtree. -/
structure Tree.Whole (t : Tree) : Prop extends t.Rooted where
  span_eq : t.span = t.size

namespace Tree.Whole

variable {t u : Tree}

theorem toListing_eq (h : t.Whole) : t.toListing = (List.range t.size).map t.entry := by
  rw [h.toRooted.toListing_eq, h.span_eq]

/-- The listing of such a tree tells every link of every node. -/
theorem eq_of_toListing_eq (ht : t.Whole) (hu : u.Whole) (h : u.toListing = t.toListing) :
    u = t := by
  rw [ht.toListing_eq, hu.toListing_eq] at h
  have hsize : u.size = t.size := by simpa using congrArg List.length h
  have hentry (i : Nat) (hi : i < u.size) : u.entry i = t.entry i := by
    rw [hsize] at h
    exact List.map_inj_left.mp h i (List.mem_range.mpr (hsize ▸ hi))
  have hnode (i : Nat) (hi : i < u.size) : u.node? i = t.node? i := by
    refine ht.node?_eq_of_entry_eq hu.toArena (by omega) (fun hp _ => ?_) hentry hi
    rw [hsize]
    exact lt_size_of_parent? hp
  have hnodes : u.nodes = t.nodes := by
    refine Array.ext_getElem? fun i => ?_
    by_cases hi : i < u.size
    · exact hnode i hi
    · exact (node?_eq_none_iff.mpr (by omega)).trans (node?_eq_none_iff.mpr (by omega)).symm
  have hroot : u.root = t.root := by rw [ht.root_eq, hu.root_eq]
  cases u
  cases t
  simp_all

end Tree.Whole

namespace Builder.Sound

variable {b : Builder}

theorem finish_eq (h : b.Sound) (hopened : b.opened = []) (hpos : 0 < b.nodes.size) :
    b.finish = .ok b.tree := by
  refine finish_eq_ok_iff.mpr ⟨hopened, ?_, rfl⟩
  rw [h.root_eq, if_neg (by omega)]
  rfl

/-- If every node but the first names a parent, they all lie below the first. -/
theorem whole (h : b.Sound) {e : Entry} {es : List Entry} (hentries : b.entries = e :: es)
    (hes : ∀ d ∈ es, d.parent.isSome = true) : b.tree.Whole ∧ b.tree.toListing = e :: es := by
  have hlen : b.nodes.size = es.length + 1 := by simpa [entries] using congrArg List.length hentries
  have hrooted : b.tree.Rooted := ⟨h.arena, rfl, by rw [size_tree]; omega⟩
  have hparent (i : Nat) (hi : i + 1 < b.nodes.size) : ∃ p, b.tree.parent? (i + 1) = some p := by
    have hat : b.entries[i + 1]? = some (b.tree.entry (i + 1)) := by
      simp [entries, hi]
    rw [hentries, List.getElem?_cons_succ] at hat
    exact Option.isSome_iff_exists.mp (hes _ (List.mem_of_getElem? hat))
  have hbelow (i : Nat) : i < b.nodes.size → 0 ∈ b.tree.lineage i := by
    induction i using Nat.strongRecOn with
    | ind i ih =>
      intro hi
      cases i with
      | zero => exact h.arena.self_mem_lineage 0
      | succ i =>
        obtain ⟨p, hp⟩ := hparent i hi
        have hlt := h.arena.parent_lt hp
        exact h.arena.lineage_trans (ih p hlt (by omega)) (h.arena.parent_mem_lineage hp)
  have hwhole : b.tree.Whole := by
    refine ⟨hrooted, Nat.le_antisymm hrooted.span_le.2 ?_⟩
    have hlast : b.tree.size - 1 < b.tree.span :=
      hrooted.lt_span_iff.mpr ⟨by rw [size_tree]; omega, hbelow _ (by rw [size_tree]; omega)⟩
    omega
  exact ⟨hwhole, hwhole.toListing_eq.trans hentries⟩

end Builder.Sound

/-! ## 5. Reading an outline -/

namespace Tree

variable {o : Outline}

/-- The loader stops at the first node with a text and with children; if there is none, it builds a
tree of one piece with the outline's listing. -/
theorem ofOutline_cases (o : Outline) :
    (∃ n, o.nodes.find? Outline.clashes = some n ∧
      ofOutline o = .error (.textAndChildren n.kind)) ∨
    (o.nodes.find? Outline.clashes = none ∧
      ∃ t, ofOutline o = .ok t ∧ t.Whole ∧ t.toListing = o.listing) := by
  cases hadd : Builder.addOutline {} [] o with
  | error e =>
    obtain ⟨hclash, rfl⟩ := Builder.addOutline_error hadd
    refine .inl ⟨o, ?_, by rw [ofOutline, hadd]; rfl⟩
    cases o with
    | mk kind text cs => rw [Outline.nodes, List.find?_cons, hclash]
  | ok r =>
    obtain ⟨b, pending⟩ := r
    obtain ⟨hclash, hlen, hnodes⟩ := Builder.addOutline_ok hadd rfl
    have hexpected : b.expected pending = o.listing := by
      rw [Builder.expected_addOutline hadd]
      simp [Builder.entries, Builder.pendingEntries, Outline.listing]
    have hall : o.nodes = o :: pending.flatMap Outline.allNodes := by simpa using hnodes
    have hloads := (Builder.loads_addPending b pending (Builder.Sound.empty.addOutline hadd)
      hlen).cons hclash
    rw [← hall, hexpected] at hloads
    have hrun : ofOutline o = b.addPending pending >>= Builder.finish := by
      rw [ofOutline, hadd]
      rfl
    rw [hrun]
    generalize b.addPending pending = r at hloads
    cases hloads with
    | refused hn => exact .inl ⟨_, hn, rfl⟩
    | @loaded b' hn hsound hopened hentries =>
      cases o with
      | mk kind text cs =>
        obtain ⟨hwhole, hlisting⟩ :=
          hsound.whole hentries (Outline.parent_isSome_allEntriesAt cs 0 1)
        exact .inr ⟨hn, b'.tree, hsound.finish_eq hopened hwhole.size_pos, hwhole, hlisting⟩

theorem wellFormed_iff_find? : o.WellFormed ↔ o.nodes.find? Outline.clashes = none := by
  simp [Outline.WellFormed]

theorem ofOutline_of_wellFormed (h : o.WellFormed) :
    ∃ t, ofOutline o = .ok t ∧ t.Whole ∧ t.toListing = o.listing := by
  rcases ofOutline_cases o with ⟨n, hn, -⟩ | ⟨-, ht⟩
  · rw [wellFormed_iff_find?.mp h] at hn
    exact absurd hn (by simp)
  · exact ht

theorem wellFormed_of_ofOutline {t : Tree} (h : ofOutline o = .ok t) :
    o.WellFormed ∧ t.Whole ∧ t.toListing = o.listing := by
  rcases ofOutline_cases o with ⟨n, -, herr⟩ | ⟨hn, u, hu, hwhole⟩
  · rw [herr] at h
    exact absurd h (by simp)
  · rw [hu, Except.ok.injEq] at h
    exact ⟨wellFormed_iff_find?.mpr hn, h ▸ hwhole⟩

end Tree

/-! ## 6. Writing an outline -/

namespace Tree

variable {t : Tree} {i j p n : Nat} {table : Array (Option Outline)}

/-- The outline lists a node and what lies below it. -/
structure Described (t : Tree) (i : Nat) (o : Outline) : Prop where
  wellFormed : o.WellFormed
  entries_eq : o.entriesAt (t.parent? i) i = (t.below i).map t.entry

theorem Described.length_eq {o : Outline} (h : t.Described i o) :
    o.nodes.length = (t.below i).length := by
  rw [← o.length_entriesAt (t.parent? i) i, h.entries_eq, List.length_map]

/-- The table has a description of the node. -/
def Holds (t : Tree) (table : Array (Option Outline)) (i : Nat) : Prop :=
  ∃ o, table[i]? = some (some o) ∧ t.Described i o

/-- The descriptions that a table has of nodes. -/
def descriptions (table : Array (Option Outline)) (cs : List Nat) : List Outline :=
  cs.filterMap fun c => table[c]?.join

theorem wellFormed_descriptions {cs : List Nat} (h : ∀ c ∈ cs, t.Holds table c) :
    ∀ o ∈ descriptions table cs, o.WellFormed := by
  intro o ho
  obtain ⟨c, hc, hco⟩ := List.mem_filterMap.mp ho
  obtain ⟨o', ho', hdescribed⟩ := h c hc
  rw [ho', Option.join_some, Option.some.injEq] at hco
  exact hco ▸ hdescribed.wellFormed

/-- Descriptions of siblings list what lies below these, if that is a stretch of ids. -/
theorem allEntriesAt_descriptions (h : t.Arena) : ∀ (cs : List Nat) (n k : Nat),
    (∀ c ∈ cs, t.parent? c = some p) → (∀ c ∈ cs, t.Holds table c) →
    List.range' n k = cs.flatMap t.below →
    Outline.allEntriesAt p n (descriptions table cs) = (cs.flatMap t.below).map t.entry
  | [], _, _, _, _, _ => rfl
  | c :: cs, n, k, hparent, hholds, hrange => by
    rw [List.forall_mem_cons] at hparent hholds
    obtain ⟨⟨o, ho, hdescribed⟩, hholds⟩ := hholds
    have hc := lt_size_of_parent? hparent.1
    rw [List.flatMap_cons] at hrange
    -- the stretch starts with the first sibling, and goes on behind what lies below it
    obtain ⟨m, -, hfirst, hrest⟩ := List.range'_eq_append_iff.mp hrange
    have hm : m = (t.below c).length := by simp [hfirst]
    have hcn : c = n := by
      have hpos := (h.length_below hc).1
      have hhead : (t.below c).head? = some c := by rw [h.below_eq_cons hc]; rfl
      rw [hfirst, List.head?_range', if_neg (by omega)] at hhead
      exact (Option.some.inj hhead).symm
    have hnode : o.entriesAt (some p) n = (t.below c).map t.entry := by
      rw [← hparent.1, ← hcn]
      exact hdescribed.entries_eq
    have hothers := allEntriesAt_descriptions h cs (n + o.nodes.length) _ hparent.2 hholds
      (by rw [hdescribed.length_eq, ← hm, hrest, Nat.mul_one])
    have hhead : descriptions table (c :: cs) = o :: descriptions table cs := by
      simp [descriptions, ho]
    rw [hhead, Outline.allEntriesAt, hnode, hothers, List.flatMap_cons, List.map_append]

/-- A node is described by the descriptions of its children. -/
theorem described_node (h : t.Arena) (hi : i < t.size)
    (hholds : ∀ c ∈ t.children i, t.Holds table c) :
    t.Described i (.mk ((t.kind? i).getD .error) (t.text? i)
      (descriptions table (t.children i))) where
  wellFormed := by
    refine Outline.wellFormed_mk_iff.mpr ⟨?_, wellFormed_descriptions hholds⟩
    cases htext : t.text? i with
    | none => exact .inl rfl
    | some s => exact .inr (by rw [h.token_leaf htext]; rfl)
  entries_eq := by
    have hstretch := h.below_eq_range' hi
    rw [h.below_eq_cons hi, List.length_cons, List.range'_succ, List.cons.injEq] at hstretch
    rw [Outline.entriesAt, allEntriesAt_descriptions h _ _ _
      (fun c hc => h.mem_children_iff.mp hc) hholds hstretch.2.symm, h.below_eq_cons hi]
    rfl

theorem size_foldl_takeOutline (cs : List Nat) (s : Array Outline × Array (Option Outline)) :
    (cs.foldl takeOutline s).2.size = s.2.size := by
  induction cs generalizing s with
  | nil => rfl
  | cons c cs ih => simp [ih, takeOutline]

theorem getElem?_foldl_takeOutline {cs : List Nat} (hi : i ∉ cs)
    (s : Array Outline × Array (Option Outline)) : (cs.foldl takeOutline s).2[i]? = s.2[i]? := by
  induction cs generalizing s with
  | nil => rfl
  | cons c cs ih =>
    rw [List.mem_cons, not_or] at hi
    rw [List.foldl_cons, ih hi.2, takeOutline, Array.getElem?_setIfInBounds_ne (Ne.symm hi.1)]

theorem descriptions_setIfInBounds {c : Nat} {cs : List Nat} (hc : c ∉ cs) :
    descriptions (table.setIfInBounds c none) cs = descriptions table cs := by
  induction cs with
  | nil => rfl
  | cons d cs ih =>
    rw [List.mem_cons, not_or] at hc
    have hrest := ih hc.2
    simp only [descriptions] at hrest ⊢
    rw [List.filterMap_cons, List.filterMap_cons, Array.getElem?_setIfInBounds_ne hc.1, hrest]

/-- Different nodes are taken with the descriptions that the table had at first. -/
theorem toList_foldl_takeOutline {cs : List Nat} (hnodup : cs.Nodup) (taken : Array Outline)
    (table : Array (Option Outline)) :
    (cs.foldl takeOutline (taken, table)).1.toList = taken.toList ++ descriptions table cs := by
  induction cs generalizing taken table with
  | nil => simp [descriptions]
  | cons c cs ih =>
    obtain ⟨hc, hnodup⟩ := List.nodup_cons.mp hnodup
    rw [List.foldl_cons, takeOutline, ih hnodup, descriptions_setIfInBounds hc]
    cases hd : table[c]?.join <;> simp [descriptions, hd]

/-- The nodes from `j` on have been gone through: the table has a description of every one of them
whose parent comes before `j`. -/
structure Drafted (t : Tree) (j : Nat) (table : Array (Option Outline)) : Prop where
  size_eq : table.size = t.size
  holds : ∀ i : Nat, j ≤ i → i < t.span → (∀ p, t.parent? i = some p → p < j) → t.Holds table i

theorem Drafted.empty (t : Tree) : t.Drafted t.span (Array.replicate t.size none) where
  size_eq := Array.size_replicate
  holds i hj hi := absurd hi (by omega)

theorem Drafted.putOutline (h : t.Rooted) (hd : t.Drafted (j + 1) table) (hj : j < t.span) :
    t.Drafted j (t.putOutline j table) where
  size_eq := by
    rw [Tree.putOutline, Array.size_setIfInBounds, size_foldl_takeOutline, hd.size_eq]
  holds i hji hi hparent := by
    have hsize := h.span_le.2
    have hchildren : ∀ c ∈ t.children j, t.Holds table c := by
      intro c hc
      have hp := h.mem_children_iff.mp hc
      refine hd.holds c (h.parent_lt hp) (h.lt_span_of_parent hp hj) fun p hp' => ?_
      exact Option.some.inj (hp.symm.trans hp') ▸ Nat.lt_succ_self j
    rcases Nat.eq_or_lt_of_le hji with rfl | hlt
    · have hnodup : (t.children j).Nodup := (h.children_sorted j).imp Nat.ne_of_lt
      refine ⟨_, ?_, described_node h.toArena (by omega) hchildren⟩
      rw [Tree.putOutline, Array.getElem?_setIfInBounds_self_of_lt
        (by rw [size_foldl_takeOutline, hd.size_eq]; omega), toList_foldl_takeOutline hnodup]
      rfl
    · -- the parent of `i` comes before `j`, so `i` is not one of the children that were taken
      have hnot : i ∉ t.children j := fun hc =>
        absurd (hparent j (h.mem_children_iff.mp hc)) (Nat.lt_irrefl j)
      obtain ⟨o, ho, hdescribed⟩ := hd.holds i hlt hi fun p hp => Nat.lt_succ_of_lt (hparent p hp)
      refine ⟨o, ?_, hdescribed⟩
      rw [Tree.putOutline, Array.getElem?_setIfInBounds_ne (Nat.ne_of_lt hlt),
        getElem?_foldl_takeOutline hnot]
      exact ho

theorem Drafted.foldr (h : t.Rooted) : ∀ (k j : Nat), j + k = t.span →
    t.Drafted j ((List.range' j k).foldr t.putOutline (Array.replicate t.size none))
  | 0, j, hj => by
    rw [Nat.add_zero] at hj
    exact hj ▸ Drafted.empty t
  | k + 1, j, hj => by
    rw [List.range'_succ, List.foldr_cons]
    exact (Drafted.foldr h k (j + 1) (by omega)).putOutline h (by omega)

/-- **The outline of a tree** is well formed, and has the listing of the tree. -/
theorem Rooted.toOutline_described (h : t.Rooted) :
    t.toOutline.WellFormed ∧ t.toOutline.listing = t.toListing := by
  have hspan := h.span_le.1
  have htop : t.parent? 0 = none := by
    cases hp : t.parent? 0 with
    | none => rfl
    | some p => exact absurd (h.parent_lt hp) (by omega)
  obtain ⟨o, ho, hdescribed⟩ :=
    (Drafted.foldr h t.span 0 (by omega)).holds 0 (by omega) (by omega) (by simp [htop])
  have hout : t.toOutline = o := by
    rw [toOutline, h.below_root, List.range_eq_range', h.root_eq, ho]
    rfl
  have hlist : o.listing = (t.below 0).map t.entry := by
    rw [Outline.listing, ← htop]
    exact hdescribed.entries_eq
  rw [hout, hlist, h.toListing_eq, ← h.below_root, h.root_eq]
  exact ⟨hdescribed.wellFormed, rfl⟩

end Tree

/-! ## 7. There and back -/

theorem Outline.clashes_iff {o : Outline} :
    o.clashes = true ↔ o.text ≠ none ∧ o.children ≠ [] := by
  cases o with
  | mk kind text cs => cases text <;> cases cs <;> simp [clashes, Outline.text, children]

theorem Tree.toOutline_of_ofOutline {o : Outline} {t : Tree} (h : ofOutline o = .ok t) :
    t.toOutline = o := by
  obtain ⟨-, hwhole, hlisting⟩ := wellFormed_of_ofOutline h
  exact Outline.eq_of_listing_eq (hwhole.toRooted.toOutline_described.2.trans hlisting)

/-- **Outlines and trees.**  An outline is read iff none of its nodes has a text and children.
Otherwise the error names the kind of the first node that has, in document order, and no generation
is used up.  What is read has the outline that it was read from; and whatever a run builds is read
from its outline, with the same listing. -/
theorem outline_roundTrip (o : Outline) :
    ((∃ t, Tree.ofOutline o = .ok t) ↔ ∀ n ∈ o.nodes, ¬(n.text ≠ none ∧ n.children ≠ [])) ∧
    (∀ e, Tree.ofOutline o = .error e →
      (∃ before n after, o.nodes = before ++ n :: after ∧ n.text ≠ none ∧ n.children ≠ [] ∧
        (∀ m ∈ before, ¬(m.text ≠ none ∧ m.children ≠ [])) ∧ e = .textAndChildren n.kind ∧
        e.chain = [.note (n.kind.text ++ " node carries both text and children")]) ∧
      ∀ s : Session, (s.step (.loadOutline o)).1.nextGeneration = s.nextGeneration) ∧
    (∀ t, Tree.ofOutline o = .ok t → t.toOutline = o ∧
      ∀ s : Session, (s.step (.loadOutline o)).1.nextGeneration = s.nextGeneration + 1) ∧
    ∀ steps t, (Builder.run {} steps).finish = .ok t →
      ∃ u, Tree.ofOutline t.toOutline = .ok u ∧ u.toListing = t.toListing := by
  have hwf : o.WellFormed ↔ ∀ n ∈ o.nodes, ¬(n.text ≠ none ∧ n.children ≠ []) := by
    simp only [Outline.WellFormed, ← Outline.clashes_iff, Bool.not_eq_true]
  refine ⟨⟨fun ⟨t, ht⟩ => hwf.mp (Tree.wellFormed_of_ofOutline ht).1, fun h => ?_⟩, ?_, ?_, ?_⟩
  · obtain ⟨t, ht, -⟩ := Tree.ofOutline_of_wellFormed (hwf.mpr h)
    exact ⟨t, ht⟩
  · intro e he
    refine ⟨?_, fun s => by simp [Session.step, Session.accept, Session.take, he]⟩
    rcases Tree.ofOutline_cases o with ⟨n, hn, herr⟩ | ⟨-, t, ht, -⟩
    · obtain ⟨hclash, before, after, hnodes, hbefore⟩ := List.find?_eq_some_iff_append.mp hn
      rw [herr, Except.error.injEq] at he
      subst he
      obtain ⟨htext, hchildren⟩ := Outline.clashes_iff.mp hclash
      refine ⟨before, n, after, hnodes, htext, hchildren, fun m hm => ?_, rfl, rfl⟩
      rw [← Outline.clashes_iff]
      simpa using hbefore m hm
    · rw [ht] at he
      exact absurd he (by simp)
  · intro t ht
    exact ⟨Tree.toOutline_of_ofOutline ht,
      fun s => by simp [Session.step, Session.accept, Session.take, ht]⟩
  · intro steps t ht
    obtain ⟨houtline, hlisting⟩ := (Tree.Built.rooted ⟨steps, ht⟩).toOutline_described
    obtain ⟨u, hu, -, hlisted⟩ := Tree.ofOutline_of_wellFormed houtline
    exact ⟨u, hu, hlisted.trans hlisting⟩

/-- An outline with leaves of both sorts before and behind a node with children. -/
def branchingOutline : Outline :=
  .node .flworExpr [.token .varName "x", .node .letClause [.node .expr [], .token .varName ""],
    .node .returnClause []]

/-- An outline whose second node with a text has children. -/
def clashingOutline : Outline :=
  .node .expr [.token .varName "x", .mk .letClause (some "y") [.node .expr []]]

/-- A run that leaves a leaf without text before other nodes, and a second node on top. -/
def looseSteps : List Step :=
  [.start .functionCall, .start .argumentList, .finish, .empty .expr, .finish, .empty .expr]

theorem branchingOutline_roundTrip :
    (∃ t, Tree.ofOutline branchingOutline = .ok t ∧ t.toOutline = branchingOutline) ∧
    Tree.ofOutline clashingOutline = .error (.textAndChildren .letClause) ∧
    ∃ t u, (Builder.run {} looseSteps).finish = .ok t ∧ Tree.ofOutline t.toOutline = .ok u ∧
      u.toListing = t.toListing := by
  refine ⟨?_, ?_, ?_⟩
  · obtain ⟨t, ht⟩ := (outline_roundTrip branchingOutline).1.mpr (by
      simp [branchingOutline, Outline.node, Outline.token, Outline.nodes, Outline.allNodes,
        Outline.text, Outline.children])
    exact ⟨t, ht, ((outline_roundTrip branchingOutline).2.2.1 t ht).1⟩
  · cases hload : Tree.ofOutline clashingOutline with
    | ok t =>
      exact absurd ((outline_roundTrip clashingOutline).1.mp ⟨t, hload⟩) (by
        simp [clashingOutline, Outline.node, Outline.token, Outline.nodes, Outline.allNodes,
          Outline.text, Outline.children])
    | error e =>
      obtain ⟨⟨before, n, after, hnodes, htext, hchildren, -, rfl, -⟩, -⟩ :=
        (outline_roundTrip clashingOutline).2.1 e hload
      have hn : n ∈ clashingOutline.nodes := by simp [hnodes]
      simp only [clashingOutline, Outline.node, Outline.token, Outline.nodes, Outline.allNodes,
        List.append_nil, List.nil_append, List.cons_append, List.mem_cons, List.not_mem_nil,
        or_false] at hn
      rcases hn with rfl | rfl | rfl | rfl
      · exact absurd rfl htext
      · exact absurd rfl hchildren
      · rfl
      · exact absurd rfl htext
  · obtain ⟨u, hu, hlisting⟩ := (outline_roundTrip branchingOutline).2.2.2 looseSteps _ rfl
    exact ⟨_, u, rfl, hu, hlisting⟩

end XQueryScope
