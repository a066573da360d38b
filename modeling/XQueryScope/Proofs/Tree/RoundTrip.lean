import XQueryScope.Proofs.Json.RoundTrip
import XQueryScope.Proofs.Tree.Listing
import XQueryScope.Tree.Text

/-!
# Reading the text of a tree

The text of a tree is read as the tree of its root's subtree, at whatever depth and whatever its
tokens spell.  Three readings follow each other: the text is a document (`Json.parse?_compact`), the
document is a listing (`readListing?_document`), and the listing is a tree
(`Tree.Rooted.ofListing_toListing`).  A place in a listing is a number of 32 bits, so a tree has to
have at most that many ids.
-/

namespace XQueryScope

open Json (Document Fields document documents readName? readOptional? readString?)

/-! ## 1. Entries -/

theorem Kind.ofText?_text (k : Kind) : Kind.ofText? k.text = some k := by
  cases k <;> decide

/-- The entry names its parent by a number of 32 bits. -/
def Entry.Placed (e : Entry) : Prop := ∀ p ∈ e.parent, p < Text.twoTo 32

theorem Entry.natural_toJson {e : Entry} (h : e.Placed) : Json.Natural e.toJson := by
  refine Json.Natural.obj fun f hf => ?_
  simp only [List.mem_append, List.mem_singleton, Option.mem_toList,
    Option.map_eq_some_iff] at hf
  rcases hf with (rfl | ⟨s, -, rfl⟩) | ⟨p, hp, rfl⟩
  · exact Json.Natural.str _
  · exact Json.Natural.str s
  · exact Json.Natural.nat (Nat.lt_trans (h p hp) (by decide))

/-- The fields that are found are those that were written. -/
theorem Entry.fields_document (e : Entry) : Fields.read? Entry.known (document e.toJson) =
    some ⟨some (.str (some e.kind.text)), e.text.map fun s => .str (some s),
      e.parent.map Json.nat⟩ := by
  obtain ⟨kind, text, parent⟩ := e
  cases text <;> cases parent <;>
    simp [Entry.toJson, document, Json.fieldDocuments, Fields.read?, Fields.add?, Entry.known,
      Json.nat]

theorem readOptional?_string (text : Option String) :
    readOptional? readString? (text.map fun s => .str (some s)) = some text := by
  cases text <;> rfl

theorem readOptional?_place {parent : Option Nat} (h : ∀ p ∈ parent, p < Text.twoTo 32) :
    readOptional? readPlace? (parent.map Json.nat) = some parent := by
  cases parent with
  | none => rfl
  | some p =>
    have hplace : readPlace? (Json.nat p) = some p := by
      have hnat : (Json.nat p : Document).asNat? = some p := rfl
      rw [readPlace?, hnat, Option.filter_some, if_pos (by simpa using h p rfl)]
    exact congrArg (Option.map some) hplace

theorem Entry.read?_document {e : Entry} (h : e.Placed) (room : Nat) :
    Entry.read? (room + 1) (document e.toJson) = some e := by
  simp [Entry.read?, Entry.fields_document, readName?, Kind.ofText?_text, readOptional?_string,
    readOptional?_place h]

/-- A listing is read from its document. -/
theorem readListing?_document {es : List Entry} (h : ∀ e ∈ es, e.Placed) (room : Nat) :
    readListing? (room + 2) (document (Json.ofList Entry.toJson es)) = some es := by
  have hitems : (documents (es.map Entry.toJson)).mapM (Entry.read? (room + 1)) = some es := by
    induction es with
    | nil => rfl
    | cons e es ih =>
      rw [List.map_cons, documents, List.mapM_cons, Entry.read?_document (h e List.mem_cons_self),
        ih fun d hd => h d (List.mem_cons_of_mem e hd)]
      rfl
  rw [Json.ofList, document]
  exact hitems

/-! ## 2. Trees -/

namespace Tree

variable {t : Tree}

/-- The text of a tree is taken for a listing. -/
theorem head?_toText : (Text.trimStart t.toText.toList).head? = some '[' := by
  have hopen : t.toText.toList = '[' :: Json.writeItems (t.toListing.map Entry.toJson) [']'] := by
    rw [toText, Json.compact, String.toList_ofList, Json.ofList, Json.write]
  rw [hopen]
  rfl

theorem Rooted.placed_of_mem_toListing (h : t.Rooted) (hids : t.size ≤ Text.twoTo 32) :
    ∀ e ∈ t.toListing, e.Placed := by
  intro e he p hp
  rw [h.toListing_eq] at he
  obtain ⟨i, -, rfl⟩ := List.mem_map.mp he
  have hparent : t.parent? i = some p := hp
  have hlt := h.parent_lt hparent
  have hi := lt_size_of_parent? hparent
  omega

/-- Reading the text of a tree is loading its listing. -/
theorem Rooted.ofText_toText_eq (h : t.Rooted) (hids : t.size ≤ Text.twoTo 32) :
    ofText t.toText = ofListing t.toListing := by
  have hplaced := h.placed_of_mem_toListing hids
  have hnatural : Json.Natural (Json.ofList Entry.toJson t.toListing) := by
    refine Json.Natural.arr fun v hv => ?_
    obtain ⟨e, he, rfl⟩ := List.mem_map.mp hv
    exact Entry.natural_toJson (hplaced e he)
  have hread : readListing? Json.maxDepth (document (Json.ofList Entry.toJson t.toListing)) =
      some t.toListing := readListing?_document hplaced 125
  rw [ofText, head?_toText, toText, Json.parse?_compact hnatural, Option.bind_some, hread]
  rfl

/-- The nodes of the root's subtree are all that there is of it. -/
theorem RootPart.node?_eq {u : Tree} (h : RootPart u t) (ht : t.Rooted) (i : Nat) :
    u.node? i = if i ∈ t.below t.root then t.node? i else none := by
  have hmem : i ∈ t.below t.root ↔ i < u.size := by
    rw [ht.below_root, List.mem_range, h.size_eq]
  split
  · rename_i hi
    exact h.node_eq i (hmem.mp hi)
  · rename_i hi
    rw [hmem] at hi
    exact node?_eq_none_iff.mpr (by omega)

end Tree

/-- **A tree is read from its text.**  Whatever a run builds, of any depth and with any texts: its
text is read, and what is read has the listing of the tree, has as many nodes as lie below the root,
is the root's subtree with the ids that it had, and has the same text again.  Ids are numbers of 32
bits, so there are at most that many nodes. -/
theorem ofText_toText (steps : List Step) (t : Tree) (ht : (Builder.run {} steps).finish = .ok t)
    (hids : t.size ≤ Text.twoTo 32) :
    ∃ u, Tree.ofText t.toText = .ok u ∧ u.toListing = t.toListing ∧
      u.size = (t.below t.root).length ∧ u.root = t.root ∧
      (∀ i : Nat, u.node? i = if i ∈ t.below t.root then t.node? i else none) ∧
      u.toText = t.toText := by
  have hrooted : t.Rooted := Tree.Built.rooted ⟨steps, ht⟩
  obtain ⟨u, hload, hpart⟩ := hrooted.ofListing_toListing
  have hlisting : u.toListing = t.toListing := hpart.toListing_eq hrooted
  refine ⟨u, ?_, hlisting, hpart.size_eq, ?_, hpart.node?_eq hrooted, ?_⟩
  · rw [hrooted.ofText_toText_eq hids, hload]
  · rw [hpart.rooted.root_eq, hrooted.root_eq]
  · rw [Tree.toText, Tree.toText, hlisting]

/-- A run with texts that have to be escaped, an empty text, a leaf without text before other nodes,
and a second node on top. -/
def awkwardSteps : List Step :=
  [.start .functionCall, .token .eqName "a\"\\\n\x01é", .start .argumentList, .empty .expr,
    .token .stringLiteral "", .finish, .empty .expr, .finish, .token .varName "x"]

theorem awkwardSteps_read : ∃ t u, (Builder.run {} awkwardSteps).finish = .ok t ∧ t.size = 7 ∧
    Tree.ofText t.toText = .ok u ∧ u.size = 6 ∧ u.toListing = t.toListing ∧
    u.toText = t.toText := by
  obtain ⟨u, hread, hlisting, hsize, -, -, htext⟩ := ofText_toText awkwardSteps _ rfl (by decide)
  exact ⟨_, u, rfl, rfl, hread, hsize, hlisting, htext⟩

end XQueryScope
