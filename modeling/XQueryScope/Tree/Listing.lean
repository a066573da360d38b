import XQueryScope.Tree.Builder

/-!
# Listings

A listing describes a tree node after node in document order.  Every node but the first names its
parent by its place in the list, and the parent must still be open: it is the node before, or one
of that node's ancestors, and it has no text.  `Tree.ofListing` builds the tree that a listing
describes, and `Tree.toListing` lists the nodes below the root.
-/

namespace XQueryScope

/-- One node of a listing. -/
structure Entry where
  kind : Kind
  text : Option String := none
  /-- The place of the parent in the list. -/
  parent : Option Nat := none
deriving DecidableEq, Repr

namespace Builder

/-- Closes nodes until the parent of the next entry is the innermost open one. -/
def enter (b : Builder) (parent : Option Nat) : Except TreeError Builder :=
  let index := b.nodes.size
  match parent with
  | none => if index = 0 then .ok b else .error (.orphan index)
  | some p =>
    match b.opened.dropWhile (· != p) with
    | [] => .error (.notOpen index p)
    | opened => .ok { b with opened := opened }

/-- Adds the node of an entry.  A node without text is left open for those that name it. -/
def addEntry (b : Builder) (e : Entry) : Except TreeError Builder := do
  let b ← b.enter e.parent
  match e.text with
  | some text => pure (b.push e.kind (some text))
  | none => pure (b.start e.kind)

/-- Adds the nodes of a list of entries. -/
def addEntries (b : Builder) : List Entry → Except TreeError Builder
  | [] => .ok b
  | e :: es => do
    let b ← b.addEntry e
    b.addEntries es

end Builder

/-- A listing in the making. -/
structure Numbering where
  /-- The place in the list that each node got. -/
  places : Array (Option Nat)
  entries : Array Entry

namespace Tree

/-- The tree that a listing describes. -/
def ofListing (es : List Entry) : Except TreeError Tree := do
  let b ← Builder.addEntries {} es
  { b with opened := [] }.finish

/-- Gives a node the next place and lists it. -/
def number (t : Tree) (l : Numbering) (i : NodeId) : Numbering :=
  let places := l.places.setIfInBounds i (some l.entries.size)
  ⟨places, l.entries.push
    { kind := (t.kind? i).getD .error, text := t.text? i,
      parent := (t.parent? i).bind fun p => places[p]?.join }⟩

/-- The listing of the nodes below the root: each gets the next place, and names its parent by the
place that one got. -/
def toListing (t : Tree) : List Entry :=
  ((t.below t.root).foldl t.number ⟨Array.replicate t.size none, #[]⟩).entries.toList

end Tree

end XQueryScope
