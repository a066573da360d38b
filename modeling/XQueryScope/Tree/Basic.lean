import XQueryScope.Text.Quoted
import XQueryScope.Text.Numeral
import XQueryScope.Tree.Kind

/-!
# Syntax trees

A tree is an arena: its nodes stand in an array in the order in which they were met, a node's id is
its place there, and nodes refer to each other by id.  Parents come before their children, so every
walk towards the root runs down the ids and every walk into a subtree runs up; the bounds that the
walks below carry are these.  Nothing here relies on an id being in the tree: outside it a node has
no kind, no text, no parent and no children.
-/

namespace XQueryScope

/-- The place of a node in its tree.  Ids have 32 bits, so that no tree has more than `2 ^ 32`
nodes.  Where an id is read from a text this is checked; who builds a tree is trusted with it. -/
abbrev NodeId := Nat

/-- A node id as shown in messages. -/
def nodeLabel (i : NodeId) : String :=
  "#" ++ Text.decimalText i

/-- A node with its links. -/
structure Node where
  kind : Kind
  /-- The text of a token. -/
  text : Option String
  parent : Option NodeId
  children : Array NodeId
  /-- The node's place among its parent's children. -/
  slot : Nat
deriving DecidableEq, Repr

/-- A syntax tree.  Nodes outside the root's subtree may be present; they are found by id only. -/
structure Tree where
  nodes : Array Node
  root : NodeId
deriving DecidableEq, Repr

namespace Tree

/-! ## 1. Nodes and their links -/

/-- How many nodes there are. -/
def size (t : Tree) : Nat := t.nodes.size

/-- The node with an id. -/
def node? (t : Tree) (i : NodeId) : Option Node := t.nodes[i]?

/-- Whether an id is in the tree. -/
def has (t : Tree) (i : NodeId) : Bool := decide (i < t.size)

/-- The kind of a node. -/
def kind? (t : Tree) (i : NodeId) : Option Kind := (t.node? i).map (·.kind)

/-- Whether a node is of a kind. -/
def is (t : Tree) (k : Kind) (i : NodeId) : Bool := t.kind? i == some k

/-- Whether the kind of a node passes a test. -/
def kindIs (t : Tree) (p : Kind → Bool) (i : NodeId) : Bool := (t.kind? i).any p

/-- The text of a token. -/
def text? (t : Tree) (i : NodeId) : Option String := (t.node? i).bind (·.text)

/-- The parent of a node. -/
def parent? (t : Tree) (i : NodeId) : Option NodeId := (t.node? i).bind (·.parent)

/-- The children of a node in document order. -/
def children (t : Tree) (i : NodeId) : List NodeId :=
  (t.node? i).elim [] (·.children.toList)

/-- The children of one kind. -/
def childrenOf (t : Tree) (k : Kind) (i : NodeId) : List NodeId := (t.children i).filter (t.is k)

/-- The first child of a kind. -/
def child? (t : Tree) (k : Kind) (i : NodeId) : Option NodeId := (t.children i).find? (t.is k)

/-- The last child. -/
def lastChild? (t : Tree) (i : NodeId) : Option NodeId := (t.children i).getLast?

/-- The text of the first child of a kind. -/
def childText? (t : Tree) (k : Kind) (i : NodeId) : Option String := (t.child? k i).bind t.text?

/-- The siblings before a node in document order. -/
def before (t : Tree) (i : NodeId) : List NodeId :=
  match t.node? i with
  | some n => n.parent.elim [] fun p => (t.children p).take n.slot
  | none => []

/-- The siblings before a node, nearest first. -/
def preceding (t : Tree) (i : NodeId) : List NodeId := (t.before i).reverse

/-- The sibling right after a node. -/
def next? (t : Tree) (i : NodeId) : Option NodeId := do
  let n ← t.node? i
  let p ← n.parent
  (t.children p)[n.slot + 1]?

/-! ## 2. Walks -/

/-- A node and at most `steps` of its ancestors, inside out. -/
def climb (t : Tree) : Nat → NodeId → List NodeId
  | 0, i => [i]
  | steps + 1, i => i :: (t.parent? i).elim [] (t.climb steps)

/-- A node and its ancestors, inside out. -/
def lineage (t : Tree) (i : NodeId) : List NodeId := t.climb i i

/-- Takes the node on top of a stack and puts its children in its place, at most `steps` times: the
nodes in the order in which they were taken. -/
def walk (t : Tree) : Nat → List NodeId → List NodeId
  | 0, _ => []
  | _, [] => []
  | steps + 1, i :: stack => i :: t.walk steps (t.children i ++ stack)

/-- A node and everything below it, in document order.  No id below a node is smaller than its own,
so the walk has no more nodes to take than there are ids from there on. -/
def below (t : Tree) (i : NodeId) : List NodeId := t.walk (t.size - i) [i]

/-- The innermost module that holds a node, or the node itself if it is one. -/
def module? (t : Tree) (i : NodeId) : Option NodeId := (t.lineage i).find? (t.kindIs Kind.isModule)

/-- Whether `i` is `j` or one of its ancestors. -/
def contains (t : Tree) (i j : NodeId) : Bool := (t.lineage j).contains i

/-- The first node of the root's subtree that passes a test, in document order. -/
def find? (t : Tree) (p : NodeId → Bool) : Option NodeId := (t.below t.root).find? p

/-! ## 3. Text -/

/-- A node shown by kind, id and text. -/
def describe (t : Tree) (i : NodeId) : String :=
  (t.kind? i).elim "" Kind.text ++ nodeLabel i ++
    (t.text? i).elim "" fun s => " " ++ Text.quoted s

end Tree

end XQueryScope
