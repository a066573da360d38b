import XQueryScope.Tree.Builder

/-!
# Outlines

An outline describes a tree node within node.  It is well formed when no node has a text together
with children.  `Tree.ofOutline` builds the tree that an outline describes, and `Tree.toOutline`
describes the tree below the root.  Neither recurs into an outline: the first keeps what is still to
be added on a stack, the second keeps the descriptions that are still to be used in a table, so that
trees of any depth are read and written.
-/

namespace XQueryScope

/-- A node described together with what lies below it. -/
inductive Outline where
  | mk (kind : Kind) (text : Option String) (children : List Outline)

instance : Inhabited Outline := ⟨.mk .error none []⟩

namespace Outline

/-- The kind of the described node. -/
def kind : Outline → Kind
  | mk k _ _ => k

/-- A node without text. -/
def node (kind : Kind) (children : List Outline) : Outline :=
  .mk kind none children

/-- A token. -/
def token (kind : Kind) (text : String) : Outline :=
  .mk kind (some text) []

mutual

/-- Whether two outlines describe the same tree. -/
def same : Outline → Outline → Bool
  | mk k s cs, mk l t ds => k == l && s == t && sameAll cs ds

/-- Whether two lists of outlines describe the same trees in the same order. -/
def sameAll : List Outline → List Outline → Bool
  | [], [] => true
  | c :: cs, d :: ds => same c d && sameAll cs ds
  | _, _ => false

end

end Outline

namespace Builder

/-! ## 1. Loading -/

/-- Adds the described node.  A leaf is done with that.  A node with children stays open, and they
go on the stack of what is still to be added. -/
def addOutline (b : Builder) (pending : List (List Outline)) :
    Outline → Except TreeError (Builder × List (List Outline))
  | .mk kind text [] => .ok (b.push kind text, pending)
  | .mk kind none (c :: cs) => .ok (b.start kind, (c :: cs) :: pending)
  | .mk kind (some _) (_ :: _) => .error (.textAndChildren kind)

theorem sizeOf_addOutline_lt {b b' : Builder} {pending pending' : List (List Outline)}
    {o : Outline} (h : b.addOutline pending o = .ok (b', pending')) :
    sizeOf pending' < 1 + sizeOf o + sizeOf pending := by
  unfold addOutline at h
  split at h
  · cases h
    omega
  · cases h
    simp only [List.cons.sizeOf_spec, Outline.mk.sizeOf_spec]
    omega
  · cases h

/-- Adds what is pending: for each open node, innermost first, the outlines still to come below it.
A node below which nothing more is to come is finished. -/
def addPending (b : Builder) (pending : List (List Outline)) : Except TreeError Builder :=
  match pending with
  | [] => .ok b
  | [] :: outer =>
    match b.apply .finish with
    | (b, .ok _) => b.addPending outer
    | (_, .error e) => .error e
  | (o :: os) :: outer =>
    match h : b.addOutline (os :: outer) o with
    | .ok (b, pending) =>
      have := sizeOf_addOutline_lt h
      b.addPending pending
    | .error e => .error e
termination_by sizeOf pending
decreasing_by all_goals simp only [List.cons.sizeOf_spec, List.nil.sizeOf_spec] at *; omega

end Builder

namespace Tree

/-- The tree that an outline describes. -/
def ofOutline (o : Outline) : Except TreeError Tree := do
  let (b, pending) ← Builder.addOutline {} [] o
  let b ← b.addPending pending
  b.finish

/-! ## 2. Describing -/

/-- Takes the description of a node out of a table and puts it behind those already taken. -/
def takeOutline (taken : Array Outline × Array (Option Outline)) (c : NodeId) :
    Array Outline × Array (Option Outline) :=
  let (outlines, table) := taken
  (match table[c]?.join with
    | some o => outlines.push o
    | none => outlines,
   table.setIfInBounds c none)

/-- Describes a node by the descriptions of its children, which leave the table. -/
def putOutline (t : Tree) (i : NodeId) (table : Array (Option Outline)) : Array (Option Outline) :=
  let (outlines, table) := (t.children i).foldl takeOutline (#[], table)
  table.setIfInBounds i
    (some (.mk ((t.kind? i).getD .error) (t.text? i) outlines.toList))

/-- The outline of the root.  Children come behind their parent in document order, so that from the
back every node finds its children described. -/
def toOutline (t : Tree) : Outline :=
  let table := (t.below t.root).foldr t.putOutline (Array.replicate t.size none)
  table[t.root]?.join.getD (.node ((t.kind? t.root).getD .error) [])

end Tree

end XQueryScope
