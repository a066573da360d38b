import XQueryScope.Failure
import XQueryScope.Tree.Basic

/-!
# Building trees

A builder takes nodes in document order.  A node that is started stays open until it is finished and
has every node in between below it; a token or an empty node has none.  The first node that is not
below another is the root.  Later ones get an id all the same and are counted as `ignored`.
-/

namespace XQueryScope

/-- Why there is no tree. -/
inductive TreeError where
  /-- A node was finished and none was open. -/
  | noOpenNode
  /-- The innermost node that was never finished. -/
  | unclosed (kind : Kind) (id : NodeId)
  | empty
  /-- A node described with a text and with children. -/
  | textAndChildren (kind : Kind)
  /-- An entry of a listing, not the first, that names no parent. -/
  | orphan (index : Nat)
  /-- An entry of a listing that names a parent which is not open. -/
  | notOpen (index : Nat) (parent : NodeId)
  /-- A text that is not a listing. -/
  | notListing
  /-- A text that is not an outline. -/
  | notOutline
deriving DecidableEq, Repr

/-- What is said about a tree that there is not. -/
def TreeError.chain : TreeError → Chain
  | noOpenNode => [.note "finish_node called with no open node"]
  | unclosed kind id => [.note ("Unclosed " ++ kind.text ++ " node at " ++ nodeLabel id)]
  | empty => [.note "Empty syntax tree"]
  | textAndChildren kind => [.note (kind.text ++ " node carries both text and children")]
  | orphan index =>
    [.note ("Node " ++ Text.decimalText index ++ " has no parent; only the first node is the root")]
  | notOpen index parent =>
    [.note ("Node " ++ Text.decimalText index ++ " names parent " ++ nodeLabel parent ++
      ", which is not an open ancestor")]
  | notListing => [.note "Invalid syntax tree node list", .json]
  | notOutline => [.note "Invalid syntax tree JSON", .json]

/-- A tree in the making. -/
structure Builder where
  nodes : Array Node := #[]
  /-- The nodes that are open, innermost first. -/
  opened : List NodeId := []
  root : Option NodeId := none
  /-- The kinds of the nodes outside the root's subtree that are below no other. -/
  ignored : Array Kind := #[]
deriving DecidableEq, Repr

/-- One step of building a tree. -/
inductive Step where
  | start (kind : Kind)
  | token (kind : Kind) (text : String)
  | empty (kind : Kind)
  | finish
deriving DecidableEq, Repr

namespace Builder

/-- How many children a node has so far. -/
def childCount (b : Builder) (i : NodeId) : Nat :=
  (b.nodes[i]?).elim 0 (·.children.size)

/-- Adds a node below the innermost open one, or on its own if none is open. -/
def push (b : Builder) (kind : Kind) (text : Option String) : Builder :=
  let id := b.nodes.size
  match b.opened with
  | p :: _ =>
    let slot := b.childCount p
    { b with
      nodes := (b.nodes.modify p fun n => { n with children := n.children.push id }).push
        ⟨kind, text, some p, #[], slot⟩ }
  | [] =>
    { b with
      nodes := b.nodes.push ⟨kind, text, none, #[], 0⟩
      root := b.root.or (some id)
      ignored := if b.root.isSome then b.ignored.push kind else b.ignored }

/-- Adds a node and opens it. -/
def start (b : Builder) (kind : Kind) : Builder :=
  let opened := b.nodes.size :: b.opened
  { b.push kind none with opened }

/-- Takes one step, and tells the node that was added or finished.  A step that fails changes
nothing. -/
def apply (b : Builder) (s : Step) : Builder × Except TreeError NodeId :=
  let id := b.nodes.size
  match s with
  | .start kind => (b.start kind, .ok id)
  | .token kind text => (b.push kind (some text), .ok id)
  | .empty kind => (b.push kind none, .ok id)
  | .finish =>
    match b.opened with
    | id :: outer => ({ b with opened := outer }, .ok id)
    | [] => (b, .error .noOpenNode)

/-- Takes steps one after the other, failing ones included. -/
def run (b : Builder) (steps : List Step) : Builder :=
  steps.foldl (fun b s => (b.apply s).1) b

/-- The tree, once every node is finished. -/
def finish (b : Builder) : Except TreeError Tree :=
  match b.opened, b.root with
  | id :: _, _ => .error (.unclosed ((b.nodes[id]?).elim .error (·.kind)) id)
  | [], none => .error .empty
  | [], some root => .ok ⟨b.nodes, root⟩

/-- What is said about each node that could have been a second root. -/
def warnings (b : Builder) : List String :=
  b.ignored.toList.map fun kind =>
    "Second top-level " ++ kind.text ++ " node ignored as root"

end Builder

end XQueryScope
