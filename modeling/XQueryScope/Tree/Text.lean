import XQueryScope.Json.Fields
import XQueryScope.Json.Printer
import XQueryScope.Text.Blank
import XQueryScope.Tree.Listing
import XQueryScope.Tree.Outline

/-!
# Trees as JSON text

A tree is written as a JSON array, its listing, and read from a listing or from a JSON object, an
outline.  Both are read as records, and at most `Json.maxDepth` containers are open at once.
-/

namespace XQueryScope

open Json (Document Fields Known Value readName? readOptional? readString?)

/-! ## 1. Listings -/

/-- The known fields of an entry. -/
def Entry.known : String → Known
  | "kind" => .first
  | "text" => .second
  | "parent" => .third
  | _ => .other

/-- A place in a list: an integer of 32 bits. -/
def readPlace? (d : Document) : Option Nat :=
  d.asNat?.filter (· < Text.twoTo 32)

/-- An entry, when `room` containers may still be opened. -/
def Entry.read? : Nat → Document → Option Entry
  | 0, _ => none
  | room + 1, d => do
    let fs ← Fields.read? Entry.known d
    let kind ← fs.first.bind (readName? Kind.ofText? room)
    let text ← readOptional? readString? fs.second
    let parent ← readOptional? readPlace? fs.third
    some { kind, text, parent }

/-- A listing, when `room` containers may still be opened. -/
def readListing? : Nat → Document → Option (List Entry)
  | room + 1, .arr items => items.mapM (Entry.read? room)
  | _, _ => none

/-- An entry as data; what is not there is left out. -/
def Entry.toJson (e : Entry) : Value :=
  .obj ([("kind", .str e.kind.text)] ++
    (e.text.map fun s => ("text", Json.str s)).toList ++
    (e.parent.map fun p => ("parent", Json.nat p)).toList)

/-! ## 2. Outlines -/

/-- The known fields of an outline. -/
def Outline.known : String → Known
  | "kind" => .first
  | "text" => .second
  | "children" => .third
  | _ => .other

/-- An outline, when `room` containers may still be opened. -/
def Outline.read? : Nat → Document → Option Outline
  | 0, _ => none
  | room + 1, d => do
    let fs ← Fields.read? Outline.known d
    let kind ← fs.first.bind (readName? Kind.ofText? room)
    let text ← readOptional? readString? fs.second
    let children ←
      match room, fs.third with
      | _, none => some []
      | room + 1, some (.arr items) => items.mapM fun d => Outline.read? room d
      | _, _ => none
    some (.mk kind text children)

mutual

/-- An outline as data; what is not there is left out. -/
def Outline.toJson : Outline → Value
  | .mk kind text children =>
    .obj ([("kind", .str kind.text)] ++
      (text.map fun s => ("text", Json.str s)).toList ++
      (if children.isEmpty then [] else [("children", .arr (Outline.allToJson children))]))

/-- Outlines as data. -/
def Outline.allToJson : List Outline → List Value
  | [] => []
  | c :: cs => c.toJson :: Outline.allToJson cs

end

/-! ## 3. Whole texts -/

namespace Tree

/-- The tree that a text describes: a listing if its first character that is not blank opens an
array, else an outline. -/
def ofText (s : String) : Except TreeError Tree :=
  if (Text.trimStart s.toList).head? == some '[' then
    match (Document.parse? s).bind (readListing? Json.maxDepth) with
    | some es => ofListing es
    | none => .error .notListing
  else
    match (Document.parse? s).bind (Outline.read? Json.maxDepth) with
    | some o => ofOutline o
    | none => .error .notOutline

/-- The text of a tree: its listing without blanks. -/
def toText (t : Tree) : String :=
  Json.compact (Json.ofList Entry.toJson t.toListing)

end Tree

end XQueryScope
