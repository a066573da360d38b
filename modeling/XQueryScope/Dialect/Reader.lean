import XQueryScope.Dialect
import XQueryScope.Json.Fields

/-!
# Dialects in JSON

A dialect is a record of a version and a processor; the processor is a record that starts with its
word, and MarkLogic's has the release as well.  Releases are taken as they stand.
-/

namespace XQueryScope

open Json (Document Fields Known readName? readString?)

/-- The known fields of a dialect. -/
def Dialect.known : String → Known
  | "language_version" => .first
  | "vendor_profile" => .second
  | _ => .other

/-- The field of a processor that says which one it is. -/
def Vendor.knownWord : String → Known
  | "vendor" => .first
  | _ => .other

/-- The known fields of a processor with a release. -/
def Vendor.knownRelease : String → Known
  | "vendor" => .first
  | "version" => .second
  | _ => .other

/-- A release: an integer of eight bits. -/
def readRelease? (d : Document) : Option Nat :=
  d.asNat?.filter (· < 256)

/-- The word of a processor, the record having no more fields than `count` if it is an array. -/
def readWord? (count : Nat) (known : String → Known) (d : Document) : Option (String × Fields) := do
  let fs ← Fields.read? known d
  let word ← fs.first.bind readString?
  match d with
  | .arr items => if items.length = count then some (word, fs) else none
  | _ => some (word, fs)

/-- A processor, when `room` containers may be opened. -/
def Vendor.read? (room : Nat) (d : Document) : Option Vendor := do
  let _ ← Document.value? room d
  match readWord? 1 Vendor.knownWord d with
  | some ("w3c", _) => some .w3c
  | some ("basex", _) => some .basex
  | some ("saxon", _) => some .saxon
  | some ("exist-db", _) => some .existDb
  | _ =>
    match readWord? 2 Vendor.knownRelease d with
    | some ("marklogic", fs) => (fs.second.bind readRelease?).map .marklogic
    | _ => none

/-- A dialect, when `room` containers may be opened. -/
def Dialect.read? : Nat → Document → Option Dialect
  | 0, _ => none
  | room + 1, d => do
    let fs ← Fields.read? Dialect.known d
    let version ← fs.first.bind (readName? Version.ofText? room)
    let vendor ← fs.second.bind (Vendor.read? room)
    if fs.third.isSome then none else some ⟨version, vendor⟩

/-- The dialect that a text describes. -/
def Dialect.ofText? (s : String) : Option Dialect :=
  (Document.parse? s).bind (Dialect.read? Json.maxDepth)

end XQueryScope
