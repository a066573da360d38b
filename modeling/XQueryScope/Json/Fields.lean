import XQueryScope.Json.Reader

/-!
# Records in JSON

A record with up to three known fields is read from an object or from an array of its fields in
order.  A known field that repeats is refused; an unknown one is skipped, whatever it holds.
-/

namespace XQueryScope.Json

/-- The fields of a record with three known fields, read from a document.  `none` stands for a field
that is not there. -/
structure Fields where
  first : Option Document := none
  second : Option Document := none
  third : Option Document := none

/-- Which of the known fields a key names. -/
inductive Known where
  | first
  | second
  | third
  | other

namespace Fields

/-- Adds a field; `none` when it is there already or its key denotes no string. -/
def add? (known : String → Known) (fs : Fields) (f : Option String × Document) : Option Fields := do
  let key ← f.1
  match known key with
  | .first => if fs.first.isSome then none else some { fs with first := some f.2 }
  | .second => if fs.second.isSome then none else some { fs with second := some f.2 }
  | .third => if fs.third.isSome then none else some { fs with third := some f.2 }
  | .other => some fs

/-- The known fields of a record written as an object or as an array. -/
def read? (known : String → Known) : Document → Option Fields
  | .obj fields => fields.foldlM (add? known) {}
  | .arr [] => some {}
  | .arr [a] => some { first := some a }
  | .arr [a, b] => some { first := some a, second := some b }
  | .arr [a, b, c] => some { first := some a, second := some b, third := some c }
  | _ => none

end Fields

/-- A string. -/
def readString? : Document → Option String
  | .str s => s
  | _ => none

/-- A value that may be null or missing. -/
def readOptional? {α : Type} (read? : Document → Option α) : Option Document → Option (Option α)
  | none => some none
  | some .null => some none
  | some d => (read? d).map some

/-- One of finitely many names: a string, or an object with the name as its one key and null. -/
def readName? {α : Type} (ofText? : String → Option α) (room : Nat) : Document → Option α
  | .str s => s.bind ofText?
  | .obj [(key, .null)] => if room = 0 then none else key.bind ofText?
  | _ => none

end XQueryScope.Json
