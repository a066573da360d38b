import XQueryScope.Json.Lexer

/-!
# Reading JSON

A machine that takes tokens one by one and builds the document they spell, with a stack of the
containers that are still open.  `Document.parse?` reads a whole text; `Document.value?` turns a
document into data if every literal in it denotes a string, every number is within the range of
binary floating point, and containers nest no deeper than allowed.
-/

namespace XQueryScope.Json

/-! ## 1. The machine -/

/-- A container that is still open, with what it holds so far, last first. -/
inductive Frame where
  | arr (done : List Document)
  | obj (done : List (Option String × Document))
  /-- An object after a key and its colon. -/
  | field (done : List (Option String × Document)) (key : Option String)

/-- What the machine waits for. -/
inductive Expecting where
  /-- A value. -/
  | value
  /-- The first item of an array, or its end. -/
  | itemOrEnd
  /-- A key. -/
  | key
  /-- The first key of an object, or its end. -/
  | keyOrEnd
  /-- The colon after a key. -/
  | colon (key : Option String)
  /-- Nothing: a value is complete. -/
  | complete (v : Document)

/-- The open containers, innermost first, and what comes next. -/
structure Reader where
  frames : List Frame
  expecting : Expecting

namespace Reader

/-- The token that starts a value. -/
def start? (frames : List Frame) : Token → Option Reader
  | .openArr => some ⟨.arr [] :: frames, .itemOrEnd⟩
  | .openObj => some ⟨.obj [] :: frames, .keyOrEnd⟩
  | .null => some ⟨frames, .complete .null⟩
  | .bool b => some ⟨frames, .complete (.bool b)⟩
  | .num n => some ⟨frames, .complete (.num n)⟩
  | .str s => some ⟨frames, .complete (.str s)⟩
  | _ => none

/-- The token after a complete value: the innermost container goes on or ends. -/
def continue? (v : Document) : List Frame → Token → Option Reader
  | .arr done :: frames, .comma => some ⟨.arr (v :: done) :: frames, .value⟩
  | .arr done :: frames, .closeArr => some ⟨frames, .complete (.arr (v :: done).reverse)⟩
  | .field done k :: frames, .comma => some ⟨.obj ((k, v) :: done) :: frames, .key⟩
  | .field done k :: frames, .closeObj =>
    some ⟨frames, .complete (.obj ((k, v) :: done).reverse)⟩
  | _, _ => none

/-- One token; `none` where it cannot stand. -/
def step (r : Reader) (t : Token) : Option Reader :=
  match r.expecting with
  | .value => start? r.frames t
  | .itemOrEnd =>
    match r.frames, t with
    | .arr done :: frames, .closeArr => some ⟨frames, .complete (.arr done.reverse)⟩
    | frames, t => start? frames t
  | .key =>
    match t with
    | .str k => some ⟨r.frames, .colon k⟩
    | _ => none
  | .keyOrEnd =>
    match r.frames, t with
    | .obj done :: frames, .closeObj => some ⟨frames, .complete (.obj done.reverse)⟩
    | frames, .str k => some ⟨frames, .colon k⟩
    | _, _ => none
  | .colon k =>
    match r.frames, t with
    | .obj done :: frames, .colon => some ⟨.field done k :: frames, .value⟩
    | _, _ => none
  | .complete v => continue? v r.frames t

/-- The machine after every token; `none` when one is refused. -/
def run (r : Reader) : List Token → Option Reader
  | [] => some r
  | t :: ts =>
    match r.step t with
    | some r' => r'.run ts
    | none => none

/-- The document once the tokens have ended: one complete value, with nothing open. -/
def finish? : Reader → Option Document
  | ⟨[], .complete v⟩ => some v
  | _ => none

end Reader

/-- The document that tokens spell. -/
def ofTokens? (ts : List Token) : Option Document :=
  (Reader.run ⟨[], .value⟩ ts).bind Reader.finish?

/-- The document that a text spells; `none` when it is not JSON. -/
def Document.parse? (s : String) : Option Document :=
  (lex? s.toList).bind ofTokens?

/-! ## 2. From documents to data -/

/-- Sets a field: in its place if the key is there, else at the end. -/
def setField {α : Type} (key : String) (v : α) : List (String × α) → List (String × α)
  | [] => [(key, v)]
  | (k, w) :: fs => if k == key then (k, v) :: fs else (k, w) :: setField key v fs

/-- How many containers may be open at once in a text that is read as data. -/
def maxDepth : Nat := 127

/-- The data of a document whose containers nest at most `room` deep.  Of fields with one key the
last value counts, in the place of the first. -/
def Document.value? : Nat → Document → Option Value
  | _, .null => some .null
  | _, .bool b => some (.bool b)
  | _, .num n => if Number.isFinite n then some (.num n) else none
  | _, .str s => s.map .str
  | 0, .arr _ | 0, .obj _ => none
  | room + 1, .arr items => (items.mapM fun d => Document.value? room d).map .arr
  | room + 1, .obj fields => do
    let data ← fields.mapM fun f => do
      let key ← f.1
      let v ← Document.value? room f.2
      some (key, v)
    some (.obj (data.foldl (fun fs f => setField f.1 f.2 fs) []))

/-- The data that a text spells, with at most `room` containers open at once. -/
def Value.parse? (room : Nat) (s : String) : Option Value :=
  (Document.parse? s).bind (Document.value? room)

end XQueryScope.Json
