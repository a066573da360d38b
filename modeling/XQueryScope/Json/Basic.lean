/-!
# JSON data

JSON values over a type of texts.  A `Value` is data: its texts are strings.  A `Document` is what
a reader finds in a text: a string literal there may hold half a surrogate pair and then denotes no
string at all, which matters only to whoever uses it.  Fields keep their order and may repeat.
-/

namespace XQueryScope

/-- A JSON number.  Integers are those that 64 bits hold, signed or unsigned; every other number,
and minus zero, is a real `± significand · 10 ^ exponent`. -/
inductive Json.Number where
  | integer (n : Int)
  | real (negative : Bool) (significand : Nat) (exponent : Int)
deriving DecidableEq, Repr

/-- A JSON value whose texts are of type `σ`. -/
inductive Json (σ : Type) where
  | null
  | bool (b : Bool)
  | num (n : Json.Number)
  | str (s : σ)
  | arr (items : List (Json σ))
  | obj (fields : List (σ × Json σ))

namespace Json

/-- JSON data. -/
abbrev Value := Json String

/-- JSON as found in a text; `none` is a literal that denotes no string. -/
abbrev Document := Json (Option String)

/-- A natural number. -/
def nat {σ : Type} (n : Nat) : Json σ :=
  .num (.integer n)

/-- A value that may be missing, written as null then. -/
def ofOption {σ α : Type} (f : α → Json σ) : Option α → Json σ
  | none => .null
  | some a => f a

/-- A list of values. -/
def ofList {σ α : Type} (f : α → Json σ) (as : List α) : Json σ :=
  .arr (as.map f)

/-- The string of a string value. -/
def asString? : Value → Option String
  | .str s => some s
  | _ => none

/-- The number of a value that is an integer from 0 to 2^64 - 1. -/
def asNat? {σ : Type} : Json σ → Option Nat
  | .num (.integer (.ofNat n)) => some n
  | _ => none

/-- The items of an array. -/
def asArray? {σ : Type} : Json σ → Option (List (Json σ))
  | .arr items => some items
  | _ => none

/-- The value of a field; values other than objects have no fields. -/
def field? (key : String) : Value → Option Value
  | .obj fields => fields.lookup key
  | _ => none

end Json

end XQueryScope
