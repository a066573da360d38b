import XQueryScope.Text.Numeral

/-!
# Arity

How many arguments a function takes: at least `min`, and at most `max` unless it takes any number.
-/

namespace XQueryScope

/-- The argument counts a function accepts. -/
structure Arity where
  min : Nat
  /-- The largest count, or `none` when there is none. -/
  max : Option Nat
deriving DecidableEq, Repr

namespace Arity

/-- Exactly `n` arguments. -/
def exactly (n : Nat) : Arity := ⟨n, some n⟩

/-- At least `n` arguments. -/
def atLeast (n : Nat) : Arity := ⟨n, none⟩

/-- Whether the range has no upper end. -/
def isVariadic (a : Arity) : Bool := a.max.isNone

/-- Whether a call with `n` arguments is accepted. -/
def accepts (a : Arity) (n : Nat) : Bool :=
  decide (a.min ≤ n) && a.max.all (n ≤ ·)

/-- The range as text, `[min,max]` with `∞` for no upper end. -/
def render (a : Arity) : String :=
  "[" ++ Text.decimalText a.min ++ "," ++ (a.max.elim "∞" Text.decimalText) ++ "]"

end Arity

end XQueryScope
