import XQueryScope.Json.Basic
import XQueryScope.Text.Numeral

/-!
# The range of JSON numbers

A real number is held as a significand of 64 bits and a power of ten.  Digits that the significand
cannot hold count for their place only.  The number is in range if the significand and the power of
ten, each rounded to the 53 bits of a binary floating-point number, have a product that rounds to a
finite one.  Next to the largest finite number this differs from rounding the exact decimal once.
-/

namespace XQueryScope.Json

/-! ## 1. Significands -/

/-- Appends digits to a significand as long as 64 bits hold it: the significand and the digits
left over. -/
def absorb (n : Nat) : List Char → Nat × List Char
  | [] => (n, [])
  | d :: ds =>
    if 10 * n + Text.digitValue d < Text.twoTo 64 then absorb (10 * n + Text.digitValue d) ds
    else (n, d :: ds)

/-- The real number with these digits before and after the point, times `10 ^ shift`.  A digit left
over before the point multiplies by ten, one left over after it is dropped. -/
def Number.ofDigits (negative : Bool) (whole fraction : List Char) (shift : Int) : Number :=
  let (n, beyond) := absorb 0 whole
  let (n, dropped) := absorb n fraction
  .real negative n (shift + beyond.length - (fraction.length - dropped.length))

/-! ## 2. Range -/

/-- The nearest number of at most so many significant bits; of two equally near ones the one whose
last bit is zero. -/
def roundToBits (bits n : Nat) : Nat :=
  let unit := Text.twoTo (n.log2 + 1 - bits)
  let below := n / unit
  let rest := n % unit
  if unit < 2 * rest || (2 * rest == unit && below % 2 == 1) then (below + 1) * unit
  else below * unit

/-- The least magnitude that rounds to no finite number of 64-bit binary floating point. -/
def overflow : Nat := Text.twoTo 1024 - Text.twoTo 970

/-- Whether a number is within the range of 64-bit binary floating point.  No power of ten above
`10 ^ 308` is. -/
def Number.isFinite : Number → Bool
  | .integer _ => true
  | .real _ significand (.ofNat e) =>
    significand == 0 ||
      (e ≤ 308 && roundToBits 53 significand * roundToBits 53 (Text.tenTo e) < overflow)
  | .real _ _ (.negSucc _) => true

end XQueryScope.Json
