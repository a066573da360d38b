/-!
# Decimal numerals

Reading: an optional plus sign, then one or more of the ten ASCII digits, whatever their number of
leading zeros.  A reader for a bounded range refuses what lies beyond it.
-/

namespace XQueryScope.Text

/-- A power of two: how many numbers so many bits tell apart. -/
def twoTo (bits : Nat) : Nat := Nat.pow 2 bits

/-- A power of ten: how many numbers so many digits tell apart. -/
def tenTo (digits : Nat) : Nat := Nat.pow 10 digits

/-- The number a digit denotes. -/
def digitValue (d : Char) : Nat :=
  d.toNat - '0'.toNat

/-- The number a list of digits denotes. -/
def digitsValue (ds : List Char) : Nat :=
  ds.foldl (fun n d => 10 * n + digitValue d) 0

/-- A non-empty list of ASCII digits. -/
def isNumeral (ds : List Char) : Bool :=
  !ds.isEmpty && ds.all Char.isDigit

/-- A numeral without the one plus sign that may stand in front. -/
def unsigned : List Char → List Char
  | '+' :: ds => ds
  | ds => ds

/-- The number written in decimal, possibly after a plus sign. -/
def readNat? (cs : List Char) : Option Nat :=
  if isNumeral (unsigned cs) then some (digitsValue (unsigned cs)) else none

/-- The number written in decimal if it is below `bound`. -/
def readBelow? (bound : Nat) (cs : List Char) : Option Nat :=
  (readNat? cs).filter (· < bound)

/-- The decimal digits of a number, without leading zeros. -/
def decimal (n : Nat) : List Char :=
  Nat.toDigits 10 n

/-- The decimal text of a number. -/
def decimalText (n : Nat) : String :=
  String.ofList (decimal n)

end XQueryScope.Text
