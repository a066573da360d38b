import XQueryScope.Json.Basic
import XQueryScope.Text.Numeral

/-!
# Writing JSON

Two layouts of one value: `compact`, without blanks, and `pretty`, one field or item a line and two
blanks a level.  In strings only the quote, the backslash and the characters below U+0020 are
escaped.  Every writer puts its text in front of the characters that follow.
-/

namespace XQueryScope.Json

/-! ## 1. Scalars -/

/-- One hexadecimal digit, in lower case. -/
def hexDigit (n : Nat) : Char :=
  Nat.digitChar n

/-- How one character stands inside a string literal. -/
def escapedChar (c : Char) : List Char :=
  match c with
  | '"' => ['\\', '"']
  | '\\' => ['\\', '\\']
  | '\x08' => ['\\', 'b']
  | '\x0c' => ['\\', 'f']
  | '\n' => ['\\', 'n']
  | '\r' => ['\\', 'r']
  | '\t' => ['\\', 't']
  | _ =>
    if c.toNat < 0x20 then ['\\', 'u', '0', '0', hexDigit (c.toNat / 16), hexDigit (c.toNat % 16)]
    else [c]

/-- A string literal. -/
def stringLiteral (s : String) : List Char :=
  '"' :: s.toList.flatMap escapedChar ++ ['"']

/-- An integer in decimal. -/
def integerLiteral : Int → List Char
  | .ofNat n => Text.decimal n
  | .negSucc n => '-' :: Text.decimal (n + 1)

/-- A number: an integer in decimal, a real with its exponent. -/
def numberLiteral : Number → List Char
  | .integer n => integerLiteral n
  | .real negative significand exponent =>
    (if negative then ['-'] else []) ++ Text.decimal significand ++ 'e' :: integerLiteral exponent

/-! ## 2. The compact layout -/

mutual

/-- A value without blanks, in front of `rest`. -/
def write : Value → List Char → List Char
  | .null, rest => ['n', 'u', 'l', 'l'] ++ rest
  | .bool true, rest => ['t', 'r', 'u', 'e'] ++ rest
  | .bool false, rest => ['f', 'a', 'l', 's', 'e'] ++ rest
  | .num n, rest => numberLiteral n ++ rest
  | .str s, rest => stringLiteral s ++ rest
  | .arr items, rest => '[' :: writeItems items (']' :: rest)
  | .obj fields, rest => '\x7b' :: writeFields fields ('\x7d' :: rest)

/-- Items with commas between them, in front of `rest`. -/
def writeItems : List Value → List Char → List Char
  | [], rest => rest
  | [v], rest => write v rest
  | v :: vs, rest => write v (',' :: writeItems vs rest)

/-- Fields with commas between them, in front of `rest`. -/
def writeFields : List (String × Value) → List Char → List Char
  | [], rest => rest
  | [(k, v)], rest => stringLiteral k ++ ':' :: write v rest
  | (k, v) :: fs, rest => stringLiteral k ++ ':' :: write v (',' :: writeFields fs rest)

end

/-- The text of a value, without blanks. -/
def compact (v : Value) : String :=
  String.ofList (write v [])

/-! ## 3. The layout with one item a line -/

/-- A line's end and the blanks in front of the next line. -/
def newline (level : Nat) : List Char :=
  '\n' :: List.replicate (2 * level) ' '

mutual

/-- A value with one item or field a line, in front of `rest`.  Empty containers stay on theirs. -/
def layOut (level : Nat) : Value → List Char → List Char
  | .arr (v :: vs), rest =>
    '[' :: (newline (level + 1) ++ layOutItems (level + 1) (v :: vs)
      (newline level ++ ']' :: rest))
  | .obj (f :: fs), rest =>
    '\x7b' :: (newline (level + 1) ++ layOutFields (level + 1) (f :: fs)
      (newline level ++ '\x7d' :: rest))
  | .null, rest => write .null rest
  | .bool b, rest => write (.bool b) rest
  | .num n, rest => write (.num n) rest
  | .str s, rest => write (.str s) rest
  | .arr [], rest => '[' :: ']' :: rest
  | .obj [], rest => '\x7b' :: '\x7d' :: rest

/-- Items, each on its line, in front of `rest`. -/
def layOutItems (level : Nat) : List Value → List Char → List Char
  | [], rest => rest
  | [v], rest => layOut level v rest
  | v :: vs, rest => layOut level v (',' :: (newline level ++ layOutItems level vs rest))

/-- Fields, each on its line, in front of `rest`. -/
def layOutFields (level : Nat) : List (String × Value) → List Char → List Char
  | [], rest => rest
  | [(k, v)], rest => stringLiteral k ++ [':', ' '] ++ layOut level v rest
  | (k, v) :: fs, rest =>
    stringLiteral k ++ [':', ' '] ++
      layOut level v (',' :: (newline level ++ layOutFields level fs rest))

end

/-- The text of a value with one item or field a line. -/
def pretty (v : Value) : String :=
  String.ofList (layOut 0 v [])

end XQueryScope.Json
