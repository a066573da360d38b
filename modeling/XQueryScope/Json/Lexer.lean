import XQueryScope.Json.Magnitude

/-!
# JSON tokens

A machine that takes a text character by character and yields its tokens.  Only the space, the tab,
the line feed and the carriage return separate tokens.  `lex?` is `none` exactly when some stretch
of the text is no token: an unknown word, a malformed number, an unclosed string, a bad escape or a
raw control character inside a string.
-/

namespace XQueryScope.Json

/-- A token of a JSON text. -/
inductive Token where
  | openArr
  | closeArr
  | openObj
  | closeObj
  | colon
  | comma
  | null
  | bool (b : Bool)
  | num (n : Number)
  /-- A string literal; `none` when half a surrogate pair stands alone in it. -/
  | str (s : Option String)
deriving DecidableEq, Repr

/-! ## 1. Numbers -/

/-- The parts of a number literal. -/
structure NumberParts where
  negative : Bool
  /-- Digits before the point. -/
  whole : List Char
  /-- Digits after the point, if there is one. -/
  fraction : Option (List Char)
  /-- Sign and digits of the exponent, if there is one. -/
  exponent : Option (Bool × List Char)

/-- Digits before the point: one zero alone, or any digits that do not start with zero. -/
def isWhole : List Char → Bool
  | ['0'] => true
  | '0' :: _ => false
  | ds => Text.isNumeral ds

/-- The exponent that starts after `e`. -/
def readExponent? (cs : List Char) : Option (Bool × List Char) :=
  let (negative, ds) :=
    match cs with
    | '-' :: ds => (true, ds)
    | '+' :: ds => (false, ds)
    | ds => (false, ds)
  if Text.isNumeral ds then some (negative, ds) else none

/-- What may follow the digits before the point, or the fraction: an exponent or nothing. -/
def readTail? (parts : NumberParts) : List Char → Option NumberParts
  | [] => some parts
  | 'e' :: cs | 'E' :: cs => (readExponent? cs).map fun e => { parts with exponent := some e }
  | _ => none

/-- Splits a number literal into its parts; `none` when it is malformed. -/
def readParts? (cs : List Char) : Option NumberParts :=
  let (negative, cs) :=
    match cs with
    | '-' :: cs => (true, cs)
    | cs => (false, cs)
  let whole := cs.takeWhile Char.isDigit
  if !isWhole whole then none
  else
    let parts : NumberParts := ⟨negative, whole, none, none⟩
    match cs.dropWhile Char.isDigit with
    | '.' :: cs =>
      let fraction := cs.takeWhile Char.isDigit
      if fraction.isEmpty then none
      else readTail? { parts with fraction := some fraction } (cs.dropWhile Char.isDigit)
    | cs => readTail? parts cs

/-- The power of ten that the exponent of a literal asks for. -/
def NumberParts.shift (p : NumberParts) : Int :=
  match p.exponent with
  | none => 0
  | some (true, ds) => -(Text.digitsValue ds : Int)
  | some (false, ds) => Text.digitsValue ds

/-- The number that the parts of a literal denote. -/
def NumberParts.value (p : NumberParts) : Number :=
  let n := Text.digitsValue p.whole
  let isInteger := p.fraction.isNone && p.exponent.isNone
  if isInteger && !p.negative && n < Text.twoTo 64 then .integer n
  else if isInteger && p.negative && n != 0 && n ≤ Text.twoTo 63 then .integer (-n)
  else .ofDigits p.negative p.whole (p.fraction.getD []) p.shift

/-! ## 2. Strings -/

/-- The first half of a surrogate pair. -/
def isHighSurrogate (u : Nat) : Bool := 0xD800 ≤ u && u < 0xDC00

/-- The second half of a surrogate pair. -/
def isLowSurrogate (u : Nat) : Bool := 0xDC00 ≤ u && u < 0xE000

/-- Adds the unit of a `\u` escape to the code points before it, last first: the second half of a
pair joins the first. -/
def joinUnit (u : Nat) : List Nat → List Nat
  | h :: before =>
    if isHighSurrogate h && isLowSurrogate u then
      (0x10000 + (h - 0xD800) * 0x400 + (u - 0xDC00)) :: before
    else u :: h :: before
  | [] => [u]

/-- The string of code points, last first; `none` when half a surrogate pair is left alone. -/
def textOf? (points : List Nat) : Option String :=
  if points.any fun u => isHighSurrogate u || isLowSurrogate u then none
  else some (String.ofList (points.reverse.map Char.ofNat))

/-- The character a one-letter escape stands for. -/
def simpleEscape? : Char → Option Char
  | '"' => some '"'
  | '\\' => some '\\'
  | '/' => some '/'
  | 'b' => some '\x08'
  | 'f' => some '\x0c'
  | 'n' => some '\n'
  | 'r' => some '\r'
  | 't' => some '\t'
  | _ => none

/-- The value of a hexadecimal digit of either case. -/
def hexValue? (c : Char) : Option Nat :=
  if c.isDigit then some (c.toNat - '0'.toNat)
  else if 'a' ≤ c && c ≤ 'f' then some (c.toNat - 'a'.toNat + 10)
  else if 'A' ≤ c && c ≤ 'F' then some (c.toNat - 'A'.toNat + 10)
  else none

/-! ## 3. The machine -/

/-- Where the machine stands between two characters. -/
inductive LexMode where
  /-- Between tokens. -/
  | gap
  /-- Inside a word or number, its characters last first. -/
  | word (seen : List Char)
  /-- Inside a string, its code points last first. -/
  | text (points : List Nat)
  /-- After a backslash. -/
  | escape (points : List Nat)
  /-- Inside a `\u` escape, with digits left to come. -/
  | unit (points : List Nat) (left value : Nat)

/-- The tokens so far, last first, and where the machine stands. -/
structure Lexer where
  tokens : List Token
  mode : LexMode

/-- A character that separates tokens. -/
def isSeparator (c : Char) : Bool :=
  c == ' ' || c == '\t' || c == '\n' || c == '\r'

/-- The token that a punctuation character is. -/
def punctuation? : Char → Option Token
  | '[' => some .openArr
  | ']' => some .closeArr
  | '\x7b' => some .openObj
  | '\x7d' => some .closeObj
  | ':' => some .colon
  | ',' => some .comma
  | _ => none

/-- The token that a word spells, its characters last first. -/
def wordToken? (seen : List Char) : Option Token :=
  match seen.reverse with
  | ['n', 'u', 'l', 'l'] => some .null
  | ['t', 'r', 'u', 'e'] => some (.bool true)
  | ['f', 'a', 'l', 's', 'e'] => some (.bool false)
  | cs => (readParts? cs).map fun p => .num p.value

namespace Lexer

/-- A character between tokens. -/
def between (tokens : List Token) (c : Char) : Lexer :=
  if isSeparator c then ⟨tokens, .gap⟩
  else if c == '"' then ⟨tokens, .text []⟩
  else
    match punctuation? c with
    | some t => ⟨t :: tokens, .gap⟩
    | none => ⟨tokens, .word [c]⟩

/-- One character; `none` where it can stand in no token. -/
def step (lx : Lexer) (c : Char) : Option Lexer :=
  match lx.mode with
  | .gap => some (between lx.tokens c)
  | .word seen =>
    if isSeparator c || c == '"' || (punctuation? c).isSome then
      (wordToken? seen).map fun t => between (t :: lx.tokens) c
    else some ⟨lx.tokens, .word (c :: seen)⟩
  | .text points =>
    if c == '"' then some ⟨.str (textOf? points) :: lx.tokens, .gap⟩
    else if c == '\\' then some ⟨lx.tokens, .escape points⟩
    else if c.toNat < 0x20 then none
    else some ⟨lx.tokens, .text (c.toNat :: points)⟩
  | .escape points =>
    if c == 'u' then some ⟨lx.tokens, .unit points 4 0⟩
    else (simpleEscape? c).map fun d => ⟨lx.tokens, .text (d.toNat :: points)⟩
  | .unit points left value =>
    (hexValue? c).map fun d =>
      let value := 16 * value + d
      if left ≤ 1 then ⟨lx.tokens, .text (joinUnit value points)⟩
      else ⟨lx.tokens, .unit points (left - 1) value⟩

/-- The machine after every character of a text; `none` when one is refused. -/
def run (lx : Lexer) : List Char → Option Lexer
  | [] => some lx
  | c :: cs =>
    match lx.step c with
    | some lx' => lx'.run cs
    | none => none

/-- The tokens once the text has ended; `none` inside a string. -/
def finish? (lx : Lexer) : Option (List Token) :=
  match lx.mode with
  | .gap => some lx.tokens.reverse
  | .word seen => (wordToken? seen).map fun t => (t :: lx.tokens).reverse
  | _ => none

end Lexer

/-- The tokens of a text; `none` when it is not made of tokens. -/
def lex? (cs : List Char) : Option (List Token) :=
  (Lexer.run ⟨[], .gap⟩ cs).bind Lexer.finish?

end XQueryScope.Json
