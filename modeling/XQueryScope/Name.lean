import XQueryScope.Text.Blank
import XQueryScope.Text.Letter

/-!
# Names

An XQuery name comes in three written forms: `local`, `p:local` and `Q{uri}local`.  The first two
are lexical QNames, whose namespace is a matter of scope; the third carries its namespace and needs
none.  `Name.parse?` reads the forms, `Name.render` writes them, and `Name.sameExpanded` compares
names once they are expanded.
-/

namespace XQueryScope

/-- A name as written, with its namespace once that is known. -/
structure Name where
  /-- The part before the colon. -/
  nsPrefix : Option String := none
  /-- The part that every form has. -/
  localName : String
  /-- The namespace, if the name carries one or has been expanded. -/
  namespaceUri : Option String := none
deriving DecidableEq, Repr

namespace Name

/-! ## 1. The characters of a name -/

/-- A character that a name part may start with. -/
def isStart (c : Char) : Bool :=
  c == '_' || Text.isLetter c

/-- A character that may stand later in a name part. -/
def isPart (c : Char) : Bool :=
  c == '_' || c == '.' || c == '-' || Text.isLetter c || Text.isNumber c

/-- A name part: the text on either side of the colon. -/
def isSimple : List Char → Bool
  | [] => false
  | c :: cs => isStart c && cs.all isPart

/-! ## 2. The three written forms -/

/-- `Q{uri}local`, given what follows the opening brace.  The uri has no braces, and blanks around
it do not count. -/
def parseUriQualified? (cs : List Char) : Option Name := do
  let (uri, after) ← Text.cut? '\x7d' cs
  if uri.contains '\x7b' || !isSimple after then none
  else some { localName := String.ofList after,
              namespaceUri := some (String.ofList (Text.trim uri)) }

/-- `p:local` or `local`. -/
def parseLexical? (cs : List Char) : Option Name :=
  match Text.cut? ':' cs with
  | some (before, after) =>
    if isSimple before && isSimple after then
      some { nsPrefix := some (String.ofList before), localName := String.ofList after }
    else none
  | none => if isSimple cs then some { localName := String.ofList cs } else none

/-- The name a list of characters without blanks around it spells. -/
def parseTrimmed? : List Char → Option Name
  | 'Q' :: '\x7b' :: cs => parseUriQualified? cs
  | cs => parseLexical? cs

/-- The name a token spells, blanks around it aside; `none` when it spells none. -/
def parse? (lexeme : String) : Option Name :=
  parseTrimmed? (Text.trim lexeme.toList)

/-- What a token has behind its first colon, blanks around it aside; `none` when it has no colon. -/
def afterColon? (lexeme : String) : Option String :=
  (Text.cut? ':' lexeme.toList).map fun parts => String.ofList (Text.trim parts.2)

/-- The written form: by prefix if there is one, else by namespace if there is one. -/
def render (n : Name) : String :=
  match n.nsPrefix, n.namespaceUri with
  | some p, _ => p ++ ":" ++ n.localName
  | none, some uri => "Q\x7b" ++ uri ++ "\x7d" ++ n.localName
  | none, none => n.localName

/-! ## 3. Expanded names -/

/-- Whether the name carries its namespace in its written form, as `Q{uri}local` does. -/
def isUriQualified (n : Name) : Bool :=
  n.nsPrefix.isNone && n.namespaceUri.isSome

/-- The namespace of an expanded name; none counts as the empty one. -/
def space (n : Name) : String :=
  n.namespaceUri.getD ""

/-- Whether two expanded names are the same: prefixes do not count. -/
def sameExpanded (a b : Name) : Bool :=
  a.localName == b.localName && a.space == b.space

/-- The name placed in a namespace. -/
def inNamespace (n : Name) (uri : String) : Name :=
  { n with namespaceUri := some uri }

end Name

end XQueryScope
