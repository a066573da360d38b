/-!
# Failures

A failure is told as a chain: what was being done, then what went wrong with it, outermost first.
The chain ends with a reason of this library, or with JSON or a file that could not be read.
-/

namespace XQueryScope

/-- One link of a chain of reasons. -/
inductive Link where
  | note (text : String)
  /-- A text that is not the JSON it should be. -/
  | json
  /-- A file that cannot be read as text. -/
  | file
deriving DecidableEq, Repr

/-- The text of a link. -/
def Link.text : Link → String
  | note t => t
  | json => "malformed JSON"
  | file => "the file cannot be read"

/-- A chain of reasons, outermost first. -/
abbrev Chain := List Link

end XQueryScope
