/-!
# Paths

Relative and absolute file paths with `/` between their segments.  A segment counts unless it is
empty or `.`; a `.` counts only as the very first segment of a relative path.
-/

namespace XQueryScope.Path

/-- Whether a path starts at the root. -/
def isAbsolute (path : String) : Bool :=
  path.startsWith "/"

/-- What stands between the slashes of a path. -/
def segments (path : String) : List String :=
  (path.toList.splitOn '/').map String.ofList

/-- Whether a segment that is not the first counts. -/
def counts (segment : String) : Bool :=
  segment != "" && segment != "."

/-- Segments without those at the end that do not count.  The first one is kept apart: it counts
also when it is `.`. -/
def dropEnd (first : String) (rest : List String) : List String :=
  match (rest.reverse.dropWhile fun s => !counts s).reverse with
  | [] => if first == "" then [] else [first]
  | rest => first :: rest

/-- The directory that holds what a path names: the path without its last segment.  The root and the
empty path have none. -/
def parent? (path : String) : Option String :=
  match segments path with
  | [] => none
  | first :: rest =>
    let root := if isAbsolute path then "/" else ""
    match (dropEnd first rest).reverse with
    | [] => none
    | [_] => some root
    | _ :: before =>
      match before.reverse with
      | [] => some root
      | first :: rest =>
        match dropEnd first rest with
        | [] => some root
        | segments => some ("/".intercalate segments)

/-- A path taken from a directory; an absolute path stays as it is. -/
def join (dir path : String) : String :=
  if isAbsolute path || dir == "" then path
  else if dir.endsWith "/" then dir ++ path
  else dir ++ "/" ++ path

end XQueryScope.Path
