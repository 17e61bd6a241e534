/-!
# Paths

Paths are texts whose parts stand between slashes. Going to the parent drops the
last part; nothing is looked up, so that it also works for what does not exist.
-/

namespace JitHost

/-- A path. -/
abbrev Path := String

namespace Path

/-- A path, last character first, without the slashes and single dots at its end
that say nothing. The root and a dot alone stay. -/
def trimReversed : List Char → List Char
  | ['/'] => ['/']
  | '/' :: rest => trimReversed rest
  | '.' :: '/' :: rest => trimReversed ('/' :: rest)
  | path => path
termination_by path => path.length

/-- The path without its last part, none for the root and for no path at all. -/
def parent? (path : Path) : Option Path :=
  match trimReversed path.toList.reverse with
  | [] => none
  | ['/'] => none
  | reversed =>
      some (String.ofList (trimReversed (reversed.dropWhile (· ≠ '/'))).reverse)

/-- A path with one more part. -/
def join (path : Path) (part : String) : Path :=
  if path = "" then part
  else if path.endsWith "/" then path ++ part
  else path ++ "/" ++ part

/-- The parts of a path, empty ones left out. -/
def parts (path : Path) : List String := (path.splitOn "/").filter (· ≠ "")

/-- The absolute path with these parts. -/
def absolute (parts : List String) : Path := "/" ++ "/".intercalate parts

/-- A path and its ancestors, given how many there can be. -/
def lineage : Nat → Path → List Path
  | 0, path => [path]
  | fuel + 1, path =>
      match parent? path with
      | some parent => path :: lineage fuel parent
      | none => [path]

/-- A path and all its ancestors. -/
def ancestors (path : Path) : List Path := lineage path.length path

end Path

end JitHost
