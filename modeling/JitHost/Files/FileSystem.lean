import JitHost.Files.Path
import JitHost.Text.Bytes

/-!
# File systems

The questions that commands ask of a file system, in any monad, and a file system
that is a value: a tree of files below the root.
-/

namespace JitHost

open Text

/-- What can be asked of a file system. -/
structure FileSystem (m : Type → Type) where
  isFile : Path → m Bool
  isDirectory : Path → m Bool
  /-- The absolute path without detours, if there is something at the path. -/
  canonical? : Path → m (Option Path)
  /-- The bytes of a file that can be read. -/
  read? : Path → m (Option Bytes)

namespace FileSystem

variable {m : Type → Type} [Monad m] (fs : FileSystem m)

/-- The text of a file, none if it cannot be read or is not well formed. -/
def readText? (path : Path) : m (Option String) := do
  return (← fs.read? path).bind Bytes.text?

/-- The first of some directories' files with a name. -/
def firstFile? (name : String) : List Path → m (Option Path)
  | [] => return none
  | directory :: rest => do
      let file := directory.join name
      if ← fs.isFile file then return some file else firstFile? name rest

/-- The file with a name that is nearest above a place: in the place itself if it
is a directory, or else in its directory, or in one of those above. -/
def nearestFile? (name : String) (place : Path) : m (Option Path) := do
  let directory := if ← fs.isDirectory place then place else place.parent?.getD place
  let directory := if directory = "" then "." else directory
  let directory := (← fs.canonical? directory).getD directory
  fs.firstFile? name directory.ancestors

end FileSystem

/-- What lies in a file tree at some place. -/
inductive FileNode where
  | file (bytes : Bytes)
  | directory
  deriving DecidableEq

/-- A tree of files: what lies where, by the parts of absolute paths, and the
directory from which relative paths start. What lies above a given place is a
directory. -/
structure FileTree where
  nodes : List (List String × FileNode)
  start : List String

namespace FileTree

variable (tree : FileTree)

/-- What lies at a place. -/
def node? (place : List String) : Option FileNode :=
  match tree.nodes.lookup place with
  | some node => some node
  | none =>
      if place.isPrefixOf tree.start || tree.nodes.any (fun entry => place.isPrefixOf entry.1) then
        some .directory
      else none

/-- The place that parts lead to from another place. All on the way have to be
directories. -/
def walk? (place : List String) : List String → Option (List String)
  | [] => (tree.node? place).map fun _ => place
  | part :: rest =>
      if tree.node? place = some .directory then
        walk? (if part = "." then place
          else if part = ".." then place.dropLast
          else place ++ [part]) rest
      else none

/-- The place of a path, if something lies there. A path that ends in a slash has
to lead to a directory. -/
def resolve? (path : Path) : Option (List String) :=
  if path = "" then none
  else
    let place := tree.walk? (if path.startsWith "/" then [] else tree.start) path.parts
    if path.endsWith "/" then
      place.filter fun place => tree.node? place = some .directory
    else place

/-- What lies at a path. -/
def at? (path : Path) : Option FileNode := (tree.resolve? path).bind tree.node?

/-- A tree as a file system. -/
def fileSystem : FileSystem Id where
  isFile path := match tree.at? path with
    | some (.file _) => true
    | _ => false
  isDirectory path := tree.at? path == some .directory
  canonical? path := (tree.resolve? path).map Path.absolute
  read? path := match tree.at? path with
    | some (.file bytes) => some bytes
    | _ => none

end FileTree

end JitHost
