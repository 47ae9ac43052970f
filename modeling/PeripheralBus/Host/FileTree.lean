import PeripheralBus.Host.Files
import PeripheralBus.Host.Path

/-!
# File trees

A finite tree of files as a value, for hosts whose files are known beforehand. Relative paths begin
in the working directory. A place is written as the names on the way to it, the innermost first; the
way to a place outside the working directory begins with two dots for each directory above, or with
a slash for the root of all directories. Outside, nothing is known but what was put there.

* `FileTree.insert`: adds a file or a directory, with the directories on its path.
* `FileTree.files`: the tree as the host's files.
-/

namespace PeripheralBus.Host

/-- A place: the names on the way to it, the innermost first. -/
abbrev Place := List String

namespace Place

/-- The root of all directories. -/
def root : Place := ["/"]

/-- The directory above a place. -/
def above : Place → Place
  | [] => [".."]
  | name :: outer =>
    if name = ".." then name :: name :: outer else if name = "/" then root else outer

/-- The place that a part of a path leads to. An empty part and a dot lead nowhere. -/
def go (place : Place) (part : String) : Place :=
  if part = "" ∨ part = "." then place
  else if part = ".." then place.above
  else part :: place

/-- The place where a path begins. -/
def start (path : String) : Place := if path.startsWith "/" then root else []

/-- Whether a place is the working directory, a directory above it, or the root. -/
def isOuter (place : Place) : Bool := place.all fun name => name = ".." ∨ name = "/"

end Place

/-- What was put at which place, the latest first. -/
structure FileTree where
  nodes : List (Place × Node) := []

namespace FileTree

/-- Adds a node at a path. All that the path leads through become directories. -/
def insert (t : FileTree) (path : String) (node : Node) : FileTree :=
  let (place, nodes) := (Path.parts path).foldl
    (fun ((place, nodes) : Place × List (Place × Node)) part =>
      (place.go part, (place, .directory) :: nodes))
    (Place.start path, t.nodes)
  ⟨(place, node) :: nodes⟩

/-- What is at a place. -/
def node? (t : FileTree) (place : Place) : Option Node :=
  if place.isOuter then some .directory else t.nodes.lookup place

/-- The longest name that a directory can hold, in bytes. -/
def longestName : Nat := 255

/-- The longest path, in bytes. -/
def longestPath : Nat := 4095

/-- One part of a path, from a place and what is there. -/
def advance (t : FileTree) : Place × Node → String → Except Error (Place × Node)
  | (_, .file _), _ => .error .notDirectory
  | (place, .directory), part =>
    if part.utf8ByteSize > longestName then .error .nameTooLong
    else
      match t.node? (place.go part) with
      | some n => .ok (place.go part, n)
      | none => .error .notFound

/-- The tree as the host's files. -/
def files (t : FileTree) : Files := fun path =>
  if path.isEmpty then .error .notFound
  else if path.contains '\x00' then .error .zeroInPath
  else if path.utf8ByteSize > longestPath then .error .nameTooLong
  else ((Path.parts path).foldlM t.advance (Place.start path, .directory)).map Prod.snd

end FileTree

end PeripheralBus.Host
