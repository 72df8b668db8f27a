import SshCompliance.Files.Basic
import SshCompliance.Files.Path

/-!
# File trees

A tree of directories gives the files below its root, which is the working directory. Paths are
followed component by component: two dots lead to the parent, and what lies beyond the root is a
directory in which nothing is found.
-/

namespace SshCompliance

inductive FileTree where
  | file (bytes : List UInt8)
  | directory (entries : List (String × FileTree))

namespace FileTree

def empty : FileTree := .directory []

/-- Puts a tree under a name, over what stood there. -/
def setEntry (name : String) (tree : FileTree) :
    List (String × FileTree) → List (String × FileTree)
  | [] => [(name, tree)]
  | (other, old) :: rest =>
    if name = other then (name, tree) :: rest else (other, old) :: setEntry name tree rest

/-- The entries of a directory; a file has none. -/
def entries : FileTree → List (String × FileTree)
  | .file _ => []
  | .directory entries => entries

/-- Puts a tree at the place that the names lead to, with directories on the way; a directory that
is there already stays. -/
def place (tree : FileTree) : List String → FileTree → FileTree
  | [], .directory entries =>
    match tree with
    | .file bytes => .file bytes
    | .directory _ => .directory entries
  | [], .file _ => tree
  | name :: rest, current =>
    let inner := (current.entries.lookup name).getD empty
    .directory (setEntry name (place tree rest inner) current.entries)

def put (tree : FileTree) (path : String) (inner : FileTree) : FileTree :=
  place inner ((Path.components path).filter (fun name => name ≠ "" && name ≠ ".")) tree

def maxNameBytes : Nat := 255

/-- Paths may have fewer bytes than this. -/
def maxPathBytes : Nat := 4096

/-- Follows the components from the first directory of a list that goes on with its ancestors. -/
def walk : List FileTree → List String → FileState
  | [], [] => .directory
  | [], name :: rest =>
    if name = "" || name = "." || name = ".." then walk [] rest
    else if maxNameBytes < name.utf8ByteSize then .absent .nameTooLong
    else .absent .notFound
  | .file bytes :: _, [] => .content bytes
  | .directory _ :: _, [] => .directory
  | .file _ :: _, _ :: _ => .absent .notDirectory
  | .directory entries :: above, name :: rest =>
    if name = "" || name = "." then walk (.directory entries :: above) rest
    else if name = ".." then walk above rest
    else if maxNameBytes < name.utf8ByteSize then .absent .nameTooLong
    else
      match entries.lookup name with
      | none => .absent .notFound
      | some inner => walk (inner :: .directory entries :: above) rest

def find (tree : FileTree) (workingDirectory path : String) : FileState :=
  match (Path.join workingDirectory "").toList.isPrefixOf? path.toList with
  | some inside => walk [tree] (Path.components (String.ofList inside))
  | none => walk (if Path.isAbsolute path then [] else [tree]) (Path.components path)

/-- The files below the root, which is the working directory. -/
def files (workingDirectory : String) (tree : FileTree) : Files where
  workingDirectory := workingDirectory
  stateAt path :=
    if path.toList.contains '\x00' then .absent .hasNul
    else if path.isEmpty then .absent .notFound
    else if maxPathBytes ≤ path.utf8ByteSize then .absent .nameTooLong
    else tree.find workingDirectory path

end FileTree

end SshCompliance
