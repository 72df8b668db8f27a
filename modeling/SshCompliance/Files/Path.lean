import SshCompliance.Text.Blank

/-!
# Paths

A path is text with slashes between its components. Empty components and single dots do not count;
the file name is the last component that counts, unless that leads upwards.
-/

namespace SshCompliance.Path

def isAbsolute (path : String) : Bool := path.toList.head? = some '/'

/-- The path reached from a directory; an absolute path is reached from anywhere. -/
def join (directory path : String) : String :=
  if isAbsolute path then path
  else if directory.isEmpty || directory.toList.getLast? = some '/' then directory ++ path
  else directory ++ "/" ++ path

def components (path : String) : List String :=
  (Text.split (· == '/') path.toList).map String.ofList

/-- The components up to the file name, from last to first. -/
def upToFileName (path : String) : List String :=
  (components path).reverse.dropWhile (fun component => component = "" || component = ".")

def fileName? (path : String) : Option String :=
  match upToFileName path with
  | [] => none
  | name :: _ => if name = ".." then none else some name

/-- What follows the last dot of the file name, if something precedes that dot. -/
def extension? (path : String) : Option String := do
  let name ← fileName? path
  let afterDot := name.toList.reverse.takeWhile (· ≠ '.')
  if afterDot.length + 1 < name.toList.length then some (String.ofList afterDot.reverse) else none

def withExtension (path ending : String) : String :=
  match fileName? path with
  | none => path
  | some _ => "/".intercalate (upToFileName path).reverse ++ "." ++ ending

end SshCompliance.Path
