import SshCompliance.Files.Path
import SshCompliance.Text.Utf8

/-!
# Files

The program sees files as what stands at each path, and reads them as text. Paths that do not say
where they start do so at the working directory.
-/

namespace SshCompliance

inductive FileFault where
  | notFound
  | notDirectory
  | isDirectory
  | denied
  | nameTooLong
  | hasNul
  | notText
deriving DecidableEq, Repr

def FileFault.message : FileFault → String
  | .notFound => "No such file or directory (os error 2)"
  | .notDirectory => "Not a directory (os error 20)"
  | .isDirectory => "Is a directory (os error 21)"
  | .denied => "Permission denied (os error 13)"
  | .nameTooLong => "File name too long (os error 36)"
  | .hasNul => "file name contained an unexpected NUL byte"
  | .notText => "stream did not contain valid UTF-8"

inductive FileState where
  | content (bytes : List UInt8)
  | directory
  | absent (fault : FileFault)
deriving DecidableEq, Repr

structure Files where
  workingDirectory : String
  stateAt : String → FileState

namespace Files

/-- The path with the directories that lead to it. -/
def absolute (files : Files) (path : String) : String := Path.join files.workingDirectory path

def exist (files : Files) (path : String) : Bool :=
  match files.stateAt path with
  | .absent _ => false
  | _ => true

def readText (files : Files) (path : String) : Except FileFault String :=
  match files.stateAt path with
  | .content bytes =>
    match Text.Utf8.decode? bytes with
    | some text => .ok text
    | none => .error .notText
  | .directory => .error .isDirectory
  | .absent fault => .error fault

end Files

end SshCompliance
