import SshCompliance.Config.Layer
import SshCompliance.Files.Basic
import SshCompliance.Files.Path

/-!
# Sources of the configuration

A file and the environment are layers over the defaults, in this order. The file is read by its
absolute path. A path that names a directory stands for the file of that name with the extension
json.
-/

namespace SshCompliance.Config

def textAt (files : Files) (path : String) : Except FileFault String :=
  let path := files.absolute path
  match files.stateAt path with
  | .directory =>
    let path := Path.withExtension path "json"
    match files.stateAt path with
    | .content _ => files.readText path
    | _ => .error .notFound
  | _ => files.readText path

def fileLayer (files : Files) (path : String) : Except ConfigFault Layer :=
  match textAt files path with
  | .error fault => .error (.unreadable fault.message)
  | .ok text =>
    match Layer.ofText? text with
    | some layer => .ok layer
    | none => .error (.unreadable ("no configuration object in " ++ path))

/-- What is noted about the sources of a configuration. -/
def sourceRemarks (file : Option String) (environment : Option (List (String × String))) :
    List Record :=
  file.toList.map (fun path => ⟨.info, .loader, "Loading configuration from " ++ path⟩) ++
    environment.toList.map (fun _ =>
      ⟨.debug, .loader, "Applying environment variables with prefix " ++ Layer.variablePrefix⟩)

def ofSources (files : Files) (file : Option String)
    (environment : Option (List (String × String))) : Except ConfigFault Config := do
  let fileLayers ← file.toList.mapM (fileLayer files)
  ofLayers (fileLayers ++ environment.toList.map Layer.ofEnvironment)

def read (files : Files) (file : Option String) (environment : Option (List (String × String))) :
    Except ConfigFault Config × List Record :=
  match file.filter (fun path => !files.exist path) with
  | some path => (.error (.fileNotFound path), [])
  | none => (ofSources files file environment, sourceRemarks file environment)

end SshCompliance.Config
