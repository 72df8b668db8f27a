import SshCompliance.Config.Basic
import SshCompliance.Text.Blank

/-!
# Checking a configuration

The marker and the program must have a character that is not blank. Names are compared with words of
a device's output, so a permitted name must be one: not empty, and without blanks. A log level that
is not known is only warned of.
-/

namespace SshCompliance.Config

def levelNames : List String := ["error", "warn", "info", "debug", "trace"]

def levelRemarks (config : Config) : List Record :=
  if levelNames.contains config.logLevel then []
  else
    [⟨.warn, .validator, "Invalid log level: " ++ config.logLevel ++ ". Using default: info"⟩]

/-- A name that can be a word of a device's output. -/
def isWord (name : String) : Bool := !name.isEmpty && !name.toList.any Text.isBlank

/-- The first permitted name that is no word, with its category. -/
def firstBadName? (lists : AllowLists) : Option (Category × String) :=
  Category.all.findSome? fun category =>
    ((lists.get category).names.find? (fun name => !isWord name)).map (category, ·)

def listKey (category : Category) : String := "allow_lists." ++ AllowLists.member category

def check (config : Config) : Except ConfigFault Unit :=
  if config.outputMarker.toList.all Text.isBlank then
    .error (.invalidValue "output_marker" "Output marker must not be empty")
  else if config.ansibleBin.toList.all Text.isBlank then
    .error (.invalidValue "ansible_bin" "Ansible executable must not be empty")
  else
    match firstBadName? config.allowLists with
    | some (category, name) =>
      .error (.invalidValue (listKey category) ("Invalid algorithm name: " ++ name.quoted))
    | none => .ok ()

/-- The check, and what is noted on the way. -/
def review (config : Config) : Except ConfigFault Unit × List Record :=
  (config.check, config.levelRemarks)

end SshCompliance.Config
