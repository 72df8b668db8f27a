import SshCompliance.Decap.PacketTest
import SshCompliance.Dialogue
import SshCompliance.Error

/-!
# Changes on devices

A change is made device by device and stops at the first failure; then what was done is undone at
once. Undoing goes through all devices again, from the first one on. A change that was made can be
kept up for the time of something else.
-/

namespace SshCompliance.Decap

/-- A device and its frontend ASICs; a single ASIC has no number. -/
structure Host where
  name : String
  asics : List (Option Nat)
deriving DecidableEq, Repr

inductive Request where
  | shell (place : Nat) (command : String)
  | copy (place : Nat) (content path : String)
  | render (filling : Variables)
deriving DecidableEq, Repr

/-- A request gives the rendered text, if it is for one, or an error. -/
abbrev Talk (α : Type) := Dialogue Request (Except Error String) α

/-- A talk that stops at the first error. -/
abbrev Attempt (α : Type) := ExceptT Error (Dialogue Request (Except Error String)) α

namespace Attempt

def ask (request : Request) : Attempt String := ExceptT.mk (Dialogue.request request)

def notes (records : List Record) : Attempt Unit := ExceptT.lift (Dialogue.notes records)

/-- Runs commands on the device at a place up to the first failure. -/
def commands (place : Nat) : List String → Attempt Unit
  | [] => pure ()
  | command :: rest => do
    let _ ← ask (.shell place command)
    commands place rest

end Attempt

structure Settings where
  versions : HeaderVersions
  loopbacks : Loopbacks
  modes : Modes
  ecnMode : String
deriving DecidableEq, Repr

namespace Settings

def filling (settings : Settings) (place : Nat) (operation : Operation) : Variables :=
  .forDevice place settings.versions settings.loopbacks settings.modes settings.ecnMode operation

/-- The commands that load a payload into every container of a device and then discard it. -/
def loading (host : Host) (operation : Operation) : List String :=
  host.asics.flatMap (fun asic => loadCommands (container asic) operation) ++
    [discardCommand operation]

/-- Brings a payload to the device at a place and loads it. -/
def sendTo (settings : Settings) (operation : Operation) (place : Nat) (host : Host) :
    Attempt Unit := do
  let content ← Attempt.ask (.render (settings.filling place operation))
  let _ ← Attempt.ask (.copy place content (payloadPath operation))
  Attempt.commands place (loading host operation)

/-- Goes through devices, of which the first is at the given place. -/
def sendFrom (settings : Settings) (operation : Operation) (place : Nat) :
    List Host → Attempt Unit
  | [] => pure ()
  | host :: rest => do
    settings.sendTo operation place host
    settings.sendFrom operation (place + 1) rest

def send (settings : Settings) (hosts : List Host) (operation : Operation) :
    Talk (Except Error Unit) :=
  (settings.sendFrom operation 0 hosts).run

end Settings

/-- The commands that remove the default configuration from every container of a device. -/
def removal (host : Host) : List String :=
  host.asics.flatMap (fun asic => defaultRemoval (container asic))

/-- Removes the default configuration from devices, of which the first is at the given place. -/
def removeFrom (place : Nat) : List Host → Attempt Unit
  | [] => pure ()
  | host :: rest => do
    Attempt.notes [⟨.info, .guard, "Remove default decap cfg on " ++ host.name⟩]
    Attempt.commands place (removal host)
    removeFrom (place + 1) rest

/-- Restores the default configuration in one container after the other, failures or not. -/
def restoreIn (place : Nat) (host : Host) : List (Option Nat) → Talk Unit
  | [] => pure ()
  | asic :: rest => do
    match ← Dialogue.request (.shell place (defaultRestoration (container asic))) with
    | .ok _ => pure ()
    | .error error =>
      Dialogue.notes
        [⟨.error, .guard, "Failed to restore default decap cfg on " ++ host.name ++ ": " ++
          error.message⟩]
    restoreIn place host rest

def restoreFrom (place : Nat) : List Host → Talk Unit
  | [] => pure ()
  | host :: rest => do
    Dialogue.notes [⟨.info, .guard, "Restore default decap cfg on " ++ host.name⟩]
    restoreIn place host host.asics
    restoreFrom (place + 1) rest

inductive Change where
  | withoutDefault
  | configured (settings : Settings)
deriving DecidableEq, Repr

namespace Change

def modes? : Change → Option Modes
  | .withoutDefault => none
  | .configured settings => some settings.modes

/-- Makes the change up to the first failure, and leaves it there. -/
def begin (change : Change) (hosts : List Host) : Talk (Except Error Unit) :=
  match change with
  | .withoutDefault => (removeFrom 0 hosts).run
  | .configured settings => settings.send hosts .set

def undo (change : Change) (hosts : List Host) : Talk Unit :=
  match change with
  | .withoutDefault => restoreFrom 0 hosts
  | .configured settings => do
    match ← settings.send hosts .delete with
    | .ok _ => pure ()
    | .error error =>
      Dialogue.notes [⟨.error, .guard, "Failed to remove test decap cfg: " ++ error.message⟩]

/-- Makes the change; one that fails is undone at once. -/
def make (change : Change) (hosts : List Host) : Talk (Except Error Unit) := do
  match ← change.begin hosts with
  | .ok _ => pure (.ok ())
  | .error error => do
    change.undo hosts
    pure (.error error)

/-- Keeps the change up while something else is done, which is not done if the change fails. -/
def during (change : Change) (hosts : List Host) (body : Talk Unit) : Talk (Except Error Unit) := do
  match ← change.make hosts with
  | .error error => pure (.error error)
  | .ok _ => do
    body
    change.undo hosts
    pure (.ok ())

end Change

end SshCompliance.Decap
