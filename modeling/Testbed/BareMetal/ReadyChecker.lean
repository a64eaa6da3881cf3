import Testbed.BareMetal.Config
import Testbed.BareMetal.Registry
import Testbed.Platform.Call

/-!
# Ready checkers

A ready checker waits until a machine that was reset has booted: until a marker file is there, or
until a session to it opens. Both probe at once and then every second, and probe for the last time
when the time is up. They take a time that is too long for the clock differently.
-/
namespace Testbed.BareMetal

inductive ReadyChecker where
  /-- Wait for a marker file. -/
  | fileSingle (file : String) (timeoutSecs : Nat)
  /-- Wait for a session. -/
  | ssh (timeoutSecs : Nat)
  deriving DecidableEq

namespace ReadyChecker

def fileSingleName : String := "file_single"

def sshName : String := "ssh"

def typeName : ReadyChecker → String
  | fileSingle .. => fileSingleName
  | ssh _ => sshName

def fileSingleOfConfig (config : ReadyCheckerConfig) : Except BareMetalError ReadyChecker :=
  match config.settings.file? with
  | some file => .ok (.fileSingle file config.timeout.toNat)
  | none => .error (.invalidSettings .readyChecker fileSingleName)

def sshOfConfig (config : ReadyCheckerConfig) : Except BareMetalError ReadyChecker :=
  .ok (.ssh config.timeout.toNat)

/-- The time between two probes, in milliseconds. -/
def pollInterval : Nat := 1000

variable {σ : Type}

/-- Milliseconds on the running clock. -/
def now : Caller σ Nat := do return (← Program.request Call.clock).ms

/-- Remove what an earlier deployment left. -/
def cleanUp : ReadyChecker → Caller σ (Except BareMetalError Unit)
  | ssh _ => return .ok ()
  | fileSingle file _ => do
    match ← Program.request (Call.removeFile file) with
    | .ok () | .error .notFound => return .ok ()
    | .error cause => return .error (.io file cause)

/-- Probe for a file until a deadline, at most so many times. -/
def awaitFile (file : String) (late : BareMetalError) (deadline : Nat) :
    (probes : Nat) → Caller σ (Except BareMetalError Unit)
  | 0 => return .error late
  | probes + 1 => do
    match ← Program.request (Call.findFile file) with
    | .error cause => return .error (.io file cause)
    | .ok true => return .ok ()
    | .ok false =>
      if deadline ≤ (← now) then return .error late
      else
        Program.request (Call.pause pollInterval)
        awaitFile file late deadline probes

/-- Try for a session until a deadline, at most so many times. -/
def awaitSession (info : ConnectionInfo) (late : BareMetalError) (deadline : Nat) :
    (probes : Nat) → Caller σ (Except BareMetalError Unit)
  | 0 => return .error late
  | probes + 1 => do
    match ← Program.request (Call.connect info (some (deadline - (← now)))) with
    | .opened _ => return .ok ()
    | .overdue => return .error late
    | .refused _ =>
      let left := deadline - (← now)
      if left < pollInterval then
        Program.request (Call.pause left)
        return .error late
      else
        Program.request (Call.pause pollInterval)
        awaitSession info late deadline probes

/-- Wait until a machine is up. One that nobody knows how to reach never opens a session. -/
def isReady (checker : ReadyChecker) (machine : Machine) : Caller σ (Except BareMetalError Unit) :=
  match checker with
  | fileSingle file timeout => do
    match deadline? (← now) (timeout * 1000) with
    | none => return .error .noDeadline
    | some deadline => awaitFile file (.notReady machine.name timeout) deadline (timeout + 1)
  | ssh timeout =>
    let late := .notReady machine.name timeout
    match machine.connection with
    | none => return .error late
    | some info => do
      let start ← now
      match timer? start (timeout * 1000) with
      | none => return .error .noDeadline
      | some ms => awaitSession info late (start + ms) (ms / pollInterval + 1)

end ReadyChecker

/-- The types of ready checkers. -/
def readyCheckers : Registry ReadyCheckerConfig ReadyChecker :=
  { kind := .readyChecker
    factories := .ofList [(ReadyChecker.fileSingleName, ReadyChecker.fileSingleOfConfig),
      (ReadyChecker.sshName, ReadyChecker.sshOfConfig)] }

end Testbed.BareMetal
