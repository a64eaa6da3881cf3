import Testbed.Environment.Node

/-!
# A connector in memory

Opens sessions without a network: it can be told to fail a number of times, or for good, and every
try can be scripted to take time or to fail on the way. The one session behind it records commands
and answers them from a table by how they begin.
-/
namespace Testbed.Simulation

/-- What happens to one try before it reaches the connector. -/
structure Hindrance where
  delayMs : Nat := 0
  /-- Why the try does not get through. -/
  error : Option String := none

structure Connector where
  /-- What happens to the next tries. -/
  script : List Hindrance := []
  failuresLeft : UInt32 := 0
  unreachable : Bool := false
  /-- What is answered to commands that begin with a text. -/
  responses : Dict String ExecuteResult := ∅
  /-- The tries that got through. -/
  attempts : UInt32 := 0
  /-- The endpoints of the sessions that were opened, in order. -/
  connected : List String := []
  commands : List String := []

namespace Connector

/-- What happens to the next try. -/
def hindrance (c : Connector) : Hindrance := c.script.head?.getD {}

/-- Go on with the script. -/
def next (c : Connector) : Connector := { c with script := c.script.tail }

/-- Open a session, for a try that got through. -/
def tryOpen (c : Connector) (info : ConnectionInfo) : Except SessionError Session × Connector :=
  let fails := c.failuresLeft ≠ 0
  let c := { c with
    attempts := c.attempts + 1
    failuresLeft := if fails then c.failuresLeft - 1 else 0 }
  if fails ∨ c.unreachable then (.error (.connect info.endpoint "connection refused"), c)
  else (.ok ⟨info.endpoint⟩, { c with connected := c.connected ++ [info.endpoint] })

/-- End a try after what happened to it. -/
def finish (c : Connector) (info : ConnectionInfo) (h : Hindrance) :
    Except SessionError Session × Connector :=
  match h.error with
  | some reason => (.error (.connect info.endpoint reason), c)
  | none => c.tryOpen info

/-- The longer one of two answers by what they answer to; the later one of two that are as long. -/
def longer (best : Option (String × ExecuteResult)) (entry : String × ExecuteResult) :
    Option (String × ExecuteResult) :=
  match best with
  | some found => if entry.1.utf8ByteSize < found.1.utf8ByteSize then some found else some entry
  | none => some entry

/-- The answer to a command: the one for its longest beginning in the table, or success without any
output. -/
def answer (c : Connector) (command : String) : ExecuteResult :=
  let fitting := c.responses.entries.filter (fun entry => command.startsWith entry.1)
  match fitting.foldl longer none with
  | some entry => entry.2
  | none => { exitCode := 0, stdout := "" }

/-- Run a command in the session. -/
def execute (c : Connector) (command : String) : ExecuteResult × Connector :=
  (c.answer command, { c with commands := c.commands ++ [command] })

end Connector

end Testbed.Simulation
