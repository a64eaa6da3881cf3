import Testbed.Files
import Testbed.Environment.Node
import Testbed.Program

/-!
# Calls

What programs ask of the outside world: sessions and commands, the clock, and files. A call to open
a session may be given a limit on the time it takes.
-/
namespace Testbed

/-- A moment, on the wall clock and on the running clock. -/
structure Moment where
  wall : Timestamp
  /-- Nanoseconds on a clock that is never set back. -/
  ticks : Nat

/-- Whole milliseconds on the running clock. -/
def Moment.ms (m : Moment) : Nat := m.ticks / 1000000

/-- How trying to open a session ends. -/
inductive Opening where
  | opened (session : Session)
  | refused (error : SessionError)
  /-- The limit was reached first. -/
  | overdue
  deriving DecidableEq

inductive Call where
  /-- Open a session within so many milliseconds. -/
  | connect (info : ConnectionInfo) (limit : Option Nat)
  | execute (session : Session) (command : String)
  /-- Let milliseconds pass. -/
  | pause (ms : Nat)
  | clock
  | readFile (path : String)
  /-- Whether anything is at a path. -/
  | findFile (path : String)
  | removeFile (path : String)
  deriving DecidableEq

namespace Call

abbrev Reply : Call → Type
  | connect .. => Opening
  | execute .. => Except SessionError ExecuteResult
  | pause _ => Unit
  | clock => Moment
  | readFile _ => Except FileError String
  | findFile _ => Except FileError Bool
  | removeFile _ => Except FileError Unit

end Call

/-- A program that works on a state and calls the outside world. -/
abbrev Caller (σ : Type) := Program σ Call Call.Reply

end Testbed
