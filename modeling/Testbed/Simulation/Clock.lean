/-!
# A virtual clock

Time that passes only while the one thing that runs waits. The whole run may be cancelled at a given
time: what is waiting then is interrupted, unless it cannot be. Work that ends at that very time ends
first, and the next thing to wait is interrupted.
-/
namespace Testbed.Simulation

structure Clock where
  /-- Milliseconds since the start. -/
  now : Nat := 0
  /-- When the run is going to be cancelled. -/
  cancelAt : Option Nat := none
  /-- Whether that time has come. -/
  cancelled : Bool := false
  deriving DecidableEq

namespace Clock

/-- Cancel the run in so many milliseconds, unless it is cancelled before. -/
def arm (c : Clock) (ms : Nat) : Clock :=
  let due := c.now + ms
  { c with cancelAt := some (c.cancelAt.elim due (min due)) }

/-- When the run is cancelled in the course of a wait that begins now. -/
def cancellation (c : Clock) (ms : Nat) : Option Nat :=
  c.cancelAt.filter (fun t => t ≤ c.now ∨ t < c.now + ms)

/-- Wait to the end. -/
def wait (c : Clock) (ms : Nat) : Clock :=
  match c.cancellation ms with
  | none => { c with now := c.now + ms }
  | some _ => { now := c.now + ms, cancelAt := none, cancelled := true }

/-- Wait until the end or until the run is cancelled, and tell whether the end was reached. -/
def waitUnlessCancelled (c : Clock) (ms : Nat) : Bool × Clock :=
  match c.cancellation ms with
  | none => (true, { c with now := c.now + ms })
  | some t => (false, { now := max c.now t, cancelAt := none, cancelled := true })

end Clock

/-- Waiting for no time is no wait at all. -/
def span (ms : Nat) : Option Nat := if ms = 0 then none else some ms

end Testbed.Simulation
