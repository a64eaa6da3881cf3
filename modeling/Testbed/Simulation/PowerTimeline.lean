import Testbed.Platform.Power

/-!
# A power switch over time

A machine whose power is switched at given times, to wait for on a virtual clock.
-/
namespace Testbed.Simulation

/-- The machine is stopped at some time, or started. -/
structure PowerChange where
  atMs : Nat
  stop : Option StopState
  deriving DecidableEq

structure PowerTimeline where
  now : Nat := 0
  power : PowerSwitch := .switchable .running
  /-- What is still going to change, in the order of time. -/
  changes : List PowerChange := []
  deriving DecidableEq

namespace PowerTimeline

def change (power : PowerSwitch) (c : PowerChange) : PowerSwitch :=
  match c.stop with
  | some state => power.stop state
  | none => power.start

/-- The timeline before anything waits, with the changes of the first moment made. -/
def ofChanges (changes : List PowerChange) : PowerTimeline :=
  { power := (changes.filter (·.atMs = 0)).foldl change (.switchable .running)
    changes := (changes.filter (·.atMs ≠ 0)).mergeSort (fun a b => a.atMs ≤ b.atMs) }

/-- Let milliseconds pass. What changes at the end is seen later. -/
def pass (t : PowerTimeline) (ms : Nat) : PowerTimeline :=
  let now := t.now + ms
  let due := t.changes.takeWhile (·.atMs < now)
  { now, power := due.foldl change t.power, changes := t.changes.drop due.length }

/-- The machine, as something to poll. -/
def probe : PowerProbe (StateM PowerTimeline) where
  status := do return .ok (← get).power.status
  now := do return (← get).now
  pause ms := modify (·.pass ms)

end PowerTimeline

end Testbed.Simulation
