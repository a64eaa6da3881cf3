import Testbed.Platform.Feature

/-!
# Waiting for a power state

A power state is polled until it is the expected one or the time is up. The deadline is tested
between a query and the pause after it, so a state that is reached at the deadline still counts.
-/
namespace Testbed

/-- What the wait needs from its surroundings. -/
structure PowerProbe (m : Type → Type) where
  /-- Ask for the status text. -/
  status : m (Except FeatureError String)
  /-- Read the clock, in milliseconds. -/
  now : m Nat
  /-- Let milliseconds pass. -/
  pause : Nat → m Unit

variable {m : Type → Type} [Monad m]

/-- Poll until a deadline, at most so many times. -/
def pollPower (probe : PowerProbe m) (expected : PowerState) (operation : String)
    (deadline poll : Nat) : (tries : Nat) → m (Except FeatureError Unit)
  | 0 => return .error (.powerStateTimeout expected.shortName operation)
  | tries + 1 => do
    match ← probe.status with
    | .error error => return .error error
    | .ok status =>
      if status = expected.statusText then return .ok ()
      else
        let now ← probe.now
        if deadline ≤ now then return .error (.powerStateTimeout expected.shortName operation)
        else match timer? now poll with
          | none => return .error .noDeadline
          | some ms => do
            probe.pause ms
            pollPower probe expected operation deadline poll tries

/-- The number of queries that fit into a wait, the last one at or after the deadline. No pause is
longer than the far future unless the clock has room for it. -/
def powerQueries (timeout poll : Nat) : Nat :=
  let pause := min poll farFuture
  (timeout + pause - 1) / pause + 1

/-- Wait until a machine is in the expected state. Without a deadline there is no wait. -/
def waitForPower (probe : PowerProbe m) (expected : PowerState) (operation : String)
    (timeout poll : Nat) : m (Except FeatureError Unit) := do
  match deadline? (← probe.now) timeout with
  | none => return .error .noDeadline
  | some deadline =>
    pollPower probe expected operation deadline poll (powerQueries timeout poll)

end Testbed
