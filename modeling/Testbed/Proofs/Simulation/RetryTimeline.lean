import Mathlib.Algebra.BigOperators.Intervals
import Mathlib.Order.Interval.Finset.Nat
import Testbed.Proofs.Lifecycle.Retry
import Testbed.Simulation.RetryTimeline

/-!
# Retrying over time

When scripted attempts begin, how they come out and how long retrying them takes on the virtual
clock. An attempt is cut off at the limit, and the pauses double up to a limit, so that the time of
every attempt is a sum over the attempts and the pauses before it.
-/
namespace Testbed.Simulation

open Finset

variable {α : Type}

/-- How an attempt ends that is cut off at the limit. -/
def ScriptedAttempt.trial (policy : ConnectPolicy) (a : ScriptedAttempt α) : Trial α :=
  if policy.timeoutMs.toNat < a.delayMs then .overdue
  else match a.outcome with
    | .ok value => .succeeded value
    | .error reason => .failed reason

/-- What comes of it. -/
def ScriptedAttempt.verdict (policy : ConnectPolicy) (a : ScriptedAttempt α) : Except String α :=
  if policy.timeoutMs.toNat < a.delayMs then .error policy.overdueReason else a.outcome

theorem ScriptedAttempt.verdict?_trial (policy : ConnectPolicy) (a : ScriptedAttempt α) :
    (a.trial policy).verdict? policy = some (a.verdict policy) := by
  unfold trial verdict
  split
  · rfl
  · cases a.outcome <;> rfl

theorem ScriptedAttempt.overdue_iff (policy : ConnectPolicy) (a : ScriptedAttempt α) :
    a.trial policy = .overdue ↔ policy.timeoutMs.toNat < a.delayMs := by
  unfold trial
  split
  · exact iff_of_true rfl ‹_›
  · refine iff_of_false ?_ ‹_›
    cases a.outcome <;> simp

/-- The time that it takes until then. -/
def ScriptedAttempt.spent (policy : ConnectPolicy) (a : ScriptedAttempt α) : Nat :=
  min a.delayMs policy.timeoutMs.toNat

/-- The pause after the failed attempt of a number, the first one being number 1. -/
def pauseAfter (policy : ConnectPolicy) (n : Nat) : Nat :=
  min (policy.backoffBaseMs.toNat * 2 ^ min (n - 1) 16) (2 ^ 64 - 1)

theorem backoff_ofNat (policy : ConnectPolicy) {n : Nat} (small : n < 2 ^ 32) :
    policy.backoff (.ofNat n) = pauseAfter policy n := by
  rw [ConnectPolicy.backoff, pauseAfter, UInt32.toNat_ofNat_of_lt' small]
  rfl

/-- When the attempt of a number begins, counted from the first one, if all before it fail. -/
def begins (policy : ConnectPolicy) (attempt : Nat → ScriptedAttempt α) (n : Nat) : Nat :=
  ∑ i ∈ Icc 1 (n - 1), ((attempt i).spent policy + pauseAfter policy i)

theorem begins_succ (policy : ConnectPolicy) (attempt : Nat → ScriptedAttempt α) {n : Nat}
    (first : 1 ≤ n) : begins policy attempt (n + 1) =
      begins policy attempt n + (attempt n).spent policy + pauseAfter policy n := by
  obtain ⟨k, rfl⟩ := Nat.exists_eq_add_of_le' first
  rw [begins, Nat.add_sub_cancel, sum_Icc_succ_top (by omega), begins, Nat.add_sub_cancel,
    Nat.add_assoc]

/-- The time until an attempt is over is that of all attempts so far and of the pauses between
them. -/
theorem begins_add_spent (policy : ConnectPolicy) (attempt : Nat → ScriptedAttempt α) {n : Nat}
    (first : 1 ≤ n) : begins policy attempt n + (attempt n).spent policy =
      ∑ i ∈ Icc 1 n, (attempt i).spent policy + ∑ i ∈ Icc 1 (n - 1), pauseAfter policy i := by
  obtain ⟨k, rfl⟩ := Nat.exists_eq_add_of_le' first
  rw [begins, Nat.add_sub_cancel, sum_add_distrib, sum_Icc_succ_top (by omega), Nat.add_right_comm]

namespace RetryTimeline

/-- How the attempt of a number goes; the last one of a script is repeated. -/
def scripted (t : RetryTimeline α) (fallback : α) (n : Nat) : ScriptedAttempt α :=
  (t.script[min (n - 1) (t.script.length - 1)]?).getD ⟨0, .ok fallback⟩

/-- A timeline whose run is not going to be cancelled. -/
structure Uncancelled (t : RetryTimeline α) : Prop where
  unarmed : t.clock.cancelAt = none
  running : t.clock.cancelled = false

theorem next_eq (t : RetryTimeline α) :
    t.next = { t with script := t.script.drop (min 1 (t.script.length - 1)) } := by
  obtain ⟨clock, script, calls, retries⟩ := t
  match script with
  | [] | [_] => simp [next]
  | _ :: _ :: _ => simp [next]

namespace Uncancelled

variable {t : RetryTimeline α}

/-- Nothing interrupts a wait. -/
theorem wait (h : t.Uncancelled) (ms : Nat) :
    t.wait ms = (true, { t with clock := { t.clock with now := t.clock.now + ms } }) := by
  unfold RetryTimeline.wait span
  by_cases zero : ms = 0
  · simp [zero]
  · simp [zero, Clock.waitUnlessCancelled, Clock.cancellation, h.unarmed]

theorem pause (h : t.Uncancelled) (ms : Nat) :
    t.pause ms = (false, { t with clock := { t.clock with now := t.clock.now + ms } }) := by
  simp [RetryTimeline.pause, h.running, h.wait]

/-- An attempt goes the way that the script says, for as long as it is given. -/
theorem attempt (h : t.Uncancelled) (policy : ConnectPolicy) (fallback : α) (n : UInt32) :
    t.attempt policy.timeoutMs.toNat fallback n = ((t.scripted fallback 1).trial policy,
      { t with
        clock := { t.clock with now := t.clock.now + (t.scripted fallback 1).spent policy }
        script := t.script.drop (min 1 (t.script.length - 1))
        calls := t.calls ++ [(n, t.clock.now)] }) := by
  have upcoming : t.script.head?.getD ⟨0, .ok fallback⟩ = t.scripted fallback 1 := by
    rw [scripted, Nat.sub_self, Nat.zero_min, List.head?_eq_getElem?]
  have begun : ({ t with
      script := t.script.drop (min 1 (t.script.length - 1))
      calls := t.calls ++ [(n, t.clock.now)] } : RetryTimeline α).Uncancelled :=
    ⟨h.unarmed, h.running⟩
  unfold RetryTimeline.attempt
  rw [if_neg (by simp [h.running]), upcoming, next_eq]
  dsimp only
  rw [begun.wait]
  dsimp only
  unfold ScriptedAttempt.trial
  split
  · rfl
  · cases (t.scripted fallback 1).outcome <;> rfl

end Uncancelled

variable {t : RetryTimeline α} {policy : ConnectPolicy} {fallback : α}

/-- What is left after so many attempts, some time after the beginning. -/
structure Reached (t : RetryTimeline α) (policy : ConnectPolicy) (fallback : α) (tries time : Nat)
    (s : RetryTimeline α) : Prop where
  clock : s.clock = { t.clock with now := t.clock.now + time }
  script : s.script = t.script.drop (min tries (t.script.length - 1))
  calls : s.calls = t.calls ++ (List.range' 1 tries).map
    (fun n => (.ofNat n, t.clock.now + begins policy (t.scripted fallback) n))

namespace Reached

theorem start : Reached t policy fallback 0 0 t := ⟨rfl, by simp, by simp⟩

variable {tries time : Nat} {s : RetryTimeline α}

theorem uncancelled (h : Reached t policy fallback tries time s) (going : t.Uncancelled) :
    s.Uncancelled :=
  ⟨h.clock ▸ going.unarmed, h.clock ▸ going.running⟩

theorem upcoming (h : Reached t policy fallback tries time s) :
    s.scripted fallback 1 = t.scripted fallback (tries + 1) := by
  simp [scripted, h.script]

theorem attempt
    (h : Reached t policy fallback tries (begins policy (t.scripted fallback) (tries + 1)) s)
    (going : t.Uncancelled) :
    let scripted := t.scripted fallback (tries + 1)
    let tried := s.attempt policy.timeoutMs.toNat fallback (.ofNat (tries + 1))
    tried.1 = scripted.trial policy ∧
      Reached t policy fallback (tries + 1)
        (begins policy (t.scripted fallback) (tries + 1) + scripted.spent policy) tried.2 := by
  rw [(h.uncancelled going).attempt, h.upcoming]
  refine ⟨rfl, ?_, ?_, ?_⟩
  · simp [h.clock, Nat.add_assoc]
  · dsimp only
    rw [h.script, List.drop_drop, List.length_drop]
    congr 1
    omega
  · simp [h.calls, h.clock, List.range'_concat, Nat.add_comm 1]

theorem pause {ms : Nat} (h : Reached t policy fallback tries time s) (going : t.Uncancelled) :
    let paused := s.pause ms
    paused.1 = false ∧ Reached t policy fallback tries (time + ms) paused.2 := by
  rw [(h.uncancelled going).pause]
  exact ⟨rfl, by simp [h.clock, Nat.add_assoc], h.script, h.calls⟩

/-- What is counted is not looked at. -/
theorem counting {retries : UInt64} (h : Reached t policy fallback tries time s) :
    Reached t policy fallback tries time { s with retries } :=
  ⟨h.clock, h.script, h.calls⟩

end Reached

theorem attempts (fallback : α) (going : t.Uncancelled)
    (room : policy.maxRetries.toNat < 2 ^ 32 - 1) :
    Attempts (Runs.state _) policy (steps policy fallback)
      (fun n => (t.scripted fallback n).verdict policy)
      (fun n => Reached t policy fallback (n - 1) (begins policy (t.scripted fallback) n))
      (fun n => Reached t policy fallback n
        (begins policy (t.scripted fallback) n + (t.scripted fallback n).spent policy)) where
  made n s first _ before := by
    obtain ⟨k, rfl⟩ := Nat.exists_eq_add_of_le' first
    obtain ⟨came, after⟩ := before.attempt going
    exact ⟨(congrArg (Trial.verdict? policy) came).trans (ScriptedAttempt.verdict?_trial ..), after⟩
  again n s first last _ after := by
    have small : n < 2 ^ 32 := by omega
    rw [backoff_ofNat policy small, begins_succ policy _ first]
    exact after.counting.pause going

/-- Attempts are made one after another until one succeeds in time or the retries are used up, with
a pause after each failed one. An attempt is late when it takes longer than the limit, and is given
up then. -/
theorem retry_course (t : RetryTimeline α) (policy : ConnectPolicy) (fallback : α)
    (room : policy.maxRetries.toNat < 2 ^ 32 - 1)
    (unarmed : t.clock.cancelAt = none) (running : t.clock.cancelled = false) :
    let attempt := t.scripted fallback
    let ran := (retry policy (steps policy fallback)).run t
    (∀ (s : RetryTimeline α) (number : UInt32),
      s.clock.cancelAt = none → s.clock.cancelled = false →
      ((s.attempt policy.timeoutMs.toNat fallback number).1 = .overdue ↔
        policy.timeoutMs.toNat < (s.scripted fallback 1).delayMs)) ∧
    ∃ made, 1 ≤ made ∧ made ≤ policy.maxRetries.toNat + 1 ∧
      ran.2.calls = t.calls ++ (List.range' 1 made).map
        (fun n => (.ofNat n, t.clock.now + begins policy attempt n)) ∧
      (∀ n, 1 ≤ n → n < made → ∃ reason, (attempt n).verdict policy = .error reason) ∧
      (match (attempt made).verdict policy with
        | .ok value => ran.1 = .ok ⟨value, .ofNat made⟩
        | .error reason => made = policy.maxRetries.toNat + 1 ∧
          ran.1 = .error (.exhausted (.ofNat made) reason)) ∧
      ran.2.clock.now = t.clock.now +
        (∑ n ∈ Icc 1 made, min (attempt n).delayMs policy.timeoutMs.toNat +
          ∑ i ∈ Icc 1 (made - 1),
            min (policy.backoffBaseMs.toNat * 2 ^ min (i - 1) 16) (2 ^ 64 - 1)) := by
  intro attempt ran
  refine ⟨fun s number unarmed running => ?_, ?_⟩
  · rw [Uncancelled.attempt ⟨unarmed, running⟩]
    exact ScriptedAttempt.overdue_iff ..
  · have going : t.Uncancelled := ⟨unarmed, running⟩
    have none_yet : begins policy attempt 1 = 0 := rfl
    obtain ⟨made, retried⟩ := (attempts fallback going room).retry room
      (by rw [none_yet]; exact .start)
    refine ⟨made, retried.first, retried.last, retried.after.calls, retried.failed,
      retried.result, ?_⟩
    have now : ran.2.clock.now =
        t.clock.now + (begins policy attempt made + (attempt made).spent policy) :=
      congrArg Clock.now retried.after.clock
    rw [now, begins_add_spent policy attempt retried.first]
    rfl

/-- Of three attempts, the first one is late, the second one is refused, and the last one ends at
the very limit. -/
theorem retry_course_third :
    let policy : ConnectPolicy := { timeoutMs := 10, maxRetries := 2, backoffBaseMs := 5 }
    let t : RetryTimeline Nat :=
      { script := [⟨20, .ok 1⟩, ⟨3, .error "connection refused"⟩, ⟨10, .ok 7⟩] }
    let ran := (retry policy (steps policy 0)).run t
    ran.1 = .ok ⟨7, 3⟩ ∧ ran.2.calls = [(1, 0), (2, 15), (3, 28)] ∧ ran.2.clock.now = 38 := by
  intro policy t ran
  obtain ⟨-, made, first, last, calls, failed, result, now⟩ :=
    retry_course t policy 0 (by decide) rfl rfl
  have last : made ≤ 3 := last
  obtain rfl | rfl | rfl : made = 1 ∨ made = 2 ∨ made = 3 := by omega
  · exact absurd result.1 (by decide)
  · exact absurd result.1 (by decide)
  · exact ⟨result, calls, now⟩

end RetryTimeline

end Testbed.Simulation
