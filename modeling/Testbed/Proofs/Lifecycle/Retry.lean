import Mathlib.Algebra.Group.Nat.Defs
import Testbed.Lifecycle.Retry
import Testbed.Program

/-!
# The course of retrying

Retrying makes attempts numbered 1, 2, 3, … until one succeeds or there is no retry left. This holds
in every monad whose computations run on a state, so what a retried operation needs to say is how
each of its attempts comes out and what it leaves behind, and that no pause is cancelled.
-/
namespace Testbed

/-- A way to run the computations of a monad on a state. -/
structure Runs (m : Type → Type) [Monad m] (σ : Type) where
  run : {α : Type} → m α → σ → α × σ
  run_pure : ∀ {α : Type} (a : α) (s : σ), run (pure a) s = (a, s)
  run_bind : ∀ {α β : Type} (x : m α) (f : α → m β) (s : σ),
    run (x >>= f) s = run (f (run x s).1) (run x s).2

namespace Runs

/-- Stateful computations run as they are. -/
def state (σ : Type) : Runs (StateM σ) σ where
  run x s := x s
  run_pure _ _ := rfl
  run_bind _ _ _ := rfl

/-- Programs run in surroundings. -/
def program {σ ω Request : Type} {Reply : Request → Type}
    (answer : (r : Request) → σ → ω → Reply r × σ × ω) :
    Runs (Program σ Request Reply) (σ × ω) where
  run p s := p.run answer s.1 s.2
  run_pure _ _ := rfl
  run_bind p f s := Program.run_bind answer p f s.1 s.2

end Runs

variable {m : Type → Type} [Monad m] {σ α : Type}

/-- How an attempt comes out for retrying, which takes a late one for a failure; a cancelled one
does not come out. -/
def Trial.verdict? (policy : ConnectPolicy) : Trial α → Option (Except String α)
  | .succeeded value => some (.ok value)
  | .failed reason => some (.error reason)
  | .overdue => some (.error policy.overdueReason)
  | .cancelled => none

/-- Attempts that each come out in some way, and are not cancelled: `Before n` holds before the
attempt of number `n`, and `After n` after it. -/
structure Attempts (runs : Runs m σ) (policy : ConnectPolicy) (steps : RetrySteps m α)
    (verdict : Nat → Except String α) (Before After : Nat → σ → Prop) : Prop where
  made : ∀ n s, 1 ≤ n → n ≤ policy.maxRetries.toNat + 1 → Before n s →
    let tried := runs.run (steps.attempt (.ofNat n)) s
    tried.1.verdict? policy = some (verdict n) ∧ After n tried.2
  again : ∀ n s, 1 ≤ n → n ≤ policy.maxRetries.toNat → (∃ reason, verdict n = .error reason) →
    After n s →
    let noted := runs.run steps.retrying s
    let paused := runs.run (steps.pause (policy.backoff (.ofNat n))) noted.2
    paused.1 = false ∧ Before (n + 1) paused.2

/-- Retrying is over after so many attempts: all but the last one failed, and it gives the value of
that one, or the reason why it failed if there was no retry left. -/
structure Retried (policy : ConnectPolicy) (verdict : Nat → Except String α)
    (After : Nat → σ → Prop) (made : Nat) (ran : Except RetryError (Attempted α) × σ) : Prop where
  first : 1 ≤ made
  last : made ≤ policy.maxRetries.toNat + 1
  failed : ∀ n, 1 ≤ n → n < made → ∃ reason, verdict n = .error reason
  after : After made ran.2
  result : match verdict made with
    | .ok value => ran.1 = .ok ⟨value, .ofNat made⟩
    | .error reason => made = policy.maxRetries.toNat + 1 ∧
      ran.1 = .error (.exhausted (.ofNat made) reason)

namespace Attempts

variable {runs : Runs m σ} {policy : ConnectPolicy} {steps : RetrySteps m α}
  {verdict : Nat → Except String α} {Before After : Nat → σ → Prop}

/-- An attempt succeeds, or what is to be done after a failure is done. -/
theorem tryOnce (attempts : Attempts runs policy steps verdict Before After) {n : Nat} {s : σ}
    (first : 1 ≤ n) (last : n ≤ policy.maxRetries.toNat + 1) (before : Before n s)
    (afterFailure : String → m (Except RetryError (Attempted α))) :
    ∃ t, After n t ∧ runs.run (Testbed.tryOnce policy steps (.ofNat n) afterFailure) s =
      match verdict n with
      | .ok value => (.ok ⟨value, .ofNat n⟩, t)
      | .error reason => runs.run (afterFailure reason) t := by
  obtain ⟨came, after⟩ := attempts.made n s first last before
  refine ⟨_, after, ?_⟩
  rw [Testbed.tryOnce, runs.run_bind]
  generalize runs.run (steps.attempt (.ofNat n)) s = tried at came
  obtain ⟨trial, t⟩ := tried
  cases trial with
  | succeeded value =>
    rw [← Option.some.inj came]
    exact runs.run_pure _ _
  | failed reason | overdue => rw [← Option.some.inj came]
  | cancelled => cases came

/-- Retrying from some attempt on, when all earlier ones have failed. -/
theorem retryFrom (attempts : Attempts runs policy steps verdict Before After)
    (room : policy.maxRetries.toNat < 2 ^ 32 - 1) {n : Nat} {s : σ} (retries : Nat)
    (first : 1 ≤ n) (last : n + retries = policy.maxRetries.toNat + 1)
    (before : Before n s) (failed : ∀ k, 1 ≤ k → k < n → ∃ reason, verdict k = .error reason) :
    ∃ made, Retried policy verdict After made
      (runs.run (Testbed.retryFrom policy steps (.ofNat n) retries) s) := by
  induction retries generalizing n s with
  | zero =>
    obtain ⟨t, after, ran⟩ := attempts.tryOnce first (by omega) before
      (fun reason => return .error (.exhausted (.ofNat n) reason))
    refine ⟨n, ?_⟩
    rw [Testbed.retryFrom, ran]
    cases came : verdict n with
    | ok value => exact ⟨first, by omega, failed, after, by rw [came]⟩
    | error reason =>
      dsimp only
      rw [runs.run_pure]
      exact ⟨first, by omega, failed, after, by rw [came]; exact ⟨by omega, rfl⟩⟩
  | succ retries ih =>
    obtain ⟨t, after, ran⟩ := attempts.tryOnce first (by omega) before (fun _ => do
      steps.retrying
      if ← steps.pause (policy.backoff (.ofNat n)) then return .error .cancelled
      else Testbed.retryFrom policy steps (← addCounts steps.overflow (.ofNat n) 1) retries)
    rw [Testbed.retryFrom, ran]
    cases came : verdict n with
    | ok value => exact ⟨n, first, by omega, failed, after, by rw [came]⟩
    | error reason =>
      obtain ⟨going, next⟩ := attempts.again n t first (by omega) ⟨reason, came⟩ after
      have failed (k : Nat) (one : 1 ≤ k) (below : k < n + 1) :
          ∃ reason, verdict k = .error reason := by
        rcases Nat.lt_succ_iff_lt_or_eq.1 below with earlier | rfl
        · exact failed k one earlier
        · exact ⟨reason, came⟩
      have small : n < 2 ^ 32 := by omega
      have fits : (UInt32.ofNat n).toNat + (1 : UInt32).toNat < 2 ^ 32 := by
        rw [UInt32.toNat_ofNat_of_lt' small, UInt32.toNat_one]
        omega
      obtain ⟨made, retried⟩ := ih (by omega) (by omega) next failed
      refine ⟨made, ?_⟩
      dsimp only
      rw [runs.run_bind, runs.run_bind, going, if_neg Bool.false_ne_true,
        addCounts_of_fits fits, runs.run_bind, runs.run_pure]
      have same : (UInt32.ofNat n + 1) = .ofNat (n + 1) := by simp
      rw [same]
      exact retried

/-- Retrying ends with the first attempt that succeeds, or with the last one. -/
theorem retry (attempts : Attempts runs policy steps verdict Before After)
    (room : policy.maxRetries.toNat < 2 ^ 32 - 1) {s : σ} (before : Before 1 s) :
    ∃ made, Retried policy verdict After made (runs.run (Testbed.retry policy steps) s) := by
  have fits : policy.maxRetries.toNat + (1 : UInt32).toNat < 2 ^ 32 := by
    rw [UInt32.toNat_one]
    omega
  have allowed : (policy.maxRetries + 1).toNat = policy.maxRetries.toNat + 1 := by
    rw [UInt32.toNat_add]
    exact Nat.mod_eq_of_lt fits
  rw [Testbed.retry, addCounts_of_fits fits, runs.run_bind, runs.run_pure]
  dsimp only
  rw [allowed, Nat.add_sub_cancel]
  have none_yet (k : Nat) (one : 1 ≤ k) (below : k < 1) : ∃ reason, verdict k = .error reason :=
    absurd one (Nat.not_le.2 below)
  exact attempts.retryFrom room (n := 1) _ (Nat.le_refl 1) (Nat.add_comm ..) before none_yet

end Attempts

end Testbed
