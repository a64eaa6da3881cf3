import Testbed.Result.Outcome
import Testbed.Result.TestResult

/-!
# The journey of a result

A result goes from status to status, and each step is told in a message that shows the result as it
is right after it. The steps are those that are allowed; the step back to the queue is there once.
-/
namespace Testbed

namespace Outcome

theorem occursIn_iff (pattern text : List Char) :
    occursIn pattern text = true ↔ pattern <:+: text := by
  induction text with
  | nil => simp [occursIn]
  | cons c rest ih =>
    unfold occursIn
    rw [Bool.or_eq_true, List.isPrefixOf_iff_prefix, ih, List.infix_cons_iff]

/-- Every failure counts as skipped or as failed. -/
theorem status_cases (outcome : Outcome) :
    outcome.status = .skipped ∨ outcome.status = .failed := by
  cases outcome with
  | skipped reason => exact .inl rfl
  | failed message => exact .inr rfl

/-- The failures that count as skipped are those with one of the fixed texts in them. -/
theorem ofFailure_skipped_iff (text : String) :
    (ofFailure text).status = .skipped ↔
      ∃ pattern ∈ skipPatterns, pattern.1.toList <:+: text.toList := by
  unfold ofFailure
  cases found : skipPatterns.find? (fun pattern => occursIn pattern.1.toList text.toList) with
  | some pattern =>
    have member : pattern ∈ skipPatterns := List.mem_of_find?_eq_some found
    have occurs := List.find?_some found
    rw [occursIn_iff] at occurs
    exact ⟨fun _ => ⟨pattern, member, occurs⟩, fun _ => rfl⟩
  | none =>
    refine ⟨nofun, ?_⟩
    rintro ⟨pattern, member, occurs⟩
    have absent := List.find?_eq_none.1 found pattern member
    rw [occursIn_iff] at absent
    exact absurd occurs absent

end Outcome

theorem TestStatus.assigned_of_canBecome_queued {requeued : Bool} {s : TestStatus}
    (allowed : s.canBecome requeued .queued = true) : s = .assigned := by
  cases s with
  | assigned => rfl
  | queued | running | failed | passed | skipped | attempted => cases allowed

namespace TestResult

/-- What setting a status does. -/
structure Moved (r : TestResult) (now : Nat) (next : TestStatus) (message : String)
    (r' : TestResult) : Prop where
  allowed : r.status.canBecome r.requeued next = true
  id : r'.id = r.id
  name : r'.name = r.name
  status : r'.status = next
  message : r'.message = message
  requeued : r'.requeued = (r.requeued || next == .queued)
  environment : r'.environment = if next = .queued then none else r.environment
  started : r'.started = if next = .running then some now else r.started
  spent : r'.spent = if next.isCompleted then some (r'.started.elim 0 (now - ·)) else r.spent

theorem setStatus_moved (r : TestResult) (now : Nat) (next : TestStatus) (message : String)
    (allowed : r.status.canBecome r.requeued next = true) :
    ∃ r', r.setStatus now next message =
        .ok (r', .resultStatusChanged r.id r.name r.status next) ∧ Moved r now next message r' := by
  have requeuing : (r.status = .assigned ∧ next = .queued) ↔ next = .queued :=
    and_iff_right_of_imp fun back => TestStatus.assigned_of_canBecome_queued (back ▸ allowed)
  unfold setStatus
  rw [allowed]
  refine ⟨_, rfl, ?_⟩
  constructor
  case allowed => exact allowed
  case requeued => simp only [requeuing]; rfl
  case environment => simp only [requeuing]
  all_goals rfl

/-- The status and the use of the one step back to the queue, after an allowed step. -/
theorem setStatus_ok (r : TestResult) (now : Nat) (next : TestStatus) (message : String)
    (allowed : r.status.canBecome r.requeued next = true) :
    ∃ r' event, r.setStatus now next message = .ok (r', event) ∧ r'.status = next ∧
      r'.requeued = (r.requeued || next == .queued) := by
  obtain ⟨r', set, moved⟩ := setStatus_moved r now next message allowed
  exact ⟨r', _, set, moved.status, moved.requeued⟩

theorem setStatus_refused (r : TestResult) (now : Nat) (next : TestStatus) (message : String)
    (refused : r.status.canBecome r.requeued next = false) :
    r.setStatus now next message = .error (.invalidTransition r.name r.status next) := by
  unfold setStatus
  rw [refused]
  rfl

/-- Messages that tell of each step of a result on its way, in order, and of nothing else. Where the
result is run may be noted at any time. -/
inductive Told : TestResult → List TestResultMessage → TestResult → Prop where
  | nothing (r : TestResult) : Told r [] r
  | moved {r r' last : TestResult} {now : Nat} {next : TestStatus} {message : String}
    {event : Event} {messages : List TestResultMessage} (wall : Timestamp)
    (step : r.setStatus now next message = .ok (r', event)) (rest : Told r' messages last) :
    Told r (r'.toMessage wall now :: messages) last
  | placed {r last : TestResult} {messages : List TestResultMessage} (metadata : Facts)
    (rest : Told (r.setEnvironment metadata) messages last) : Told r messages last

theorem Told.trans {r middle last : TestResult} {messages more : List TestResultMessage}
    (first : Told r messages middle) (rest : Told middle more last) :
    Told r (messages ++ more) last := by
  induction first with
  | nothing _ => exact rest
  | moved wall step _ ih => exact .moved wall step (ih rest)
  | placed metadata _ ih => exact .placed metadata (ih rest)

end TestResult

end Testbed
