import Testbed.Proofs.Result.Journey

/-!
# The history of a result

A result is moved through statuses and placed in environments by any calls at any times. A call that
is refused changes nothing. There is only so far to go: five statuses can be set at the most, and
the last of them is final, together with the time that was spent running.
-/
namespace Testbed

namespace TestStatus

variable {requeued : Bool} {s next : TestStatus}

/-- How many more statuses can be set. -/
def stepsLeft (requeued : Bool) : TestStatus → Nat
  | queued => if requeued then 3 else 5
  | assigned => if requeued then 2 else 4
  | running => 1
  | failed | passed | skipped | attempted => 0

theorem stepsLeft_lt (allowed : s.canBecome requeued next = true) :
    next.stepsLeft (requeued || next == queued) < s.stepsLeft requeued := by
  revert allowed
  cases s <;> cases next <;> cases requeued <;> decide

theorem assigned_of_canBecome_running (allowed : s.canBecome requeued running = true) :
    s = assigned := by
  cases s with
  | assigned => rfl
  | queued | running | failed | passed | skipped | attempted => cases allowed

theorem canBecome_of_isCompleted (completed : s.isCompleted = true) :
    s.canBecome requeued next = false := by
  cases s with
  | failed | passed | skipped | attempted => rfl
  | queued | assigned | running => cases completed

/-- Whether a result has not been set running yet. -/
def isWaiting : TestStatus → Bool
  | queued | assigned => true
  | running | failed | passed | skipped | attempted => false

theorem isWaiting_of_canBecome (allowed : s.canBecome requeued next = true)
    (waiting : next.isWaiting = true) : s.isWaiting = true := by
  cases s with
  | queued | assigned => rfl
  | running => cases next <;> cases allowed <;> cases waiting
  | failed | passed | skipped | attempted => cases allowed

end TestStatus

namespace TestResult

/-- A call that changes a result. -/
inductive Change where
  | setStatus (next : TestStatus) (message : String)
  | setEnvironment (metadata : Facts)
  deriving DecidableEq

/-- A call that was made: when, what it returned, the result before and after it, and the events
that it emitted. -/
structure Entry where
  now : Nat
  change : Change
  before : TestResult
  returned : Except ResultError Unit
  after : TestResult
  events : List Event

/-- The status that a call has set. -/
def Entry.entered (e : Entry) : Option TestStatus :=
  match e.change, e.returned with
  | .setStatus next _, .ok () => some next
  | _, _ => none

/-- Whether a call has taken the step back to the queue. -/
def Entry.requeues (e : Entry) : Bool := e.before.status = .assigned ∧ e.entered = some .queued

theorem Entry.requeues_iff (e : Entry) :
    e.requeues = true ↔ e.before.status = .assigned ∧ e.entered = some .queued := decide_eq_true_iff

/-- Make a call. -/
def make (r : TestResult) (now : Nat) (change : Change) : Entry :=
  match change with
  | .setStatus next message =>
    match r.setStatus now next message with
    | .ok (after, event) =>
      { now, change, before := r, returned := .ok (), after, events := [event] }
    | .error error =>
      { now, change, before := r, returned := .error error, after := r, events := [] }
  | .setEnvironment metadata =>
    let after := r.setEnvironment metadata
    { now, change, before := r, returned := .ok (), after, events := [] }

/-- Make calls, each after some time. -/
def history (r : TestResult) (now : Nat) : List (Nat × Change) → List Entry
  | [] => []
  | (wait, change) :: rest =>
    let entry := r.make (now + wait) change
    entry :: entry.after.history (now + wait) rest

/-- What a call can do. -/
inductive Made (r : TestResult) (now : Nat) : Entry → Prop where
  | placed (metadata : Facts) : Made r now {
      now, change := .setEnvironment metadata, before := r, returned := .ok ()
      after := r.setEnvironment metadata, events := [] }
  | refused {next : TestStatus} {message : String} {error : ResultError}
      (not : r.setStatus now next message = .error error) : Made r now {
      now, change := .setStatus next message, before := r, returned := .error error, after := r
      events := [] }
  | moved {next : TestStatus} {message : String} {after : TestResult}
      (moved : Moved r now next message after) : Made r now {
      now, change := .setStatus next message, before := r, returned := .ok (), after
      events := [.resultStatusChanged r.id r.name r.status next] }

theorem make_made (r : TestResult) (now : Nat) (change : Change) :
    Made r now (r.make now change) := by
  cases change with
  | setEnvironment metadata => exact .placed metadata
  | setStatus next message =>
    cases allowed : r.status.canBecome r.requeued next with
    | true =>
      obtain ⟨after, set, moved⟩ := setStatus_moved r now next message allowed
      simp only [make, set]
      exact .moved moved
    | false =>
      have refused := setStatus_refused r now next message allowed
      simp only [make, refused]
      exact .refused refused

/-- A result after some calls, from another one on. -/
inductive Reaches (r : TestResult) (now : Nat) : List Entry → TestResult → Nat → Prop where
  | nothing : Reaches r now [] r now
  | more {past : List Entry} {r' : TestResult} {now' later : Nat} {e : Entry}
    (reached : Reaches r now past r' now') (passed : now' ≤ later) (made : Made r' later e) :
    Reaches r now (past ++ [e]) e.after later

section Reaches

variable {r r' : TestResult} {now now' : Nat} {past later : List Entry} {e : Entry}

theorem Reaches.history (reached : Reaches r now past r' now') (calls : List (Nat × Change)) :
    ∃ last until', Reaches r now (past ++ r'.history now' calls) last until' := by
  induction calls generalizing past r' now' with
  | nil => exact ⟨r', now', by rwa [TestResult.history, List.append_nil]⟩
  | cons call calls ih =>
    obtain ⟨wait, change⟩ := call
    rw [TestResult.history, List.append_cons]
    exact ih (reached.more (Nat.le_add_right _ wait) (make_made _ _ change))

theorem history_reaches (r : TestResult) (now : Nat) (calls : List (Nat × Change)) :
    ∃ last until', Reaches r now (r.history now calls) last until' :=
  Reaches.nothing.history calls

/-- Each entry of a history is of a call that was made on the result that the ones before it had
reached, and the ones after it go on from there. -/
theorem Reaches.history_split {before : List Entry} (reached : Reaches r now before r' now')
    {calls : List (Nat × Change)} (split : r'.history now' calls = past ++ e :: later) :
    ∃ middle now'' moment rest, Reaches r now (before ++ past) middle now'' ∧ now'' ≤ moment ∧
      Made middle moment e ∧ later = e.after.history moment rest := by
  induction past generalizing before r' now' calls with
  | nil =>
    cases calls with
    | nil => cases split
    | cons call calls =>
      obtain ⟨wait, change⟩ := call
      obtain ⟨rfl, rfl⟩ := List.cons.inj split
      rw [List.append_nil]
      exact ⟨r', now', now' + wait, calls, reached, Nat.le_add_right _ _, make_made _ _ change, rfl⟩
  | cons first past ih =>
    cases calls with
    | nil => cases split
    | cons call calls =>
      obtain ⟨wait, change⟩ := call
      obtain ⟨rfl, rest⟩ := List.cons.inj split
      rw [List.append_cons]
      exact ih (reached.more (Nat.le_add_right _ wait) (make_made _ _ change)) rest

/-- Every status that is set takes one of the steps that are left. -/
theorem Made.stepsLeft_le (made : Made r now e) :
    (if e.entered.isSome then 1 else 0) + e.after.status.stepsLeft e.after.requeued ≤
      r.status.stepsLeft r.requeued := by
  cases made with
  | placed metadata => exact Nat.le_of_eq (Nat.zero_add _)
  | refused not => exact Nat.le_of_eq (Nat.zero_add _)
  | moved moved =>
    have less := TestStatus.stepsLeft_lt moved.allowed
    rw [← moved.requeued, ← moved.status] at less
    exact Nat.one_add_le_iff.2 less

theorem Made.status_of_entered (made : Made r now e) {next : TestStatus}
    (entered : e.entered = some next) : e.after.status = next := by
  cases made with
  | placed metadata => cases entered
  | refused not => cases entered
  | moved moved =>
    obtain rfl := Option.some.inj entered
    exact moved.status

theorem Reaches.count_entered (reached : Reaches r now past r' now') :
    past.countP (·.entered.isSome) + r'.status.stepsLeft r'.requeued ≤
      r.status.stepsLeft r.requeued := by
  induction reached with
  | nothing => exact Nat.le_of_eq (Nat.zero_add _)
  | more _ _ made ih =>
    have step := made.stepsLeft_le
    rw [List.countP_append, List.countP_singleton]
    omega

/-- Taking the step back to the queue uses it up. -/
theorem Made.requeued_eq (made : Made r now e) :
    e.after.requeued.toNat = (if e.requeues then 1 else 0) + r.requeued.toNat := by
  cases made with
  | placed metadata => simp [Entry.requeues, Entry.entered, setEnvironment]
  | refused not => simp [Entry.requeues, Entry.entered]
  | @moved next message after moved =>
    have allowed := moved.allowed
    by_cases back : next = .queued
    · subst back
      have assigned := TestStatus.assigned_of_canBecome_queued allowed
      rw [assigned] at allowed
      have unused : r.requeued = false := by simpa [TestStatus.canBecome] using allowed
      simp [Entry.requeues, Entry.entered, moved.requeued, assigned, unused]
    · simp [Entry.requeues, Entry.entered, moved.requeued, back, beq_false_of_ne back]

theorem Reaches.count_requeues (reached : Reaches r now past r' now') :
    r'.requeued.toNat = past.countP Entry.requeues + r.requeued.toNat := by
  induction reached with
  | nothing => exact (Nat.zero_add _).symm
  | more _ _ made ih =>
    rw [made.requeued_eq, ih, List.countP_append, List.countP_singleton]
    omega

/-- What a call returns, does and emits. -/
structure Entry.Honest (e : Entry) : Prop where
  refused : ∀ error, e.returned = .error error → e.after = e.before ∧ e.events = []
  accepted : ∀ next message, e.change = .setStatus next message → e.returned = .ok () →
    e.after.status = next ∧ e.after.message = message ∧
    e.events = [.resultStatusChanged e.after.id e.after.name e.before.status next]
  placed : ∀ metadata, e.change = .setEnvironment metadata →
    e.returned = .ok () ∧ e.after = { e.before with environment := some metadata } ∧ e.events = []
  requeued : e.requeues = true → e.after.environment = none

theorem Made.honest (made : Made r now e) : e.Honest := by
  cases made with
  | placed metadata =>
    refine ⟨nofun, nofun, ?_, by simp [Entry.requeues, Entry.entered]⟩
    rintro attached ⟨⟩
    exact ⟨rfl, rfl, rfl⟩
  | refused not =>
    exact ⟨fun _ _ => ⟨rfl, rfl⟩, nofun, nofun, by simp [Entry.requeues, Entry.entered]⟩
  | moved moved =>
    refine ⟨nofun, ?_, nofun, ?_⟩
    · rintro next message ⟨⟩ -
      exact ⟨moved.status, moved.message, by rw [moved.id, moved.name]⟩
    · intro back
      exact moved.environment.trans (if_pos (Option.some.inj ((Entry.requeues_iff _).1 back).2))

/-- A completed result and what it becomes. -/
structure Settled (r r' : TestResult) : Prop where
  status : r'.status = r.status
  message : r'.message = r.message
  requeued : r'.requeued = r.requeued
  spent : r'.spent = r.spent

theorem Settled.refl (r : TestResult) : Settled r r := ⟨rfl, rfl, rfl, rfl⟩

theorem Settled.trans {r'' : TestResult} (first : Settled r r') (rest : Settled r' r'') :
    Settled r r'' where
  status := rest.status.trans first.status
  message := rest.message.trans first.message
  requeued := rest.requeued.trans first.requeued
  spent := rest.spent.trans first.spent

theorem Made.settled (made : Made r now e) (completed : r.status.isCompleted = true) :
    Settled r e.after := by
  cases made with
  | placed metadata => exact ⟨rfl, rfl, rfl, rfl⟩
  | refused not => exact ⟨rfl, rfl, rfl, rfl⟩
  | moved moved =>
    have allowed := moved.allowed
    rw [TestStatus.canBecome_of_isCompleted completed] at allowed
    cases allowed

/-- Nothing changes any more once a result is completed, except for where it is. -/
theorem Reaches.settled (reached : Reaches r now past r' now')
    (completed : r.status.isCompleted = true) :
    (∀ e ∈ past, Settled r e.after) ∧ Settled r r' := by
  induction reached with
  | nothing => exact ⟨List.forall_mem_nil _, .refl r⟩
  | more _ _ made ih =>
    obtain ⟨before, last⟩ := ih
    have next := last.trans (made.settled (by rw [last.status, completed]))
    exact ⟨List.forall_mem_append.2 ⟨before, List.forall_mem_singleton.2 next⟩, next⟩

/-- What the clock of a result says about the calls so far. -/
structure Clocked (past : List Entry) (now : Nat) (r : TestResult) : Prop where
  past_le : ∀ e ∈ past, e.now ≤ now
  started : ∀ e ∈ past, e.entered = some .running → r.started = some e.now
  ran : r.started ≠ none → ∃ e ∈ past, e.entered = some .running
  waiting : r.status.isWaiting = true → r.started = none

theorem Clocked.le_append (clocked : Clocked past now r) (passed : now ≤ e.now) :
    ∀ e' ∈ past ++ [e], e'.now ≤ e.now :=
  List.forall_mem_append.2 ⟨fun e' member => Nat.le_trans (clocked.past_le e' member) passed,
    List.forall_mem_singleton.2 (Nat.le_refl _)⟩

/-- The clock goes on unless a call sets the result running. -/
theorem Clocked.keep (clocked : Clocked past now r) (passed : now ≤ e.now)
    (other : e.entered ≠ some .running) (kept : r'.started = r.started)
    (waits : r'.status.isWaiting = true → r.status.isWaiting = true) :
    Clocked (past ++ [e]) e.now r' where
  past_le := clocked.le_append passed
  started := by
    rw [kept]
    exact List.forall_mem_append.2
      ⟨clocked.started, List.forall_mem_singleton.2 (fun entered => absurd entered other)⟩
  ran := by
    rw [kept]
    intro started
    obtain ⟨start, member, entered⟩ := clocked.ran started
    exact ⟨start, List.mem_append_left _ member, entered⟩
  waiting := by
    rw [kept]
    exact fun waiting => clocked.waiting (waits waiting)

theorem Clocked.step (clocked : Clocked past now r) (passed : now ≤ now') (made : Made r now' e) :
    Clocked (past ++ [e]) now' e.after := by
  cases made with
  | placed metadata => exact clocked.keep passed nofun rfl (fun waiting => waiting)
  | refused not => exact clocked.keep passed nofun rfl (fun waiting => waiting)
  | @moved next message after moved =>
    by_cases running : next = .running
    · -- it was assigned before, so the clock starts for the first time
      subst running
      have assigned := TestStatus.assigned_of_canBecome_running moved.allowed
      have unstarted : r.started = none := clocked.waiting (by rw [assigned]; rfl)
      have started : after.started = some now' := moved.started
      constructor
      case past_le => exact clocked.le_append passed
      case started =>
        refine List.forall_mem_append.2 ⟨fun e' member entered => ?_, ?_⟩
        · have before := clocked.started e' member entered
          rw [unstarted] at before
          cases before
        · exact List.forall_mem_singleton.2 (fun _ => started)
      case ran => exact fun _ => ⟨_, List.mem_append_right _ (List.mem_singleton_self _), rfl⟩
      case waiting =>
        intro waiting
        rw [moved.status] at waiting
        cases waiting
    · refine clocked.keep passed (fun entered => running (Option.some.inj entered)) ?_ ?_
      · rw [moved.started, if_neg running]
      · rw [moved.status]
        exact TestStatus.isWaiting_of_canBecome moved.allowed

theorem Reaches.clocked (reached : Reaches r now past r' now') (unstarted : r.started = none) :
    Clocked past now' r' := by
  induction reached with
  | nothing =>
    exact ⟨List.forall_mem_nil _, List.forall_mem_nil _, fun started => absurd unstarted started,
      fun _ => unstarted⟩
  | more _ passed made ih => exact ih.step passed made

/-- The time that was spent when a result is completed. -/
theorem Clocked.spent (clocked : Clocked past now r) (passed : now ≤ now') (made : Made r now' e)
    {final : TestStatus} (entered : e.entered = some final) (completed : final.isCompleted = true) :
    ∃ spent, e.after.spent = some spent ∧
      (∀ start ∈ past, start.entered = some .running →
        start.now ≤ e.now ∧ spent = e.now - start.now) ∧
      ((∀ earlier ∈ past, earlier.entered ≠ some .running) → spent = 0) := by
  cases made with
  | placed metadata => cases entered
  | refused not => cases entered
  | moved moved =>
    obtain rfl := Option.some.inj entered
    have started := moved.started
    rw [if_neg (by rintro rfl; cases completed)] at started
    refine ⟨_, moved.spent.trans (if_pos completed), ?ran, fun never => ?never⟩
    case ran =>
      intro start member entered
      refine ⟨Nat.le_trans (clocked.past_le start member) passed, ?_⟩
      rw [started, clocked.started start member entered]
      rfl
    case never =>
      have unstarted : r.started = none := by
        refine Decidable.of_not_not (fun ran => ?_)
        obtain ⟨start, member, entered⟩ := clocked.ran ran
        exact never start member entered
      rw [started, unstarted]
      rfl

end Reaches

theorem elapsed_of_spent {r : TestResult} {spent : Nat} (h : r.spent = some spent) (now : Nat) :
    r.elapsed now = spent := by
  unfold elapsed
  rw [h]

/-- Whatever calls are made on a fresh result, and however much time there is between them: at most
five statuses are set, and the step back to the queue is taken at most once; a refused call changes
nothing and emits nothing, an accepted one stores its message and emits one event with the statuses
before and after; a placement attaches its metadata and does nothing else, and the environment is
forgotten with the step back to the queue. From the first final
status on, nothing changes but the environment, and the time is that since the result was set
running, or none if it was not. -/
theorem history_course (id name suiteName message : String) (stacktrace : Option String)
    (information : Facts) (now : Nat) (calls : List (Nat × Change)) :
    let fresh : TestResult := { id, name, suiteName, message, stacktrace, information }
    let entries := fresh.history now calls
    entries.countP (·.entered.isSome) ≤ 5 ∧ entries.countP Entry.requeues ≤ 1 ∧
    (∀ e ∈ entries, e.Honest) ∧
    ∀ past stop later final, entries = past ++ stop :: later → stop.entered = some final →
      final.isCompleted = true → ∃ spent,
        (∀ start ∈ past, start.entered = some .running →
          start.now ≤ stop.now ∧ spent = stop.now - start.now) ∧
        ((∀ e ∈ past, e.entered ≠ some .running) → spent = 0) ∧
        ∀ e ∈ stop :: later, e.after.status = final ∧ e.after.message = stop.after.message ∧
          e.after.requeued = stop.after.requeued ∧ ∀ moment, e.after.elapsed moment = spent ∧
            e.after.elapsedSeconds moment = stop.after.elapsedSeconds stop.now := by
  intro fresh entries
  obtain ⟨last, until', reached⟩ := history_reaches fresh now calls
  refine ⟨?steps, ?requeues, ?honest, ?final⟩
  case steps => exact Nat.le_trans (Nat.le_add_right _ _) reached.count_entered
  case requeues =>
    have counted : last.requeued.toNat = entries.countP Entry.requeues := reached.count_requeues
    rw [← counted]
    exact Bool.toNat_le last.requeued
  case honest =>
    intro e member
    obtain ⟨past, later, split⟩ := List.append_of_mem member
    obtain ⟨_, _, _, _, -, -, made, -⟩ := Reaches.nothing.history_split split
    exact made.honest
  case final =>
    intro past stop later final split entered completed
    obtain ⟨middle, now', moment, rest, before, passed, made, rfl⟩ :=
      Reaches.nothing.history_split split
    obtain ⟨spent, isSpent, ran, never⟩ :=
      (before.clocked rfl).spent passed made entered completed
    have status : stop.after.status = final := made.status_of_entered entered
    obtain ⟨_, _, onward⟩ := history_reaches stop.after moment rest
    obtain ⟨settled, -⟩ := onward.settled (by rw [status, completed])
    refine ⟨spent, ran, never, fun e member => ?_⟩
    have same : Settled stop.after e.after := by
      obtain rfl | member := List.mem_cons.1 member
      · exact .refl e.after
      · exact settled e member
    have time := elapsed_of_spent (same.spent.trans isSpent)
    refine ⟨same.status.trans status, same.message, same.requeued, fun moment => ⟨time moment, ?_⟩⟩
    rw [elapsedSeconds, elapsedSeconds, time, elapsed_of_spent isSpent]

/-- The longest way: back to the queue once, and not twice; running for forty nanoseconds, and then
passed for good. -/
theorem history_course_longest :
    let calls : List (Nat × Change) := [
      (1, .setStatus .assigned ""), (2, .setStatus .queued "no room"), (3, .setStatus .assigned ""),
      (1, .setStatus .queued "again"), (5, .setStatus .running ""), (7, .setEnvironment ∅),
      (33, .setStatus .passed "done"), (5, .setStatus .failed "late"), (5, .setEnvironment ∅)]
    let entries := ({ id := "r-0", name := "boot" } : TestResult).history 100 calls
    entries.map Entry.entered = [some .assigned, some .queued, some .assigned, none, some .running,
      none, some .passed, none, none] ∧
    ∀ e ∈ entries.drop 6, e.after.status = .passed ∧ e.after.message = "done" ∧
      ∀ moment, e.after.elapsed moment = 40 := by
  intro calls entries
  have entered : entries.map Entry.entered = [some .assigned, some .queued, some .assigned, none,
      some .running, none, some .passed, none, none] := by rfl
  have long : entries.length = 9 := by rfl
  have split : entries = entries.take 6 ++ entries[6] :: entries.drop 7 :=
    (List.take_append_drop 6 entries).symm.trans (congrArg _ (List.drop_eq_getElem_cons _))
  obtain ⟨-, -, -, final⟩ := history_course "r-0" "boot" "" "" none ∅ 100 calls
  obtain ⟨spent, ran, -, settled⟩ := final _ _ _ .passed split rfl rfl
  have running : entries[4] ∈ entries.take 6 := List.mem_take_iff_getElem.2 ⟨4, by omega, rfl⟩
  obtain ⟨-, rfl⟩ := ran _ running rfl
  refine ⟨entered, fun e member => ?_⟩
  rw [List.drop_eq_getElem_cons (by omega)] at member
  obtain ⟨status, message, -, time⟩ := settled e member
  exact ⟨status, message, fun moment => (time moment).1⟩

end TestResult

end Testbed
