import Testbed.Lifecycle.CaseRunner
import Testbed.Proofs.Lifecycle.Journal
import Testbed.Proofs.Lifecycle.Traffic
import Testbed.Proofs.Result.Journey

/-!
# The protocol of cases

What a case tells on its way from the queue to its final status, whatever it is answered and
whatever others do to the pool meanwhile. Managing environments tells nothing, so all that is told
comes from the steps of the result, and acquiring an environment decides which steps these are in a
few ways only. A case is opened, its body runs if it has an environment then, and it is closed.
-/
namespace Testbed

open Program

namespace CaseRunner

/-- What was told of a result on its way to a later one, and the statuses on the way. -/
structure Reached (r : TestResult) (journal : Journal) (path : List TestStatus)
    (later : TestResult) : Prop where
  told : r.Told (sent journal) later
  along : statuses journal = path
  status : later.status = path.getLast?.getD r.status
  requeued : later.requeued = (r.requeued || path.contains .queued)

namespace Reached

variable {r middle later : TestResult} {first rest journal : Journal} {path more : List TestStatus}

theorem quiet (r : TestResult) (silent : sent journal = []) : Reached r journal [] r where
  told := silent ▸ .nothing r
  along := by rw [statuses, silent, List.map_nil]
  status := rfl
  requeued := (Bool.or_false _).symm

theorem trans (before : Reached r first path middle) (after : Reached middle rest more later) :
    Reached r (first ++ rest) (path ++ more) later where
  told := by
    rw [sent_append]
    exact before.told.trans after.told
  along := by rw [statuses_append, before.along, after.along]
  status := by
    rw [after.status, before.status, List.getLast?_append]
    cases more.getLast? <;> rfl
  requeued := by
    rw [after.requeued, before.requeued, List.contains_append, Bool.or_assoc]

/-- What managing environments adds does not show. -/
theorem after (silent : sent first = []) (reached : Reached r rest path later) :
    Reached r (first ++ rest) path later :=
  (quiet r silent).trans reached

theorem placed {metadata : Facts}
    (reached : Reached (r.setEnvironment metadata) journal path later) :
    Reached r journal path later :=
  { reached with told := .placed metadata reached.told }

end Reached

section Transition

variable {α : Type} {r : TestResult} {status : TestStatus}

/-- An allowed step is taken, and told. -/
theorem transition_ensures (allowed : r.status.canBecome r.requeued status = true) (text : String) :
    (transition r status text).Ensures (fun journal result =>
      ∃ later, result = (later, .ok ()) ∧ Reached r journal [status] later) := by
  refine .request_bind (fun moment => ?_)
  obtain ⟨later, event, step, reached, requeued⟩ := r.setStatus_ok moment.ticks status text allowed
  rw [step]
  refine .modify_bind (.request_bind (fun reply => .pure ⟨later, rfl, ?_⟩))
  constructor
  case told => exact .moved moment.wall step (.nothing later)
  case along => exact congrArg (fun status => [status]) reached
  case status => exact reached
  case requeued =>
    rw [requeued]
    cases status <;> rfl

theorem transition_bind {Q : Journal → α → Prop} {f : Progress Unit → Work α}
    (allowed : r.status.canBecome r.requeued status = true) {text : String}
    (rest : ∀ journal later, Reached r journal [status] later →
      (f (later, .ok ())).Ensures (fun more => Q (journal ++ more))) :
    (transition r status text >>= f).Ensures Q := by
  refine .bind (transition_ensures allowed text) ?_
  rintro journal _ ⟨later, rfl, reached⟩
  exact rest journal later reached

end Transition

/-- The statuses on the way of a case that ends without an environment. -/
inductive EndsBy : TestStatus → List TestStatus → Prop where
  | skipped {s : TestStatus} : EndsBy s [.skipped]
  | failed : EndsBy .assigned [.failed]
  | assigned {path : List TestStatus} (rest : EndsBy .assigned path) :
    EndsBy .queued (.assigned :: path)

/-- How a case may go back to the queue: once, and for lack of capacity. -/
inductive Returns (r : TestResult) (journal : Journal) : List TestStatus → Prop where
  | never : Returns r journal []
  | once (first : r.requeued = false) (lacking : ∃ exchange ∈ journal, exchange.LacksCapacity) :
    Returns r journal [.assigned, .queued]

theorem Returns.append {r : TestResult} {journal : Journal} {front : List TestStatus}
    (returns : Returns r journal front) (more : Journal) : Returns r (journal ++ more) front := by
  cases returns with
  | never => exact .never
  | once first lacking =>
    obtain ⟨exchange, member, reported⟩ := lacking
    exact .once first ⟨exchange, List.mem_append_left more member, reported⟩

/-- A case has ended without an environment. -/
structure Finished (r : TestResult) (journal : Journal) (path : List TestStatus)
    (later : TestResult) : Prop extends Reached r journal path later where
  ends : EndsBy r.status path
  completed : later.status.isCompleted = true

theorem finish_ensures {r : TestResult} (waiting : r.status = .queued ∨ r.status = .assigned)
    (error : LifecycleError) :
    (finish r error).Ensures (fun journal result =>
      ∃ later path, result = (later, .ok ()) ∧ Finished r journal path later) := by
  unfold finish
  have cases_of := (verdict error).status_cases
  generalize verdict error = outcome at cases_of
  dsimp only
  split
  · rename_i unskipped
    obtain ⟨queued, unskipped⟩ := unskipped
    have failed : outcome.status = .failed := cases_of.resolve_left unskipped
    refine transition_bind (by rw [queued]; rfl) (fun journal later assigned => ?_)
    have status : later.status = .assigned := assigned.status
    refine (transition_ensures (by rw [status, failed]; rfl) _).mono ?_
    rintro more _ ⟨last, rfl, reached⟩
    rw [failed] at reached
    exact ⟨last, _, rfl, assigned.trans reached, queued ▸ .assigned .failed,
      by rw [reached.status]; rfl⟩
  · rename_i direct
    rcases cases_of with skipped | failed
    · refine (transition_ensures ?allowed _).mono ?_
      case allowed => rcases waiting with queued | assigned <;> simp [*, TestStatus.canBecome]
      rintro journal _ ⟨last, rfl, reached⟩
      rw [skipped] at reached
      exact ⟨last, _, rfl, reached, .skipped, by rw [reached.status]; rfl⟩
    · have assigned : r.status = .assigned :=
        waiting.resolve_left (fun queued => direct ⟨queued, by rw [failed]; nofun⟩)
      refine (transition_ensures (by rw [assigned, failed]; rfl) _).mono ?_
      rintro journal _ ⟨last, rfl, reached⟩
      rw [failed] at reached
      exact ⟨last, _, rfl, reached, assigned ▸ .failed, by rw [reached.status]; rfl⟩

theorem finishWithout_ensures {r : TestResult} (waiting : r.status = .queued ∨ r.status = .assigned)
    (error : LifecycleError) :
    (finishWithout r error).Ensures (fun journal result =>
      ∃ later path, result = (later, .ok none) ∧ Finished r journal path later) := by
  refine .bind (finish_ensures waiting error) ?_
  rintro journal _ ⟨later, path, rfl, finished⟩
  refine .pure ⟨later, path, rfl, ?_⟩
  rwa [List.append_nil]

/-- What comes of a case while it acquires an environment: it has one after `path`, or has ended. -/
inductive Acquired (path : List TestStatus) (r : TestResult) (journal : Journal) :
    Progress (Option EnvironmentId) → Prop where
  | ended {later : TestResult} {front rest : List TestStatus} (returns : Returns r journal front)
    (reached : Reached r journal (front ++ rest) later) (ends : EndsBy .queued rest)
    (completed : later.status.isCompleted = true) : Acquired path r journal (later, .ok none)
  | ready {later : TestResult} {front : List TestStatus} {id : EnvironmentId}
    (returns : Returns r journal front) (reached : Reached r journal (front ++ path) later) :
    Acquired path r journal (later, .ok (some id))

/-- A case that has been back in the queue goes on as if it had not, but does not return again. -/
theorem Acquired.again {path : List TestStatus} {r middle : TestResult} {first journal : Journal}
    {result : Progress (Option EnvironmentId)} (acquired : Acquired path middle journal result)
    (fresh : r.requeued = false) (lacking : ∃ exchange ∈ first, exchange.LacksCapacity)
    (reached : Reached r first [.assigned, .queued] middle) :
    Acquired path r (first ++ journal) result := by
  have used : middle.requeued = true := by
    rw [reached.requeued]
    exact Bool.or_true _
  have returned : Returns r (first ++ journal) [.assigned, .queued] :=
    (Returns.once fresh lacking).append journal
  cases acquired with
  | ended returns later ends completed =>
    cases returns with
    | never => exact .ended returned (reached.trans later) ends completed
    | once unused => cases used.symm.trans unused
  | ready returns later =>
    cases returns with
    | never => exact .ready returned (reached.trans later)
    | once unused => cases used.symm.trans unused

/-- A case in the queue acquires an environment or ends. The rounds are enough, since each return to
the queue uses up the one that there is. -/
theorem acquireWithin_ensures (m : Manager) (requirement : EnvironmentSpace) (rounds : Nat)
    (r : TestResult) (queued : r.status = .queued)
    (enough : (if r.requeued then 1 else 2) ≤ rounds) :
    (acquireWithin m requirement rounds r).Ensures (Acquired [.assigned] r) := by
  induction rounds generalizing r with
  | zero => split at enough <;> omega
  | succ rounds ih =>
    rw [acquireWithin]
    refine .bind (m.prepare_quiet requirement).ensures (fun preparing prepared silent => ?_)
    cases prepared with
    | error error =>
      refine (finishWithout_ensures (.inl queued) error).mono ?_
      rintro journal _ ⟨later, path, rfl, finished⟩
      exact .ended .never (finished.toReached.after silent) (queued ▸ finished.ends)
        finished.completed
    | ok id =>
      refine transition_bind (by rw [queued]; rfl) (fun telling assigned reached => ?_)
      have status : assigned.status = .assigned := reached.status
      have unchanged : assigned.requeued = r.requeued := by simpa using reached.requeued
      refine .bind (m.bringUp_blames id) (fun bringing broughtUp blames => ?_)
      cases broughtUp with
      | ok _ =>
        have up := (reached.after silent).trans (Reached.quiet assigned blames.quiet)
        exact .pure (.ready .never (by simpa using up))
      | error error =>
        refine .bind (Manager.delete_quiet id).ensures (fun deleting _ gone => ?_)
        have cleared : sent (bringing ++ deleting) = [] := by
          rw [sent_append, blames.quiet, gone, List.append_nil]
        have down := (reached.after silent).trans (Reached.quiet assigned cleared)
        split
        · rename_i again
          obtain ⟨lacking, unused⟩ := again
          have unused : assigned.requeued = false := by simpa using unused
          refine transition_bind ?allowed (fun returning back returned => ?_)
          case allowed =>
            rw [status, unused]
            rfl
          have whole := down.trans returned
          have used : back.requeued = true := by
            rw [returned.requeued]
            exact Bool.or_true _
          have room : (if back.requeued then 1 else 2) ≤ rounds := by
            rw [unchanged.symm.trans unused] at enough
            rw [used]
            simpa using Nat.le_of_succ_le_succ enough
          refine (ih back returned.status room).mono (fun journal result acquired => ?_)
          obtain ⟨exchange, member, reported⟩ := blames.reported error rfl lacking
          have among :
              exchange ∈ (preparing ++ telling) ++ (bringing ++ deleting) ++ returning := by
            simp [member]
          have fresh : r.requeued = false := unchanged.symm.trans unused
          simpa using acquired.again fresh ⟨exchange, among, reported⟩ whole
        · refine (finishWithout_ensures (.inr status) error).mono ?_
          rintro journal _ ⟨later, path, rfl, finished⟩
          have ended := down.trans finished.toReached
          have ends : EndsBy .queued (.assigned :: path) := .assigned (status ▸ finished.ends)
          exact .ended .never (by simpa using ended) ends finished.completed

/-- What comes before the body of a case: it has an environment and is running, or has ended. -/
def opening (m : Manager) (r : TestResult) (requirement : EnvironmentSpace) :
    Work (Progress (Option EnvironmentId)) := do
  match ← acquire m requirement r with
  | (r, .ok (some id)) =>
    let metadata ← Work.holding id (do return (← Work.environment id).metadata)
    let (r, started) ← transition (r.setEnvironment metadata) .running ""
    return (r, started.map (fun _ => some id))
  | ended => return ended

/-- A case gives its environment back and takes its last step, to what its body came to. -/
def leaving {β : Type} (m : Manager) (r : TestResult) (id : EnvironmentId)
    (came : β × Except String Unit) : Work (Progress (Option β)) := do
  m.release id
  let (r, ended) ← transition r (judge came.2).1 (judge came.2).2
  return (r, ended.map (fun _ => some came.1))

/-- What comes after the body of a case, by what the body came to. -/
def closing {β : Type} (m : Manager) (r : TestResult) (id : EnvironmentId)
    (came : β × Except String Unit) : Work (Progress (Option β)) := do
  if (judge came.2).1 = .failed then
    let _ ← Manager.markDirty id
  leaving m r id came

/-- The body of a case runs once, between its opening and its closing, or not at all. -/
theorem run_eq {β : Type} (m : Manager) (r : TestResult) (requirement : EnvironmentSpace)
    (body : EnvironmentId → Work (β × Except String Unit)) :
    run m r requirement body = opening m r requirement >>= fun
      | (r, .ok (some id)) => body id >>= closing m r id
      | (r, .ok none) => pure (r, .ok none)
      | (r, .error error) => pure (r, .error error) := by
  unfold run opening
  rw [bind_assoc]
  refine bind_congr (fun acquired => ?_)
  obtain ⟨r, error | _ | id⟩ := acquired
  · rfl
  · rfl
  · simp only [runOn, bind_assoc]
    refine bind_congr (fun metadata => ?_)
    refine bind_congr (fun started => ?_)
    obtain ⟨r, error | _⟩ := started
    · rfl
    · rw [bind_assoc]
      refine bind_congr (fun came => ?_)
      have passed (ended : Except ResultError Unit) :
          (ended.map (fun _ => came.1)).map some = ended.map (fun _ => some came.1) := by
        cases ended <;> rfl
      unfold closing leaving
      split <;> simp only [bind_assoc, pure_bind, passed]

section Run

variable {ω β : Type} {answer : (q : Request) → Pool → ω → q.Reply × Pool × ω} {m : Manager}
  {r later : TestResult} {requirement : EnvironmentSpace} {p q : Pool} {w v : ω}
  (body : EnvironmentId → Work (β × Except String Unit))

theorem run_ended (opened : Program.run answer (opening m r requirement) p w =
    ((later, .ok none), q, v)) :
    Program.run answer (run m r requirement body) p w = ((later, .ok none), q, v) := by
  rw [run_eq, run_bind, opened]
  rfl

theorem run_ready {id : EnvironmentId} (opened : Program.run answer (opening m r requirement) p w =
    ((later, .ok (some id)), q, v)) :
    Program.run answer (run m r requirement body) p w =
      let bodied := Program.run answer (body id) q v
      Program.run answer (closing m later id bodied.1) bodied.2.1 bodied.2.2 := by
  rw [run_eq, run_bind, opened]
  exact run_bind ..

end Run

/-- Before its body a case is assigned and running, or has ended. -/
theorem opening_ensures (m : Manager) (r : TestResult) (requirement : EnvironmentSpace)
    (queued : r.status = .queued) :
    (opening m r requirement).Ensures (Acquired [.assigned, .running] r) := by
  have enough : (if r.requeued then 1 else 2) ≤ 2 := by split <;> omega
  refine .bind (acquireWithin_ensures m requirement 2 r queued enough) ?_
  intro acquiring result acquired
  cases acquired with
  | ended returns reached ends completed =>
    refine .pure ?_
    rw [List.append_nil]
    exact .ended returns reached ends completed
  | @ready assigned front id returns reached =>
    have status : assigned.status = .assigned := by
      rw [reached.status, List.getLast?_append]
      rfl
    have reading : Work.Quiet (Work.holding id (do return (← Work.environment id).metadata)) :=
      .holding (.bind (Work.environment_quiet id) (fun _ => .pure _))
    refine .bind reading.ensures (fun read metadata silent => ?_)
    refine transition_bind (by rw [TestResult.setEnvironment, status]; rfl)
      (fun starting running started => .pure ?_)
    have whole : Reached r (acquiring ++ (read ++ (starting ++ [])))
        (front ++ [.assigned, .running]) running := by
      simpa using (reached.trans (Reached.quiet assigned silent)).trans started.placed
    exact .ready (returns.append _) whole

theorem judge_status (outcome : Except String Unit) :
    (judge outcome).1 = .passed ∨ (judge outcome).1 = .failed ∨ (judge outcome).1 = .skipped := by
  cases outcome with
  | ok _ => exact .inl rfl
  | error reason => exact .inr (Outcome.ofFailure reason).status_cases.symm

theorem judge_passed_iff (outcome : Except String Unit) :
    (judge outcome).1 = .passed ↔ outcome = .ok () := by
  cases outcome with
  | ok _ => exact ⟨fun _ => rfl, fun _ => rfl⟩
  | error reason =>
    refine ⟨fun passed => ?_, nofun⟩
    have passed : (Outcome.ofFailure reason).status = .passed := passed
    rcases (Outcome.ofFailure reason).status_cases with other | other <;>
      cases other.symm.trans passed

theorem judge_skipped_iff (outcome : Except String Unit) :
    (judge outcome).1 = .skipped ↔ ∃ text, outcome = .error text ∧
      ∃ pattern ∈ Outcome.skipPatterns, pattern.1.toList <:+: text.toList := by
  cases outcome with
  | ok _ => exact ⟨nofun, fun ⟨_, failed, _⟩ => nomatch failed⟩
  | error reason =>
    have skipped := Outcome.ofFailure_skipped_iff reason
    constructor
    · exact fun skips => ⟨reason, rfl, skipped.1 skips⟩
    · rintro ⟨_, ⟨⟩, occurs⟩
      exact skipped.2 occurs

/-- After its body a case takes one step, to the status that the body came to. -/
theorem leaving_ensures {β : Type} (m : Manager) {r : TestResult} (running : r.status = .running)
    (id : EnvironmentId) (came : β × Except String Unit) :
    (leaving m r id came).Ensures (fun journal result =>
      ∃ later, result = (later, .ok (some came.1)) ∧
        Reached r journal [(judge came.2).1] later) := by
  have allowed : r.status.canBecome r.requeued (judge came.2).1 = true := by
    rw [running]
    rcases judge_status came.2 with status | status | status <;> rw [status] <;> rfl
  refine .bind (Manager.release_quiet m id).ensures (fun releasing _ silent => ?_)
  refine transition_bind allowed (fun ending later reached => .pure ⟨later, rfl, ?_⟩)
  rw [List.append_nil]
  exact reached.after silent

theorem closing_ensures {β : Type} (m : Manager) {r : TestResult} (running : r.status = .running)
    (id : EnvironmentId) (came : β × Except String Unit) :
    (closing m r id came).Ensures (fun journal result =>
      ∃ later, result = (later, .ok (some came.1)) ∧
        Reached r journal [(judge came.2).1] later) := by
  have left := leaving_ensures m running id came
  unfold closing
  split
  · refine .bind (Manager.markDirty_quiet id).ensures (fun marking _ silent => left.mono ?_)
    rintro journal _ ⟨later, rfl, reached⟩
    exact ⟨later, rfl, reached.after silent⟩
  · exact left

end CaseRunner

end Testbed
