import Testbed.Proofs.Lifecycle.Cancellation
import Testbed.Proofs.Lifecycle.CaseCleanUp

/-!
# Cases of a cancelled run

A case that is run after cancellation is to end as skipped, without its body. It does on an
environment that still has to be deployed or connected, since both look at the cancellation. An idle
environment that is connected already needs neither, and a case that is handed one runs its body as
if nothing had happened.
-/
namespace Testbed

variable {ω α β : Type} {s : Surroundings ω} {m : Manager} {requirement : EnvironmentSpace}
  {p q : Pool} {id : EnvironmentId}

/-- Cancelling a cancelled run changes nothing. -/
theorem Pool.cancel_cancelled (stopped : p.cancelled = true) : p.cancel = p := by
  cases p
  cases stopped
  rfl

theorem Pool.unlock_lock (p : Pool) (id : EnvironmentId) : (p.lock id).unlock id = p := by
  simp [Pool.lock, Pool.unlock]

/-- Where nobody else works on a pool, a cancelled one stays as it is until its lock is given. -/
theorem Work.Leads.holding_cancelled {work : Work α} {a : α} (stopped : p.cancelled = true)
    (advanced : work.advance (p.lock id) = (.finished a, q)) :
    Work.Leads s (Work.holding id work) p (fun result t => result = a ∧ t = q.unlock id) := by
  have asked : Work.Leads s (Program.request (Request.lock id)) p (fun _ t => t = p) := by
    intro w
    change (if _ then p.cancel else p) = p
    rw [Pool.cancel_cancelled stopped, ite_self]
  refine .bind asked ?_
  rintro _ _ rfl
  refine .modify_bind (.advance_bind advanced ?_)
  exact .modify_bind (.pure ⟨rfl, rfl⟩)

namespace Manager

theorem connectHeld_bare (m : Manager) (deployed : (p.environment id).status = .deployed)
    (bare : (p.environment id).nodes = []) :
    ∃ q, (m.connectHeld id).advance p = (.finished (.ok ()), q) := by
  have allowed : (p.environment id).status.canBecome .connected = true := by
    rw [deployed]
    rfl
  unfold connectHeld
  rw [Program.advance_bind (Manager.environment_advance id), deployed, bare]
  change ∃ q, (setStatus id .connected >>= _).advance p = _
  rw [Program.advance_bind (setStatus_advance allowed)]
  exact ⟨_, rfl⟩

/-- What bringing an environment up comes to once the run is cancelled. -/
def bringUpCancelled (e : Environment) : Except LifecycleError Unit :=
  match e.deployCancelled with
  | .ok () => e.connectCancelled
  | .error error => .error error

/-- Bringing an environment up takes no request of a cancelled run but locks. -/
theorem bringUp_cancelled (m : Manager) (s : Surroundings ω) (stopped : p.cancelled = true) :
    Work.Leads s (m.bringUp id) p
      (fun result _ => result = bringUpCancelled (p.environment id)) := by
  have deploying : Work.Leads s (m.deploy id) p (fun result q =>
      result = (p.environment id).deployCancelled ∧ q = p) := by
    have held := Work.Leads.holding_cancelled (s := s) stopped
      (m.deployHeld_cancelled id (p := p.lock id) stopped)
    rwa [Pool.unlock_lock] at held
  have connecting : Work.Leads s (m.connect id) p (fun result _ =>
      result = (p.environment id).connectCancelled) := by
    by_cases bare : (p.environment id).status = .deployed ∧ (p.environment id).nodes = []
    case pos =>
      obtain ⟨deployed, bare⟩ := bare
      obtain ⟨q, advanced⟩ := m.connectHeld_bare (p := p.lock id) deployed bare
      refine (Work.Leads.holding_cancelled stopped advanced).mono (fun result _ after => ?_)
      rw [after.1, Environment.connectCancelled, deployed, bare]
    case neg =>
      obtain ⟨q, advanced, -⟩ := m.connectHeld_cancelled (p := p.lock id) id stopped
        (fun deployed none => bare ⟨deployed, none⟩)
      exact (Work.Leads.holding_cancelled stopped advanced).mono (fun _ _ after => after.1)
  refine .bind deploying (fun deployed q after => ?_)
  rw [after.1, after.2]
  unfold bringUpCancelled
  cases (p.environment id).deployCancelled with
  | ok _ => exact connecting
  | error error => exact .pure rfl

/-- No lack of capacity shows in a cancelled run, since the platform is not asked. -/
theorem bringUpCancelled_notCapacity {e : Environment} {error : LifecycleError}
    (failed : bringUpCancelled e = .error error) : error.isCapacity = false := by
  unfold bringUpCancelled at failed
  cases deployed : e.deployCancelled with
  | error other =>
    rw [deployed] at failed
    cases failed
    unfold Environment.deployCancelled at deployed
    split at deployed <;> cases deployed <;> rfl
  | ok _ =>
    rw [deployed] at failed
    dsimp only at failed
    unfold Environment.connectCancelled at failed
    split at failed <;> cases failed
    · unfold Node.connectCancelled
      split <;> rfl
    · rfl

end Manager

namespace CaseRunner

variable {r : TestResult}

/-- The status of a case that ends without an environment is that of the error. -/
theorem finishWithout_verdict (waiting : r.status = .queued ∨ r.status = .assigned)
    (error : LifecycleError) :
    Work.Leads s (finishWithout r error) p (fun result _ => ∃ later, result = (later, .ok none) ∧
      later.status = (verdict error).status) := by
  have finished : Work.Leads s (finish r error) p (fun result _ => ∃ later,
      result = (later, .ok ()) ∧ later.status = (verdict error).status) := by
    unfold finish
    generalize verdict error = outcome
    have cases_of := outcome.status_cases
    dsimp only
    split
    · rename_i unskipped
      obtain ⟨queued, unskipped⟩ := unskipped
      have failed : outcome.status = .failed := cases_of.resolve_left unskipped
      refine .bind (transition_leads (by rw [queued]; rfl) "") ?_
      rintro _ q ⟨-, assigned, rfl, status, -⟩
      refine (transition_leads (by rw [status, failed]; rfl) _).mono ?_
      rintro _ _ ⟨-, later, rfl, reached, -⟩
      exact ⟨later, rfl, reached⟩
    · rename_i direct
      have allowed : r.status.canBecome r.requeued outcome.status = true := by
        rcases waiting with queued | assigned
        · have skipped : outcome.status = .skipped := by
            by_contra unskipped
            exact direct ⟨queued, unskipped⟩
          rw [queued, skipped]
          rfl
        · rcases cases_of with skipped | failed
          · rw [assigned, skipped]
            rfl
          · rw [assigned, failed]
            rfl
      refine (transition_leads allowed _).mono ?_
      rintro _ _ ⟨-, later, rfl, reached, -⟩
      exact ⟨later, rfl, reached⟩
  refine .bind finished ?_
  rintro _ _ ⟨later, rfl, reached⟩
  exact .pure ⟨later, rfl, reached⟩

/-- What a case comes to on an environment while the run is cancelled, up to where its body is due:
it is handed the environment, or has ended. -/
inductive Comes (id : EnvironmentId) (status : TestStatus) :
    Except LifecycleError Unit → Progress (Option EnvironmentId) → Prop where
  | ready {later : TestResult} (reached : later.status = status) :
    Comes id status (.ok ()) (later, .ok (some id))
  | ended {later : TestResult} {error : LifecycleError}
    (reached : later.status = (verdict error).status) :
    Comes id status (.error error) (later, .ok none)

/-- A case goes by what bringing up the environment comes to that it is handed. -/
theorem acquire_cancelled (queued : r.status = .queued) (stopped : q.cancelled = true)
    (advanced : (m.prepare requirement).advance p = (.finished (.ok id), q)) :
    Work.Leads s (acquire m requirement r) p (fun result _ =>
      Comes id .assigned (Manager.bringUpCancelled (q.environment id)) result) := by
  refine .advance_bind advanced ?_
  have assigning : Work.Leads s (transition r .assigned "") q (fun result t =>
      q.Undisturbed t ∧ t.cancelled = true ∧ ∃ later, result = (later, .ok ()) ∧
        later.status = .assigned) := by
    have stays : Work.Leads s (transition r .assigned "") q
        (fun _ t => q.cancelled = true → t.cancelled = true) :=
      .of_respects (R := fun p q => p.cancelled = true → q.cancelled = true)
        (transition_respects (fun _ _ stopped => stopped) r .assigned "")
        (fun _ stopped => stopped) (fun first second stopped => second (first stopped))
        (fun _ _ => rfl)
    have allowed : r.status.canBecome r.requeued .assigned = true := by rw [queued]; rfl
    have told := transition_leads (s := s) (p := q) allowed ""
    refine (stays.and told).mono ?_
    rintro _ t ⟨stays, same, later, rfl, reached, -⟩
    exact ⟨same, stays stopped, later, rfl, reached⟩
  refine .bind assigning ?_
  rintro _ t ⟨same, stopped, assigned, rfl, status⟩
  have broughtUp : Work.Leads s (m.bringUp id) t
      (fun result _ => result = Manager.bringUpCancelled (t.environment id)) :=
    m.bringUp_cancelled s stopped
  refine .bind broughtUp (fun broughtUp u came => ?_)
  rw [same.environment] at came
  rw [← came]
  cases broughtUp with
  | ok _ => exact .pure (.ready status)
  | error error =>
    have deleting : Work.Leads s (Manager.delete id) u (fun _ _ => True) := fun _ => trivial
    refine .bind deleting (fun _ v _ => ?_)
    rw [if_neg (fun lacking => by
      rw [Manager.bringUpCancelled_notCapacity came.symm] at lacking
      cases lacking.1)]
    refine (finishWithout_verdict (.inr status) error).mono ?_
    rintro _ _ ⟨later, rfl, reached⟩
    exact .ended reached

theorem opening_cancelled (queued : r.status = .queued) (stopped : q.cancelled = true)
    (advanced : (m.prepare requirement).advance p = (.finished (.ok id), q)) :
    Work.Leads s (opening m r requirement) p (fun result _ =>
      Comes id .running (Manager.bringUpCancelled (q.environment id)) result) := by
  refine .bind (acquire_cancelled queued stopped advanced) (fun result t came => ?_)
  generalize Manager.bringUpCancelled (q.environment id) = broughtUp at came
  cases came with
  | ended reached => exact .pure (.ended reached)
  | @ready assigned status =>
    have reading : Work.Leads s (Work.holding id (do return (← Work.environment id).metadata)) t
        (fun _ _ => True) := fun _ => trivial
    refine .bind reading (fun metadata u _ => ?_)
    refine .bind (transition_leads (by rw [TestResult.setEnvironment, status]; rfl) "") ?_
    rintro _ v ⟨-, running, rfl, reached, -⟩
    exact .pure (.ready reached)

end CaseRunner

/-- The idle environment that preparing gives for a requirement, if there is one. -/
def Manager.handsOut (m : Manager) (requirement : EnvironmentSpace) (p : Pool) :
    Option EnvironmentId :=
  if m.config.reuseEnvironments then p.findReusable m.candidates requirement else none

/-- Preparing hands out an idle environment, or creates what the requirement is resolved to. -/
theorem Manager.prepare_advance_eq (m : Manager) (requirement : EnvironmentSpace) (p : Pool) :
    (m.prepare requirement).advance p =
      match m.handsOut requirement p, resolve requirement m.candidates with
      | some id, _ => (.finished (.ok id), p.handOut id)
      | none, .ok found => (.finished (.ok p.nextId), p.create found)
      | none, .error reasons => (.finished (.error (.noEnvironmentAvailable reasons)), p) := by
  unfold Manager.prepare Program.update Manager.handsOut
  simp only [Program.advance]
  split
  · rename_i id found
    rw [found]
  · rename_i found
    rw [found]
    cases resolve requirement m.candidates <;> rfl

/-- Whether a cancelled run stops a case that is handed an idle environment: its first node is still
to be connected, and is not found out of reach before that with an error that counts as a
failure. -/
def Environment.StopsCase (e : Environment) : Prop :=
  e.status = .deployed ∧ ∃ node rest, e.nodes = node :: rest ∧
    (node.connection = none → (CaseRunner.verdict node.unreachable).status = .skipped)

/-- A deployed environment stops a case exactly if bringing it up fails in a way that counts as
skipped. -/
theorem Environment.stopsCase_iff {e : Environment} (deployed : e.status.isDeployed = true) :
    e.StopsCase ↔ ∃ error, Manager.bringUpCancelled e = .error error ∧
      (CaseRunner.verdict error).status = .skipped := by
  unfold StopsCase Manager.bringUpCancelled deployCancelled connectCancelled
  cases status : e.status with
  | new | prepared | deleted =>
    rw [status] at deployed
    cases deployed
  | connected => simp
  | deployed =>
    cases e.nodes with
    | nil => simp
    | cons node rest =>
      by_cases unknown : node.connection = none
      · simp [Node.connectCancelled, unknown]
      · simp [Node.connectCancelled, unknown, CaseRunner.verdict, Outcome.status]

theorem Manager.reusable_of_handsOut (found : m.handsOut requirement p = some id) :
    p.Reusable m.candidates requirement id := by
  unfold Manager.handsOut at found
  split at found
  · exact Pool.reusable_of_findReusable found
  · cases found

namespace CaseRunner

variable {r : TestResult}

/-- Before the body of a case of a cancelled run nothing new is deployed: the case is skipped unless
an idle environment is handed out, and goes by that one then. -/
theorem opening_handsOut (queued : r.status = .queued) (stopped : p.cancelled = true) :
    Work.Leads s (opening m r requirement) p (fun result _ =>
      match m.handsOut requirement p with
      | some id => Comes id .running (Manager.bringUpCancelled (p.environment id)) result
      | none => ∃ later, result = (later, .ok none) ∧ later.status = .skipped) := by
  have advanced := m.prepare_advance_eq requirement p
  cases found : m.handsOut requirement p with
  | some id =>
    rw [found] at advanced
    have same : Manager.bringUpCancelled ((p.handOut id).environment id) =
        Manager.bringUpCancelled (p.environment id) := by
      rw [Pool.environment_handOut]
      split <;> rfl
    have came := opening_cancelled (s := s) (q := p.handOut id) queued stopped advanced
    rwa [same] at came
  | none =>
    cases resolved : resolve requirement m.candidates with
    | ok match_ =>
      rw [found, resolved] at advanced
      have came := opening_cancelled (s := s) (q := p.create match_) queued stopped advanced
      have interrupted : Manager.bringUpCancelled ((p.create match_).environment p.nextId) =
          .error (.cancelled .prepare) := by
        rw [Pool.environment_create_last]
        rfl
      rw [interrupted] at came
      refine came.mono (fun result _ ended => ?_)
      cases ended with
      | ended reached => exact ⟨_, rfl, reached⟩
    | error reasons =>
      rw [found, resolved] at advanced
      have acquired : Work.Leads s (acquire m requirement r) p (fun result _ =>
          ∃ later, result = (later, .ok none) ∧ later.status = .skipped) :=
        .advance_bind advanced (finishWithout_verdict (.inl queued) _)
      refine .bind acquired ?_
      rintro _ q ⟨later, rfl, skipped⟩
      exact .pure ⟨later, rfl, skipped⟩

/-- A case whose body has run returns what the body gave. -/
theorem closing_returns {running : TestResult} (status : running.status = .running)
    (id : EnvironmentId) (came : β × Except String Unit) :
    Work.Leads s (closing m running id came) p (fun result _ => result.2 = .ok (some came.1)) := by
  refine (Work.Leads.of_ensures (closing_ensures m status id came)).mono ?_
  rintro _ _ ⟨journal, later, rfl, -⟩
  rfl

/-- A case that is run after cancellation ends as skipped and without its body, exactly if it is not
handed an idle environment, or one that stops it. On one that is connected already its body runs. -/
theorem run_cancelled_skips_iff (m : Manager) (s : Surroundings ω) (r : TestResult)
    (requirement : EnvironmentSpace) (body : EnvironmentId → Work (β × Except String Unit))
    (p : Pool) (w : ω) (queued : r.status = .queued) (stopped : p.cancelled = true) :
    let opened := Work.run s (opening m r requirement) p w
    let ran := Work.run s (run m r requirement body) p w
    (ran = ((ran.1.1, .ok none), opened.2) ∧ ran.1.1.status = .skipped ↔
      ∀ id, m.handsOut requirement p = some id → (p.environment id).StopsCase) ∧
    ∀ id, m.handsOut requirement p = some id → (p.environment id).status = .connected →
      ∃ running q v, opened = ((running, .ok (some id)), q, v) ∧
        ran.1.2 = .ok (some (Work.run s (body id) q v).1.1) := by
  intro opened ran
  have leads : Work.Leads s (opening m r requirement) p _ := opening_handsOut queued stopped
  have came := leads w
  have opened_eq : Program.run s.answer (opening m r requirement) p w = opened := rfl
  rw [show Work.run s (opening m r requirement) p w = opened from rfl] at came
  clear_value opened
  obtain ⟨result, q, v⟩ := opened
  cases found : m.handsOut requirement p with
  | none =>
    rw [found] at came
    obtain ⟨later, rfl, skipped⟩ := came
    have ran_eq : ran = ((later, .ok none), q, v) := run_ended body opened_eq
    rw [ran_eq]
    exact ⟨⟨fun _ => nofun, fun _ => ⟨rfl, skipped⟩⟩, nofun⟩
  | some id =>
    rw [found] at came
    dsimp only at came
    have deployed := (Manager.reusable_of_handsOut found).deployed
    have stopsCase_iff := Environment.stopsCase_iff deployed
    have connected_ready (connected : (p.environment id).status = .connected) :
        Manager.bringUpCancelled (p.environment id) = .ok () := by
      simp [Manager.bringUpCancelled, Environment.deployCancelled, Environment.connectCancelled,
        connected]
    generalize Manager.bringUpCancelled (p.environment id) = broughtUp at *
    cases came with
    | @ended later error reached =>
      have ran_eq : ran = ((later, .ok none), q, v) := run_ended body opened_eq
      rw [ran_eq]
      constructor
      · constructor
        · rintro ⟨-, skipped⟩ _ ⟨⟩
          exact stopsCase_iff.2 ⟨error, rfl, reached ▸ skipped⟩
        · intro stops
          obtain ⟨_, ⟨⟩, skipped⟩ := stopsCase_iff.1 (stops id rfl)
          exact ⟨rfl, reached.trans skipped⟩
      · rintro _ ⟨⟩ connected
        cases connected_ready connected
    | @ready running reached =>
      have ran_eq := run_ready body opened_eq
      have returned : ran.1.2 = .ok (some (Work.run s (body id) q v).1.1) := by
        have closed := closing_returns (s := s) (m := m) reached id (Work.run s (body id) q v).1
          (p := (Work.run s (body id) q v).2.1) (Work.run s (body id) q v).2.2
        exact (congrArg (fun ran => ran.1.2) ran_eq).trans closed
      constructor
      · constructor
        · rintro ⟨unrun, -⟩
          rw [unrun] at returned
          cases returned
        · intro stops
          obtain ⟨_, ⟨⟩, -⟩ := stopsCase_iff.1 (stops id rfl)
      · rintro _ ⟨⟩ connected
        exact ⟨running, q, v, rfl, returned⟩

/-- The pool after a case on the sample machine has been run, with the run cancelled since. -/
def cancelledAfterCase : Pool :=
  let first : Work (Except LifecycleError Unit) :=
    Manager.sample.runScoped {} (fun error => error) (fun _ => pure (.ok ()))
  (Work.run Manager.smooth first {} ()).2.1.cancel

/-- A second case on the machine is run in spite of the cancellation. -/
theorem run_cancelled_skips_iff_connected :
    let r : TestResult := { id := "1", name := "smoke" }
    let ran := Work.run Manager.smooth
      (run Manager.sample r {} (fun _ => pure ((), .ok ()))) cancelledAfterCase ()
    r.status = .queued ∧ cancelledAfterCase.cancelled = true ∧
      Manager.sample.handsOut {} cancelledAfterCase = some ⟨0⟩ ∧
      ran.1.2 = .ok (some ()) ∧ ran.1.1.status = .passed ∧
      ¬ (cancelledAfterCase.environment ⟨0⟩).StopsCase := by
  intro r ran
  have idle : Manager.sample.handsOut {} cancelledAfterCase = some ⟨0⟩ := by decide +kernel
  have connected : (cancelledAfterCase.environment ⟨0⟩).status = .connected := by decide +kernel
  obtain ⟨-, runs⟩ := run_cancelled_skips_iff Manager.sample Manager.smooth r {}
    (fun _ => pure ((), .ok ())) cancelledAfterCase () rfl rfl
  obtain ⟨running, q, v, -, returned⟩ := runs ⟨0⟩ idle connected
  have passed : ran.1.1.status = .passed := by decide +kernel
  refine ⟨rfl, rfl, idle, returned, passed, fun stops => ?_⟩
  cases connected.symm.trans stops.1

end CaseRunner

end Testbed
