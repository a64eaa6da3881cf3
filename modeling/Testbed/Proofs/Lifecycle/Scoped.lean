import Testbed.Proofs.Lifecycle.Accounting
import Testbed.Proofs.Lifecycle.Body

/-!
# Scoped execution

What becomes of the environment of a scoped run, whatever the surroundings answer and whatever the
body does. The environment is cleaned up unless the body itself has declared it deleted: then there
is nothing left to do for a deletion, which neither asks the platform nor untracks the environment.
-/
namespace Testbed

variable {ω ε α β : Type}

/-- How often it was asked to delete an environment. -/
def deleteCalls (requests : List Request) (id : EnvironmentId) : Nat :=
  requests.countP (Request.deletes id)

/-- The surroundings with a record of what they were asked. -/
def Surroundings.recording (s : Surroundings ω) : Surroundings (ω × List Request) where
  reply r w :=
    let replied := s.reply r w.1
    (replied.1, replied.2, w.2 ++ [r])
  cancelled w := s.cancelled w.1

/-- What a run did to an environment short of asking to delete it. -/
structure Came (R : Environment → Environment → Prop) (id : EnvironmentId)
    (before after : Pool × ω × List Request) : Prop where
  keeps : before.1.Keeps R id after.1
  calls : deleteCalls after.2.2 id = deleteCalls before.2.2 id

section Came

variable {R : Environment → Environment → Prop} {id : EnvironmentId} {s : Surroundings ω}

theorem Surroundings.recording_answer (s : Surroundings ω) (id : EnvironmentId)
    (refl : ∀ e, R e e) (r : Request) (p : Pool) (w : ω × List Request) :
    p.Keeps R id (s.recording.answer r p w).2.1 ∧
      deleteCalls (s.recording.answer r p w).2.2.2 id =
        deleteCalls w.2 id + if r.deletes id then 1 else 0 := by
  constructor
  · simp only [Surroundings.answer]
    split
    · exact ⟨rfl, .rfl, refl _⟩
    · exact ⟨rfl, .rfl, refl _⟩
  · simp [Surroundings.answer, recording, deleteCalls, List.countP_append, List.countP_singleton]

theorem Came.trans (trans : ∀ e f g, R e f → R f g → R e g) {a b c : Pool × ω × List Request}
    (first : Came R id a b) (second : Came R id b c) : Came R id a c where
  keeps := ⟨second.keeps.tracked.trans first.keeps.tracked,
    second.keeps.has.trans first.keeps.has,
    trans _ _ _ first.keeps.environment second.keeps.environment⟩
  calls := second.calls.trans first.calls

/-- Work that keeps an environment does so in every run. -/
theorem Work.Keeping.came (refl : ∀ e, R e e) (trans : ∀ e f g, R e f → R f g → R e g)
    {work : Work α} (keeping : Work.Keeping R id work) (p : Pool) (w : ω × List Request) :
    Came R id (p, w) (Work.run s.recording work p w).2 := by
  refine Program.Respects.run ?refl ?trans ?changes ?answers keeping p w
  case refl => exact fun _ => ⟨⟨rfl, .rfl, refl _⟩, rfl⟩
  case trans => exact fun first second => first.trans trans second
  case changes => exact fun _ _ _ keeps => ⟨keeps, rfl⟩
  case answers =>
    intro r p w other
    obtain ⟨keeps, calls⟩ := s.recording_answer id refl r p w
    exact ⟨keeps, by simpa [other] using calls⟩

end Came

/-- A run of work under the lock of an environment. -/
theorem Work.run_holding (s : Surroundings ω) (id : EnvironmentId) (work : Work α) (p : Pool)
    (w : ω) :
    Work.run s (Work.holding id work) p w =
      let locked := s.answer (.lock id) p w
      let worked := Work.run s work (locked.2.1.lock id) locked.2.2
      (worked.1, worked.2.1.unlock id, worked.2.2) := by
  simp [Work.run, Work.holding]

namespace Manager

variable {s : Surroundings ω} {id : EnvironmentId} {p : Pool} {w : ω × List Request}

/-- The platform is asked once to give up an environment, unless it is new. -/
theorem relinquish_run {e : Environment} (named : e.id = id) :
    let after := (Work.run s.recording (relinquish e) p w).2
    p.Keeps Eq id after.1 ∧
      deleteCalls after.2.2 id = deleteCalls w.2 id + if e.status = .new then 0 else 1 := by
  unfold relinquish
  split
  · exact ⟨⟨rfl, .rfl, rfl⟩, rfl⟩
  · obtain ⟨keeps, calls⟩ := s.recording_answer id (fun _ => rfl) (.delete e) p w
    have asked : Request.deletes id (.delete e) = true := by simpa [Request.deletes] using named
    simp only [Work.run, Program.run_bind, Program.run_request]
    generalize s.recording.answer (.delete e) p w = answered at keeps calls ⊢
    obtain ⟨reply, q, v⟩ := answered
    refine ⟨?_, ?_⟩
    · cases reply with
      | ok _ => exact keeps
      | error error => exact ⟨keeps.tracked, keeps.has, keeps.environment⟩
    · rw [asked] at calls
      cases reply <;> exact calls

/-- Deleting a locked environment that has not been deleted. -/
theorem deleteHeld_run_alive (has : p.Has id) (named : (p.environment id).id = id)
    (alive : (p.environment id).status ≠ .deleted) :
    let ran := Work.run s.recording (deleteHeld id) p w
    ran.1 = true ∧ (ran.2.1.environment id).status = .deleted ∧ ran.2.1.tracked = p.tracked ∧
      deleteCalls ran.2.2.2 id =
        deleteCalls w.2 id + if (p.environment id).status = .new then 0 else 1 := by
  obtain ⟨keeps, calls⟩ := relinquish_run (s := s) (p := p) (w := w) named
  have same : Work.run s.recording (deleteHeld id) p w =
      let after := (Work.run s.recording (relinquish (p.environment id)) p w).2
      (true, after.1.retire id (.environmentDeleted id.text (p.environment id).status
        (p.environment id).dirty), after.2) := by
    simp [deleteHeld, Work.run, Work.environment, alive, Pool.retire]
  rw [same]
  refine ⟨rfl, ?_, keeps.tracked, calls⟩
  rw [Pool.environment_retire, if_pos ⟨rfl, keeps.has.2 has⟩]
  rfl

theorem deleteHeld_run_dead (dead : (p.environment id).status = .deleted) :
    Work.run s.recording (deleteHeld id) p w = (false, p, w) := by
  simp [deleteHeld, Work.run, Work.environment, dead]

/-- Deleting is deleting under the lock and untracking what was deleted. -/
theorem delete_run (s : Surroundings ω) (id : EnvironmentId) (p : Pool) (w : ω) :
    Work.run s (delete id) p w =
      let locked := s.answer (.lock id) p w
      let held := Work.run s (deleteHeld id) (locked.2.1.lock id) locked.2.2
      let unlocked := held.2.1.unlock id
      ((), if held.1 then unlocked.untrack id else unlocked, held.2.2) := by
  have held := Work.run_holding s id (deleteHeld id) p w
  unfold Work.run at held
  simp only [delete, Work.run, Program.run_bind, held]
  split
  · rename_i deleted
    simp [deleted]
  · rename_i kept
    simp [kept]

/-- Deleting an environment that has not been deleted. -/
theorem delete_run_alive (has : p.Has id) (named : (p.environment id).id = id)
    (alive : (p.environment id).status ≠ .deleted) :
    let after := (Work.run s.recording (delete id) p w).2
    (after.1.environment id).status = .deleted ∧ id ∉ after.1.tracked ∧
      deleteCalls after.2.2 id =
        deleteCalls w.2 id + if (p.environment id).status = .new then 0 else 1 := by
  rw [delete_run]
  obtain ⟨keeps, asked⟩ := s.recording_answer id (fun _ => rfl) (.lock id) p w
  generalize s.recording.answer (.lock id) p w = locked at keeps asked ⊢
  have same : (locked.2.1.lock id).environment id = p.environment id := keeps.environment.symm
  obtain ⟨done, dead, -, calls⟩ := deleteHeld_run_alive (s := s) (w := locked.2.2)
    (p := locked.2.1.lock id) (keeps.has.2 has) (same ▸ named) (same ▸ alive)
  simp only [done, if_true]
  refine ⟨dead, by simp [Pool.untrack], ?_⟩
  rw [calls, same, asked]
  rfl

/-- Deleting one that has been deleted changes nothing. -/
theorem delete_run_dead (dead : (p.environment id).status = .deleted) :
    Came Eq id (p, w) (Work.run s.recording (delete id) p w).2 := by
  rw [delete_run]
  obtain ⟨keeps, asked⟩ := s.recording_answer id (fun _ => rfl) (.lock id) p w
  generalize s.recording.answer (.lock id) p w = locked at keeps asked ⊢
  have same : (locked.2.1.lock id).environment id = p.environment id := keeps.environment.symm
  dsimp only
  rw [deleteHeld_run_dead (same ▸ dead)]
  exact ⟨⟨keeps.tracked, keeps.has, keeps.environment⟩, asked⟩

/-- What releasing does under the lock of the environment. -/
theorem release_run (m : Manager) (s : Surroundings ω) (id : EnvironmentId) (p : Pool) (w : ω) :
    Work.run s (m.release id) p w =
      let locked := s.answer (.lock id) p w
      let q := locked.2.1.lock id
      if m.keeps (q.environment id) then
        ((), (q.modify id (fun e => { e with inUse := false })).unlock id, locked.2.2)
      else Work.run s (delete id) (q.unlock id) locked.2.2 := by
  simp only [release, Work.holding, Work.run, Program.run_bind, Program.run_request,
    Program.run_modify, Program.run_update, Program.run_pure]
  split <;> rfl

end Manager

/-- What a caller of scoped execution is promised: the body succeeded and its environment is clean,
deployed, idle and tracked for others to use, or the environment is deleted and forgotten, and the
platform was asked to delete it exactly once unless it was still new. -/
def Manager.CleanedUp (m : Manager) (id : EnvironmentId) (outcome : Except ε α)
    (before : EnvironmentStatus) (p : Pool) (calls : Nat) : Prop :=
  (outcome.isOk = true ∧ m.config.reuseEnvironments = true ∧ (p.environment id).dirty = false ∧
    (p.environment id).status.isDeployed = true ∧ (p.environment id).inUse = false ∧
    id ∈ p.tracked) ∨
  ((p.environment id).status = .deleted ∧ id ∉ p.tracked ∧
    calls = if before = .new then 0 else 1)

namespace Manager

/-- What scoped execution does before it cleans up. -/
def attempt (m : Manager) (ofLifecycle : LifecycleError → ε) (body : Body ε α)
    (id : EnvironmentId) : Work (Except ε α) := do
  match ← m.bringUp id with
  | .error error => return .error (ofLifecycle error)
  | .ok () => body.work id

/-- How scoped execution cleans up. -/
def cleanUp (m : Manager) (id : EnvironmentId) (outcome : Except ε α) : Work (Except ε α) := do
  match outcome with
  | .ok _ => m.release id
  | .error _ => delete id
  return outcome

theorem runScoped_eq (m : Manager) (requirement : EnvironmentSpace)
    (ofLifecycle : LifecycleError → ε) (body : Body ε α) :
    m.runScoped requirement ofLifecycle (fun id => body.work id) =
      m.prepare requirement >>= fun
        | .error error => pure (.error (ofLifecycle error))
        | .ok id => m.attempt ofLifecycle body id >>= m.cleanUp id := by
  unfold runScoped
  refine bind_congr (fun prepared => ?_)
  cases prepared with
  | error error => rfl
  | ok id =>
    simp only [attempt, bind_assoc]
    refine bind_congr (fun broughtUp => ?_)
    cases broughtUp with
    | error error => rfl
    | ok _ =>
      refine bind_congr (fun outcome => ?_)
      cases outcome <;> rfl

theorem runScoped_run (m : Manager) {s : Surroundings ω} {requirement : EnvironmentSpace}
    (ofLifecycle : LifecycleError → ε) (body : Body ε α) {id : EnvironmentId} {p q : Pool} {w v : ω}
    (prepared : Work.run s (m.prepare requirement) p w = (.ok id, q, v)) :
    Work.run s (m.runScoped requirement ofLifecycle (fun id => body.work id)) p w =
      let attempted := Work.run s (m.attempt ofLifecycle body id) q v
      Work.run s (m.cleanUp id attempted.1) attempted.2.1 attempted.2.2 := by
  rw [runScoped_eq]
  unfold Work.run at prepared ⊢
  rw [Program.run_bind, prepared]
  exact Program.run_bind ..

variable {s : Surroundings ω} {id : EnvironmentId} {p : Pool} {w : ω × List Request}

theorem attempt_keeping (m : Manager) (ofLifecycle : LifecycleError → ε) (body : Body ε α)
    (id : EnvironmentId) : Work.Keeping Environment.Evolves id (m.attempt ofLifecycle body id) := by
  have broughtUp : Work.Keeping Environment.Evolves id (m.bringUp id) :=
    (m.bringUp_keeping id).mono
      (fun _ _ keeps => ⟨keeps.tracked, keeps.has, keeps.environment.toEvolves⟩) (fun _ h => h)
  refine .bind broughtUp (fun outcome => ?_)
  cases outcome with
  | error error => exact .pure _
  | ok _ => exact body.work_keeping id

/-- Only the body can leave the environment deleted. -/
theorem attempt_deleted (m : Manager) (ofLifecycle : LifecycleError → ε) (body : Body ε α)
    (alive : (p.environment id).status ≠ .deleted)
    (dead : ((Work.run s.recording (m.attempt ofLifecycle body id) p w).2.1.environment id).status =
      .deleted) :
    let broughtUp := Work.run s.recording (m.bringUp id) p w
    broughtUp.1 = .ok () ∧ (broughtUp.2.1.environment id).status ≠ .deleted := by
  have came := (m.bringUp_keeping id).came (s := s) .refl (fun _ _ _ => .trans) p w
  have attempted : Work.run s.recording (m.attempt ofLifecycle body id) p w =
      let broughtUp := Work.run s.recording (m.bringUp id) p w
      Work.run s.recording (match broughtUp.1 with
        | .error error => pure (.error (ofLifecycle error))
        | .ok () => body.work id) broughtUp.2.1 broughtUp.2.2 :=
    Program.run_bind ..
  rw [attempted] at dead
  generalize Work.run s.recording (m.bringUp id) p w = broughtUp at came dead ⊢
  have alive_then : (broughtUp.2.1.environment id).status ≠ .deleted :=
    fun dead => alive (came.keeps.environment.alive dead)
  obtain ⟨outcome, q, v⟩ := broughtUp
  cases outcome with
  | error error => exact absurd dead alive_then
  | ok _ => exact ⟨rfl, alive_then⟩

theorem cleanUp_run (m : Manager) (s : Surroundings ω) (id : EnvironmentId)
    (outcome : Except ε α) (p : Pool) (w : ω) :
    Work.run s (m.cleanUp id outcome) p w =
      (outcome, (Work.run s (match outcome with
        | .ok _ => m.release id
        | .error _ => delete id) p w).2) := by
  cases outcome <;> simp [cleanUp, Work.run]

/-- Cleaning up keeps the promise for an environment that is not deleted yet. -/
theorem cleanUp_run_alive (m : Manager) (outcome : Except ε α) (has : p.Has id)
    (named : (p.environment id).id = id) (tracked : id ∈ p.tracked)
    (alive : (p.environment id).status ≠ .deleted) (unasked : deleteCalls w.2 id = 0) :
    let ran := Work.run s.recording (m.cleanUp id outcome) p w
    m.CleanedUp id ran.1 (p.environment id).status ran.2.1 (deleteCalls ran.2.2.2 id) := by
  rw [cleanUp_run]
  cases outcome with
  | error error =>
    obtain ⟨dead, forgotten, calls⟩ := delete_run_alive (s := s) (w := w) has named alive
    exact .inr ⟨dead, forgotten, by rw [calls, unasked, Nat.zero_add]⟩
  | ok value =>
    dsimp only
    rw [release_run]
    obtain ⟨keeps, asked⟩ := s.recording_answer id (R := Eq) (fun _ => rfl) (.lock id) p w
    generalize s.recording.answer (.lock id) p w = locked at keeps asked ⊢
    have same : (locked.2.1.lock id).environment id = p.environment id := keeps.environment.symm
    have unasked : deleteCalls locked.2.2.2 id = 0 := asked.trans unasked
    dsimp only
    split
    · rename_i kept
      rw [same] at kept
      simp only [Manager.keeps, Bool.and_eq_true, Bool.not_eq_true'] at kept
      obtain ⟨⟨reuses, clean⟩, deployed⟩ := kept
      have idle : (((locked.2.1.lock id).modify id (fun e => { e with inUse := false })).unlock
          id).environment id = { p.environment id with inUse := false } := by
        rw [Pool.environment_unlock, Pool.environment_modify, if_pos ⟨rfl, keeps.has.2 has⟩, same]
      refine .inl ⟨rfl, reuses, ?_, ?_, ?_, ?_⟩
      · rw [idle]
        exact clean
      · rw [idle]
        exact deployed
      · rw [idle]
      · exact keeps.tracked.symm ▸ tracked
    · obtain ⟨dead, forgotten, calls⟩ := delete_run_alive (s := s) (w := locked.2.2)
        (p := (locked.2.1.lock id).unlock id) (keeps.has.2 has) (same ▸ named) (same ▸ alive)
      refine .inr ⟨dead, forgotten, ?_⟩
      rw [calls, unasked, Nat.zero_add, Pool.environment_unlock, same]

/-- Cleaning up leaves a deleted environment as it is. -/
theorem cleanUp_run_dead (m : Manager) (outcome : Except ε α)
    (dead : (p.environment id).status = .deleted) :
    Came Eq id (p, w) (Work.run s.recording (m.cleanUp id outcome) p w).2 := by
  rw [cleanUp_run]
  cases outcome with
  | error error => exact delete_run_dead dead
  | ok value =>
    dsimp only
    rw [release_run]
    obtain ⟨keeps, asked⟩ := s.recording_answer id (R := Eq) (fun _ => rfl) (.lock id) p w
    generalize s.recording.answer (.lock id) p w = locked at keeps asked ⊢
    have same : (locked.2.1.lock id).environment id = p.environment id := keeps.environment.symm
    have unfit : m.keeps ((locked.2.1.lock id).environment id) = false := by
      simp [Manager.keeps, same, dead, EnvironmentStatus.isDeployed]
    have came : Came Eq id ((locked.2.1.lock id).unlock id, locked.2.2) _ :=
      delete_run_dead (s := s) (same ▸ dead)
    dsimp only
    rw [if_neg (Bool.eq_false_iff.1 unfit)]
    exact ⟨⟨came.keeps.tracked.trans keeps.tracked, came.keeps.has.trans keeps.has,
      keeps.environment.trans came.keeps.environment⟩, came.calls.trans asked⟩

/-- The platform has not been asked yet to delete what is prepared. -/
theorem Prepares.unasked {m : Manager} {t : Traffic} {stances : Nat → Stance}
    {requirement : EnvironmentSpace} {q : Pool} (kept : t.Kept m stances)
    (called : t.Called stances) (prepares : m.Prepares requirement t.pool (.ok id) q) :
    t.deleteCalls id = 0 := by
  obtain ⟨-, -, before⟩ := prepares.ok kept.balanced
  refine called.never id (fun c deleting => ?_) (fun dead => ?_)
  · obtain ⟨-, has, -⟩ := called.asked c id deleting
    have locked : id ∈ t.pool.locked := (kept.locked id).2 ⟨c, .inr deleting⟩
    exact (before has).1.unlocked locked
  · have deployed := (before dead.1).1.deployed
    rw [dead.2] at deployed
    cases deployed

/-- A scoped run cleans up, unless its body declares the environment deleted. Then the environment
stays tracked for good, and the platform is never asked to delete it. -/
theorem runScoped_cleans_up_iff (m : Manager) (rules : Standing → Task → Bool) (turns : List Turn)
    (s : Surroundings ω) (w : ω) (requirement : EnvironmentSpace)
    (ofLifecycle : LifecycleError → ε) (body : Body ε α) (id : EnvironmentId)
    (prepared : (Work.run s.recording (m.prepare requirement) (m.traffic rules turns).pool
      (w, [])).1 = .ok id) :
    let t := m.traffic rules turns
    let start := (Work.run s.recording (m.prepare requirement) t.pool (w, [])).2
    let broughtUp := Work.run s.recording (m.bringUp id) start.1 start.2
    let reached := (Work.run s.recording (m.attempt ofLifecycle body id) start.1 start.2).2
    let before := (reached.1.environment id).status
    let ran := Work.run s.recording
      (m.runScoped requirement ofLifecycle (fun id => body.work id)) t.pool (w, [])
    let calls := t.deleteCalls id + deleteCalls ran.2.2.2 id
    (m.CleanedUp id ran.1 before ran.2.1 calls ↔ before ≠ .deleted) ∧
    (before = .deleted →
      broughtUp.1 = .ok () ∧ (broughtUp.2.1.environment id).status ≠ .deleted ∧
        id ∈ ran.2.1.tracked ∧ calls = 0) := by
  intro t start broughtUp reached before ran calls
  obtain ⟨stances, kept, called⟩ := m.traffic_called rules turns
  obtain ⟨result, q, advanced, prepares⟩ := m.prepare_advance requirement t.pool
  have started : Work.run s.recording (m.prepare requirement) t.pool (w, []) = (result, q, w, []) :=
    Program.run_of_advance _ _ advanced _
  obtain rfl : result = .ok id := by rwa [started] at prepared
  have start_eq : start = (q, w, []) := congrArg Prod.snd started
  have balanced := (prepares.stretch kept.balanced).balanced
  have tracked := prepares.tracked
  obtain ⟨has, alive⟩ := balanced.tracked_alive id tracked
  have unasked : t.deleteCalls id = 0 := prepares.unasked kept called
  have ran_eq := m.runScoped_run ofLifecycle body started
  have came := (m.attempt_keeping ofLifecycle body id).came (s := s) .refl
    (fun _ _ _ => .trans) q (w, [])
  simp only [ran, calls, before, reached, broughtUp, ran_eq, start_eq, unasked, Nat.zero_add]
  have only_body := m.attempt_deleted ofLifecycle body alive (s := s) (w := (w, []))
  generalize Work.run s.recording (m.attempt ofLifecycle body id) q (w, []) = attempted
    at came only_body ⊢
  obtain ⟨outcome, r, v⟩ := attempted
  -- what the body cannot touch: the number of the environment, the list and the platform
  have named : (r.environment id).id = id :=
    came.keeps.environment.id.trans (balanced.numbered id has)
  have tracked_still : id ∈ r.tracked := came.keeps.tracked.symm ▸ tracked
  have none : deleteCalls v.2 id = 0 := came.calls
  by_cases dead : (r.environment id).status = .deleted
  -- a deletion of a deleted environment returns before it asks or untracks
  · have left := m.cleanUp_run_dead (s := s) (w := v) outcome dead
    have tracked_after := left.keeps.tracked.symm ▸ tracked_still
    have dead_after := left.keeps.environment ▸ dead
    refine ⟨⟨fun clean => ?_, fun alive => absurd dead alive⟩, fun _ => ?_⟩
    · rcases clean with ⟨-, -, -, deployed, -⟩ | ⟨-, forgotten, -⟩
      · rw [dead_after] at deployed
        cases deployed
      · exact absurd tracked_after forgotten
    · obtain ⟨up, alive⟩ := only_body dead
      exact ⟨up, alive, tracked_after, left.calls.trans none⟩
  · have clean := m.cleanUp_run_alive (s := s) (w := v) outcome (came.keeps.has.2 has) named
      tracked_still dead none
    exact ⟨⟨fun _ => dead, fun _ => clean⟩, fun deleted => absurd deleted dead⟩

/-- A body that does nothing but declare its environment deleted. -/
def declareDeleted : Body LifecycleError Unit :=
  .visit [.setStatus .deleted] (fun _ => .finish (.ok ()))

/-- Surroundings in which nothing fails. -/
def smooth : Surroundings Unit := ⟨fun r w => (r.obliging, w), fun _ => false⟩

/-- Even where nothing fails, the environment of such a body is not cleaned up. -/
theorem runScoped_cleans_up_iff_declared :
    let ran := Work.run smooth.recording
      (sample.runScoped {} (fun error => error) (fun id => declareDeleted.work id)) {} ((), [])
    (Work.run smooth.recording (sample.prepare {}) {} ((), [])).1 = .ok ⟨0⟩ ∧
      ¬ sample.CleanedUp ⟨0⟩ ran.1 .deleted ran.2.1 (0 + deleteCalls ran.2.2.2 ⟨0⟩) := by
  intro ran
  have prepared : (Work.run smooth.recording (sample.prepare {}) {} ((), [])).1 = .ok ⟨0⟩ := rfl
  have cleans := (runScoped_cleans_up_iff sample Standing.mayAsk [] smooth () {}
    (fun error => error) declareDeleted ⟨0⟩ prepared).1
  exact ⟨prepared, fun clean => cleans.1 clean rfl⟩

end Manager

end Testbed
