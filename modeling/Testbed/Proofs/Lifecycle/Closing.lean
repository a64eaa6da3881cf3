import Testbed.Proofs.Lifecycle.Cancellation
import Testbed.Proofs.Lifecycle.Winding

/-!
# Provisioning closes

Deploying and connecting look at the cancellation of the run before each of their requests, so in a
cancelled run every answer is their last one. They fail where it says that they were interrupted. An
answer that was on its way before still counts: it can take the environment one status further, and
they succeed if that is the status that they are for.
-/
namespace Testbed

open Program

/-- A pool whose run has been cancelled, and whose environments are in order. -/
structure Pool.Halted (p : Pool) : Prop where
  stopped : p.cancelled = true
  equipped : p.Equipped

/-- Whether an answer is not that of an interrupted request. -/
def Request.Through (r : Request) (reply : r.Reply) : Prop := r.allows true reply = false

/-- Whether work closes in halted pools. -/
abbrev Work.Closes {α : Type} (L : Pool → (r : Request) → r.Reply → α → Pool → Prop)
    (work : Work α) : Prop :=
  Program.Closes Pool.Halted L work

namespace Task

/-- Whether a task has provisioned its environment. -/
def Provisioned : (task : Task) → task.Result → Prop
  | .deploy _, result | .connect _, result => result = .ok ()
  | .prepare _, _ | .markDirty _, _ | .release _, _ | .delete _, _ | .shutdown, _ => False

/-- The statuses for which a task provisions its environment. -/
def Reached : Task → EnvironmentStatus → Prop
  | .deploy _, status => status.isDeployed = true
  | .connect _, status => status = .connected
  | .prepare _, _ | .markDirty _, _ | .release _, _ | .delete _, _ | .shutdown, _ => False

/-- An environment that is provisioned is neither new nor deleted. -/
theorem Reached.begun {task : Task} {status : EnvironmentStatus} (reached : task.Reached status) :
    status ≠ .new ∧ status ≠ .deleted := by
  cases task with
  | deploy id | connect id => constructor <;> rintro rfl <;> cases reached
  | prepare _ | markDirty _ | release _ | delete _ | shutdown => exact reached.elim

/-- How a task is over at an answer in a halted pool, with the status of its environment before and
after. The environment moves only if the answer came through. -/
inductive Concludes (task : Task) (through : Prop) (result : task.Result)
    (before after : EnvironmentStatus) : Prop where
  | stayed (same : after = before) (satisfied : task.Provisioned result → task.Reached before)
  | moved (through : through) (step : before.canBecome after = true) (alive : after ≠ .deleted)
    (done : task.Provisioned result ↔ task.Reached after)

/-- How a task that provisions an environment is over at an answer in a halted pool. -/
def Outcome (task : Task) (id : EnvironmentId) (p : Pool) (r : Request) (reply : r.Reply)
    (result : task.Result) (q : Pool) : Prop :=
  task.Concludes (r.Through reply) result (p.environment id).status (q.environment id).status

theorem Outcome.came {task : Task} {id : EnvironmentId} {p q : Pool} {r : Request} {reply : r.Reply}
    {result : task.Result} {next : EnvironmentStatus} (through : r.Through reply)
    (step : (p.environment id).status.canBecome next = true)
    (status : (q.environment id).status = next) (alive : next ≠ .deleted)
    (done : task.Provisioned result ↔ task.Reached next) : task.Outcome id p r reply result q := by
  subst status
  exact .moved through step alive done

end Task

/-- What a step of an environment to a status comes to. -/
inductive Pool.Moves (id : EnvironmentId) (next : EnvironmentStatus) (p : Pool) :
    Except LifecycleError Unit → Pool → Prop where
  | came {q : Pool} (kept : q.cancelled = p.cancelled)
    (step : (p.environment id).status.canBecome next = true)
    (status : (q.environment id).status = next) : Moves id next p (.ok ()) q
  | failed {q : Pool} {error : LifecycleError} (kept : q.cancelled = p.cancelled)
    (same : (q.environment id).status = (p.environment id).status) : Moves id next p (.error error) q

/-- A later pool that differs from an earlier one in one environment at most. -/
structure Pool.Spares (id : EnvironmentId) (p q : Pool) : Prop where
  length : q.environments.length = p.environments.length
  others : ∀ k, k ≠ id → q.environment k = p.environment k

theorem Pool.Spares.refl (id : EnvironmentId) (p : Pool) : p.Spares id p := ⟨rfl, fun _ _ => rfl⟩

theorem Pool.Spares.trans {id : EnvironmentId} {p q r : Pool} (first : p.Spares id q)
    (second : q.Spares id r) : p.Spares id r where
  length := second.length.trans first.length
  others k apart := (second.others k apart).trans (first.others k apart)

/-- A change of an environment that leaves its status. -/
theorem Pool.status_modify (p : Pool) (id : EnvironmentId) {f : Environment → Environment}
    (keeps : (f (p.environment id)).status = (p.environment id).status) :
    ((p.modify id f).environment id).status = (p.environment id).status := by
  rw [Pool.environment_modify]
  split
  · exact keeps
  · rfl

section Provisioning

variable {ε α : Type} {m : Manager} {id : EnvironmentId}

/-- Work on a locked environment closes if it does so by itself and is over at once when the lock
comes in a halted pool. -/
theorem Work.Closes.holding {L : Pool → (r : Request) → r.Reply → α → Pool → Prop} {work : Work α}
    (begun : ∀ p : Pool, p.Halted → ∃ value q, work.advance (p.lock id) = (.finished value, q) ∧
      L p (.lock id) () value (q.unlock id))
    (inner : work.Closes (fun p r reply value q => L p r reply value (q.unlock id))) :
    (Work.holding id work).Closes L := by
  refine .request_bind (fun _ => .modify_bind (inner.bind ?_ ?_)) (fun _ p halted => ?_)
  · intro p r reply value q _ outcome
    exact ⟨value, q.unlock id, rfl, outcome⟩
  · exact fun value => .modify_bind (.pure value)
  · obtain ⟨value, q, advanced, outcome⟩ := begun p halted
    refine ⟨value, q.unlock id, ?_, outcome⟩
    exact (Program.advance_bind (s := p.lock id) advanced).trans rfl

namespace Manager

theorem setStatus_moves (id : EnvironmentId) (next : EnvironmentStatus) (p : Pool) :
    ∃ result q, (setStatus id next).advance p = (.finished result, q) ∧
      p.Moves id next result q := by
  by_cases allowed : (p.environment id).status.canBecome next = true
  · refine ⟨_, _, setStatus_advance allowed, .came rfl allowed ?_⟩
    have there : p.Has id := Pool.has_of_alive (EnvironmentStatus.alive_of_canBecome allowed)
    rw [Pool.environment_modify, if_pos ⟨rfl, there⟩]
  · let cause : EnvironmentError :=
      .invalidTransition (p.environment id).name (p.environment id).status next
    have refused : (p.environment id).setStatus next = .error cause := if_neg allowed
    have revised : (Work.revise id (·.setStatus next)).advance p =
        (.finished (.error cause), p) := by
      unfold Work.revise Program.update
      simp only [Program.advance, refused]
    refine ⟨.error (.environment cause), p, ?_, .failed rfl rfl⟩
    unfold setStatus
    rw [Program.advance_bind revised]
    rfl

theorem equip_moves (m : Manager) (id : EnvironmentId) (p : Pool) :
    ∃ result q, (m.equip id).advance p = (.finished result, q) ∧ p.Moves id .deployed result q := by
  let attached := m.features.attachToAll (p.environment id).nodes
  let q := p.modify id (fun e => { e with nodes := attached.1 })
  have same : (q.environment id).status = (p.environment id).status := p.status_modify id rfl
  have updated : (Program.update (fun p : Pool =>
      let attached := m.features.attachToAll (p.environment id).nodes
      (attached.2, p.modify id (fun e => { e with nodes := attached.1 }))) : Work _).advance p =
        (.finished attached.2, q) := rfl
  rw [equip, Program.advance_bind updated, Program.advance_bind (environment_advance id)]
  cases attached.2 with
  | some cause => exact ⟨_, _, rfl, .failed rfl same⟩
  | none =>
    obtain ⟨result, last, advanced, moves⟩ := setStatus_moves id .deployed q
    dsimp only
    rw [Program.advance_bind advanced]
    cases moves with
    | came kept step status => exact ⟨_, _, rfl, .came kept (same ▸ step) status⟩
    | failed kept stayed => exact ⟨_, _, rfl, .failed kept (stayed.trans same)⟩

/-- How a step of provisioning is over at an answer: it is taken only if the answer is not that of
an interrupted request. -/
def Takes (id : EnvironmentId) (next : EnvironmentStatus) (p : Pool) (r : Request) (reply : r.Reply)
    (result : Except LifecycleError Unit) (q : Pool) : Prop :=
  p.Moves id next result q ∧ (result = .ok () → r.Through reply)

theorem askPlatform_closes : Work.Closes (Takes id .prepared) (m.askPlatform id) := by
  refine .after (environment_changes (m := m) id) (fun e => .after (cancelled_changes (m := m)) ?_)
  intro cancelled
  cases cancelled with
  | true => exact .pure _
  | false =>
    refine .request_bind (fun reply => ?_) (fun reply p halted => ?_)
    · rcases reply with _ | (source | (_ | _))
      · exact .pure _
      · exact .of_respects (deploymentFailed_changes (m := m) _ _)
      · exact .of_respects (deploymentFailed_changes (m := m) _ _)
      · exact .of_respects (setStatus_changes (m := m) _)
    · rcases reply with _ | (source | (_ | _))
      · exact ⟨_, p, rfl, .failed rfl rfl, nofun⟩
      · exact ⟨_, _, rfl, .failed rfl rfl, nofun⟩
      · exact ⟨_, _, rfl, .failed rfl rfl, nofun⟩
      · obtain ⟨result, q, advanced, moves⟩ := setStatus_moves id .prepared p
        exact ⟨result, q, advanced, moves, fun _ => rfl⟩

theorem provision_closes : Work.Closes (Takes id .deployed) (m.provision id) := by
  refine .after (environment_changes (m := m) id) (fun e => .after (cancelled_changes (m := m)) ?_)
  intro cancelled
  cases cancelled with
  | true => exact .pure _
  | false =>
    refine .request_bind (fun deployed => .modify_bind ?_) (fun deployed p halted => ?_)
    · rcases deployed.outcome with _ | (source | _)
      · exact .pure _
      · exact .of_respects (deploymentFailed_changes (m := m) _ _)
      · exact .of_respects equip_changes
    · obtain ⟨provision, outcome⟩ := deployed
      have same := p.status_modify id (f := (·.accept provision)) rfl
      rcases outcome with _ | (source | _)
      · exact ⟨_, _, rfl, .failed rfl same, nofun⟩
      · exact ⟨_, _, rfl, .failed rfl same, nofun⟩
      · obtain ⟨result, q, advanced, moves⟩ :=
          m.equip_moves id (p.modify id (·.accept provision))
        refine ⟨result, q, advanced, ?_, fun _ => rfl⟩
        cases moves with
        | came kept step status => exact .came kept (same ▸ step) status
        | failed kept stayed => exact .failed kept (stayed.trans same)

theorem provision_outcome : Work.Closes ((Task.deploy id).Outcome id) (m.provision id) := by
  refine provision_closes.mono (fun p r reply result q takes => ?_)
  obtain ⟨moves, answered⟩ := takes
  cases moves with
  | came _ step status => exact .came (answered rfl) step status nofun ⟨fun _ => rfl, fun _ => rfl⟩
  | failed _ same => exact .stayed same nofun

/-- Deploying is over at the next answer. -/
theorem deployHeld_closes : Work.Closes ((Task.deploy id).Outcome id) (m.deployHeld id) := by
  refine .after (environment_changes (m := m) id) (fun e => ?_)
  cases e.status with
  | deployed | connected | deleted => exact .pure _
  | prepared => exact provision_outcome
  | new =>
    refine askPlatform_closes.bind (fun p r reply asked q halted takes => ?_) (fun asked => ?_)
    · obtain ⟨moves, answered⟩ := takes
      cases moves with
      | came kept step status =>
        -- the environment is prepared now, but the platform is not asked to go on with it
        refine ⟨_, q, m.provision_cancelled id (kept.trans halted.stopped), ?_⟩
        exact .came (answered rfl) step status nofun ⟨nofun, nofun⟩
      | failed _ same => exact ⟨_, q, rfl, .stayed same nofun⟩
    · cases asked with
      | error error => exact .pure _
      | ok _ => exact provision_outcome

/-- How a part of connecting is over at an answer. -/
structure Tries (id : EnvironmentId) (p : Pool) (r : Request) (reply : r.Reply)
    (result : Except ε α) (q : Pool) : Prop where
  stopped : q.cancelled = true
  same : (q.environment id).status = (p.environment id).status
  answered : ∀ value, result = .ok value → r.Through reply

/-- Adding counts makes no request. -/
theorem addCounts_changes (a b : UInt32) :
    (addCounts (Program.modify Pool.overflow) a b : Work UInt32).Respects m.Change
      (fun _ => False) :=
  addCounts_respects (.modify (fun _ => .noted rfl rfl)) a b

theorem attempt_closes (info : ConnectionInfo) (n : UInt32) :
    Work.Closes (fun p r reply trial q => q = p ∧
      ∀ session, trial = .succeeded session → r.Through reply)
      ((m.connectSteps info).attempt n) := by
  refine .after (cancelled_changes (m := m)) (fun cancelled => ?_)
  cases cancelled with
  | true => exact .pure _
  | false =>
    refine .request_bind (fun reply => ?_) (fun reply p _ => ?_)
    · rcases reply with _ | (session | error | _) <;> exact .pure _
    · rcases reply with _ | (session | error | _)
      · exact ⟨_, p, rfl, rfl, nofun⟩
      · exact ⟨_, p, rfl, rfl, fun _ _ => rfl⟩
      · exact ⟨_, p, rfl, rfl, nofun⟩
      · exact ⟨_, p, rfl, rfl, nofun⟩

theorem pause_closes (info : ConnectionInfo) (ms : Nat) :
    Work.Closes (fun p _ _ _ q => q = p) ((m.connectSteps info).pause ms) := by
  refine .after (cancelled_changes (m := m)) (fun cancelled => ?_)
  cases cancelled with
  | true => exact .pure _
  | false => exact .request_bind (fun _ => .pure _) (fun _ p _ => ⟨_, p, rfl, rfl⟩)

/-- A failed attempt may be followed by anything that closes and that fails in a cancelled run. -/
theorem tryOnce_closes (info : ConnectionInfo) (n : UInt32)
    {afterFailure : String → Work (Except RetryError (Attempted Session))}
    (fails : ∀ reason p, p.cancelled = true → ∃ error q,
      (afterFailure reason).advance p = (.finished (.error error), q) ∧ q.cancelled = true ∧
        (q.environment id).status = (p.environment id).status)
    (goesOn : ∀ reason, Work.Closes (Tries id) (afterFailure reason)) :
    Work.Closes (Tries id)
      (tryOnce m.config.connect (m.connectSteps info) n afterFailure) := by
  refine (attempt_closes info n).bind ?closed (fun trial => ?rest)
  case closed =>
    rintro p r reply trial _ halted ⟨rfl, answered⟩
    have failed (reason : String) := fails reason _ halted.stopped
    cases trial with
    | succeeded session => exact ⟨_, _, rfl, halted.stopped, rfl, fun _ _ => answered _ rfl⟩
    | cancelled => exact ⟨_, _, rfl, halted.stopped, rfl, nofun⟩
    | failed reason =>
      obtain ⟨error, q, advanced, stopped, same⟩ := failed reason
      exact ⟨_, q, advanced, stopped, same, nofun⟩
    | overdue =>
      obtain ⟨error, q, advanced, stopped, same⟩ := failed m.config.connect.overdueReason
      exact ⟨_, q, advanced, stopped, same, nofun⟩
  case rest =>
    cases trial with
    | succeeded session => exact .pure _
    | cancelled => exact .pure _
    | failed reason => exact goesOn reason
    | overdue => exact goesOn _

/-- In a cancelled run no attempt follows another one. -/
theorem retryFrom_closes (info : ConnectionInfo) (n : UInt32) (retries : Nat) :
    Work.Closes (Tries id) (retryFrom m.config.connect (m.connectSteps info) n retries) := by
  induction retries generalizing n with
  | zero =>
    exact tryOnce_closes info n (fun _ p stopped => ⟨_, p, rfl, stopped, rfl⟩) (fun _ => .pure _)
  | succ retries ih =>
    refine tryOnce_closes info n (fun _ p stopped => ?fails) (fun _ => ?goesOn)
    case fails =>
      let q := p.count .connectionRetries
      refine ⟨.cancelled, q, ?_, stopped, rfl⟩
      change (((m.connectSteps info).pause _) >>= _).advance q = _
      rw [Program.advance_bind (m.pause_cancelled (p := q) info _ stopped)]
      rfl
    case goesOn =>
      refine .after (S := m.Change) (.modify (fun _ => .noted rfl rfl)) (fun _ => ?_)
      refine (pause_closes info _).bind ?_ (fun interrupted => ?_)
      · rintro _ r reply interrupted p halted rfl
        cases interrupted with
        | true => exact ⟨_, _, rfl, halted.stopped, rfl, nofun⟩
        | false =>
          obtain ⟨q, counted, noted⟩ := addCounts_advance (p := p) n 1
          have stopped : q.cancelled = true := noted.cancelled.trans halted.stopped
          refine ⟨.error .cancelled, q, ?_, stopped, noted.status id, nofun⟩
          exact (Program.advance_bind counted).trans (m.retryFrom_cancelled info _ retries stopped)
      · cases interrupted with
        | true => exact .pure _
        | false => exact .after (addCounts_changes (m := m) n 1) ih

theorem connectNode_closes (place : Nat) (total : UInt32) (node : Node) :
    Work.Closes (Tries id) (m.connectNode id place total node) := by
  unfold connectNode
  cases node.connection with
  | none => exact .pure _
  | some info =>
    have tried : Work.Closes (Tries id) (retry m.config.connect (m.connectSteps info)) :=
      .after (addCounts_changes (m := m) _ 1) (fun _ => retryFrom_closes info 1 _)
    refine tried.bind ?closed (fun tried => ?rest)
    case closed =>
      rintro p r reply (_ | attempted) q halted ⟨stopped, same, answered⟩
      · rename_i error
        cases error <;> exact ⟨_, q, rfl, stopped, same, nofun⟩
      · obtain ⟨last, counted, noted⟩ := addCounts_advance (p := q) total attempted.attempts
        refine ⟨_, _, (Program.advance_bind counted).trans rfl, noted.cancelled.trans stopped, ?_,
          fun _ _ => answered _ rfl⟩
        exact (last.status_modify id rfl).trans ((noted.status id).trans same)
    case rest =>
      rcases tried with (_ | _) | attempted
      · exact .pure _
      · exact .pure _
      · exact .after (addCounts_changes (m := m) _ _) (fun _ => .modify_bind (.pure _))

theorem connectNodes_closes (place : Nat) (total : UInt32) (nodes : List Node) :
    Work.Closes (Tries id) (m.connectNodes id place total nodes) := by
  induction nodes generalizing place total with
  | nil => exact .pure _
  | cons node rest ih =>
    refine (connectNode_closes place total node).bind ?closed (fun connected => ?rest)
    case closed =>
      rintro p r reply (error | total) q _ ⟨stopped, same, answered⟩
      · exact ⟨_, q, rfl, stopped, same, nofun⟩
      -- a session to the last node is all there is to do, and another node is not tried for
      · cases rest with
        | nil => exact ⟨_, q, rfl, stopped, same, fun _ _ => answered _ rfl⟩
        | cons next rest =>
          obtain ⟨last, failed, noted⟩ :=
            m.connectNodes_cancelled id (place + 1) total next rest stopped
          exact ⟨_, last, failed, noted.cancelled.trans stopped, (noted.status id).trans same, nofun⟩
    case rest =>
      cases connected with
      | error error => exact .pure _
      | ok total => exact ih (place + 1) total

/-- Connecting is over at the next answer. -/
theorem connectHeld_closes : Work.Closes ((Task.connect id).Outcome id) (m.connectHeld id) := by
  refine .after (environment_changes (m := m) id) (fun e => ?_)
  cases e.status with
  | new | prepared | connected | deleted => exact .pure _
  | deployed =>
    refine (connectNodes_closes 0 0 e.nodes).bind ?closed (fun connected => ?rest)
    case closed =>
      rintro p r reply (error | total) q _ ⟨stopped, same, answered⟩
      · exact ⟨_, q, rfl, .stayed same nofun⟩
      · obtain ⟨result, last, advanced, moves⟩ := setStatus_moves id .connected q
        dsimp only
        rw [Program.advance_bind advanced]
        cases moves with
        | came _ step status =>
          refine ⟨_, _, rfl, .came (answered _ rfl) (same ▸ step) status nofun ?_⟩
          exact ⟨fun _ => rfl, fun _ => rfl⟩
        | failed _ stayed => exact ⟨_, _, rfl, .stayed (stayed.trans same) nofun⟩
    case rest =>
      cases connected with
      | error error => exact .pure _
      | ok total =>
        refine .of_respects (S := m.Change) (.bind (setStatus_changes _) (fun moved => ?_))
        cases moved with
        | error error => exact .pure _
        | ok _ => exact .bind (.modify (fun _ => .noted rfl rfl)) (fun _ => .pure _)

/-- Every task that provisions an environment closes. -/
theorem perform_closes (m : Manager) {task : Task} (provisions : task.provisions = some id) :
    (m.perform task).Closes (task.Outcome id) := by
  cases task with
  | deploy k =>
    obtain rfl := Option.some.inj provisions
    refine .holding (fun p halted => ?_) deployHeld_closes
    refine ⟨_, _, m.deployHeld_cancelled k (p := p.lock k) halted.stopped, .stayed rfl ?_⟩
    intro done
    change (p.environment k).deployCancelled = .ok () at done
    change (p.environment k).status.isDeployed = true
    unfold Environment.deployCancelled at done
    split at done <;> simp_all [EnvironmentStatus.isDeployed]
  | connect k =>
    obtain rfl := Option.some.inj provisions
    refine .holding (fun p halted => ?_) connectHeld_closes
    have equipped : (p.environment k).status = .deployed → (p.environment k).nodes ≠ [] :=
      fun deployed => halted.equipped k (by rw [deployed]; nofun)
    obtain ⟨q, advanced, noted⟩ :=
      m.connectHeld_cancelled (p := p.lock k) k halted.stopped equipped
    refine ⟨_, q, advanced, .stayed (noted.status k) ?_⟩
    intro done
    change (p.environment k).connectCancelled = .ok () at done
    change (p.environment k).status = .connected
    unfold Environment.connectCancelled at done
    split at done <;> simp_all
  | prepare _ | markDirty _ | release _ | delete _ | shutdown => cases provisions


/-- A task that provisions an environment changes no other one. -/
theorem perform_spares (m : Manager) {task : Task} (provisions : task.provisions = some id) :
    (m.perform task).Respects (Pool.Spares id) (fun _ => True) := by
  have held {work : Work (Except LifecycleError Unit)} (on : Work.On id work) :
      (Work.holding id work).Respects (Pool.Spares id) (fun _ => True) := by
    have same {p q : Pool} (environments : q.environments = p.environments) : p.Spares id q :=
      ⟨congrArg List.length environments,
        fun k _ => Change.environment_of_environments environments k⟩
    refine .bind (.request trivial) (fun _ => .bind (.modify (fun _ => same rfl)) (fun _ => ?_))
    refine .bind (on.mono (fun _ _ works => ⟨works.length, works.others⟩) (fun _ _ => trivial)) ?_
    exact fun _ => .bind (.modify (fun _ => same rfl)) (fun _ => .pure _)
  cases task with
  | deploy k =>
    obtain rfl := Option.some.inj provisions
    exact held (m.deployHeld_on k)
  | connect k =>
    obtain rfl := Option.some.inj provisions
    exact held (m.connectHeld_on k)
  | prepare _ | markDirty _ | release _ | delete _ | shutdown => cases provisions

end Manager

end Provisioning

end Testbed
