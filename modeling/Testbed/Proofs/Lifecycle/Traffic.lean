import Mathlib.Logic.Function.Basic
import Testbed.Lifecycle.Manager
import Testbed.Proofs.Program.Contract

/-!
# Traffic

Any number of clients of one manager, each in the middle of at most one task. A turn lets a client
begin a task or gives it the answer to its pending request; the client then works without
interruption up to its next request or the end of the task. Clients, and the cancellation of the
run, take turns in any order, and the answers are arbitrary apart from two things: the lock of an
environment is only given when it is free, and what cancellation interrupts goes unanswered after
cancellation. Some answers can be on their way when the run is cancelled, and those still come.
-/
namespace Testbed

/-- What clients ask of a manager. -/
inductive Task where
  | prepare (requirement : EnvironmentSpace)
  | deploy (id : EnvironmentId)
  | connect (id : EnvironmentId)
  | markDirty (id : EnvironmentId)
  | release (id : EnvironmentId)
  | delete (id : EnvironmentId)
  | shutdown

namespace Task

abbrev Result : Task → Type
  | prepare _ => Except LifecycleError EnvironmentId
  | deploy _ | connect _ | markDirty _ => Except LifecycleError Unit
  | release _ | delete _ | shutdown => Unit

/-- The environment that a task is about. -/
def environment? : Task → Option EnvironmentId
  | deploy id | connect id | markDirty id | release id | delete id => some id
  | prepare _ | shutdown => none

end Task

/-- The work of a task. -/
def Manager.perform (m : Manager) : (task : Task) → Work task.Result
  | .prepare requirement => m.prepare requirement
  | .deploy id => m.deploy id
  | .connect id => m.connect id
  | .markDirty id => Manager.markDirty id
  | .release id => m.release id
  | .delete id => Manager.delete id
  | .shutdown => Manager.shutdown

/-- Whether an environment has been created. -/
def Pool.Has (p : Pool) (id : EnvironmentId) : Prop := id.index < p.environments.length

instance (p : Pool) (id : EnvironmentId) : Decidable (p.Has id) :=
  inferInstanceAs (Decidable (id.index < p.environments.length))

/-- Whether a request can be answered now. -/
def Pool.grants (p : Pool) : Request → Bool
  | .lock id => id ∉ p.locked
  | .prepare _ | .deploy _ | .delete _ | .interruptible _ | .call _ | .notify _ => true

/-- Whether a request can get an answer, given whether it is interrupted: some go unanswered then. -/
def Request.allows (interrupted : Bool) : (r : Request) → r.Reply → Bool
  | .prepare _, reply => reply.isNone == interrupted
  | .deploy _, reply => reply.outcome.isNone == interrupted
  | .interruptible _, reply => reply.isNone == interrupted
  | .lock _, _ | .delete _, _ | .call _, _ | .notify _, _ => true

/-- Whether a request asks the platform to delete an environment. -/
def Request.deletes (id : EnvironmentId) : Request → Bool
  | .delete e => e.id = id
  | _ => false

/-- What a client has been handed. -/
inductive Standing where
  | newcomer
  /-- It was handed an environment and has not given it back. -/
  | holder (id : EnvironmentId)
  | gone
  deriving DecidableEq

namespace Standing

/-- The standing once a task has ended. An environment is given back by releasing or deleting it. -/
def after (s : Standing) : (task : Task) → task.Result → Standing
  | .prepare _, .ok id => holder id
  | .release _, _ | .delete _, _ => gone
  | _, _ => s

/-- The tasks of a client that keeps to the environment it was handed, and gives it back once. A
shutdown can come from anyone at any time. -/
def mayAsk : Standing → Task → Bool
  | _, .shutdown | newcomer, .prepare _ => true
  | holder id, task => task.environment? = some id
  | _, _ => false

end Standing

/-- A task whose client waits for an answer. -/
structure Pending where
  task : Task
  request : Request
  next : request.Reply → Work task.Result

structure Client where
  standing : Standing := .newcomer
  pending : Option Pending := none

/-- What can be seen of the work of clients. -/
inductive Happening where
  | asked (client : Nat) (request : Request)
  | returned (client : Nat) (task : Task) (result : task.Result)

structure Traffic where
  pool : Pool := {}
  clients : Nat → Client := fun _ => {}
  /-- What has happened, in order. -/
  journal : List Happening := []
  /-- The clients whose answers were on their way when the run was cancelled, and still are. -/
  late : Nat → Bool := fun _ => false

inductive Turn where
  | call (client : Nat) (task : Task)
  /-- Answer a client's request, whatever it is. -/
  | answer (client : Nat) (reply : (r : Request) → r.Reply)
  /-- Cancel the run, while some clients are being answered. -/
  | cancel (late : Nat → Bool)

namespace Traffic

/-- Whether the cancellation of the run has interrupted what a client waits for. -/
def interrupts (t : Traffic) (client : Nat) : Bool := t.pool.cancelled && !t.late client

/-- Whether the request of a client can get an answer now. -/
def admits (t : Traffic) (client : Nat) (r : Request) (reply : r.Reply) : Bool :=
  t.pool.grants r && r.allows (t.interrupts client) reply

/-- A client at rest after a stretch of work. -/
def rested (t : Traffic) (client : Nat) (task : Task) :
    Rest Pool Request Request.Reply task.Result × Pool → Traffic
  | (.finished result, pool) =>
    { pool
      clients := Function.update t.clients client
        { standing := (t.clients client).standing.after task result }
      journal := t.journal ++ [.returned client task result]
      late := Function.update t.late client false }
  | (.waiting request next, pool) =>
    { pool
      clients := Function.update t.clients client
        { t.clients client with pending := some ⟨task, request, next⟩ }
      journal := t.journal ++ [.asked client request]
      late := Function.update t.late client false }

/-- Let a client work up to its next request. -/
def advance (t : Traffic) (client : Nat) (task : Task) (work : Work task.Result) : Traffic :=
  t.rested client task (work.advance t.pool)

/-- Take a turn. One that is not possible changes nothing: a client has one task at a time, is held
to the rules about the tasks that it may begin, knows created environments only, and goes on when
its request can get the answer. The run is cancelled once. -/
def take (m : Manager) (rules : Standing → Task → Bool) (t : Traffic) : Turn → Traffic
  | .call client task =>
    if (t.clients client).pending.isNone ∧ rules (t.clients client).standing task ∧
        task.environment?.all (t.pool.Has ·) then
      t.advance client task (m.perform task)
    else t
  | .answer client reply =>
    match (t.clients client).pending with
    | none => t
    | some pending =>
      if t.admits client pending.request (reply pending.request) then
        t.advance client pending.task (pending.next (reply pending.request))
      else t
  | .cancel late => if t.pool.cancelled then t else { t with pool := t.pool.cancel, late }

/-- Whether a client can begin a task. -/
def MayBegin (rules : Standing → Task → Bool) (t : Traffic) (client : Nat) (task : Task) : Prop :=
  (t.clients client).pending.isNone ∧ rules (t.clients client).standing task ∧
    task.environment?.all (t.pool.Has ·)

/-- What a turn comes to: nothing, a stretch of one client, or the cancellation of the run. -/
inductive Took (m : Manager) (rules : Standing → Task → Bool) (t : Traffic) :
    Turn → Traffic → Prop where
  | stayed {turn : Turn} : Took m rules t turn t
  | began {client : Nat} {task : Task} (begins : t.MayBegin rules client task) :
    Took m rules t (.call client task) (t.advance client task (m.perform task))
  | wentOn {client : Nat} {reply : (r : Request) → r.Reply} {pending : Pending}
    (found : (t.clients client).pending = some pending)
    (admitted : t.admits client pending.request (reply pending.request) = true) :
    Took m rules t (.answer client reply)
      (t.advance client pending.task (pending.next (reply pending.request)))
  | cancelled {late : Nat → Bool} (running : t.pool.cancelled = false) :
    Took m rules t (.cancel late) { t with pool := t.pool.cancel, late }

theorem take_took (m : Manager) (rules : Standing → Task → Bool) (t : Traffic) (turn : Turn) :
    t.Took m rules turn (t.take m rules turn) := by
  cases turn with
  | call client task =>
    dsimp only [take]
    split
    · exact .began ‹_›
    · exact .stayed
  | answer client reply =>
    dsimp only [take]
    split
    · exact .stayed
    · split
      · exact .wentOn ‹_› ‹_›
      · exact .stayed
  | cancel late =>
    dsimp only [take]
    split
    · exact .stayed
    · exact .cancelled (Bool.eq_false_iff.2 ‹_›)

theorem admits_grants {t : Traffic} {client : Nat} {r : Request} {reply : r.Reply}
    (admitted : t.admits client r reply = true) : t.pool.grants r = true :=
  (Bool.and_eq_true_iff.1 admitted).1

section Rested

variable {t : Traffic} {client : Nat} {task : Task}

theorem pool_rested (rest : Rest Pool Request Request.Reply task.Result × Pool) :
    (t.rested client task rest).pool = rest.2 := by
  obtain ⟨result | ⟨r, next⟩, q⟩ := rest <;> rfl

theorem late_rested (rest : Rest Pool Request Request.Reply task.Result × Pool) :
    (t.rested client task rest).late = Function.update t.late client false := by
  obtain ⟨result | ⟨r, next⟩, q⟩ := rest <;> rfl

theorem clients_rested (rest : Rest Pool Request Request.Reply task.Result × Pool) {c : Nat}
    (apart : c ≠ client) : (t.rested client task rest).clients c = t.clients c := by
  obtain ⟨result | ⟨r, next⟩, q⟩ := rest <;> exact Function.update_of_ne apart ..

/-- An answer that is still on its way is for another client. -/
theorem late_of_rested (rest : Rest Pool Request Request.Reply task.Result × Pool) {c : Nat}
    (late : (t.rested client task rest).late c = true) : c ≠ client ∧ t.late c = true := by
  rw [late_rested] at late
  by_cases same : c = client
  · subst same
    simp at late
  · rw [Function.update_of_ne same] at late
    exact ⟨same, late⟩

/-- Something happens in every stretch of a client. -/
theorem journal_rested (rest : Rest Pool Request Request.Reply task.Result × Pool) :
    (t.rested client task rest).journal = t.journal ++ [match rest.1 with
      | .finished result => .returned client task result
      | .waiting r _ => .asked client r] := by
  obtain ⟨result | ⟨r, next⟩, q⟩ := rest <;> rfl

/-- What is known of all tasks that wait after a stretch of one client: what was known of those of
the others, and what is known where the stretch ended. -/
theorem waiting_rested {P : Nat → Pending → Prop}
    {rest : Rest Pool Request Request.Reply task.Result × Pool}
    (others : ∀ c pending, c ≠ client → (t.clients c).pending = some pending → P c pending)
    (own : match rest.1 with
      | .finished _ => True
      | .waiting r next => P client ⟨task, r, next⟩) :
    ∀ c pending, ((t.rested client task rest).clients c).pending = some pending → P c pending := by
  intro c pending found
  by_cases same : c = client
  · subst same
    obtain ⟨result | ⟨r, next⟩, q⟩ := rest
    · simp [rested] at found
    · simp only [rested, Function.update_self, Option.some.injEq] at found
      exact found ▸ own
  · rw [clients_rested rest same] at found
    exact others c pending same found

end Rested

/-- How often the platform was asked to delete an environment. -/
def deleteCalls (t : Traffic) (id : EnvironmentId) : Nat :=
  t.journal.countP (fun
    | .asked _ request => request.deletes id
    | .returned .. => false)

/-- No client is in the middle of a task. -/
def Quiet (t : Traffic) : Prop := ∀ client, (t.clients client).pending = none

end Traffic

/-- The traffic after some turns, from an empty pool on. -/
def Manager.traffic (m : Manager) (rules : Standing → Task → Bool) (turns : List Turn) : Traffic :=
  turns.foldl (Traffic.take m rules) {}

/-- Answers of an outside world in which nothing fails. -/
def Call.obliging : (c : Call) → c.Reply
  | .connect info _ => .opened ⟨info.endpoint⟩
  | .execute .. => .ok ⟨0, ""⟩
  | .pause _ => ()
  | .clock => ⟨.epoch, 0⟩
  | .readFile _ => .ok ""
  | .findFile _ => .ok false
  | .removeFile _ => .ok ()

/-- Answers with which nothing fails. -/
def Request.obliging : (r : Request) → r.Reply
  | .lock _ | .notify _ => ()
  | .prepare _ => some (.ok true)
  | .deploy e =>
    let reachable := e.provision.machines.map
      (fun machine => { machine with connection := some (.new "127.0.0.1" "root") })
    ⟨{ e.provision with machines := reachable }, some (.ok ())⟩
  | .delete _ => .ok ()
  | .interruptible c => some c.obliging
  | .call c => c.obliging

/-- A manager of one machine that it hands out again. -/
def Manager.sample : Manager where
  platform := "bench"
  features := ∅
  candidates := [{ nodes := [{}] }]
  config := { reuseEnvironments := true }

end Testbed
