import Testbed.Proofs.Lifecycle.Closing
import Testbed.Proofs.Lifecycle.Turns

/-!
# Traffic after cancellation

Once the run has been cancelled nobody asks for anything that provisions, and environments stay as
far as they have come, until they are deleted. An answer that was on its way in that moment still
counts, for one step of the environment that it is about: whoever waits for it holds the environment,
so there is one such answer at most.
-/
namespace Testbed

open Program

/-- Whether the cancellation of the run ends a task that waits for an answer: it winds down anyway,
or it closes. -/
inductive Pending.Stoppable (pending : Pending) : (left : Nat) → Prop where
  | cleaning {left : Nat} (cleans : pending.task.provisions = none)
    (kind : pending.request.CleansUp)
    (winds : ∀ later reply, (pending.next reply).Winds left later later) : Stoppable pending left
  | provisioning {id : EnvironmentId} (provisions : pending.task.provisions = some id)
    (spares : ∀ reply, (pending.next reply).Respects (Pool.Spares id) (fun _ => True))
    (closes : ∀ reply, (pending.next reply).Closes (pending.task.Outcome id))
    (ends : ∀ reply p, p.Halted → ∃ result q,
      (pending.next reply).advance p = (.finished result, q) ∧
        pending.task.Outcome id p pending.request reply result q) : Stoppable pending 0

namespace Traffic

variable {m : Manager} {rules : Standing → Task → Bool} {t t' start : Traffic} {client : Nat}

/-- Every client that waits can be stopped by the cancellation of the run. -/
structure Stoppable (m : Manager) (t : Traffic) : Prop where
  equipped : t.pool.Equipped
  changes : ∀ c pending, (t.clients c).pending = some pending →
    ∀ reply, m.Changes (pending.next reply)
  waiting : ∀ c pending, (t.clients c).pending = some pending → ∃ left, pending.Stoppable left

namespace Stoppable

theorem empty (m : Manager) : ({} : Traffic).Stoppable m where
  equipped _ alive := absurd rfl alive
  changes _ _ pending := nomatch pending
  waiting _ _ pending := nomatch pending

/-- One client works on, and the others wait as before. -/
theorem advance (stoppable : t.Stoppable m) {task : Task} {work : Work task.Result}
    (changes : m.Changes work)
    (stops : ∀ r next, (work.advance t.pool).1 = .waiting r next →
      ∃ left, Pending.Stoppable ⟨task, r, next⟩ left) :
    (t.advance client task work).Stoppable m := by
  have changed := changes.advance (fun _ _ change => change.equipped) stoppable.equipped
  unfold Traffic.advance
  generalize work.advance t.pool = rest at changed stops
  refine ⟨pool_rested rest ▸ changed.1, ?changes, ?waiting⟩
  case changes =>
    refine waiting_rested (P := fun _ pending => ∀ reply, m.Changes (pending.next reply))
      (fun c pending _ found => stoppable.changes c pending found) ?_
    obtain ⟨result | ⟨r, next⟩, q⟩ := rest
    · trivial
    · exact changed.2.2
  case waiting =>
    refine waiting_rested (P := fun _ pending => ∃ left, pending.Stoppable left)
      (fun c pending _ found => stoppable.waiting c pending found) ?_
    obtain ⟨result | ⟨r, next⟩, q⟩ := rest
    · trivial
    · exact stops r next rfl

end Stoppable

end Traffic

/-- Work that winds down waits as such. -/
theorem Work.Winds.stoppable {task : Task} {work : Work task.Result} {left : Nat} {p : Pool}
    (winds : work.Winds left p p) (cleans : task.provisions = none) {r : Request}
    {next : r.Reply → Work task.Result} (waits : (work.advance p).1 = .waiting r next) :
    ∃ fewer, left = fewer + 1 ∧ Pending.Stoppable ⟨task, r, next⟩ fewer := by
  have rests := Program.Winds.advance winds
  rw [waits] at rests
  obtain ⟨-, kind, fewer, enough, goesOn⟩ := rests
  exact ⟨fewer, enough, .cleaning cleans kind goesOn⟩

/-- Whoever goes on to wait in a halted pool has less to wait for. -/
theorem Pending.Stoppable.goesOn {pending : Pending} {left : Nat} (waits : pending.Stoppable left)
    {p : Pool} (halted : p.Halted) (reply : pending.request.Reply) {r : Request}
    {next : r.Reply → Work pending.task.Result}
    (asks : ((pending.next reply).advance p).1 = .waiting r next) :
    ∃ fewer, left = fewer + 1 ∧ Pending.Stoppable ⟨pending.task, r, next⟩ fewer := by
  cases waits with
  | cleaning cleans kind winds => exact Work.Winds.stoppable (winds p reply) cleans asks
  | provisioning provisions spares closes ends =>
    obtain ⟨result, q, advanced, -⟩ := ends reply p halted
    rw [advanced] at asks
    cases asks

/-- Work that closes waits as such. -/
theorem Work.Closes.stoppable {task : Task} {work : Work task.Result} {id : EnvironmentId}
    {p : Pool} (closes : work.Closes (task.Outcome id))
    (spares : work.Respects (Pool.Spares id) (fun _ => True))
    (provisions : task.provisions = some id) {r : Request} {next : r.Reply → Work task.Result}
    (waits : (work.advance p).1 = .waiting r next) : Pending.Stoppable ⟨task, r, next⟩ 0 := by
  have rests := Program.Closes.advance closes p
  have spared := spares.advance (P := fun _ => True) (fun _ _ _ _ => trivial) (s := p) trivial
  rw [waits] at rests spared
  exact .provisioning provisions spared.2.2 (fun reply => (rests reply).1)
    (fun reply => (rests reply).2)

namespace Traffic

variable {m : Manager} {rules : Standing → Task → Bool} {t t' start : Traffic} {client : Nat}

theorem Stoppable.take (stoppable : t.Stoppable m) (rules : Standing → Task → Bool) (turn : Turn) :
    (t.take m rules turn).Stoppable m := by
  have took := t.take_took m rules turn
  generalize t.take m rules turn = next at took ⊢
  cases took with
  | stayed => exact stoppable
  | @began client task =>
    refine stoppable.advance (m.perform_changes task) (fun r next waits => ?_)
    cases provisions : task.provisions with
    | none =>
      obtain ⟨left, winds⟩ := m.perform_winds provisions t.pool
      obtain ⟨fewer, -, waiting⟩ := Work.Winds.stoppable winds provisions waits
      exact ⟨fewer, waiting⟩
    | some id =>
      exact ⟨0, (m.perform_closes provisions).stoppable (m.perform_spares provisions) provisions
        waits⟩
  | @wentOn client reply pending found =>
    obtain ⟨left, waiting⟩ := stoppable.waiting client pending found
    refine stoppable.advance (stoppable.changes client pending found _) (fun r next waits => ?_)
    cases waiting with
    | cleaning cleans kind winds =>
      obtain ⟨fewer, -, waiting⟩ := Work.Winds.stoppable (winds t.pool _) cleans waits
      exact ⟨fewer, waiting⟩
    | provisioning provisions spares closes ends =>
      exact ⟨0, (closes _).stoppable (spares _) provisions waits⟩
  | cancelled => exact ⟨stoppable.equipped, stoppable.changes, stoppable.waiting⟩

/-- After the cancellation of the run only late answers come through. -/
theorem late_of_through (t : Traffic) (stopped : t.pool.cancelled = true) {r : Request}
    {reply : r.Reply} (admitted : t.admits client r reply = true) (through : r.Through reply) :
    t.late client = true := by
  have allowed := (Bool.and_eq_true_iff.1 admitted).2
  by_contra early
  rw [interrupts, stopped, Bool.eq_false_iff.2 early] at allowed
  cases allowed.symm.trans through

/-- A client in the middle of provisioning an environment whose answer was on its way when the run
was cancelled, and still is. -/
def Expects (t : Traffic) (client : Nat) (id : EnvironmentId) : Prop :=
  t.late client = true ∧ ∃ pending, (t.clients client).pending = some pending ∧
    pending.task.provisions = some id ∧ ¬ pending.request.CleansUp

theorem expects_of_rested {task : Task}
    (rest : Rest Pool Request Request.Reply task.Result × Pool) {c : Nat} {id : EnvironmentId}
    (expects : (t.rested client task rest).Expects c id) : c ≠ client ∧ t.Expects c id := by
  obtain ⟨late, pending, found, about⟩ := expects
  obtain ⟨apart, late⟩ := late_of_rested rest late
  rw [clients_rested rest apart] at found
  exact ⟨apart, late, pending, found, about⟩

/-- The statuses that an environment can have from some moment after the cancellation of the run on,
short of the last one: the one that it has, or the next one if an answer about it is on its way. -/
def Leaves (t : Traffic) (id : EnvironmentId) (status : EnvironmentStatus) : Prop :=
  status = (t.pool.environment id).status ∨
    (∃ client, t.Expects client id) ∧ status ≠ .deleted ∧
      (t.pool.environment id).status.canBecome status = true

end Traffic

/-- What may happen from some moment after the cancellation of the run on: nobody asks for more than
locks and deletions, and nobody provisions an environment but to a status that is left to it. -/
def Happening.AfterCancellation (start : Traffic) : Happening → Prop
  | .asked _ request => request.CleansUp
  | .returned _ task result => task.Provisioned result → ∃ id status,
    task.provisions = some id ∧ start.Leaves id status ∧ task.Reached status

namespace Traffic

variable {m : Manager} {rules : Standing → Task → Bool} {t t' start : Traffic} {client : Nat}
  {id : EnvironmentId}

/-- What has happened since a moment after the cancellation of the run. -/
structure Halted (start t : Traffic) : Prop where
  stopped : t.pool.cancelled = true
  has : ∀ k, start.pool.Has k → t.pool.Has k
  old : ∀ k, start.pool.Has k → start.Leaves k (t.pool.environment k).status ∨
    (t.pool.environment k).status = .deleted
  fresh : ∀ k, ¬ start.pool.Has k → t.pool.Has k → (t.pool.environment k).status = .new ∨
    (t.pool.environment k).status = .deleted
  journal : ∃ since, t.journal = start.journal ++ since ∧
    ∀ happening ∈ since, happening.AfterCancellation start

/-- At most one answer is on its way about an environment, which is there. -/
structure Exclusive (t : Traffic) : Prop where
  has : ∀ c id, t.Expects c id → t.pool.Has id
  apart : ∀ a b id, t.Expects a id → t.Expects b id → a = b

/-- Who provisions an environment and does not wait for its lock holds it. -/
theorem Kept.exclusive {stances : Nat → Stance} (kept : t.Kept m stances) : t.Exclusive := by
  have holds (c : Nat) (id : EnvironmentId) (expects : t.Expects c id) : (stances c).Holds id := by
    obtain ⟨-, pending, found, provisions, kind⟩ := expects
    have waits := kept.waits c pending found
    have about : pending.task.environment? = some id := by
      cases same : pending.task with
      | deploy k | connect k => rwa [same] at provisions
      | prepare _ | markDirty _ | release _ | delete _ | shutdown =>
        rw [same] at provisions
        cases provisions
    have works : ∃ k, pending.task.environment? = some k ∧ (stances c).hold = .working k := by
      cases same : pending.request with
      | lock k | delete e => exact absurd (same ▸ trivial) kind
      | prepare e | deploy e | interruptible call | call call | notify message =>
        rwa [same] at waits
    obtain ⟨k, other, working⟩ := works
    obtain rfl := Option.some.inj (about.symm.trans other)
    exact .inl working
  exact ⟨fun c id expects => kept.balanced.locked_has id ((kept.locked id).2 ⟨c, holds c id expects⟩),
    fun a b id first second => kept.apart a b id (holds a id first) (holds b id second)⟩

/-- The same with what is needed to show it of one turn after the other. -/
structure Halting (start t : Traffic) : Prop extends start.Halted t where
  /-- Whose answer is still on its way waits for it as before. -/
  late : ∀ c, t.late c = true → start.late c = true ∧ t.clients c = start.clients c
  /-- The environment about which it is has not moved on. -/
  unmoved : ∀ c id, t.Expects c id → (t.pool.environment id).status =
    (start.pool.environment id).status ∨ (t.pool.environment id).status = .deleted

namespace Halting

theorem refl (stopped : t.pool.cancelled = true) : t.Halting t where
  stopped := stopped
  has _ has := has
  old _ _ := .inl (.inl rfl)
  fresh _ absent has := absurd has absent
  journal := ⟨[], (List.append_nil _).symm, fun _ member => nomatch member⟩
  late _ late := ⟨late, rfl⟩
  unmoved _ _ _ := .inl rfl

theorem expects (halting : start.Halting t) (expects : t.Expects client id) :
    start.Expects client id := by
  obtain ⟨late, pending, found, about⟩ := expects
  obtain ⟨before, same⟩ := halting.late client late
  exact ⟨before, pending, same ▸ found, about⟩

/-- A stretch of a client, which changes statuses only as far as they are left to it. -/
theorem rested (halting : start.Halting t) (exclusive : start.Exclusive) {task : Task}
    (rest : Rest Pool Request Request.Reply task.Result × Pool)
    (stopped : rest.2.cancelled = true) (has : ∀ k, t.pool.Has k → rest.2.Has k)
    (statuses : ∀ k, t.pool.Has k →
      (rest.2.environment k).status = (t.pool.environment k).status ∨
      (rest.2.environment k).status = .deleted ∨
      (t.Expects client k ∧ start.Leaves k (rest.2.environment k).status))
    (fresh : ∀ k, ¬ t.pool.Has k → rest.2.Has k → (rest.2.environment k).status = .new ∨
      (rest.2.environment k).status = .deleted)
    (fine : match rest.1 with
      | .finished result => (Happening.returned client task result).AfterCancellation start
      | .waiting r _ => r.CleansUp) : start.Halting (t.rested client task rest) := by
  obtain ⟨since, journal, allowed⟩ := halting.journal
  refine { stopped := ?stopped, has := ?has, old := ?old, fresh := ?fresh, journal := ?journal,
           late := ?late, unmoved := ?unmoved }
  case stopped => rwa [pool_rested]
  case has =>
    intro k there
    rw [pool_rested]
    exact has k (halting.has k there)
  case old =>
    intro k there
    rw [pool_rested]
    rcases statuses k (halting.has k there) with same | dead | ⟨-, left⟩
    · rw [same]
      exact halting.old k there
    · exact .inr dead
    · exact .inl left
  case fresh =>
    intro k absent there
    rw [pool_rested] at there ⊢
    by_cases before : t.pool.Has k
    · rcases statuses k before with same | dead | ⟨expects, -⟩
      · rw [same]
        exact halting.fresh k absent before
      · exact .inr dead
      · exact absurd (exclusive.has client k (halting.expects expects)) absent
    · exact fresh k before there
  case journal =>
    refine ⟨since ++ [_], by rw [journal_rested, journal, List.append_assoc], ?_⟩
    intro happening member
    rcases List.mem_append.1 member with listed | last
    · exact allowed happening listed
    · obtain rfl := List.mem_singleton.1 last
      obtain ⟨result | ⟨r, next⟩, q⟩ := rest <;> exact fine
  case late =>
    intro c late
    obtain ⟨apart, late⟩ := late_of_rested rest late
    rw [clients_rested rest apart]
    exact halting.late c late
  case unmoved =>
    intro c id expects
    obtain ⟨apart, expects⟩ := expects_of_rested rest expects
    have there := halting.has id (exclusive.has c id (halting.expects expects))
    rw [pool_rested]
    rcases statuses id there with same | dead | ⟨other, -⟩
    · rw [same]
      exact halting.unmoved c id expects
    · exact .inr dead
    · exact absurd (exclusive.apart c client id (halting.expects expects) (halting.expects other))
        apart

/-- A client that cleans up, or begins to. -/
theorem frozen (halting : start.Halting t) (exclusive : start.Exclusive) {task : Task}
    (rest : Rest Pool Request Request.Reply task.Result × Pool)
    (stopped : rest.2.cancelled = true) (frozen : t.pool.Freezes rest.2)
    (fine : match rest.1 with
      | .finished _ => task.provisions = none
      | .waiting r _ => r.CleansUp) : start.Halting (t.rested client task rest) := by
  refine halting.rested exclusive rest stopped frozen.has ?_ frozen.fresh ?_
  · intro k there
    exact (frozen.old k there).imp_right .inl
  · obtain ⟨result | ⟨r, next⟩, q⟩ := rest
    · intro provisioned
      cases task with
      | deploy k | connect k => cases fine
      | prepare _ | markDirty _ | release _ | delete _ | shutdown => exact provisioned.elim
    · exact fine

/-- A status for which a task provisions its environment has been left to it. -/
theorem left (halting : start.Halting t) {task : Task}
    (reached : task.Reached (t.pool.environment id).status) :
    start.Leaves id (t.pool.environment id).status ∧
      task.Reached (t.pool.environment id).status := by
  have there : t.pool.Has id := Pool.has_of_alive reached.begun.2
  refine ⟨?_, reached⟩
  by_cases before : start.pool.Has id
  · exact (halting.old id before).resolve_right reached.begun.2
  · rcases halting.fresh id before there with new | dead
    · exact absurd new reached.begun.1
    · exact absurd dead reached.begun.2

/-- A client that provisions an environment, at its last answer. -/
theorem concluded (halting : start.Halting t) (exclusive : start.Exclusive) {pending : Pending}
    (found : (t.clients client).pending = some pending)
    (provisions : pending.task.provisions = some id) {reply : pending.request.Reply}
    (admitted : t.admits client pending.request reply = true)
    {result : pending.task.Result} {q : Pool} (stopped : q.cancelled = true)
    (spares : t.pool.Spares id q)
    (outcome : pending.task.Outcome id t.pool pending.request reply result q) :
    start.Halting (t.rested client pending.task (.finished result, q)) := by
  have has (k : EnvironmentId) : q.Has k ↔ t.pool.Has k := by rw [Pool.Has, Pool.Has, spares.length]
  have other (k : EnvironmentId) (apart : k ≠ id) :
      (q.environment k).status = (t.pool.environment k).status := by rw [spares.others k apart]
  have fresh (k : EnvironmentId) (absent : ¬ t.pool.Has k) (there : q.Has k) :
      (q.environment k).status = .new ∨ (q.environment k).status = .deleted :=
    absurd ((has k).1 there) absent
  cases outcome with
  | stayed same satisfied =>
    refine halting.rested exclusive _ stopped (fun k => (has k).2) (fun k _ => .inl ?_) fresh ?_
    · by_cases here : k = id
      · exact here ▸ same
      · exact other k here
    · exact fun provisioned => ⟨id, _, provisions, halting.left (satisfied provisioned)⟩
  | moved through step alive done =>
    have late := t.late_of_through halting.stopped admitted through
    have kind : ¬ pending.request.CleansUp := by
      intro kind
      cases (kind.allows true reply).symm.trans through
    have expects : t.Expects client id := ⟨late, pending, found, provisions, kind⟩
    have left : start.Leaves id (q.environment id).status := by
      rcases halting.unmoved client id expects with same | dead
      · exact .inr ⟨⟨client, halting.expects expects⟩, alive, same ▸ step⟩
      · exact absurd dead (EnvironmentStatus.alive_of_canBecome step)
    refine halting.rested exclusive _ stopped (fun k => (has k).2) (fun k _ => ?_) fresh ?_
    · by_cases here : k = id
      · exact .inr (.inr (here ▸ ⟨expects, left⟩))
      · exact .inl (other k here)
    · exact fun provisioned => ⟨id, _, provisions, left, done.1 provisioned⟩

/-- A client that winds down. -/
theorem winds (halting : start.Halting t) (exclusive : start.Exclusive) {task : Task}
    {work : Work task.Result} {left : Nat} (changes : m.Changes work)
    (cleans : task.provisions = none) (winds : work.Winds left t.pool t.pool) :
    start.Halting (t.advance client task work) := by
  obtain ⟨stopped, -⟩ := changes.advance (P := fun p => p.cancelled = true)
    (fun _ _ change stopped => change.cancelled.trans stopped) halting.stopped
  obtain ⟨frozen, rests⟩ := Program.Winds.advance winds
  unfold Traffic.advance
  generalize work.advance t.pool = rest at stopped frozen rests
  refine halting.frozen exclusive rest stopped frozen ?_
  obtain ⟨result | ⟨r, next⟩, q⟩ := rest
  · exact cleans
  · exact rests.1

theorem take (halting : start.Halting t) (exclusive : start.Exclusive) (stoppable : t.Stoppable m)
    (rules : Standing → Task → Bool) (turn : Turn) : start.Halting (t.take m rules turn) := by
  have took := t.take_took m rules turn
  generalize t.take m rules turn = next at took ⊢
  cases took with
  | stayed => exact halting
  | @began client task =>
    cases provisions : task.provisions with
    | none =>
      obtain ⟨left, winds⟩ := m.perform_winds provisions t.pool
      exact halting.winds exclusive (m.perform_changes task) provisions winds
    | some id =>
      -- provisioning begins with the request for the lock
      cases task with
      | deploy k | connect k =>
        exact halting.frozen exclusive (.waiting (.lock k) _, t.pool) halting.stopped
          (.refl t.pool) trivial
      | prepare _ | markDirty _ | release _ | delete _ | shutdown => cases provisions
  | @wentOn client reply pending found admitted =>
    obtain ⟨left, waits⟩ := stoppable.waiting client pending found
    have changes := stoppable.changes client pending found (reply pending.request)
    cases waits with
    | cleaning cleans kind winds => exact halting.winds exclusive changes cleans (winds t.pool _)
    | @provisioning id provisions spares closes ends =>
      obtain ⟨stopped, -⟩ := changes.advance (P := fun p => p.cancelled = true)
        (fun _ _ change stopped => change.cancelled.trans stopped) halting.stopped
      obtain ⟨spared, -⟩ := (spares (reply pending.request)).advance (P := t.pool.Spares id)
        (fun _ _ next sofar => sofar.trans next) (.refl id t.pool)
      obtain ⟨result, q, advanced, outcome⟩ :=
        ends (reply pending.request) t.pool ⟨halting.stopped, stoppable.equipped⟩
      rw [advanced] at stopped spared
      unfold Traffic.advance
      rw [advanced]
      exact halting.concluded exclusive found provisions admitted stopped spared outcome
  | cancelled running => cases halting.stopped.symm.trans running

theorem run (halting : start.Halting t) (exclusive : start.Exclusive) (stoppable : t.Stoppable m)
    (rules : Standing → Task → Bool) (turns : List Turn) :
    start.Halting (turns.foldl (Traffic.take m rules) t) ∧
      (turns.foldl (Traffic.take m rules) t).Stoppable m := by
  induction turns generalizing t with
  | nil => exact ⟨halting, stoppable⟩
  | cons turn rest ih =>
    exact ih (halting.take exclusive stoppable rules turn) (stoppable.take rules turn)

end Halting

end Traffic

end Testbed
