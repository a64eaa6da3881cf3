import Testbed.Proofs.Lifecycle.Changes
import Testbed.Proofs.Lifecycle.Turns
import Testbed.Proofs.Program.Invariant

/-!
# What is to be deleted is

Deleting an environment and shutting down return with the environments deleted that they were
applied to, whatever others do meanwhile. A shutdown is applied to what was tracked when it began.
-/
namespace Testbed

open Program

/-- Whether an environment has been created and deleted. -/
def Pool.Deleted (p : Pool) (id : EnvironmentId) : Prop :=
  p.Has id ∧ (p.environment id).status = .deleted

/-- The environments that a task is to delete, by the pool when it begins. -/
def Task.condemned (task : Task) (p : Pool) : List EnvironmentId :=
  match task with
  | .delete id => [id]
  | .shutdown => p.tracked
  | .prepare _ | .deploy _ | .connect _ | .markDirty _ | .release _ => []

/-- Whether work comes to such a value and such a pool, as long as others bring nothing back that is
deleted. -/
abbrev Work.Achieves {α : Type} (Q : α → Pool → Prop) (work : Work α) (p : Pool) : Prop :=
  Program.Sustains Pool.Outlived (fun _ => True) (fun _ _ => True) Q work p

section Deleting

variable {α : Type} {m : Manager} {id : EnvironmentId} {p q : Pool}

theorem Pool.Outlived.deletes (h : p.Outlived q) (gone : p.Deleted id) : q.Deleted id :=
  ⟨h.has id gone.1, h.deleted id gone.1 gone.2⟩

theorem Pool.Deleted.same (gone : p.Deleted id) (environments : q.environments = p.environments) :
    q.Deleted id := by
  have environment := Manager.Change.environment_of_environments environments id
  refine ⟨?_, environment ▸ gone.2⟩
  rw [Pool.Has, environments]
  exact gone.1

/-- Tasks bring nothing back. -/
theorem Manager.Changes.outlives {work : Work α} (changes : m.Changes work) :
    Work.Achieves (fun _ q => p.Outlived q) work p := by
  have outlives : work.Respects Pool.Outlived (fun _ => True) :=
    changes.mono (fun _ _ change => change.outlived) (fun _ kind => kind)
  exact .of_respects outlives .refl (fun _ _ _ => .trans) (fun _ _ framed => framed)

namespace Manager

theorem relinquish_achieves (e : Environment) (has : p.Has id) :
    Work.Achieves (fun _ q => q.Has id) (relinquish e) p := by
  unfold relinquish
  split
  · exact .pure has
  · refine .request_bind trivial (fun later reply outlived _ _ => ?_)
    cases reply with
    | ok _ => exact .pure (outlived.has id has)
    | error error => exact outlived.has id has

/-- What is retired is deleted. -/
theorem deleted_retire (has : p.Has id) (event : Event) : (p.retire id event).Deleted id := by
  have environment := p.environment_retire id id event
  rw [if_pos ⟨rfl, has⟩] at environment
  exact ⟨(p.has_retire id id event).2 has, congrArg Environment.status environment⟩

theorem deleteHeld_achieves (has : p.Has id) :
    Work.Achieves (fun _ q => q.Deleted id) (deleteHeld id) p := by
  have read : Work.Achieves (fun e q => e = p.environment id ∧ q = p) (Work.environment id) p :=
    ⟨rfl, rfl⟩
  refine read.bind ?_
  rintro _ q ⟨rfl, rfl⟩
  split
  · rename_i dead
    exact .pure ⟨has, dead⟩
  · refine (relinquish_achieves _ has).bind (fun _ q has => .modify_bind (.pure ?_))
    exact deleted_retire has _

theorem delete_achieves (has : p.Has id) :
    Work.Achieves (fun _ q => q.Deleted id) (delete id) p := by
  have held : Work.Achieves (fun _ q => q.Deleted id) (Work.holding id (deleteHeld id)) p := by
    refine .request_bind trivial (fun later _ outlived _ _ => .modify_bind ?_)
    have there : (later.lock id).Has id := outlived.has id has
    exact (deleteHeld_achieves there).bind (fun _ q gone => .modify_bind (.pure (gone.same rfl)))
  refine held.bind (fun deleted q gone => ?_)
  cases deleted with
  | true => exact gone.same rfl
  | false => exact .pure gone

/-- Those that are deleted first stay so while the others are deleted. -/
theorem deleteAll_achieves (m : Manager) (ids : List EnvironmentId) (has : ∀ id ∈ ids, p.Has id) :
    Work.Achieves (fun _ q => ∀ id ∈ ids, q.Deleted id) (deleteAll ids) p := by
  induction ids generalizing p with
  | nil => exact .pure nofun
  | cons id rest ih =>
    obtain ⟨has, others⟩ := List.forall_mem_cons.1 has
    have first : Work.Achieves (fun _ q => q.Deleted id ∧ p.Outlived q) (delete id) p :=
      (delete_achieves has).and (delete_changes (m := m)).outlives
    refine first.bind (fun _ q middle => ?_)
    obtain ⟨gone, outlived⟩ := middle
    have all := ih (p := q) (fun k listed => outlived.has k (others k listed))
    have still : Work.Achieves (fun _ r => q.Outlived r) (deleteAll rest) q :=
      (deleteAll_changes (m := m) rest).outlives
    refine (all.and still).mono (fun _ r last => ?_)
    exact List.forall_mem_cons.2 ⟨last.2.deletes gone, last.1⟩

theorem shutdown_achieves (m : Manager) (has : ∀ id ∈ p.tracked, p.Has id) :
    Work.Achieves (fun _ q => ∀ id ∈ p.tracked, q.Deleted id) shutdown p := by
  refine .update_bind ?_
  have all := deleteAll_achieves m (p := { p with tracked := [] }) p.tracked.reverse
    (fun id listed => has id (List.mem_reverse.1 listed))
  refine all.bind (fun _ q gone id listed => ?_)
  exact (gone id (List.mem_reverse.2 listed)).same rfl

/-- Every task deletes what it is to delete. -/
theorem perform_achieves (m : Manager) (task : Task) (b : p.Balanced)
    (known : ∀ id, task.environment? = some id → p.Has id) :
    Work.Achieves (fun _ q => ∀ id ∈ task.condemned p, q.Deleted id) (m.perform task) p := by
  have nothing {work : Work task.Result} (none : task.condemned p = []) (changes : m.Changes work) :
      Work.Achieves (fun _ q => ∀ id ∈ task.condemned p, q.Deleted id) work p := by
    rw [none]
    exact changes.outlives.mono (fun _ _ _ => nofun)
  cases task with
  | delete id =>
    refine (delete_achieves (known id rfl)).mono (fun _ q gone => ?_)
    simpa [Task.condemned] using gone
  | shutdown => exact shutdown_achieves m (fun id listed => (b.tracked_alive id listed).1)
  | prepare _ | deploy _ | connect _ | markDirty _ | release _ =>
    exact nothing rfl (m.perform_changes _)

end Manager

end Deleting

namespace Traffic

variable {m : Manager} {rules : Standing → Task → Bool} {t start : Traffic} {client : Nat}

/-- Whether a client has been through with a task since it began it. -/
def Ended (start : Traffic) (client : Nat) (task : Task) (t : Traffic) : Prop :=
  (t.clients client).pending = none ∨ ∃ since result, t.journal = start.journal ++ since ∧
    .returned client task result ∈ since

/-- A client is in the middle of work that leaves some environments deleted, or has left them so. -/
inductive Deleting (start : Traffic) (client : Nat) (ids : List EnvironmentId) (t : Traffic) :
    Prop where
  | waits {pending : Pending} {since : List Happening}
    (found : (t.clients client).pending = some pending)
    (goesOn : ∀ later reply, t.pool.Outlived later →
      Work.Achieves (fun _ q => ∀ id ∈ ids, q.Deleted id) (pending.next reply) later)
    (journal : t.journal = start.journal ++ since)
    (nothing : ∀ task result, Happening.returned client task result ∉ since)
  | done (gone : ∀ id ∈ ids, t.pool.Deleted id)

theorem Moved.outlived {stances stances' : Nat → Stance} {t' : Traffic}
    (moved : t.Moved m rules stances t' stances') : t.pool.Outlived t'.pool :=
  ⟨fun _ has => moved.has has, fun _ has dead => (moved.evolves has).deleted dead⟩

namespace Deleting

variable {ids : List EnvironmentId}

/-- The client works on. -/
theorem advance {task : Task} {work : Work task.Result} {since : List Happening}
    (achieves : Work.Achieves (fun _ q => ∀ id ∈ ids, q.Deleted id) work t.pool)
    (journal : t.journal = start.journal ++ since)
    (nothing : ∀ task result, Happening.returned client task result ∉ since) :
    start.Deleting client ids (t.advance client task work) := by
  have rests := Program.Sustains.advance achieves
  unfold Traffic.advance
  generalize work.advance t.pool = rest at rests
  obtain ⟨result | ⟨r, next⟩, q⟩ := rest
  · exact .done rests
  · have found : ((t.rested client task (.waiting r next, q)).clients client).pending =
        some ⟨task, r, next⟩ := by simp [rested]
    have asked : t.journal ++ [.asked client r] =
        start.journal ++ (since ++ [.asked client r]) := by
      rw [journal, List.append_assoc]
    refine .waits found (fun later reply outlived => ?_) asked (by simpa using nothing)
    exact rests.2 later reply outlived trivial trivial

/-- Another client works on. -/
theorem other (deleting : start.Deleting client ids t) {c : Nat} (apart : c ≠ client) {task : Task}
    {work : Work task.Result} (outlived : t.pool.Outlived (t.advance c task work).pool) :
    start.Deleting client ids (t.advance c task work) := by
  cases deleting with
  | done gone => exact .done (fun id listed => outlived.deletes (gone id listed))
  | @waits pending since found goesOn journal nothing =>
    unfold Traffic.advance at outlived ⊢
    generalize work.advance t.pool = rest at outlived
    have same : ((t.rested c task rest).clients client).pending = some pending := by
      obtain ⟨result | ⟨r, next⟩, q⟩ := rest <;> simpa [rested, apart.symm] using found
    have goesOn (later : Pool) (reply : pending.request.Reply)
        (since : (t.rested c task rest).pool.Outlived later) :
        Work.Achieves (fun _ q => ∀ id ∈ ids, q.Deleted id) (pending.next reply) later :=
      goesOn later reply (outlived.trans since)
    obtain ⟨result | ⟨r, next⟩, q⟩ := rest
    · have returned : t.journal ++ [.returned c task result] =
          start.journal ++ (since ++ [.returned c task result]) := by
        rw [journal, List.append_assoc]
      exact .waits same goesOn returned (by simpa [apart.symm] using nothing)
    · have asked : t.journal ++ [.asked c r] = start.journal ++ (since ++ [.asked c r]) := by
        rw [journal, List.append_assoc]
      exact .waits same goesOn asked (by simpa using nothing)

theorem take (deleting : start.Deleting client ids t) {stances : Nat → Stance}
    (kept : t.Kept m stances) (rules : Standing → Task → Bool) (turn : Turn) :
    start.Deleting client ids (t.take m rules turn) := by
  obtain ⟨later, -, moved⟩ := kept.take rules turn
  have outlived := moved.outlived
  have took := t.take_took m rules turn
  generalize t.take m rules turn = next at took outlived ⊢
  cases deleting with
  | done gone => exact .done (fun id listed => outlived.deletes (gone id listed))
  | @waits pending since found goesOn journal nothing =>
    have still : start.Deleting client ids t := .waits found goesOn journal nothing
    cases took with
    | stayed => exact still
    | @began c task begins =>
      have apart : c ≠ client := by
        rintro rfl
        simp [Traffic.MayBegin, found] at begins
      exact still.other apart outlived
    | @wentOn c reply waiting other admitted =>
      by_cases same : c = client
      · subst same
        obtain rfl := Option.some.inj (found.symm.trans other)
        exact advance (goesOn t.pool _ (.refl t.pool)) journal nothing
      · exact still.other same outlived
    | cancelled =>
      refine .waits found (fun later reply since => ?_) journal nothing
      exact goesOn later reply ⟨since.has, since.deleted⟩

theorem run (deleting : start.Deleting client ids t) {stances : Nat → Stance}
    (kept : t.Kept m stances) (rules : Standing → Task → Bool) (turns : List Turn) :
    start.Deleting client ids (turns.foldl (Traffic.take m rules) t) := by
  induction turns generalizing t stances with
  | nil => exact deleting
  | cons turn rest ih =>
    obtain ⟨later, kept', -⟩ := kept.take rules turn
    exact ih (deleting.take kept rules turn) kept'

end Deleting

end Traffic

namespace Manager

/-- A task that has ended has left deleted what it was to delete when it began. -/
theorem traffic_condemned (m : Manager) (rules : Standing → Task → Bool) (before : List Turn)
    (client : Nat) (task : Task) (after : List Turn)
    (begins : (m.traffic rules before).MayBegin rules client task)
    (ended : (m.traffic rules before).Ended client task
      (m.traffic rules (before ++ .call client task :: after))) :
    ∀ id ∈ task.condemned (m.traffic rules before).pool,
      (m.traffic rules (before ++ .call client task :: after)).pool.Deleted id := by
  obtain ⟨stances, kept⟩ := m.traffic_kept rules before
  have known (id : EnvironmentId) (about : task.environment? = some id) :
      (m.traffic rules before).pool.Has id := by
    simpa [about] using begins.2.2
  have began : (m.traffic rules before).Deleting client
      (task.condemned (m.traffic rules before).pool)
      ((m.traffic rules before).take m rules (.call client task)) := by
    unfold Traffic.MayBegin at begins
    simp only [Traffic.take, if_pos begins]
    exact .advance (m.perform_achieves task kept.balanced known) (List.append_nil _).symm
      (fun _ _ => List.not_mem_nil)
  obtain ⟨_, kept', -⟩ := kept.take rules (.call client task)
  have deleting := began.run kept' rules after
  rw [m.traffic_append] at ended ⊢
  cases deleting with
  | done gone => exact gone
  | waits found goesOn journal nothing =>
    rcases ended with idle | ⟨since, result, journal', returned⟩
    · cases idle.symm.trans found
    · have same := List.append_cancel_left (journal'.symm.trans journal)
      exact absurd (same ▸ returned) (nothing task result)

end Manager

end Testbed
