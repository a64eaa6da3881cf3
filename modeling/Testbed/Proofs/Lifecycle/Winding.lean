import Testbed.Proofs.Lifecycle.Changes
import Testbed.Proofs.Program.Winding

/-!
# Cleaning up winds down

Every task that does not provision an environment asks for nothing but locks and deletions, each a
bounded number of times, and moves no environment to another status but the last one. Whether the
run has been cancelled makes no difference to it.
-/
namespace Testbed

open Program

/-- A later pool in which no environment has gone on to another status, apart from the last one. -/
structure Pool.Freezes (p q : Pool) : Prop where
  has : ∀ k, p.Has k → q.Has k
  old : ∀ k, p.Has k → (q.environment k).status = (p.environment k).status ∨
    (q.environment k).status = .deleted
  fresh : ∀ k, ¬ p.Has k → q.Has k → (q.environment k).status = .new ∨
    (q.environment k).status = .deleted

/-- The requests that clean up. -/
def Request.CleansUp : Request → Prop
  | .lock _ | .delete _ => True
  | .prepare _ | .deploy _ | .interruptible _ | .call _ | .notify _ => False

/-- What cleans up is never interrupted. -/
theorem Request.CleansUp.allows {r : Request} (kind : r.CleansUp) (interrupted : Bool)
    (reply : r.Reply) : r.allows interrupted reply = true := by
  cases r with
  | lock id | delete e => rfl
  | prepare _ | deploy _ | interruptible _ | call _ | notify _ => exact kind.elim

namespace Pool.Freezes

variable {p q r : Pool} {id : EnvironmentId} {f : Environment → Environment}

theorem refl (p : Pool) : p.Freezes p :=
  ⟨fun _ has => has, fun _ _ => .inl rfl, fun _ absent has => absurd has absent⟩

theorem trans (first : p.Freezes q) (second : q.Freezes r) : p.Freezes r where
  has k has := second.has k (first.has k has)
  old k has := by
    rcases second.old k (first.has k has) with same | dead
    · rw [same]
      exact first.old k has
    · exact .inr dead
  fresh k absent has := by
    by_cases middle : q.Has k
    · rcases second.old k middle with same | dead
      · rw [same]
        exact first.fresh k absent middle
      · exact .inr dead
    · exact second.fresh k middle has

/-- What only shows in the books does not show here. -/
theorem same (h : p.Freezes q) (environments : r.environments = q.environments) :
    p.Freezes r := by
  have environment := Manager.Change.environment_of_environments environments
  constructor
  · intro k has
    rw [Pool.Has, environments]
    exact h.has k has
  · intro k has
    rw [environment]
    exact h.old k has
  · intro k absent has
    rw [Pool.Has, environments] at has
    rw [environment]
    exact h.fresh k absent has

theorem modify (h : p.Freezes q) (keeps : (f (q.environment id)).status =
    (q.environment id).status ∨ (f (q.environment id)).status = .deleted) :
    p.Freezes (q.modify id f) := by
  refine h.trans ⟨fun k has => (q.has_modify id k f).2 has, fun k has => ?_, fun k absent has => ?_⟩
  · rw [Pool.environment_modify]
    split
    · rename_i here
      rw [here.1]
      exact keeps
    · exact .inl rfl
  · exact absurd ((q.has_modify id k f).1 has) absent

theorem create (h : p.Freezes q) (found : MatchedEnvironment) : p.Freezes (q.create found) := by
  refine h.trans ⟨fun k has => (q.has_create found k).2 (.inl has), fun k has => ?_,
    fun k absent has => ?_⟩
  · rw [q.environment_create_old found has]
    exact .inl rfl
  · have last : k = q.nextId := ((q.has_create found k).1 has).resolve_left absent
    rw [last, q.environment_create_last]
    exact .inl rfl

end Pool.Freezes

/-- The environment that a task brings to another status, short of deleting it. -/
def Task.provisions : Task → Option EnvironmentId
  | .deploy id | .connect id => some id
  | .prepare _ | .markDirty _ | .release _ | .delete _ | .shutdown => none

/-- Whether work winds down. -/
abbrev Work.Winds {α : Type} (work : Work α) (left : Nat) (start now : Pool) : Prop :=
  Program.Winds Pool.Freezes Request.CleansUp work left start now

section CleaningUp

variable {α : Type} {id : EnvironmentId} {start now : Pool}

theorem Work.Winds.holding {work : Work α} {left : Nat} (came : start.Freezes now)
    (inner : ∀ later : Pool, work.Winds left later (later.lock id)) :
    (Work.holding id work).Winds (left + 1) start now := by
  refine .request_bind came trivial (fun later _ => .modify_bind ?_)
  refine (inner later).bind (n := 0) (fun a start now came => ?_)
  exact .modify_bind (.pure (came.same rfl))

namespace Manager

theorem relinquish_winds (e : Environment) (came : start.Freezes now) :
    (relinquish e).Winds 1 start now := by
  unfold relinquish
  split
  · exact .pure came
  · refine .request_bind came trivial (fun later reply => ?_)
    cases reply with
    | ok _ => exact .pure (.refl later)
    | error error => exact .modify_bind (.pure ((Pool.Freezes.refl later).same rfl))

theorem deleteHeld_winds (came : start.Freezes now) : (deleteHeld id).Winds 1 start now := by
  change Program.Winds _ _ (if _ then _ else _ : Work Bool) _ _ _
  split
  · exact .pure came
  · refine (relinquish_winds _ came).bind (n := 0) (fun _ start now came => .modify_bind ?_)
    have retired : start.Freezes (now.modify id Environment.forceDeleted) :=
      came.modify (.inr rfl)
    exact .pure (retired.same rfl)

theorem delete_winds (came : start.Freezes now) : (delete id).Winds 2 start now := by
  have held : (Work.holding id (deleteHeld id)).Winds 2 start now :=
    .holding came (fun later => deleteHeld_winds ((Pool.Freezes.refl later).same rfl))
  refine held.bind (n := 0) (fun deleted start now came => ?_)
  cases deleted with
  | true => exact .modify_bind (.pure (came.same rfl))
  | false => exact .pure came

theorem release_winds (m : Manager) (came : start.Freezes now) :
    (m.release id).Winds 3 start now := by
  have held : (Work.holding id (Program.update (fun p : Pool =>
      let kept := m.keeps (p.environment id)
      (kept, if kept then p.modify id (fun e => { e with inUse := false }) else p)))).Winds 1
        start now := by
    refine Work.Winds.holding came (fun later => .update_bind (.pure ?_))
    have locked : later.Freezes (later.lock id) := (Pool.Freezes.refl later).same rfl
    dsimp only
    split
    · exact locked.modify (.inl rfl)
    · exact locked
  refine held.bind (n := 2) (fun kept start now came => ?_)
  cases kept with
  | true => exact .pure came
  | false => exact delete_winds came

theorem deleteAll_winds (ids : List EnvironmentId) (came : start.Freezes now) :
    (deleteAll ids).Winds (2 * ids.length) start now := by
  induction ids generalizing start now with
  | nil => exact .pure came
  | cons id rest ih =>
    have first : (delete id).Winds 2 start now := delete_winds came
    exact (first.bind (fun _ _ _ came => ih came)).mono (by simp; omega)

theorem shutdown_winds (came : start.Freezes now) :
    shutdown.Winds (2 * now.tracked.length) start now := by
  refine .update_bind ?_
  have all := deleteAll_winds now.tracked.reverse (came.same (r := { now with tracked := [] }) rfl)
  refine (all.bind (n := 0) (fun _ start now came => ?_)).mono (by simp)
  exact .modify_bind (.pure (came.same rfl))

theorem markDirty_winds (came : start.Freezes now) : (markDirty id).Winds 1 start now := by
  refine Work.Winds.holding came (fun later => .update_bind (.pure ?_))
  have locked : later.Freezes (later.lock id) := (Pool.Freezes.refl later).same rfl
  cases marked : ((later.lock id).environment id).markDirty with
  | error cause => exact locked
  | ok e =>
    obtain rfl := Environment.markDirty_ok marked
    exact locked.modify (.inl rfl)

theorem prepare_winds (m : Manager) (requirement : EnvironmentSpace) (p : Pool) :
    (m.prepare requirement).Winds 0 p p := by
  have here : p.Freezes p := .refl p
  obtain ⟨result, q, advanced, prepares⟩ := m.prepare_advance requirement p
  refine .of_advance advanced ?_
  cases prepares with
  | reused reusable => exact (here.modify (.inl rfl)).same rfl
  | created resolved => exact here.create _
  | refused => exact here

/-- Every task that provisions nothing winds down. -/
theorem perform_winds (m : Manager) {task : Task} (cleans : task.provisions = none) (p : Pool) :
    ∃ left, (m.perform task).Winds left p p := by
  have here : p.Freezes p := .refl p
  cases task with
  | deploy id | connect id => cases cleans
  | prepare requirement => exact ⟨0, m.prepare_winds requirement p⟩
  | markDirty id => exact ⟨1, markDirty_winds here⟩
  | release id => exact ⟨3, m.release_winds here⟩
  | delete id => exact ⟨2, delete_winds here⟩
  | shutdown => exact ⟨_, shutdown_winds here⟩

end Manager

end CleaningUp

end Testbed
