import Mathlib.Data.List.Nodup
import Testbed.Proofs.Lifecycle.Alone
import Testbed.Proofs.Lifecycle.Yields

/-!
# Shutting down

A shutdown deletes what is tracked, the last one created first. That order is the one of the list,
since environments are numbered as they are created, a new one is put at its end, and nothing is put
anywhere else. A deletion that the platform refuses changes nothing but a counter, so the others
follow all the same.
-/
namespace Testbed

open Program

variable {ω α : Type}

/-- The tracked environments are there, in the order in which they were created. -/
structure Pool.InOrder (p : Pool) : Prop where
  has : ∀ id ∈ p.tracked, p.Has id
  order : p.tracked.Pairwise (fun a b => a.index < b.index)

namespace Pool.InOrder

variable {p q : Pool}

theorem same (inOrder : p.InOrder) (tracked : q.tracked = p.tracked)
    (length : q.environments.length = p.environments.length) : q.InOrder where
  has id member := by
    rw [Pool.Has, length]
    exact inOrder.has id (tracked ▸ member)
  order := tracked ▸ inOrder.order

theorem create (inOrder : p.InOrder) (found : MatchedEnvironment) : (p.create found).InOrder where
  has id member := by
    rw [has_create]
    exact (List.mem_append.1 member).imp (inOrder.has id) List.mem_singleton.1
  order := by
    refine List.pairwise_append.2 ⟨inOrder.order, List.pairwise_singleton .., ?_⟩
    intro id member next singleton
    obtain rfl := List.mem_singleton.1 singleton
    exact inOrder.has id member

theorem untrack (inOrder : p.InOrder) (id : EnvironmentId) : (p.untrack id).InOrder where
  has k member := inOrder.has k (List.mem_of_mem_filter member)
  order := inOrder.order.filter _

theorem untrackAll (p : Pool) : ({ p with tracked := [] } : Pool).InOrder :=
  ⟨fun _ member => absurd member List.not_mem_nil, .nil⟩

theorem nodup (inOrder : p.InOrder) : p.tracked.Nodup :=
  inOrder.order.imp (fun below same => Nat.ne_of_lt below (congrArg EnvironmentId.index same))

end Pool.InOrder

section Order

variable {m : Manager} {id : EnvironmentId}

/-- Work whose changes keep the tracked environments in order. -/
abbrev Work.KeepsOrder (work : Work α) : Prop :=
  work.Respects (fun p q => p.InOrder → q.InOrder) (fun _ => True)

theorem Work.KeepsOrder.holding {work : Work α} (keeps : Work.KeepsOrder work) :
    Work.KeepsOrder (Work.holding id work) := by
  refine .bind (.request trivial) (fun _ => ?_)
  refine .bind (.modify (fun _ inOrder => inOrder.same rfl rfl)) (fun _ => ?_)
  refine .bind keeps (fun value => ?_)
  exact .bind (.modify (fun _ inOrder => inOrder.same rfl rfl)) (fun _ => .pure value)

theorem Work.On.keepsOrder {work : Work α} (on : Work.On id work) : Work.KeepsOrder work :=
  on.mono (fun _ _ works inOrder => inOrder.same works.tracked works.length) (fun _ _ => trivial)

namespace Manager

theorem prepare_keepsOrder (requirement : EnvironmentSpace) :
    Work.KeepsOrder (m.prepare requirement) := by
  refine .update (fun p inOrder => ?_)
  obtain ⟨result, q, advanced, prepares⟩ := m.prepare_advance requirement p
  change ((m.prepare requirement).advance p).2.InOrder
  rw [advanced]
  cases prepares with
  | refused => exact inOrder
  | reused reusable => exact inOrder.same rfl (p.modify_length ..)
  | created resolved => exact inOrder.create _

theorem delete_keepsOrder (id : EnvironmentId) : Work.KeepsOrder (delete id) := by
  have given (e : Environment) : Work.KeepsOrder (relinquish e) := by
    unfold relinquish
    split
    · exact .pure ()
    · refine .bind (.request trivial) (fun reply => ?_)
      cases reply with
      | ok _ => exact .pure ()
      | error error => exact .modify (fun _ inOrder => inOrder.same rfl rfl)
  have held : Work.KeepsOrder (deleteHeld id) := by
    refine .bind (.bind (.get (fun _ inOrder => inOrder)) (fun _ => .pure _)) (fun e => ?_)
    split
    · exact .pure false
    · refine .bind (given e) (fun _ => .bind (.modify (fun p inOrder => ?_)) (fun _ => .pure true))
      exact inOrder.same rfl (p.modify_length ..)
  refine .bind held.holding (fun deleted => ?_)
  cases deleted with
  | true => exact .modify (fun _ inOrder => inOrder.untrack id)
  | false => exact .pure ()

theorem release_keepsOrder (id : EnvironmentId) : Work.KeepsOrder (m.release id) := by
  have held : Work.KeepsOrder (Program.update (fun p : Pool =>
      let kept := m.keeps (p.environment id)
      (kept, if kept then p.modify id (fun e => { e with inUse := false }) else p))) := by
    refine .update (fun p inOrder => ?_)
    dsimp only
    split
    · exact inOrder.same rfl (p.modify_length ..)
    · exact inOrder
  refine .bind held.holding (fun kept => ?_)
  cases kept with
  | true => exact .pure ()
  | false => exact delete_keepsOrder id

theorem shutdown_keepsOrder : Work.KeepsOrder shutdown := by
  have deletes (ids : List EnvironmentId) : Work.KeepsOrder (deleteAll ids) := by
    induction ids with
    | nil => exact .pure ()
    | cons id rest ih => exact .bind (delete_keepsOrder id) (fun _ => ih)
  refine .bind (.update (fun p _ => .untrackAll p)) (fun tracked => .bind (deletes _) (fun _ => ?_))
  exact .modify (fun _ inOrder => inOrder.same rfl rfl)

/-- No task of a manager brings the order about. -/
theorem perform_keepsOrder (m : Manager) (task : Task) : Work.KeepsOrder (m.perform task) := by
  cases task with
  | prepare requirement => exact prepare_keepsOrder requirement
  | deploy id => exact (deployHeld_on m id).keepsOrder.holding
  | connect id => exact (connectHeld_on m id).keepsOrder.holding
  | markDirty id => exact (markDirtyHeld_on id).keepsOrder.holding
  | release id => exact release_keepsOrder id
  | delete id => exact delete_keepsOrder id
  | shutdown => exact shutdown_keepsOrder

end Manager

end Order

/-- What can happen to a manager: a turn of its traffic, or a visit of somebody who has been handed
an environment and changes it in some way while nobody else works on it. -/
inductive Step where
  | turn (turn : Turn)
  | visit (id : EnvironmentId) (change : Environment → Environment)

def Traffic.step (m : Manager) (rules : Standing → Task → Bool) (t : Traffic) : Step → Traffic
  | .turn turn => t.take m rules turn
  | .visit id change =>
    if id ∈ t.pool.locked then t else { t with pool := t.pool.modify id change }

/-- The traffic after some steps, from an empty pool on. -/
def Manager.visited (m : Manager) (rules : Standing → Task → Bool) (steps : List Step) : Traffic :=
  steps.foldl (Traffic.step m rules) {}

namespace Traffic

variable {m : Manager} {rules : Standing → Task → Bool} {t : Traffic} {client : Nat}

/-- The tracked environments are in order, and will be when those that wait go on. -/
structure InOrder (t : Traffic) : Prop where
  pool : t.pool.InOrder
  waiting : ∀ c pending, (t.clients c).pending = some pending →
    ∀ reply, Work.KeepsOrder (pending.next reply)

namespace InOrder

theorem empty : ({} : Traffic).InOrder where
  pool := .untrackAll {}
  waiting _ _ pending := nomatch pending

theorem advance (inOrder : t.InOrder) {task : Task} {work : Work task.Result}
    (keeps : Work.KeepsOrder work) : (t.advance client task work).InOrder := by
  have after := keeps.advance (P := Pool.InOrder) (fun _ _ kept => kept) inOrder.pool
  unfold Traffic.advance
  generalize work.advance t.pool = rest at after
  refine ⟨pool_rested rest ▸ after.1, ?_⟩
  refine waiting_rested (P := fun _ pending => ∀ reply, Work.KeepsOrder (pending.next reply))
    (fun c pending _ found => inOrder.waiting c pending found) ?_
  obtain ⟨result | ⟨r, next⟩, q⟩ := rest
  · trivial
  · exact after.2.2

theorem take (inOrder : t.InOrder) (rules : Standing → Task → Bool) (turn : Turn) :
    (t.take m rules turn).InOrder := by
  have took := t.take_took m rules turn
  generalize t.take m rules turn = next at took ⊢
  cases took with
  | stayed => exact inOrder
  | @began client task => exact inOrder.advance (m.perform_keepsOrder task)
  | @wentOn client reply pending found =>
    exact inOrder.advance (inOrder.waiting client pending found _)
  | cancelled => exact ⟨inOrder.pool.same rfl rfl, inOrder.waiting⟩

theorem step (inOrder : t.InOrder) (rules : Standing → Task → Bool) (step : Step) :
    (t.step m rules step).InOrder := by
  cases step with
  | turn turn => exact inOrder.take rules turn
  | visit id change =>
    dsimp only [Traffic.step]
    split
    · exact inOrder
    · exact ⟨inOrder.pool.same rfl (t.pool.modify_length id change), inOrder.waiting⟩

end InOrder

end Traffic

/-- Whatever has happened, the tracked environments are in order. -/
theorem Manager.visited_inOrder (m : Manager) (rules : Standing → Task → Bool) (steps : List Step) :
    (m.visited rules steps).pool.InOrder := by
  have kept (t : Traffic) (inOrder : t.InOrder) :
      (steps.foldl (Traffic.step m rules) t).InOrder := by
    induction steps generalizing t with
    | nil => exact inOrder
    | cons step rest ih => exact ih _ (inOrder.step rules step)
  exact (kept {} .empty).pool

/-- Whether a platform holds anything for an environment of this status. -/
def EnvironmentStatus.isProvided : EnvironmentStatus → Bool
  | prepared | deployed | connected => true
  | new | deleted => false

/-- How many deletions a platform refused. -/
def failedDeletions (journal : Journal) : Nat :=
  journal.countP (fun
    | ⟨.delete _, .error _⟩ => true
    | _ => false)

theorem failedDeletions_append (first rest : Journal) :
    failedDeletions (first ++ rest) = failedDeletions first + failedDeletions rest :=
  List.countP_append

/-- What deleting some environments one after the other comes to. -/
structure Pool.Cleared (ids : List EnvironmentId) (p : Pool) (journal : Journal) (q : Pool) :
    Prop where
  calls : platformCalls journal =
    ((ids.map p.environment).filter (·.status.isProvided)).map Request.delete
  dead : ∀ id ∈ ids, (q.environment id).status = .deleted
  others : ∀ id, id ∉ ids → q.environment id = p.environment id
  tracked : q.tracked ⊆ p.tracked
  failures : q.metrics.deleteFailures =
    p.metrics.deleteFailures + .ofNat (failedDeletions journal)

namespace Pool.Cleared

variable {p q r : Pool} {first rest : Journal}

theorem nil (p : Pool) : p.Cleared [] [] p where
  calls := rfl
  dead _ member := nomatch member
  others _ _ := rfl
  tracked := List.Subset.refl _
  failures := (UInt64.add_zero _).symm

/-- A deletion does not show in what is asked for the environments that are deleted after it. -/
theorem cons {id : EnvironmentId} {ids : List EnvironmentId} (fresh : id ∉ ids)
    (once : p.Cleared [id] first q) (then_ids : q.Cleared ids rest r) :
    p.Cleared (id :: ids) (first ++ rest) r where
  calls := by
    have same : ids.map q.environment = ids.map p.environment :=
      List.map_congr_left (fun k member => once.others k (fun here =>
        fresh (List.mem_singleton.1 here ▸ member)))
    rw [platformCalls_append, once.calls, then_ids.calls, same, ← List.map_append,
      ← List.filter_append, ← List.map_append, List.singleton_append]
  dead k member := by
    rcases List.mem_cons.1 member with rfl | member
    · rw [then_ids.others k fresh]
      exact once.dead k (List.mem_singleton_self k)
    · exact then_ids.dead k member
  others k apart := by
    have outside : k ∉ ids := fun member => apart (List.mem_cons_of_mem id member)
    have other : k ∉ [id] := fun here => apart (List.mem_cons.2 (.inl (List.mem_singleton.1 here)))
    rw [then_ids.others k outside, once.others k other]
  tracked := List.Subset.trans then_ids.tracked once.tracked
  failures := by
    rw [then_ids.failures, once.failures, failedDeletions_append, UInt64.ofNat_add,
      UInt64.add_assoc]

end Pool.Cleared

namespace Manager

variable {s : Surroundings ω} {p : Pool}

/-- The platform is asked once, and what it answers only shows in the counter. -/
theorem relinquish_yields (s : Surroundings ω) (e : Environment) (p : Pool) (w : ω) :
    Work.Yields s (relinquish e) p w (fun journal _ q _ => p.Undisturbed q ∧
      platformCalls journal = (if e.status = .new then [] else [.delete e]) ∧
      q.metrics.deleteFailures = p.metrics.deleteFailures + .ofNat (failedDeletions journal)) := by
  unfold relinquish
  split
  · exact .pure ⟨.refl p, rfl, (UInt64.add_zero _).symm⟩
  · refine .request_bind (fun reply cancelled v => ?_)
    cases reply with
    | ok _ => exact .pure ⟨⟨fun _ => rfl, rfl⟩, rfl, (UInt64.add_zero _).symm⟩
    | error error => exact .modify_bind (.pure ⟨⟨fun _ => rfl, rfl⟩, rfl, rfl⟩)

theorem deleteHeld_yields (s : Surroundings ω) (id : EnvironmentId) (p : Pool) (w : ω) :
    Work.Yields s (deleteHeld id) p w (fun journal _ q _ => p.Cleared [id] journal q) := by
  refine .environment_bind ?_
  by_cases dead : (p.environment id).status = .deleted
  case pos =>
    rw [if_pos dead]
    refine .pure { Pool.Cleared.nil p with calls := ?_, dead := ?_, others := fun _ _ => rfl }
    · simp [dead, EnvironmentStatus.isProvided, platformCalls]
    · exact fun k member => List.mem_singleton.1 member ▸ dead
  case neg =>
    rw [if_neg dead]
    refine .bind (relinquish_yields s _ p w) (fun journal _ q _ after => .modify_bind (.pure ?_))
    obtain ⟨same, calls, failures⟩ := after
    have has : q.Has id := Pool.has_of_alive (by rwa [same.environment])
    rw [List.append_nil]
    constructor
    case calls =>
      rw [calls]
      cases status : (p.environment id).status <;>
        simp_all [EnvironmentStatus.isProvided]
    case dead =>
      intro k member
      obtain rfl := List.mem_singleton.1 member
      exact (congrArg Environment.status (q.environment_retire k k _)).trans
        (by rw [if_pos ⟨rfl, has⟩]; rfl)
    case others =>
      intro k apart
      refine (q.environment_retire id k _).trans ?_
      rw [if_neg (fun here => apart (List.mem_singleton.2 here.1)), same.environment]
    case tracked => exact fun k member => same.tracked ▸ member
    case failures => exact failures

/-- Deleting clears an environment, whatever the platform answers. -/
theorem delete_yields (s : Surroundings ω) (id : EnvironmentId) (p : Pool) (w : ω) :
    Work.Yields s (delete id) p w (fun journal _ q _ => p.Cleared [id] journal q) := by
  have held : Work.Yields s (Work.holding id (deleteHeld id)) p w
      (fun journal _ q _ => p.Cleared [id] journal q) := by
    refine .holding ?_
    obtain ⟨cancelled, same⟩ := s.answer_pool (.lock id) p w
    dsimp only
    rw [same]
    refine (deleteHeld_yields s id _ _).mono (fun journal _ q _ cleared => ?_)
    exact ⟨cleared.calls, cleared.dead, cleared.others, cleared.tracked, cleared.failures⟩
  refine .bind held (fun journal deleted q _ cleared => ?_)
  cases deleted with
  | false =>
    refine .pure ?_
    rwa [List.append_nil]
  | true =>
    refine .modify ?_
    rw [List.append_nil]
    exact ⟨cleared.calls, cleared.dead, cleared.others,
      fun k member => cleared.tracked (List.mem_of_mem_filter member), cleared.failures⟩

theorem deleteAll_yields (s : Surroundings ω) {ids : List EnvironmentId} (distinct : ids.Nodup)
    (p : Pool) (w : ω) :
    Work.Yields s (deleteAll ids) p w (fun journal _ q _ => p.Cleared ids journal q) := by
  induction ids generalizing p w with
  | nil => exact .pure (.nil p)
  | cons id rest ih =>
    obtain ⟨fresh, distinct⟩ := List.nodup_cons.1 distinct
    refine .bind (delete_yields s id p w) (fun first _ q v once => ?_)
    exact (ih distinct q v).mono (fun _ _ _ _ others => once.cons fresh others)

/-- Whatever has happened to a manager before, and whatever the platform answers, a shutdown asks it
to delete each tracked environment for which it holds something, the last one created first. It
counts those that were refused, and leaves all of them deleted and none tracked. The order of
creation is that of the numbers: what is prepared next either comes after all that is there, or is
tracked already and keeps its place. -/
theorem shutdown_last_first (m : Manager) (rules : Standing → Task → Bool) (steps : List Step)
    (s : Surroundings ω) (w : ω) :
    let p := (m.visited rules steps).pool
    let ran := Work.follow s.answer shutdown p (w, [])
    p.tracked.Pairwise (fun a b => a.index < b.index) ∧
    (∀ requirement id, (Work.run s (m.prepare requirement) p w).1 = .ok id →
      let q := (Work.run s (m.prepare requirement) p w).2.1
      (id ∈ p.tracked ∧ q.tracked = p.tracked) ∨
        ((∀ k, p.Has k → k.index < id.index) ∧ q.tracked = p.tracked ++ [id])) ∧
    platformCalls ran.2.2.2 =
      ((p.tracked.reverse.map p.environment).filter (·.status.isProvided)).map Request.delete ∧
    ran.2.1.metrics.deleteFailures =
      p.metrics.deleteFailures + .ofNat (failedDeletions ran.2.2.2) ∧
    (∀ id ∈ p.tracked, (ran.2.1.environment id).status = .deleted) ∧
    ran.2.1.tracked = [] := by
  intro p ran
  have inOrder : p.InOrder := m.visited_inOrder rules steps
  refine ⟨inOrder.order, fun requirement id prepared => ?_, ?_⟩
  · obtain ⟨result, q, advanced, prepares⟩ := m.prepare_advance requirement p
    have same : Work.run s (m.prepare requirement) p w = (result, q, w) :=
      Program.run_of_advance _ _ advanced w
    rw [same] at prepared ⊢
    obtain rfl : result = .ok id := prepared
    cases prepares with
    | reused reusable => exact .inl ⟨reusable.tracked, rfl⟩
    | created resolved => exact .inr ⟨fun k has => has, rfl⟩
  · have distinct : p.tracked.reverse.Nodup := List.nodup_reverse.2 inOrder.nodup
    have clears : Work.Yields s shutdown p w (fun journal _ q _ =>
        ({ p with tracked := [] } : Pool).Cleared p.tracked.reverse journal q) := by
      refine .update_bind (.bind (deleteAll_yields s distinct _ w) (fun journal _ q _ cleared => ?_))
      refine .modify ?_
      rw [List.append_nil]
      exact ⟨cleared.calls, cleared.dead, cleared.others, cleared.tracked, cleared.failures⟩
    have cleared := clears.run
    exact ⟨cleared.calls, cleared.failures,
      fun id member => cleared.dead id (List.mem_reverse.2 member),
      List.subset_nil.1 cleared.tracked⟩

end Manager

end Testbed
