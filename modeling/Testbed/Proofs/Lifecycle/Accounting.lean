import Mathlib.Data.List.Induction
import Mathlib.Data.List.Sort
import Testbed.Proofs.Lifecycle.Turns

/-!
# Deletion and accounting

However the tasks of clients interleave, the platform is asked to delete an environment at most
once, and is asked for exactly the environments that it has to know of. What was counted and
reported is what was deleted, and once no client is in the middle of a task, the tracked
environments are exactly those that are not deleted.
-/
namespace Testbed

namespace Traffic

variable {m : Manager} {rules : Standing → Task → Bool} {t t' : Traffic}
  {stances stances' : Nat → Stance}

theorem deleteCalls_waiting (t : Traffic) (client : Nat) (task : Task) (r : Request)
    (next : r.Reply → Work task.Result) (q : Pool) (id : EnvironmentId) :
    (t.rested client task (.waiting r next, q)).deleteCalls id =
      t.deleteCalls id + if r.deletes id then 1 else 0 := by
  simp [deleteCalls, rested, List.countP_append, List.countP_singleton]

theorem deleteCalls_finished (t : Traffic) (client : Nat) (task : Task) (result : task.Result)
    (q : Pool) (id : EnvironmentId) :
    (t.rested client task (.finished result, q)).deleteCalls id = t.deleteCalls id := by
  simp [deleteCalls, rested]

/-- A step asks the platform to delete an environment at most once, and only when no client is about
to do so already. -/
theorem Moved.deleteCalls (kept : t.Kept m stances)
    (moved : t.Moved m rules stances t' stances') (id : EnvironmentId) :
    t'.deleteCalls id = t.deleteCalls id ∨
      t'.deleteCalls id = t.deleteCalls id + 1 ∧ (∃ c, (stances' c).hold = .deleting id) ∧
        ∀ c, (stances c).hold ≠ .deleting id := by
  cases moved with
  | stayed => exact .inl rfl
  | cancelled => exact .inl rfl
  | ended busy begun ends => exact .inl (deleteCalls_finished ..)
  | @paused client task before after r next q busy begun stretch waits =>
    rw [deleteCalls_waiting]
    by_cases deleting : after.hold = .deleting id
    · rw [if_pos ((clientContract_deletes waits).2 deleting)]
      have working : before.hold = .working id := (stretch.begins id deleting).1
      refine .inr ⟨rfl, ⟨client, by simpa using deleting⟩, fun c already => ?_⟩
      by_cases same : c = client
      · subst same
        cases working.symm.trans (begun.deleting.2 already)
      · exact kept.other_not_holds begun same (.inr already) (.inl working)
    · rw [if_neg (fun asks => deleting ((clientContract_deletes waits).1 asks))]
      exact .inl rfl

/-- A client that has asked the platform deletes the environment in its next stretch. -/
theorem Moved.still_deleting (moved : t.Moved m rules stances t' stances') {c : Nat}
    {id : EnvironmentId} (deleting : (stances c).hold = .deleting id) :
    (stances' c).hold = .deleting id ∨ (t'.pool.environment id).status = .deleted := by
  rcases moved.stretched with ⟨-, -, rfl⟩ | ⟨client, _, before, after, begun, stretch, rfl⟩
  · exact .inl deleting
  · by_cases same : c = client
    · subst same
      exact .inr (stretch.done id (begun.deleting.2 deleting))
    · exact .inl (by simpa [same] using deleting)

/-- What a client is about to delete it was about to delete before, or it has just asked to. -/
theorem Moved.deleting (kept : t.Kept m stances) (moved : t.Moved m rules stances t' stances')
    {c : Nat} {id : EnvironmentId} (deleting : (stances' c).hold = .deleting id) :
    (stances c).hold = .deleting id ∧ t'.pool.environment id = t.pool.environment id ∨
      t'.deleteCalls id = t.deleteCalls id + 1 ∧ t'.pool.Has id ∧
        (t'.pool.environment id).status ≠ .new ∧ (t'.pool.environment id).status ≠ .deleted := by
  cases moved with
  | stayed => exact .inl ⟨deleting, rfl⟩
  | cancelled => exact .inl ⟨deleting, rfl⟩
  | @ended client task before result q busy begun ends =>
    by_cases same : c = client
    · subst same
      simp at deleting
    · have deleting : (stances c).hold = .deleting id := by simpa [same] using deleting
      have relied := kept.other_relies begun ends.1 same
      exact .inl ⟨deleting, relied.unchanged id (.inr deleting)⟩
  | @paused client task before after r next q busy begun stretch waits =>
    by_cases same : c = client
    · subst same
      have deleting : after.hold = .deleting id := by simpa using deleting
      refine .inr ⟨?_, (stretch.begins id deleting).2⟩
      rw [deleteCalls_waiting, if_pos ((clientContract_deletes waits).2 deleting)]
    · have deleting : (stances c).hold = .deleting id := by simpa [same] using deleting
      have relied := kept.other_relies begun stretch same
      exact .inl ⟨deleting, relied.unchanged id (.inr deleting)⟩

/-- Whether the platform has been asked to delete what, given where the clients stand. -/
structure Called (t : Traffic) (stances : Nat → Stance) : Prop where
  once : ∀ id, t.deleteCalls id ≤ 1
  never : ∀ id, (∀ c, (stances c).hold ≠ .deleting id) →
    ¬ (t.pool.Has id ∧ (t.pool.environment id).status = .deleted) → t.deleteCalls id = 0
  asked : ∀ c id, (stances c).hold = .deleting id →
    t.deleteCalls id = 1 ∧ t.pool.Has id ∧ (t.pool.environment id).status ≠ .new ∧
      (t.pool.environment id).status ≠ .deleted

namespace Called

theorem empty : ({} : Traffic).Called (fun _ => {}) where
  once _ := Nat.zero_le _
  never _ _ _ := rfl
  asked _ _ deleting := nomatch deleting

/-- A new request to delete is the first one. -/
theorem first (called : t.Called stances) (kept : t.Kept m stances)
    (moved : t.Moved m rules stances t' stances') {id : EnvironmentId} {c : Nat}
    (before : ∀ c, (stances c).hold ≠ .deleting id) (deleting : (stances' c).hold = .deleting id) :
    t.deleteCalls id = 0 := by
  refine called.never id before (fun dead => ?_)
  rcases moved.deleting kept deleting with already | ⟨-, -, -, alive⟩
  · exact before c already.1
  · exact alive ((moved.evolves dead.1).deleted dead.2)

theorem step (kept : t.Kept m stances) (called : t.Called stances)
    (moved : t.Moved m rules stances t' stances') : t'.Called stances' := by
  constructor
  case once =>
    intro id
    have once := called.once id
    rcases moved.deleteCalls kept id with same | ⟨more, ⟨c, deleting⟩, before⟩
    · omega
    · have first := called.first kept moved before deleting
      omega
  case never =>
    intro id nobody alive
    have unasked : ∀ c, (stances c).hold ≠ .deleting id := by
      intro c deleting
      rcases moved.still_deleting deleting with still | dead
      · exact nobody c still
      · exact alive ⟨moved.has (called.asked c id deleting).2.1, dead⟩
    -- nothing comes back from the dead, so it was alive when the step began
    have alive_before : ¬ (t.pool.Has id ∧ (t.pool.environment id).status = .deleted) :=
      fun dead => alive ⟨moved.has dead.1, (moved.evolves dead.1).deleted dead.2⟩
    have none := called.never id unasked alive_before
    rcases moved.deleteCalls kept id with same | ⟨-, ⟨c, deleting⟩, -⟩
    · omega
    · exact absurd deleting (nobody c)
  case asked =>
    intro c id deleting
    rcases moved.deleting kept deleting with ⟨before, same⟩ | ⟨more, live⟩
    · obtain ⟨one, has, live⟩ := called.asked c id before
      refine ⟨?_, moved.has has, same ▸ live⟩
      rcases moved.deleteCalls kept id with same | ⟨-, -, nobody⟩
      · omega
      · exact absurd before (nobody c)
    · refine ⟨?_, live⟩
      rcases moved.deleteCalls kept id with same | ⟨-, -, nobody⟩
      · omega
      · have first := called.first kept moved nobody deleting
        omega

end Called

/-- Only new environments are deleted without asking the platform. -/
theorem Moved.deletes (moved : t.Moved m rules stances t' stances') {id : EnvironmentId}
    (has : t.pool.Has id) (alive : (t.pool.environment id).status ≠ .deleted)
    (dead : (t'.pool.environment id).status = .deleted) :
    (t.pool.environment id).status = .new ∨ ∃ c, (stances c).hold = .deleting id := by
  rcases moved.stretched with ⟨same, -, -⟩ | ⟨client, _, _, _, begun, stretch, -⟩
  · exact absurd (same id ▸ dead) alive
  · rcases stretch.deletes id has alive dead with new | deleting
    · exact .inl new
    · exact .inr ⟨client, begun.deleting.1 deleting⟩

/-- An environment that has left the first status, of whose deletion the platform knows. -/
structure Settled (t : Traffic) (id : EnvironmentId) : Prop where
  has : t.pool.Has id
  used : (t.pool.environment id).status ≠ .new
  known : (t.pool.environment id).status = .deleted → t.deleteCalls id = 1

theorem Settled.step (kept : t.Kept m stances) (called : t.Called stances) {id : EnvironmentId}
    (settled : t.Settled id) (moved : t.Moved m rules stances t' stances') : t'.Settled id := by
  have evolves := moved.evolves settled.has
  refine ⟨moved.has settled.has, fun new => settled.used (evolves.new new), fun dead => ?_⟩
  have asked : t.deleteCalls id = 1 := by
    by_cases before : (t.pool.environment id).status = .deleted
    · exact settled.known before
    · rcases moved.deletes settled.has before dead with new | ⟨c, deleting⟩
      · exact absurd new settled.used
      · exact (called.asked c id deleting).1
  have once := (called.step kept moved).once id
  rcases moved.deleteCalls kept id with same | ⟨more, -, -⟩ <;> omega

end Traffic

namespace Pool

/-- When nothing but deleted environments has been forgotten, the tracked environments are the other
ones, in the order of creation. -/
theorem Balanced.tracked_eq {p : Pool} (b : p.Balanced)
    (accounted : ∀ id, p.Has id → id ∈ p.tracked ∨ (p.environment id).status = .deleted) :
    p.tracked = p.ids.filter (fun id => (p.environment id).status ≠ .deleted) := by
  have irreflexive : Std.Irrefl (fun a b : EnvironmentId => a.index < b.index) :=
    ⟨fun a => Nat.lt_irrefl a.index⟩
  have asymmetric : Std.Asymm (fun a b : EnvironmentId => a.index < b.index) :=
    ⟨fun a b => Nat.lt_asymm⟩
  have created : p.ids.Pairwise (fun a b => a.index < b.index) :=
    List.pairwise_map.2 List.pairwise_lt_range
  refine List.Pairwise.eq_of_mem_iff b.tracked_order (created.filter _) (fun id => ?_)
  rw [List.mem_filter, mem_ids]
  constructor
  · intro tracked
    obtain ⟨has, alive⟩ := b.tracked_alive id tracked
    exact ⟨has, by simpa using alive⟩
  · rintro ⟨has, alive⟩
    have alive : (p.environment id).status ≠ .deleted := by simpa using alive
    exact (accounted id has).resolve_right alive

theorem length_tracked_add {p : Pool}
    (tracked : p.tracked = p.ids.filter (fun id => (p.environment id).status ≠ .deleted)) :
    p.tracked.length + p.deletedCount = p.environments.length := by
  have total : p.ids.length = p.environments.length := by simp [ids]
  have split := List.length_eq_countP_add_countP
    (fun id => decide ((p.environment id).status = .deleted)) (l := p.ids)
  rw [tracked, ← List.countP_eq_length_filter, deletedCount, ← total, split, Nat.add_comm]
  simp

end Pool

namespace Manager

variable (m : Manager) (rules : Standing → Task → Bool)

/-- Whether an environment had left the first status at some time before its deletion. -/
def LeftNew (turns : List Turn) (id : EnvironmentId) : Prop :=
  ∃ earlier later, turns = earlier ++ later ∧
    (m.traffic rules earlier).pool.Has id ∧
    ((m.traffic rules earlier).pool.environment id).status ≠ .new ∧
    ((m.traffic rules earlier).pool.environment id).status ≠ .deleted

theorem traffic_called (turns : List Turn) :
    ∃ stances, (m.traffic rules turns).Kept m stances ∧ (m.traffic rules turns).Called stances :=
  (Traffic.Kept.empty m).run rules (fun kept called moved => called.step kept moved) .empty turns

/-- The platform knows of the deletion of everything that had left the first status. -/
theorem deleteCalls_of_leftNew {turns : List Turn} {id : EnvironmentId}
    (left : m.LeftNew rules turns id)
    (dead : ((m.traffic rules turns).pool.environment id).status = .deleted) :
    (m.traffic rules turns).deleteCalls id = 1 := by
  obtain ⟨earlier, later, rfl, has, used, alive⟩ := left
  obtain ⟨stances, kept, called⟩ := m.traffic_called rules earlier
  have settled : (m.traffic rules earlier).Settled id :=
    ⟨has, used, fun dead => absurd dead alive⟩
  obtain ⟨_, -, -, settled⟩ := kept.run rules
    (P := fun t stances => t.Called stances ∧ t.Settled id)
    (fun kept known moved => ⟨known.1.step kept moved, known.2.step kept known.1 moved⟩)
    ⟨called, settled⟩ later
  rw [traffic_append] at dead ⊢
  exact settled.known dead

/-- And of nothing else. -/
theorem leftNew_of_deleteCalls {turns : List Turn} {id : EnvironmentId}
    (asked : (m.traffic rules turns).deleteCalls id ≠ 0) : m.LeftNew rules turns id := by
  induction turns using List.reverseRecOn with
  | nil => exact absurd rfl asked
  | append_singleton turns turn ih =>
    obtain ⟨stances, kept, called⟩ := m.traffic_called rules turns
    obtain ⟨stances', kept', moved⟩ := kept.take rules turn
    rw [traffic_append] at asked
    by_cases before : (m.traffic rules turns).deleteCalls id = 0
    · rcases moved.deleteCalls kept id with same | ⟨-, ⟨c, deleting⟩, -⟩
      · exact absurd (same.trans before) asked
      · obtain ⟨-, live⟩ := (called.step kept moved).asked c id deleting
        refine ⟨turns ++ [turn], [], (List.append_nil _).symm, ?_⟩
        rw [traffic_append]
        exact live
    · obtain ⟨earlier, later, rfl, live⟩ := ih before
      exact ⟨earlier, later ++ [turn], List.append_assoc .., live⟩

/-- Exactly-once deletion and accounting, for every run of any operations. -/
theorem traffic_accounts (turns : List Turn) :
    let t := m.traffic rules turns
    (∀ id, t.deleteCalls id ≤ 1) ∧
    (∀ id, t.pool.Has id → (t.pool.environment id).status = .deleted →
      (t.deleteCalls id = 1 ↔ m.LeftNew rules turns id)) ∧
    (∀ id, t.pool.Has id → (t.pool.environment id).status = .new → t.deleteCalls id = 0) ∧
    (∀ id, t.pool.deletions id ≤ 1) ∧
    t.pool.metrics.deleted = UInt64.ofNat t.pool.deletedCount ∧
    t.pool.metrics.prepared = UInt64.ofNat t.pool.environments.length ∧
    (t.Quiet →
      t.pool.tracked = t.pool.ids.filter (fun id => (t.pool.environment id).status ≠ .deleted) ∧
      t.pool.metrics.prepared - t.pool.metrics.deleted =
        UInt64.ofNat t.pool.tracked.length) := by
  intro t
  obtain ⟨stances, kept, called⟩ := m.traffic_called rules turns
  refine ⟨called.once, ?_, ?_, ?_, kept.balanced.deleted, kept.balanced.prepared, ?_⟩
  · intro id has dead
    constructor
    · intro one
      exact m.leftNew_of_deleteCalls rules (one ▸ Nat.one_ne_zero)
    · intro left
      exact m.deleteCalls_of_leftNew rules left dead
  · intro id has new
    refine called.never id (fun c deleting => ?_) (fun dead => ?_)
    · exact (called.asked c id deleting).2.2.1 new
    · cases new.symm.trans dead.2
  · intro id
    rw [kept.balanced.deletions]
    split <;> omega
  · intro quiet
    have accounted (id : EnvironmentId) (has : t.pool.Has id) :
        id ∈ t.pool.tracked ∨ (t.pool.environment id).status = .deleted := by
      rcases kept.accounted id has with tracked | dead | ⟨c, due⟩
      · exact .inl tracked
      · exact .inr dead
      · rw [kept.idle c (quiet c)] at due
        cases due
    have tracked := kept.balanced.tracked_eq accounted
    refine ⟨tracked, ?_⟩
    have count : UInt64.ofNat t.pool.environments.length =
        UInt64.ofNat t.pool.tracked.length + UInt64.ofNat t.pool.deletedCount := by
      rw [← UInt64.ofNat_add, Pool.length_tracked_add tracked]
    rw [kept.balanced.prepared, kept.balanced.deleted, count, UInt64.add_sub_cancel]

end Manager

end Testbed
