import Testbed.Proofs.Lifecycle.Environment
import Testbed.Proofs.Lifecycle.Traffic

/-!
# The books of a pool

A pool is balanced when its records fit together: environments are at the places that their ids
name, those that are tracked are not deleted and are in the order of creation, and what was counted
and reported is what was created and deleted. Work on one environment short of its deletion leaves
the books as they are.
-/
namespace Testbed

theorem EnvironmentId.text_injective {a b : EnvironmentId} (h : a.text = b.text) : a = b := by
  have digits : Nat.toDigits 10 a.index = Nat.toDigits 10 b.index := by
    have printed : a.index.repr = b.index.repr := by
      simpa [EnvironmentId.text, toString, String.append_right_inj] using h
    simpa [Nat.repr] using congrArg String.toList printed
  have same : a.index = b.index := by
    rw [← Nat.ofDigitChars_toDigits (n := a.index) (by decide) (Nat.le_refl 10), digits,
      Nat.ofDigitChars_toDigits (by decide) (Nat.le_refl 10)]
  cases a
  cases b
  exact congrArg EnvironmentId.mk same

/-- Whether an event reports the deletion of an environment. -/
def Event.deletes (id : EnvironmentId) : Event → Bool
  | .environmentDeleted name _ _ => name = id.text
  | _ => false

namespace Pool

/-- The ids of all environments, in the order of creation. -/
def ids (p : Pool) : List EnvironmentId := (List.range p.environments.length).map EnvironmentId.mk

/-- How many deletions of an environment have been reported. -/
def deletions (p : Pool) (id : EnvironmentId) : Nat := p.events.countP (Event.deletes id)

/-- How many environments are deleted. -/
def deletedCount (p : Pool) : Nat :=
  p.ids.countP (fun id => (p.environment id).status = .deleted)

theorem mem_ids {p : Pool} {id : EnvironmentId} : id ∈ p.ids ↔ p.Has id := by
  cases id
  simp [ids, Has]

theorem ids_nodup (p : Pool) : p.ids.Nodup :=
  List.pairwise_map.2 (List.nodup_range.imp (fun apart same => apart (EnvironmentId.mk.inj same)))

theorem environment_of_not_has {p : Pool} {id : EnvironmentId} (missing : ¬ p.Has id) :
    p.environment id = absent id := by
  have none_there : p.environments[id.index]? = none := by simpa [Has] using missing
  rw [environment, none_there]
  rfl

/-- What is alive is there. -/
theorem has_of_alive {p : Pool} {id : EnvironmentId}
    (alive : (p.environment id).status ≠ .deleted) : p.Has id := by
  by_contra missing
  rw [environment_of_not_has missing] at alive
  exact alive rfl

section Operations

variable (p : Pool) (id k : EnvironmentId) (f : Environment → Environment)

@[simp]
theorem has_modify : (p.modify id f).Has k ↔ p.Has k := by simp [Has, modify]

@[simp]
theorem has_unlock : (p.unlock id).Has k ↔ p.Has k := .rfl

@[simp]
theorem has_untrack : (p.untrack id).Has k ↔ p.Has k := .rfl

theorem environment_modify :
    (p.modify id f).environment k =
      if k = id ∧ p.Has id then f (p.environment id) else p.environment k := by
  simp only [environment, modify, List.getElem?_modify]
  by_cases same : k = id
  · subst same
    cases found : p.environments[k.index]? with
    | none =>
      have absent : ¬ p.Has k := by simpa [Has] using found
      simp [absent]
    | some e =>
      have present : p.Has k := (List.getElem?_eq_some_iff.1 found).1
      simp [present]
  · have apart : id.index ≠ k.index := fun h => same (by cases id; cases k; simp_all)
    simp [same, apart]

@[simp]
theorem modify_length :
    (p.modify id f).environments.length = p.environments.length := by
  simp [modify]

@[simp]
theorem environment_unlock : (p.unlock id).environment k = p.environment k := rfl

@[simp]
theorem environment_untrack : (p.untrack id).environment k = p.environment k := rfl

theorem environment_handOut :
    (p.handOut id).environment k =
      if k = id ∧ p.Has id then { p.environment id with inUse := true } else p.environment k :=
  p.environment_modify id k _

theorem status_handOut :
    ((p.handOut id).environment k).status = (p.environment k).status := by
  rw [environment_handOut]
  split
  · rename_i same
    rw [same.1]
  · rfl

theorem deletions_report (event : Event) :
    (p.report event).deletions k = p.deletions k + if event.deletes k then 1 else 0 := by
  simp [deletions, report, List.countP_append, List.countP_singleton]

end Operations

section Creation

variable (p : Pool) (found : MatchedEnvironment)

/-- The environment that is created for a match. -/
def created : Environment := { Environment.ofMatch p.nextId found with inUse := true }

theorem has_create (k : EnvironmentId) : (p.create found).Has k ↔ p.Has k ∨ k = p.nextId := by
  cases k
  simp only [Has, create, count, report, nextId, List.length_append, List.length_singleton,
    EnvironmentId.mk.injEq]
  omega

theorem environment_create (k : EnvironmentId) :
    (p.create found).environment k =
      if k = p.nextId then created p found else p.environment k := by
  cases k with
  | mk i =>
    simp only [environment, create, count, report, nextId, created, EnvironmentId.mk.injEq]
    by_cases last : i = p.environments.length
    · subst last
      simp
    · rw [if_neg last]
      by_cases before : i < p.environments.length
      · rw [List.getElem?_append_left before]
      · rw [List.getElem?_eq_none (by simp; omega), List.getElem?_eq_none (by omega)]

theorem environment_create_old {k : EnvironmentId} (has : p.Has k) :
    (p.create found).environment k = p.environment k := by
  have apart : k ≠ p.nextId := by
    rintro rfl
    exact Nat.lt_irrefl _ has
  rw [environment_create, if_neg apart]

theorem environment_create_last : (p.create found).environment p.nextId = p.created found := by
  rw [environment_create, if_pos rfl]

theorem ids_create : (p.create found).ids = p.ids ++ [p.nextId] := by
  simp [ids, create, count, report, nextId, List.range_succ]

end Creation

/-- A change of a pool that its books do not show. -/
structure SameBooks (p q : Pool) : Prop where
  length : q.environments.length = p.environments.length
  id : ∀ k, (q.environment k).id = (p.environment k).id
  dead : ∀ k, (q.environment k).status = .deleted ↔ (p.environment k).status = .deleted
  tracked : q.tracked = p.tracked
  locked : q.locked = p.locked
  prepared : q.metrics.prepared = p.metrics.prepared
  deleted : q.metrics.deleted = p.metrics.deleted
  deletions : ∀ k, q.deletions k = p.deletions k

/-- What work on an environment short of its deletion does to a pool. -/
structure Works (id : EnvironmentId) (p q : Pool) : Prop where
  length : q.environments.length = p.environments.length
  others : ∀ k, k ≠ id → q.environment k = p.environment k
  worked : (p.environment id).Worked (q.environment id)
  tracked : q.tracked = p.tracked
  locked : q.locked = p.locked
  prepared : q.metrics.prepared = p.metrics.prepared
  deleted : q.metrics.deleted = p.metrics.deleted
  deletions : ∀ k, q.deletions k = p.deletions k

namespace Works

variable {id : EnvironmentId} {p q r : Pool}

theorem refl (id : EnvironmentId) (p : Pool) : p.Works id p :=
  ⟨rfl, fun _ _ => rfl, .refl _, rfl, rfl, rfl, rfl, fun _ => rfl⟩

theorem trans (first : p.Works id q) (second : q.Works id r) : p.Works id r where
  length := second.length.trans first.length
  others k h := (second.others k h).trans (first.others k h)
  worked := first.worked.trans second.worked
  tracked := second.tracked.trans first.tracked
  locked := second.locked.trans first.locked
  prepared := second.prepared.trans first.prepared
  deleted := second.deleted.trans first.deleted
  deletions k := (second.deletions k).trans (first.deletions k)

theorem modify {f : Environment → Environment} (p : Pool)
    (h : (p.environment id).Worked (f (p.environment id))) : p.Works id (p.modify id f) where
  length := p.modify_length id f
  others k apart := by rw [environment_modify, if_neg (fun h => apart h.1)]
  worked := by
    rw [environment_modify]
    split
    · exact h
    · exact .refl _
  tracked := rfl
  locked := rfl
  prepared := rfl
  deleted := rfl
  deletions _ := rfl

theorem overflow (p : Pool) : p.Works id p.overflow :=
  ⟨rfl, fun _ _ => rfl, .refl _, rfl, rfl, rfl, rfl, fun _ => rfl⟩

theorem count (p : Pool) {counter : Counter} (prepares : counter ≠ .prepared)
    (deletes : counter ≠ .deleted) : p.Works id (p.count counter) where
  length := rfl
  others _ _ := rfl
  worked := .refl _
  tracked := rfl
  locked := rfl
  prepared := by cases counter <;> first | rfl | exact absurd rfl prepares
  deleted := by cases counter <;> first | rfl | exact absurd rfl deletes
  deletions _ := rfl

theorem report (p : Pool) {event : Event} (other : ∀ k, event.deletes k = false) :
    p.Works id (p.report event) where
  length := rfl
  others _ _ := rfl
  worked := .refl _
  tracked := rfl
  locked := rfl
  prepared := rfl
  deleted := rfl
  deletions k := by simp [deletions_report, other k]

theorem has (h : p.Works id q) (k : EnvironmentId) : q.Has k ↔ p.Has k := by
  rw [Has, Has, h.length]

theorem evolves (h : p.Works id q) (k : EnvironmentId) :
    (p.environment k).Evolves (q.environment k) := by
  by_cases same : k = id
  · exact same ▸ h.worked.toEvolves
  · exact h.others k same ▸ .refl _

theorem sameBooks (h : p.Works id q) : p.SameBooks q where
  length := h.length
  id k := (h.evolves k).id
  dead k := by
    by_cases same : k = id
    · subst same
      exact ⟨h.worked.alive, h.worked.toEvolves.deleted⟩
    · rw [h.others k same]
  tracked := h.tracked
  locked := h.locked
  prepared := h.prepared
  deleted := h.deleted
  deletions := h.deletions

end Works

/-- The records of a pool fit together. -/
structure Balanced (p : Pool) : Prop where
  numbered : ∀ id, p.Has id → (p.environment id).id = id
  tracked_alive : ∀ id ∈ p.tracked, p.Has id ∧ (p.environment id).status ≠ .deleted
  tracked_order : p.tracked.Pairwise (fun a b => a.index < b.index)
  locked_nodup : p.locked.Nodup
  locked_has : ∀ id ∈ p.locked, p.Has id
  prepared : p.metrics.prepared = UInt64.ofNat p.environments.length
  deleted : p.metrics.deleted = UInt64.ofNat p.deletedCount
  deletions : ∀ id,
    p.deletions id = if p.Has id ∧ (p.environment id).status = .deleted then 1 else 0

namespace Balanced

variable {id : EnvironmentId} {p q : Pool}

theorem empty : ({} : Pool).Balanced where
  numbered _ h := absurd h (Nat.not_lt_zero _)
  tracked_alive _ h := absurd h List.not_mem_nil
  tracked_order := .nil
  locked_nodup := .nil
  locked_has _ h := absurd h List.not_mem_nil
  prepared := rfl
  deleted := rfl
  deletions id := by
    rw [if_neg (fun h => absurd h.1 (Nat.not_lt_zero _))]
    rfl

theorem same (b : p.Balanced) (h : p.SameBooks q) : q.Balanced := by
  have has (k : EnvironmentId) : q.Has k ↔ p.Has k := by rw [Has, Has, h.length]
  have count : q.deletedCount = p.deletedCount := by
    simp only [deletedCount, ids, h.length, h.dead]
  constructor
  case numbered => exact fun k present => (h.id k).trans (b.numbered k ((has k).1 present))
  case tracked_alive =>
    intro k member
    obtain ⟨present, alive⟩ := b.tracked_alive k (h.tracked ▸ member)
    exact ⟨(has k).2 present, fun dead => alive ((h.dead k).1 dead)⟩
  case tracked_order => exact h.tracked ▸ b.tracked_order
  case locked_nodup => exact h.locked ▸ b.locked_nodup
  case locked_has => exact fun k member => (has k).2 (b.locked_has k (h.locked ▸ member))
  case prepared => rw [h.prepared, h.length, b.prepared]
  case deleted => rw [h.deleted, count, b.deleted]
  case deletions =>
    intro k
    simp only [h.deletions, b.deletions, has, h.dead]

theorem works (b : p.Balanced) (h : p.Works id q) : q.Balanced := b.same h.sameBooks

theorem lock (b : p.Balanced) (free : id ∉ p.locked) (has : p.Has id) : (p.lock id).Balanced :=
  { b with
    locked_nodup := List.nodup_cons.2 ⟨free, b.locked_nodup⟩
    locked_has := fun k member => by
      rcases List.mem_cons.1 member with rfl | member
      · exact has
      · exact b.locked_has k member }

theorem unlock (b : p.Balanced) (id : EnvironmentId) : (p.unlock id).Balanced :=
  { b with
    locked_nodup := b.locked_nodup.erase id
    locked_has := fun k member => b.locked_has k (List.mem_of_mem_erase member) }

theorem untrackAll (b : p.Balanced) : ({ p with tracked := [] } : Pool).Balanced :=
  { b with
    tracked_alive := fun _ member => absurd member List.not_mem_nil
    tracked_order := .nil }

theorem cancel (b : p.Balanced) : p.cancel.Balanced := { b with }

/-- Setting whether an environment is in use does not show in the books. -/
theorem setInUse (b : p.Balanced) (id : EnvironmentId) (inUse : Bool) :
    (p.modify id (fun e => { e with inUse })).Balanced := by
  refine b.same ⟨p.modify_length id _, ?_, ?_, rfl, rfl, rfl, rfl, fun _ => rfl⟩
  all_goals
    intro k
    rw [environment_modify]
    split
    · rename_i same
      rw [same.1]
    · rfl

theorem handOut (b : p.Balanced) (id : EnvironmentId) : (p.handOut id).Balanced :=
  (b.setInUse id true).same ⟨rfl, fun _ => rfl, fun _ => .rfl, rfl, rfl, rfl, rfl, fun k => by
    change ((p.modify id _).report _).deletions k = _
    rw [deletions_report]
    rfl⟩

theorem create (b : p.Balanced) (found : MatchedEnvironment) : (p.create found).Balanced := by
  have fresh : ¬ p.Has p.nextId := Nat.lt_irrefl _
  have old (k : EnvironmentId) (has : p.Has k) := p.environment_create_old found has
  have last := p.environment_create_last found
  constructor
  case numbered =>
    intro k has
    rcases (has_create p found k).1 has with has | rfl
    · rw [old k has, b.numbered k has]
    · rw [last]
      rfl
  case tracked_alive =>
    intro k member
    rcases List.mem_append.1 member with member | member
    · obtain ⟨has, alive⟩ := b.tracked_alive k member
      exact ⟨(has_create p found k).2 (.inl has), old k has ▸ alive⟩
    · obtain rfl := List.mem_singleton.1 member
      exact ⟨(has_create p found _).2 (.inr rfl), by rw [last]; nofun⟩
  case tracked_order =>
    refine List.pairwise_append.2 ⟨b.tracked_order, List.pairwise_singleton .., ?_⟩
    intro k member next singleton
    obtain rfl := List.mem_singleton.1 singleton
    exact (b.tracked_alive k member).1
  case locked_nodup => exact b.locked_nodup
  case locked_has =>
    exact fun k member => (has_create p found k).2 (.inl (b.locked_has k member))
  case prepared =>
    change p.metrics.prepared + 1 = UInt64.ofNat (p.environments ++ [_]).length
    rw [b.prepared, List.length_append, UInt64.ofNat_add]
    rfl
  case deleted =>
    have count : (p.create found).deletedCount = p.deletedCount := by
      rw [deletedCount, ids_create, List.countP_append, List.countP_singleton, last]
      refine Nat.add_right_cancel_iff.2 (List.countP_congr (fun k member => ?_)) |>.trans rfl
      rw [old k (mem_ids.1 member)]
    change p.metrics.deleted = _
    rw [b.deleted, count]
  case deletions =>
    intro k
    have same : (p.create found).deletions k = p.deletions k := by
      change (Pool.report _ _).deletions k = _
      rw [deletions_report]
      rfl
    rw [same, b.deletions]
    by_cases next : k = p.nextId
    · subst next
      rw [if_neg (fun h => fresh h.1), last, if_neg (fun h => nomatch h.2)]
    · simp only [has_create, environment_create, next, or_false, if_false]

end Balanced

/-- Delete an environment and take note of it. -/
def retire (p : Pool) (id : EnvironmentId) (event : Event) : Pool :=
  ((p.modify id Environment.forceDeleted).count .deleted).report event

theorem environment_retire (p : Pool) (id k : EnvironmentId) (event : Event) :
    (p.retire id event).environment k =
      if k = id ∧ p.Has id then (p.environment id).forceDeleted else p.environment k :=
  p.environment_modify id k _

@[simp]
theorem retire_length (p : Pool) (id : EnvironmentId) (event : Event) :
    (p.retire id event).environments.length = p.environments.length :=
  p.modify_length id _

@[simp]
theorem has_retire (p : Pool) (id k : EnvironmentId) (event : Event) :
    (p.retire id event).Has k ↔ p.Has k :=
  p.has_modify id k _

theorem deletedCount_retire {p : Pool} {id : EnvironmentId} (has : p.Has id)
    (alive : (p.environment id).status ≠ .deleted) (event : Event) :
    (p.retire id event).deletedCount = p.deletedCount + 1 := by
  have ids : (p.retire id event).ids = p.ids := by simp [Pool.ids, retire, count, report]
  have one (l : List EnvironmentId) (distinct : l.Nodup) :
      l.countP (fun k => ((p.retire id event).environment k).status = .deleted) =
        l.countP (fun k => (p.environment k).status = .deleted) + if id ∈ l then 1 else 0 := by
    induction l with
    | nil => rfl
    | cons k rest ih =>
      obtain ⟨fresh, distinct⟩ := List.nodup_cons.1 distinct
      rw [List.countP_cons, List.countP_cons, ih distinct, environment_retire]
      by_cases here : k = id
      · subst here
        simp [has, fresh, alive, Environment.forceDeleted]
      · simp [here, Ne.symm here]
        omega
  rw [deletedCount, ids, one p.ids p.ids_nodup, if_pos (mem_ids.2 has)]
  rfl

/-- An environment that is retired, unlocked and tracked no more leaves the books balanced. -/
theorem Balanced.retire {p : Pool} {id : EnvironmentId} (b : p.Balanced) (has : p.Has id)
    (alive : (p.environment id).status ≠ .deleted) (previous : EnvironmentStatus) (dirty : Bool) :
    (((p.retire id (.environmentDeleted id.text previous dirty)).unlock id).untrack
      id).Balanced := by
  generalize noted : Event.environmentDeleted id.text previous dirty = event
  have dead : (p.retire id event).environment id = (p.environment id).forceDeleted := by
    rw [environment_retire, if_pos ⟨rfl, has⟩]
  have other (k : EnvironmentId) (apart : k ≠ id) :
      (p.retire id event).environment k = p.environment k := by
    rw [environment_retire, if_neg (fun h => apart h.1)]
  constructor
  case numbered =>
    intro k present
    have present : p.Has k := (has_retire p id k event).1 present
    rw [environment_untrack, environment_unlock]
    by_cases same : k = id
    · rw [same, dead]
      exact b.numbered id has
    · rw [other k same]
      exact b.numbered k present
  case tracked_alive =>
    intro k member
    obtain ⟨member, apart⟩ := List.mem_filter.1 member
    have apart : k ≠ id := by simpa using apart
    obtain ⟨present, live⟩ := b.tracked_alive k member
    refine ⟨(has_retire p id k event).2 present, ?_⟩
    rw [environment_untrack, environment_unlock, other k apart]
    exact live
  case tracked_order => exact b.tracked_order.filter _
  case locked_nodup => exact b.locked_nodup.erase id
  case locked_has =>
    intro k member
    have member : k ∈ p.locked := List.mem_of_mem_erase member
    exact (has_retire p id k event).2 (b.locked_has k member)
  case prepared =>
    change p.metrics.prepared = UInt64.ofNat (p.retire id event).environments.length
    rw [retire_length, b.prepared]
  case deleted =>
    change p.metrics.deleted + 1 = UInt64.ofNat (p.retire id event).deletedCount
    rw [deletedCount_retire has alive, b.deleted, UInt64.ofNat_add]
    rfl
  case deletions =>
    intro k
    have reported : (((p.retire id event).unlock id).untrack id).deletions k =
        p.deletions k + if event.deletes k then 1 else 0 :=
      deletions_report _ k event
    simp only [reported, b.deletions, environment_untrack, environment_unlock, has_untrack,
      has_unlock, has_retire]
    by_cases same : k = id
    · subst same noted
      rw [dead]
      simp [has, alive, Event.deletes, Environment.forceDeleted]
    · have apart : ¬ id.text = k.text := fun h => same (EnvironmentId.text_injective h).symm
      subst noted
      simp [Event.deletes, apart, other k same]

end Pool

end Testbed
