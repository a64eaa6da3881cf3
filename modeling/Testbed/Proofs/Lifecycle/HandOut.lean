import Testbed.Proofs.Lifecycle.Turns
import Testbed.Proofs.Space.Resolution

/-!
# Handing environments out

Clients that keep to the environment that they were handed, and give it back once, never share one.
What is handed out again is clean and deployed, and is what its requirement resolves to.
-/
namespace Testbed

namespace Standing

/-- Only the holder of an environment may release it. -/
theorem holder_of_frees {s : Standing} {task : Task} {id : EnvironmentId}
    (may : s.mayAsk task = true) (frees : task.frees = some id) : s = .holder id := by
  cases task with
  | release k =>
    cases s with
    | newcomer | gone => cases may
    | holder held =>
      have same : some k = some held := of_decide_eq_true may
      rw [← Option.some.inj same, Option.some.inj frees]
  | prepare _ | deploy _ | connect _ | markDirty _ | delete _ | shutdown => cases frees

end Standing

namespace Manager

variable {m : Manager} {requirement : EnvironmentSpace} {p q : Pool} {id : EnvironmentId}

/-- What was prepared is what the requirement resolves to. -/
theorem Prepares.resolved (h : m.Prepares requirement p (.ok id) q) (b : p.Balanced) :
    ∃ candidate, m.candidates[(q.environment id).candidateIndex]? = some candidate ∧
      requirement.intersect candidate = .ok (q.environment id).space := by
  cases h with
  | reused reusable =>
    have has : p.Has id := (b.tracked_alive id reusable.tracked).1
    have environment : (p.handOut id).environment id = { p.environment id with inUse := true } := by
      rw [Pool.environment_handOut, if_pos ⟨rfl, has⟩]
    rw [environment]
    exact reusable.resolved
  | @created found resolved =>
    obtain ⟨candidate, listed, -, matched⟩ := resolve_ok _ _ _ resolved
    rw [Pool.environment_create_last]
    exact ⟨candidate, listed, (matchCandidate_ok _ _ _ _ matched).2.1⟩

/-- What was prepared was clean, or not there. -/
theorem Prepares.clean (h : m.Prepares requirement p (.ok id) q) :
    (p.environment id).dirty = false := by
  cases h with
  | reused reusable => exact reusable.clean
  | created resolved =>
    have missing : ¬ p.Has p.nextId := Nat.lt_irrefl _
    rw [Pool.environment_of_not_has missing]
    rfl

/-- A client that holds an environment after a task held it before, or has just been handed it. -/
theorem Ends.holder {task : Task} {result : task.Result} {before : Stance} {s : Standing}
    (ends : m.Ends task result before p q) (holder : s.after task result = .holder id) :
    s = .holder id ∧ task.frees = none ∨
      ∃ requirement, m.Prepares requirement p (.ok id) q := by
  cases task with
  | prepare requirement =>
    cases result with
    | error _ => exact .inl ⟨holder, rfl⟩
    | ok k =>
      obtain rfl : k = id := Standing.holder.inj holder
      exact .inr ⟨requirement, ends.2⟩
  | deploy _ | connect _ | markDirty _ | shutdown => exact .inl ⟨holder, rfl⟩
  | release _ | delete _ => cases holder

end Manager

namespace Traffic

variable {m : Manager} {t t' : Traffic} {stances stances' : Nat → Stance}

/-- What clients hold is theirs alone, and in use until it is deleted. -/
structure Handed (t : Traffic) : Prop where
  inUse : ∀ c id, (t.clients c).standing = .holder id → t.pool.Has id ∧
    ((t.pool.environment id).inUse = true ∨ (t.pool.environment id).status = .deleted)
  apart : ∀ a b id, (t.clients a).standing = .holder id → (t.clients b).standing = .holder id →
    a = b
  tasks : ∀ c pending, (t.clients c).pending = some pending →
    (t.clients c).standing.mayAsk pending.task = true

namespace Handed

theorem empty : ({} : Traffic).Handed where
  inUse _ _ holder := nomatch holder
  apart _ _ _ holder := nomatch holder
  tasks _ _ pending := nomatch pending

theorem mayAsk (handed : t.Handed) {client : Nat} {task : Task}
    (busy : t.Busy Standing.mayAsk client task) :
    (t.clients client).standing.mayAsk task = true := by
  rcases busy with ⟨-, may⟩ | ⟨pending, found, rfl⟩
  · exact may
  · exact handed.tasks client pending found

/-- What a client holds stays in use as long as nobody sets it free. -/
theorem keeps (handed : t.Handed) {freed : Option EnvironmentId} {before after : Stance} {q : Pool}
    (stretch : Stretch freed before t.pool after q) {c : Nat} {id : EnvironmentId}
    (holder : (t.clients c).standing = .holder id) (kept : freed ≠ some id) :
    q.Has id ∧ ((q.environment id).inUse = true ∨ (q.environment id).status = .deleted) := by
  obtain ⟨has, used | dead⟩ := handed.inUse c id holder
  · refine ⟨Nat.lt_of_lt_of_le has stretch.grows, ?_⟩
    exact (stretch.inUse id has used).imp_right (fun other => other.resolve_right kept)
  · exact ⟨Nat.lt_of_lt_of_le has stretch.grows, .inr ((stretch.evolves id has).deleted dead)⟩

/-- Nobody holds what is handed out. -/
theorem not_holder (handed : t.Handed) (b : t.pool.Balanced) {requirement : EnvironmentSpace}
    {id : EnvironmentId} {q : Pool} (prepares : m.Prepares requirement t.pool (.ok id) q)
    (c : Nat) : (t.clients c).standing ≠ .holder id := by
  intro holder
  obtain ⟨has, state⟩ := handed.inUse c id holder
  obtain ⟨reusable, -⟩ := (prepares.ok b).2.2 has
  rcases state with used | dead
  · cases used.symm.trans reusable.idle
  · have deployed := reusable.deployed
    rw [dead] at deployed
    cases deployed

section Rested

variable {client : Nat} {task : Task} {before after : Stance} {q : Pool}

/-- A client that goes on to wait holds what it held. -/
theorem paused (handed : t.Handed) (busy : t.Busy Standing.mayAsk client task)
    (stretch : Stretch none before t.pool after q) (r : Request)
    (next : r.Reply → Work task.Result) :
    (t.rested client task (.waiting r next, q)).Handed := by
  have standing (c : Nat) :
      ((t.rested client task (.waiting r next, q)).clients c).standing =
        (t.clients c).standing := by
    by_cases same : c = client
    · subst same
      simp [rested]
    · rw [clients_rested _ same]
  constructor
  case inUse =>
    intro c id holder
    rw [standing] at holder
    exact handed.keeps stretch holder (Option.some_ne_none id).symm
  case apart =>
    intro a b id
    rw [standing, standing]
    exact handed.apart a b id
  case tasks =>
    intro c pending found
    rw [standing]
    by_cases same : c = client
    · subst same
      obtain rfl : ⟨task, r, next⟩ = pending := by simpa [rested] using found
      exact handed.mayAsk busy
    · rw [clients_rested _ same] at found
      exact handed.tasks c pending found

/-- A client that has ended a task holds what it was handed with it, or what it held unless it has
given it back. -/
theorem ended (kept : t.Kept m stances) (handed : t.Handed)
    (busy : t.Busy Standing.mayAsk client task) {result : task.Result}
    (ends : m.Ends task result before t.pool q) :
    (t.rested client task (.finished result, q)).Handed := by
  have mine : ((t.rested client task (.finished result, q)).clients client).standing =
      (t.clients client).standing.after task result := by simp [rested]
  have other {c : Nat} (apart : c ≠ client) :
      (t.rested client task (.finished result, q)).clients c = t.clients c :=
    clients_rested _ apart
  have handed_before {id : EnvironmentId}
      (holder : (t.clients client).standing.after task result = .holder id) {c : Nat}
      (apart : c ≠ client) : (t.clients c).standing ≠ .holder id := by
    intro holds
    rcases ends.holder holder with ⟨before, -⟩ | ⟨requirement, prepares⟩
    · exact apart (handed.apart c client id holds before)
    · exact handed.not_holder kept.balanced prepares c holds
  constructor
  case inUse =>
    intro c id holder
    by_cases same : c = client
    · rw [same, mine] at holder
      rcases ends.holder holder with ⟨before, frees⟩ | ⟨requirement, prepares⟩
      · exact handed.keeps ends.1 before (by simp [frees])
      · obtain ⟨has, used, -⟩ := prepares.ok kept.balanced
        exact ⟨has, .inl used⟩
    · rw [other same] at holder
      refine handed.keeps ends.1 holder (fun frees => ?_)
      have mine := Standing.holder_of_frees (handed.mayAsk busy) frees
      exact same (handed.apart c client id holder mine)
  case apart =>
    intro a b id
    by_cases first : a = client <;> by_cases second : b = client
    · exact fun _ _ => first.trans second.symm
    · rw [first, mine, other second]
      exact fun holder holds => absurd holds (handed_before holder second)
    · rw [second, mine, other first]
      exact fun holds holder => absurd holds (handed_before holder first)
    · rw [other first, other second]
      exact handed.apart a b id
  case tasks =>
    intro c pending
    by_cases same : c = client
    · subst same
      simp [rested]
    · rw [other same]
      exact handed.tasks c pending

end Rested

theorem step (kept : t.Kept m stances) (handed : t.Handed)
    (moved : t.Moved m Standing.mayAsk stances t' stances') : t'.Handed := by
  cases moved with
  | stayed => exact handed
  | cancelled => exact { handed with }
  | paused busy begun stretch waits => exact handed.paused busy stretch _ _
  | ended busy begun ends => exact handed.ended kept busy ends

end Handed

end Traffic

namespace Manager

variable (m : Manager)

/-- Whether a client that asks for an environment after some turns is handed an environment. -/
def HandsOut (turns : List Turn) (client : Nat) (requirement : EnvironmentSpace)
    (id : EnvironmentId) : Prop :=
  (m.traffic Standing.mayAsk (turns ++ [.call client (.prepare requirement)])).journal =
    (m.traffic Standing.mayAsk turns).journal ++ [.returned client (.prepare requirement) (.ok id)]

theorem HandsOut.prepares {turns : List Turn} {client : Nat} {requirement : EnvironmentSpace}
    {id : EnvironmentId} (handed : m.HandsOut turns client requirement id) :
    m.Prepares requirement (m.traffic Standing.mayAsk turns).pool (.ok id)
      (m.traffic Standing.mayAsk (turns ++ [.call client (.prepare requirement)])).pool := by
  unfold HandsOut at handed
  rw [traffic_append] at handed ⊢
  generalize m.traffic Standing.mayAsk turns = t at handed ⊢
  obtain ⟨result, q, advanced, prepares⟩ := m.prepare_advance requirement t.pool
  have took := t.take_took m Standing.mayAsk (.call client (.prepare requirement))
  simp only [List.foldl_cons, List.foldl_nil] at handed ⊢
  generalize t.take m Standing.mayAsk (.call client (.prepare requirement)) = next at *
  cases took with
  | stayed => simp at handed
  | began =>
    simp only [Traffic.advance, perform, advanced, Traffic.rested] at handed ⊢
    have same := List.append_cancel_left handed
    simp only [List.cons.injEq, Happening.returned.injEq, heq_eq_eq, true_and, and_true] at same
    exact same ▸ prepares

theorem traffic_handed (turns : List Turn) :
    ∃ stances, (m.traffic Standing.mayAsk turns).Kept m stances ∧
      (m.traffic Standing.mayAsk turns).Handed :=
  (Traffic.Kept.empty m).run Standing.mayAsk (P := fun t _ => t.Handed)
    (fun kept handed moved => handed.step kept moved) .empty turns

/-- An environment that was marked dirty is dirty from then on. -/
theorem traffic_marked (rules : Standing → Task → Bool) (turns : List Turn) (c : Nat)
    {id : EnvironmentId}
    (marked : .returned c (.markDirty id) (.ok ()) ∈ (m.traffic rules turns).journal) :
    ((m.traffic rules turns).pool.environment id).dirty = true := by
  have step {t t' : Traffic} {stances stances' : Nat → Stance} (_ : t.Kept m stances)
      (dirty : .returned c (.markDirty id) (.ok ()) ∈ t.journal →
        (t.pool.environment id).dirty = true)
      (moved : t.Moved m rules stances t' stances')
      (listed : .returned c (.markDirty id) (.ok ()) ∈ t'.journal) :
      (t'.pool.environment id).dirty = true := by
    have still (before : .returned c (.markDirty id) (.ok ()) ∈ t.journal) :
        (t'.pool.environment id).dirty = true := by
      have was := dirty before
      have has : t.pool.Has id := by
        by_contra absent
        rw [Pool.environment_of_not_has absent] at was
        cases was
      exact (moved.evolves has).dirty was
    cases moved with
    | stayed | cancelled => exact dirty listed
    | paused =>
      refine still ((List.mem_append.1 listed).resolve_right (fun last => ?_))
      cases List.mem_singleton.1 last
    | @ended client task before result q _ _ ends =>
      rcases List.mem_append.1 listed with before | last
      · exact still before
      · cases List.mem_singleton.1 last
        exact ends.2 rfl
  obtain ⟨-, -, dirty⟩ := (Traffic.Kept.empty m).run rules (P := fun t _ =>
    .returned c (.markDirty id) (.ok ()) ∈ t.journal → (t.pool.environment id).dirty = true)
    step nofun turns
  exact dirty marked

theorem traffic_evolves (rules : Standing → Task → Bool) (earlier later : List Turn)
    {id : EnvironmentId} (has : (m.traffic rules earlier).pool.Has id) :
    (m.traffic rules (earlier ++ later)).pool.Has id ∧
      ((m.traffic rules earlier).pool.environment id).Evolves
        ((m.traffic rules (earlier ++ later)).pool.environment id) := by
  obtain ⟨stances, kept⟩ := m.traffic_kept rules earlier
  obtain ⟨-, -, known⟩ := kept.run rules
    (P := fun t _ => t.pool.Has id ∧
      ((m.traffic rules earlier).pool.environment id).Evolves (t.pool.environment id))
    (fun _ known moved => ⟨moved.has known.1, known.2.trans (moved.evolves known.1)⟩)
    ⟨has, .refl _⟩ later
  rw [traffic_append]
  exact known

/-- Whatever clients do at the same time, what a client is handed is held by nobody, was never marked
dirty, was never dirty nor deleted, is deployed if it is handed out again, and is what its
requirement resolves to. -/
theorem handOut_exclusive_clean (turns : List Turn) (client : Nat) (requirement : EnvironmentSpace)
    (id : EnvironmentId) (handed : m.HandsOut turns client requirement id) :
    let t := m.traffic Standing.mayAsk turns
    let t' := m.traffic Standing.mayAsk (turns ++ [.call client (.prepare requirement)])
    (∀ c, (t.clients c).standing ≠ .holder id) ∧
    (∀ c, .returned c (.markDirty id) (.ok ()) ∉ t.journal) ∧
    (∀ earlier later, turns = earlier ++ later →
      let p := (m.traffic Standing.mayAsk earlier).pool
      p.Has id → (p.environment id).dirty = false ∧ (p.environment id).status ≠ .deleted) ∧
    (t.pool.Has id → (t'.pool.environment id).status.isDeployed = true) ∧
    ∃ candidate, m.candidates[(t'.pool.environment id).candidateIndex]? = some candidate ∧
      requirement.intersect candidate = .ok (t'.pool.environment id).space := by
  intro t t'
  have prepares := handed.prepares
  obtain ⟨stances, kept, held⟩ := m.traffic_handed turns
  refine ⟨held.not_holder kept.balanced prepares, ?_, ?_, ?_, prepares.resolved kept.balanced⟩
  · intro c marked
    have dirty := m.traffic_marked Standing.mayAsk turns c marked
    cases prepares.clean.symm.trans dirty
  · rintro earlier later rfl p has
    obtain ⟨has_now, evolves⟩ := m.traffic_evolves Standing.mayAsk earlier later has
    obtain ⟨reusable, -⟩ := (prepares.ok kept.balanced).2.2 has_now
    constructor
    · cases dirty : (p.environment id).dirty with
      | false => rfl
      | true => cases (evolves.dirty dirty).symm.trans reusable.clean
    · intro dead
      have deployed := reusable.deployed
      rw [evolves.deleted dead] at deployed
      cases deployed
  · intro has
    obtain ⟨reusable, same⟩ := (prepares.ok kept.balanced).2.2 has
    rw [same]
    exact reusable.deployed

/-- A client marks what it is handed dirty before it releases it, and another one does not. -/
def releaseDirtyAndClean : List Turn := [
  .call 0 (.prepare {}), .call 0 (.deploy ⟨0⟩), .answer 0 Request.obliging,
  .answer 0 Request.obliging, .answer 0 Request.obliging,
  .call 1 (.prepare {}), .call 1 (.deploy ⟨1⟩), .answer 1 Request.obliging,
  .answer 1 Request.obliging, .answer 1 Request.obliging,
  .call 0 (.markDirty ⟨0⟩), .answer 0 Request.obliging, .call 0 (.release ⟨0⟩),
  .answer 0 Request.obliging, .call 1 (.release ⟨1⟩), .answer 1 Request.obliging]

/-- The next client is handed the clean one, while the other one is still there. -/
theorem handOut_exclusive_clean_again :
    sample.HandsOut releaseDirtyAndClean 2 {} ⟨1⟩ ∧
      (sample.traffic Standing.mayAsk releaseDirtyAndClean).pool.Has ⟨1⟩ ∧
      .returned 0 (.markDirty ⟨0⟩) (.ok ()) ∈
        (sample.traffic Standing.mayAsk releaseDirtyAndClean).journal ∧
      ((sample.traffic Standing.mayAsk releaseDirtyAndClean).pool.environment ⟨0⟩).status =
        .deployed ∧
      ∀ c, .returned c (.markDirty ⟨1⟩) (.ok ()) ∉
        (sample.traffic Standing.mayAsk releaseDirtyAndClean).journal := by
  have handed : sample.HandsOut releaseDirtyAndClean 2 {} ⟨1⟩ := rfl
  have there : (sample.traffic Standing.mayAsk releaseDirtyAndClean).pool.Has ⟨1⟩ := by decide
  have marked : .returned 0 (.markDirty ⟨0⟩) (.ok ()) ∈
      (sample.traffic Standing.mayAsk releaseDirtyAndClean).journal :=
    List.mem_of_getElem? (i := 11) rfl
  exact ⟨handed, there, marked, rfl,
    (sample.handOut_exclusive_clean releaseDirtyAndClean 2 {} ⟨1⟩ handed).2.1⟩

end Manager

end Testbed
