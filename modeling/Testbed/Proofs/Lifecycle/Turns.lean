import Testbed.Proofs.Lifecycle.Tasks

/-!
# Turns keep the contract

Whatever turns are taken, every client keeps the contract from some stance on, and the stances fit
together: what is locked is held by exactly one client, and what is neither tracked nor deleted is
due. A turn is then a stretch of one client, and what is to be shown of all traffic needs to be
shown of such stretches only.
-/
namespace Testbed

open Program

/-- The stances in which a stretch can begin after a pause. -/
inductive Stance.Resumes (p : Pool) (s : Stance) : Stance → Prop where
  | same : Resumes p s s
  | locked {id : EnvironmentId} (nothing : s.hold = .nothing) (free : id ∉ p.locked) :
    Resumes p s { s with hold := .working id }

namespace Stance.Resumes

variable {p : Pool} {s before : Stance} {id : EnvironmentId}

theorem due (h : s.Resumes p before) : before.due = s.due := by
  cases h <;> rfl

theorem deleting (h : s.Resumes p before) : before.hold = .deleting id ↔ s.hold = .deleting id := by
  cases h with
  | same => rfl
  | locked nothing free => simp [nothing]

theorem holds (h : s.Resumes p before) (held : s.Holds id) : before.Holds id := by
  cases h with
  | same => exact held
  | locked nothing free => exact absurd held (Stance.not_holds_of_nothing nothing)

/-- What is held from now on was held before or was free. -/
theorem held_or_free (h : s.Resumes p before) (held : before.Holds id) :
    s.Holds id ∨ id ∉ p.locked := by
  cases h with
  | same => exact .inl held
  | @locked k nothing free =>
    have same : id = k := held.unique (.inl rfl)
    exact .inr (same ▸ free)

end Stance.Resumes

/-- The answer to a request leads to such a stance. -/
theorem clientContract_resumes {about : Option EnvironmentId} {p : Pool} {s : Stance} {r : Request}
    (waits : (clientContract about).waits s r) (granted : p.grants r = true) :
    s.Resumes p ((clientContract about).resume s r) := by
  cases r with
  | lock id => exact .locked waits (by simpa [Pool.grants] using granted)
  | prepare e | deploy e | delete e | interruptible call | call call | notify message => exact .same

/-- The contract that a client keeps while it waits. -/
abbrev Pending.contract (pending : Pending) : Contract Pool Request Request.Reply Stance :=
  clientContract pending.task.environment?

namespace Traffic

/-- A client that may begin a task, or is in the middle of it. -/
def Busy (rules : Standing → Task → Bool) (t : Traffic) (client : Nat) (task : Task) : Prop :=
  ((t.clients client).pending = none ∧ rules (t.clients client).standing task = true) ∨
    ∃ pending, (t.clients client).pending = some pending ∧ pending.task = task

/-- Every client keeps the contract from its stance on, and the stances fit together. -/
structure Kept (m : Manager) (t : Traffic) (stances : Nat → Stance) : Prop where
  balanced : t.pool.Balanced
  idle : ∀ c, (t.clients c).pending = none → stances c = {}
  waits : ∀ c pending, (t.clients c).pending = some pending →
    pending.contract.waits (stances c) pending.request
  goesOn : ∀ c pending, (t.clients c).pending = some pending →
    ∀ later reply, Rely (stances c) t.pool later → later.grants pending.request = true →
      (pending.next reply).Meets pending.contract (m.Ends pending.task)
        (pending.contract.resume (stances c) pending.request) later later
  apart : ∀ a b id, (stances a).Holds id → (stances b).Holds id → a = b
  locked : ∀ id, id ∈ t.pool.locked ↔ ∃ c, (stances c).Holds id
  accounted : ∀ id, t.pool.Has id → id ∈ t.pool.tracked ∨
    (t.pool.environment id).status = .deleted ∨ ∃ c, id ∈ (stances c).due

/-- What a turn does: a client works on up to its next request or to the end of its task. -/
inductive Moved (m : Manager) (rules : Standing → Task → Bool) (t : Traffic)
    (stances : Nat → Stance) : Traffic → (Nat → Stance) → Prop where
  | stayed : Moved m rules t stances t stances
  | cancelled {late : Nat → Bool} :
    Moved m rules t stances { t with pool := t.pool.cancel, late } stances
  | paused {client : Nat} {task : Task} {before after : Stance} {r : Request}
    {next : r.Reply → Work task.Result} {q : Pool} (busy : t.Busy rules client task)
    (begun : (stances client).Resumes t.pool before) (stretch : Stretch none before t.pool after q)
    (waits : (clientContract task.environment?).waits after r) :
    Moved m rules t stances (t.rested client task (.waiting r next, q))
      (Function.update stances client after)
  | ended {client : Nat} {task : Task} {before : Stance} {result : task.Result} {q : Pool}
    (busy : t.Busy rules client task) (begun : (stances client).Resumes t.pool before)
    (ends : m.Ends task result before t.pool q) :
    Moved m rules t stances (t.rested client task (.finished result, q))
      (Function.update stances client {})

namespace Kept

variable {m : Manager} {rules : Standing → Task → Bool} {t : Traffic} {stances : Nat → Stance}
  {client : Nat} {freed : Option EnvironmentId} {before after : Stance} {q : Pool}

theorem empty (m : Manager) : ({} : Traffic).Kept m (fun _ => {}) where
  balanced := .empty
  idle _ _ := rfl
  waits _ _ pending := nomatch pending
  goesOn _ _ pending := nomatch pending
  apart a _ _ holds := absurd holds (Stance.not_holds_of_nothing rfl)
  locked id := by
    have free : ¬ Stance.Holds {} id := Stance.not_holds_of_nothing rfl
    simp [free]
  accounted _ has := absurd has (Nat.not_lt_zero _)

/-- What a client holds during a stretch, nobody else does. -/
theorem other_not_holds (kept : t.Kept m stances) (begun : (stances client).Resumes t.pool before)
    {other : Nat} (apart : other ≠ client) {id : EnvironmentId} (held : (stances other).Holds id) :
    ¬ before.Holds id := by
  intro here
  rcases begun.held_or_free here with mine | free
  · exact apart (kept.apart other client id held mine)
  · exact free ((kept.locked id).2 ⟨other, held⟩)

/-- Other clients can rely on what a stretch leaves. -/
theorem other_relies (kept : t.Kept m stances) (begun : (stances client).Resumes t.pool before)
    (stretch : Stretch freed before t.pool after q) {other : Nat} (apart : other ≠ client) :
    Rely (stances other) t.pool q where
  balanced := stretch.balanced
  grows := stretch.grows
  locked id held := by
    have locked : id ∈ t.pool.locked := (kept.locked id).2 ⟨other, held⟩
    exact (stretch.locks id).2 (.inr ⟨locked, kept.other_not_holds begun apart held⟩)
  unchanged id held := by
    have locked : id ∈ t.pool.locked := (kept.locked id).2 ⟨other, held⟩
    exact stretch.others id locked (kept.other_not_holds begun apart held)

/-- Stances still fit together after a stretch of one client, which waits or has ended its task. -/
theorem stretch (kept : t.Kept m stances) (begun : (stances client).Resumes t.pool before)
    (stretch : Stretch freed before t.pool after q) (rested : Client) (journal : List Happening)
    (late : Nat → Bool) (idle : rested.pending = none → after = {})
    (waits : ∀ pending, rested.pending = some pending →
      pending.contract.waits after pending.request)
    (goesOn : ∀ pending, rested.pending = some pending →
      ∀ later reply, Rely after q later → later.grants pending.request = true →
        (pending.next reply).Meets pending.contract (m.Ends pending.task)
          (pending.contract.resume after pending.request) later later) :
    ({ pool := q, clients := Function.update t.clients client rested, journal, late } :
      Traffic).Kept m (Function.update stances client after) := by
  constructor
  case balanced => exact stretch.balanced
  case idle =>
    intro c
    by_cases same : c = client
    · subst same
      simpa using idle
    · simpa [same] using kept.idle c
  case waits =>
    intro c
    by_cases same : c = client
    · subst same
      simpa using waits
    · simpa [same] using kept.waits c
  case goesOn =>
    intro c pending
    by_cases same : c = client
    · subst same
      simpa using goesOn pending
    · simp only [Function.update_of_ne same]
      intro found later reply relied admitted
      have since := (kept.other_relies begun stretch same).trans relied
      exact kept.goesOn c pending found later reply since admitted
  case apart =>
    intro a b id
    have mine {c : Nat} (apart : c ≠ client) (held : (stances c).Holds id) : ¬ after.Holds id :=
      fun holds => kept.other_not_holds begun apart held (stretch.holds id holds)
    -- only a pair with the client in it can have changed
    by_cases first : a = client <;> by_cases second : b = client
    · exact fun _ _ => first.trans second.symm
    · simp only [first, Function.update_self, Function.update_of_ne second]
      exact fun holds held => absurd holds (mine second held)
    · simp only [second, Function.update_self, Function.update_of_ne first]
      exact fun held holds => absurd holds (mine first held)
    · simp only [Function.update_of_ne first, Function.update_of_ne second]
      exact kept.apart a b id
  case locked =>
    intro id
    rw [stretch.locks]
    constructor
    · rintro (holds | ⟨locked, free⟩)
      · exact ⟨client, by simpa using holds⟩
      · obtain ⟨c, held⟩ := (kept.locked id).1 locked
        have apart : c ≠ client := by
          rintro rfl
          exact free (begun.holds held)
        exact ⟨c, by simpa [apart] using held⟩
    · rintro ⟨c, held⟩
      by_cases same : c = client
      · subst same
        exact .inl (by simpa using held)
      · have held : (stances c).Holds id := by simpa [same] using held
        exact .inr ⟨(kept.locked id).2 ⟨c, held⟩, kept.other_not_holds begun same held⟩
  case accounted =>
    intro id has
    rcases stretch.accounted id has with tracked | due | dead | ⟨old, untracked, undue⟩
    · exact .inl tracked
    · exact .inr (.inr ⟨client, by simpa using due⟩)
    · exact .inr (.inl dead)
    -- forgotten before this stretch and not by this client, so some other client owes it
    · rcases kept.accounted id old with tracked | dead | ⟨c, due⟩
      · exact absurd tracked untracked
      · exact .inr (.inl ((stretch.evolves id old).deleted dead))
      · have apart : c ≠ client := by
          rintro rfl
          exact undue (begun.due ▸ due)
        exact .inr (.inr ⟨c, by simpa [apart] using due⟩)

/-- A client works on up to its next request or the end of its task. -/
theorem advance (kept : t.Kept m stances) {task : Task} {work : Work task.Result}
    (busy : t.Busy rules client task) (begun : (stances client).Resumes t.pool before)
    (meets : work.Meets (clientContract task.environment?) (m.Ends task) before t.pool t.pool) :
    ∃ later, (t.advance client task work).Kept m later ∧
      t.Moved m rules stances (t.advance client task work) later := by
  have rests := Meets.advance work meets
  unfold Traffic.advance
  generalize work.advance t.pool = rested at rests ⊢
  obtain ⟨result | ⟨r, next⟩, q⟩ := rested
  · refine ⟨_, ?_, .ended busy begun rests⟩
    refine kept.stretch begun rests.1 _ _ _ (fun _ => rfl) ?_ ?_
    · rintro _ ⟨⟩
    · rintro _ ⟨⟩
  · obtain ⟨after, stretch, waits, goesOn⟩ := rests
    refine ⟨_, ?_, .paused busy begun stretch waits⟩
    refine kept.stretch begun stretch _ _ _ ?_ ?_ ?_
    · rintro ⟨⟩
    · rintro _ ⟨⟩
      exact waits
    · rintro _ ⟨⟩
      exact goesOn

/-- A client can rely on what is there. -/
theorem relies (kept : t.Kept m stances) (c : Nat) : Rely (stances c) t.pool t.pool :=
  ⟨kept.balanced, Nat.le_refl _, fun id held => (kept.locked id).2 ⟨c, held⟩, fun _ _ => rfl⟩

/-- And on the pool after the cancellation of the run. -/
theorem relies_cancel (kept : t.Kept m stances) (c : Nat) :
    Rely (stances c) t.pool t.pool.cancel :=
  ⟨kept.balanced.cancel, Nat.le_refl _, fun id held => (kept.locked id).2 ⟨c, held⟩,
    fun _ _ => rfl⟩

theorem cancel (kept : t.Kept m stances) (late : Nat → Bool) :
    ({ t with pool := t.pool.cancel, late } : Traffic).Kept m stances := by
  refine { kept with balanced := kept.balanced.cancel, goesOn := ?_ }
  intro c pending found later reply relied admitted
  exact kept.goesOn c pending found later reply ((kept.relies_cancel c).trans relied) admitted

/-- Every turn is such a stretch. -/
theorem take (kept : t.Kept m stances) (rules : Standing → Task → Bool) (turn : Turn) :
    ∃ later, (t.take m rules turn).Kept m later ∧
      t.Moved m rules stances (t.take m rules turn) later := by
  have took := t.take_took m rules turn
  generalize t.take m rules turn = next at took ⊢
  cases took with
  | stayed => exact ⟨stances, kept, .stayed⟩
  | @began client task begins =>
    obtain ⟨free, ruled, known⟩ := begins
    have free : (t.clients client).pending = none := Option.isNone_iff_eq_none.1 free
    have begun : (stances client).Resumes t.pool {} := by
      rw [kept.idle client free]
      exact .same
    refine kept.advance (.inl ⟨free, ruled⟩) begun ?_
    refine m.perform_meets task kept.balanced (fun id about => ?_)
    simpa [about] using known
  | @wentOn client reply pending found admitted =>
    have waits := kept.waits client pending found
    have granted := admits_grants admitted
    refine kept.advance (.inr ⟨pending, found, rfl⟩) (clientContract_resumes waits granted) ?_
    exact kept.goesOn client pending found t.pool _ (kept.relies client) granted
  | @cancelled late => exact ⟨stances, kept.cancel late, .cancelled⟩

/-- What every step preserves holds after any turns. -/
theorem run (rules : Standing → Task → Bool) {P : Traffic → (Nat → Stance) → Prop}
    (step : ∀ {t stances t' stances'}, t.Kept m stances → P t stances →
      t.Moved m rules stances t' stances' → P t' stances')
    (kept : t.Kept m stances) (here : P t stances) (turns : List Turn) :
    ∃ later, (turns.foldl (Traffic.take m rules) t).Kept m later ∧
      P (turns.foldl (Traffic.take m rules) t) later := by
  induction turns generalizing t stances with
  | nil => exact ⟨stances, kept, here⟩
  | cons turn rest ih =>
    obtain ⟨later, kept_later, moved⟩ := kept.take rules turn
    exact ih kept_later (step kept here moved)

end Kept

namespace Moved

variable {m : Manager} {rules : Standing → Task → Bool} {t t' : Traffic}
  {stances stances' : Nat → Stance} {id : EnvironmentId}

/-- A step that does anything to an environment is a stretch of some client. -/
theorem stretched (moved : t.Moved m rules stances t' stances') :
    ((∀ k, t'.pool.environment k = t.pool.environment k) ∧ (∀ k, t'.pool.Has k ↔ t.pool.Has k) ∧
        stances' = stances) ∨
      ∃ client freed before after, (stances client).Resumes t.pool before ∧
        Stretch freed before t.pool after t'.pool ∧
        stances' = Function.update stances client after := by
  cases moved with
  | stayed => exact .inl ⟨fun _ => rfl, fun _ => .rfl, rfl⟩
  | cancelled => exact .inl ⟨fun _ => rfl, fun _ => .rfl, rfl⟩
  | @paused client task before after r next q busy begun stretch waits =>
    exact .inr ⟨client, none, before, after, begun, stretch, rfl⟩
  | @ended client task before result q busy begun ends =>
    exact .inr ⟨client, task.frees, before, {}, begun, ends.1, rfl⟩

theorem has (moved : t.Moved m rules stances t' stances') (has : t.pool.Has id) :
    t'.pool.Has id := by
  rcases moved.stretched with ⟨-, same, -⟩ | ⟨_, _, _, _, -, stretch, -⟩
  · exact (same id).2 has
  · exact Nat.lt_of_lt_of_le has stretch.grows

theorem evolves (moved : t.Moved m rules stances t' stances') (has : t.pool.Has id) :
    (t.pool.environment id).Evolves (t'.pool.environment id) := by
  rcases moved.stretched with ⟨same, -, -⟩ | ⟨_, _, _, _, -, stretch, -⟩
  · exact same id ▸ .refl _
  · exact stretch.evolves id has

end Moved

end Traffic

namespace Manager

variable (m : Manager) (rules : Standing → Task → Bool)

theorem traffic_append (earlier later : List Turn) :
    m.traffic rules (earlier ++ later) =
      later.foldl (Traffic.take m rules) (m.traffic rules earlier) :=
  List.foldl_append

theorem traffic_kept (turns : List Turn) : ∃ stances, (m.traffic rules turns).Kept m stances := by
  obtain ⟨stances, kept, -⟩ := (Traffic.Kept.empty m).run rules (P := fun _ _ => True)
    (fun _ _ _ => trivial) trivial turns
  exact ⟨stances, kept⟩

end Manager

end Testbed
