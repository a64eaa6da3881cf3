import Testbed.Proofs.Lifecycle.Turns
import Testbed.Proofs.Program.Invariant

/-!
# Invariants of the pool

An invariant of the pool holds in all traffic if every task keeps it, which is shown of one task at
a time: it may count on the invariant, and on nobody else to change the environment that it works
on, while it waits.
-/
namespace Testbed

open Program

variable {α : Type} {I : Pool → Prop} {A : (r : Request) → r.Reply → Prop}

section On

variable {ends Q : α → Stance → Pool → Pool → Prop} {stance : Stance} {start now : Pool}
  {about : Option EnvironmentId} {id : EnvironmentId} {work : Work α}

/-- Whether work keeps an invariant when nobody else changes an environment meanwhile. -/
abbrev Work.Sustains (id : EnvironmentId) (I : Pool → Prop) (A : (r : Request) → r.Reply → Prop)
    (Q : α → Pool → Prop) (work : Work α) (p : Pool) : Prop :=
  Program.Sustains (fun p q => q.environment id = p.environment id) I A Q work p

theorem Work.Sustains.environment_bind {k : EnvironmentId} {Q : α → Pool → Prop}
    {f : Environment → Work α} {p : Pool} (h : (f (p.environment k)).Sustains id I A Q p) :
    (Work.environment k >>= f).Sustains id I A Q p := h

theorem Work.Sustains.cancelled_bind {Q : α → Pool → Prop} {f : Bool → Work α} {p : Pool}
    (h : (f p.cancelled).Sustains id I A Q p) : (Work.cancelled >>= f).Sustains id I A Q p := h

/-- Work on a locked environment that keeps an invariant as long as nobody else changes the
environment. -/
theorem Work.On.maintains {R : α → Pool → Prop} (on : Work.On id work) (own : about = some id)
    (working : stance.hold = .working id)
    (finish : ∀ value start now, Inside none id stance start now → ends value stance start now)
    (last : ∀ value start now, Inside none id stance start now → R value now →
      Q value stance start now)
    (inside : Inside none id stance start now) (sustains : work.Sustains id I A R now) :
    work.Maintains (clientContract about) I A ends Q stance start now := by
  induction work generalizing start now with
  | done value => exact last value start now inside sustains
  | act change next ih => exact ih now (on now).2 (inside.work (on now).1) sustains
  | ask r next ih =>
    obtain ⟨allowed, on⟩ := on
    have waits : (clientContract about).waits stance r := by
      cases r with
      | lock k | delete e => cases allowed
      | prepare e | deploy e | interruptible call | call call | notify message =>
        exact ⟨id, own, working⟩
    have goesOn : (clientContract about).resume stance r = stance := by
      cases r with
      | lock k => cases allowed
      | prepare e | deploy e | delete e | interruptible call | call call | notify message => rfl
    refine ⟨sustains.1, stance, inside.pause working, waits, fun later reply relied _ => ?_⟩
    rw [goesOn]
    have again : Inside none id stance later later := .resume inside.holds inside.present relied
    have same : later.environment id = now.environment id := relied.unchanged id inside.holds
    refine ⟨Work.On.meets (on reply) own working finish again, fun kept kind => ?_⟩
    exact ih reply (on reply) again (sustains.2 later reply same kept kind)

/-- A task of such work keeps the contract and the invariant. -/
theorem Work.On.holding_maintains (on : Work.On id work) (own : about = some id)
    (b : start.Balanced) (has : start.Has id) (here : I start)
    (ended : ∀ value stance start now, Stretch none stance start {} now →
      ends value stance start now)
    (sustains : ∀ later, I later →
      work.Sustains id I A (fun _ q => I (q.unlock id)) (later.lock id)) :
    (Work.holding id work).Maintains (clientContract about) I A ends
      (fun value stance start now => ends value stance start now ∧ I now) {} start start := by
  have unlocked (value : α) (start now : Pool)
      (inside : Inside none id { hold := .working id } start now) :
      ends value { hold := .working id } start (now.unlock id) :=
    ended _ _ _ _ (inside.unlock rfl (fun _ listed => .inl listed))
  refine ⟨here, {}, .idle b [], rfl, fun later reply relied admitted => ?_⟩
  have free : id ∉ later.locked := by simpa [clientContract, Pool.grants] using admitted
  have inside : Inside none id { hold := .working id } later (later.lock id) :=
    .lock relied.balanced (relied.has has) free []
  refine ⟨.bind work (on.meets own rfl unlocked inside), fun kept _ => .bind work ?_⟩
  exact on.maintains own rfl unlocked
    (fun value start now inside last => ⟨unlocked value start now inside, last⟩) inside
    (sustains later kept)

end On

namespace Traffic

variable {m : Manager} {rules : Standing → Task → Bool} {t : Traffic} {stances : Nat → Stance}
  {client : Nat} {before : Stance}

/-- Every task of a manager keeps an invariant. -/
def KeptBy (m : Manager) (I : Pool → Prop) (A : (r : Request) → r.Reply → Prop) : Prop :=
  ∀ task p, p.Balanced → I p → (∀ id, task.environment? = some id → p.Has id) →
    (m.perform task).Maintains (clientContract task.environment?) I A (m.Ends task)
      (fun result stance start now => m.Ends task result stance start now ∧ I now) {} p p

/-- Traffic in which every client keeps the contract and an invariant from its stance on. -/
structure Maintained (m : Manager) (I : Pool → Prop) (A : (r : Request) → r.Reply → Prop)
    (t : Traffic) (stances : Nat → Stance) : Prop where
  kept : t.Kept m stances
  here : I t.pool
  goesOn : ∀ c pending, (t.clients c).pending = some pending →
    ∀ later reply, Rely (stances c) t.pool later → later.grants pending.request = true →
      I later → A pending.request reply →
      (pending.next reply).Maintains pending.contract I A (m.Ends pending.task)
        (fun result stance start now => m.Ends pending.task result stance start now ∧ I now)
        (pending.contract.resume (stances c) pending.request) later later

/-- The answers in some turns are of some kind. -/
def Answered (A : (r : Request) → r.Reply → Prop) (turns : List Turn) : Prop :=
  ∀ client reply, Turn.answer client reply ∈ turns → ∀ r, A r (reply r)

namespace Maintained

/-- Other clients go on as before after a stretch of one client. -/
theorem stretch {after : Stance} {q : Pool} {freed : Option EnvironmentId}
    (maintained : t.Maintained m I A stances) (begun : (stances client).Resumes t.pool before)
    (stretch : Stretch freed before t.pool after q) (rested : Client) (journal : List Happening)
    (late : Nat → Bool)
    (kept : ({ pool := q, clients := Function.update t.clients client rested, journal, late } :
      Traffic).Kept m (Function.update stances client after)) (here : I q)
    (goesOn : ∀ pending, rested.pending = some pending →
      ∀ later reply, Rely after q later → later.grants pending.request = true →
        I later → A pending.request reply →
        (pending.next reply).Maintains pending.contract I A (m.Ends pending.task)
          (fun result stance start now => m.Ends pending.task result stance start now ∧ I now)
          (pending.contract.resume after pending.request) later later) :
    ({ pool := q, clients := Function.update t.clients client rested, journal, late } :
      Traffic).Maintained m I A (Function.update stances client after) := by
  refine ⟨kept, here, fun c pending => ?_⟩
  by_cases same : c = client
  · subst same
    simpa using goesOn pending
  · simp only [Function.update_of_ne same]
    intro found later reply relied admitted
    have since := (maintained.kept.other_relies begun stretch same).trans relied
    exact maintained.goesOn c pending found later reply since admitted

theorem advance (maintained : t.Maintained m I A stances) {task : Task} {work : Work task.Result}
    (begun : (stances client).Resumes t.pool before)
    (maintains : work.Maintains (clientContract task.environment?) I A (m.Ends task)
      (fun result stance start now => m.Ends task result stance start now ∧ I now)
      before t.pool t.pool) :
    ∃ later, (t.advance client task work).Maintained m I A later := by
  have rests := Maintains.advance work maintains
  unfold Traffic.advance
  generalize work.advance t.pool = rested at rests ⊢
  obtain ⟨result | ⟨r, next⟩, q⟩ := rested
  · obtain ⟨ends, here⟩ := rests
    refine ⟨_, maintained.stretch begun ends.1 _ _ _ ?_ here ?_⟩
    · refine maintained.kept.stretch begun ends.1 _ _ _ (fun _ => rfl) ?_ ?_
      · rintro _ ⟨⟩
      · rintro _ ⟨⟩
    · rintro _ ⟨⟩
  · obtain ⟨here, after, stretch, waits, goesOn⟩ := rests
    refine ⟨_, maintained.stretch begun stretch _ _ _ ?_ here ?_⟩
    · refine maintained.kept.stretch begun stretch _ _ _ ?_ ?_ ?_
      · rintro ⟨⟩
      · rintro _ ⟨⟩
        exact waits
      · rintro _ ⟨⟩
        exact fun later reply relied admitted => (goesOn later reply relied admitted).1
    · rintro _ ⟨⟩
      exact fun later reply relied admitted => (goesOn later reply relied admitted).2

/-- Every turn keeps the invariant. -/
theorem take (maintained : t.Maintained m I A stances) (tasks : KeptBy m I A)
    (cancel : ∀ p, I p → I p.cancel) (rules : Standing → Task → Bool) (turn : Turn)
    (answered : Answered A [turn]) :
    ∃ later, (t.take m rules turn).Maintained m I A later := by
  have took := t.take_took m rules turn
  generalize t.take m rules turn = next at took ⊢
  cases took with
  | stayed => exact ⟨stances, maintained⟩
  | @began client task begins =>
    obtain ⟨free, ruled, known⟩ := begins
    have free : (t.clients client).pending = none := Option.isNone_iff_eq_none.1 free
    have begun : (stances client).Resumes t.pool {} := by
      rw [maintained.kept.idle client free]
      exact .same
    refine maintained.advance begun ?_
    refine tasks task t.pool maintained.kept.balanced maintained.here (fun id about => ?_)
    simpa [about] using known
  | @wentOn client reply pending found admitted =>
    have waits := maintained.kept.waits client pending found
    have kind := answered client reply List.mem_cons_self pending.request
    have granted := admits_grants admitted
    refine maintained.advance (clientContract_resumes waits granted) ?_
    exact maintained.goesOn client pending found t.pool _ (maintained.kept.relies client)
      granted maintained.here kind
  | @cancelled late =>
    refine ⟨stances, maintained.kept.cancel late, cancel _ maintained.here, ?_⟩
    intro c pending found later reply relied admitted
    have since := (maintained.kept.relies_cancel c).trans relied
    exact maintained.goesOn c pending found later reply since admitted

/-- The invariant holds after any turns. -/
theorem run (maintained : t.Maintained m I A stances) (tasks : KeptBy m I A)
    (cancel : ∀ p, I p → I p.cancel) (rules : Standing → Task → Bool) (turns : List Turn)
    (answered : Answered A turns) :
    ∃ later, (turns.foldl (Traffic.take m rules) t).Maintained m I A later := by
  induction turns generalizing t stances with
  | nil => exact ⟨stances, maintained⟩
  | cons turn rest ih =>
    have first : Answered A [turn] := fun client reply member =>
      answered client reply (List.mem_cons.2 (.inl (List.mem_singleton.1 member)))
    have others : Answered A rest := fun client reply member =>
      answered client reply (List.mem_cons_of_mem _ member)
    obtain ⟨later, maintained⟩ := maintained.take tasks cancel rules turn first
    exact ih maintained others

end Maintained

end Traffic

end Testbed
