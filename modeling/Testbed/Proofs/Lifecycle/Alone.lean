import Testbed.Proofs.Lifecycle.Body
import Testbed.Proofs.Lifecycle.Tasks
import Testbed.Proofs.Program.Journal

/-!
# Work without others

What work leads to when nobody else works on the pool and only the cancellation of the run comes
from outside. Work on one environment leaves all others alone, so what becomes of the environment is
all that there is to say: deleting it forgets it, and releasing it forgets it or leaves it idle.
-/
namespace Testbed

variable {ω α β ε : Type}

namespace Work

/-- Whether work that begins with a pool comes to such a value and such a pool, whatever the
answers. -/
def Leads (s : Surroundings ω) (work : Work α) (p : Pool) (Q : α → Pool → Prop) : Prop :=
  ∀ w, Q (Work.run s work p w).1 (Work.run s work p w).2.1

namespace Leads

variable {s : Surroundings ω} {work : Work α} {p : Pool} {Q Q' : α → Pool → Prop}

theorem mono (h : Leads s work p Q) (weaker : ∀ a q, Q a q → Q' a q) : Leads s work p Q' :=
  fun w => weaker _ _ (h w)

theorem and (first : Leads s work p Q) (second : Leads s work p Q') :
    Leads s work p (fun a q => Q a q ∧ Q' a q) :=
  fun w => ⟨first w, second w⟩

theorem pure {a : α} (h : Q a p) : Leads s (Pure.pure a) p Q := fun _ => h

theorem bind {f : α → Work β} {Q' : β → Pool → Prop} (first : Leads s work p Q)
    (rest : ∀ a q, Q a q → Leads s (f a) q Q') : Leads s (work >>= f) p Q' := by
  intro w
  unfold Work.run
  rw [Program.run_bind]
  exact rest _ _ (first w) _

theorem modify_bind {change : Pool → Pool} {f : Unit → Work α} (h : Leads s (f ()) (change p) Q) :
    Leads s (Program.modify change >>= f) p Q := h

theorem environment_bind {id : EnvironmentId} {f : Environment → Work α}
    (h : Leads s (f (p.environment id)) p Q) : Leads s (Work.environment id >>= f) p Q := h

/-- Work that pauses nowhere comes to the same in every run. -/
theorem advance_bind {a : α} {q : Pool} {f : α → Work β} {Q : β → Pool → Prop}
    (advanced : work.advance p = (.finished a, q)) (rest : Leads s (f a) q Q) :
    Leads s (work >>= f) p Q := by
  intro w
  unfold Work.run
  rw [Program.run_bind, Program.run_of_advance _ _ advanced]
  exact rest w

/-- Changes of a kind that can be put together lead to such a change. -/
theorem of_respects {R : Pool → Pool → Prop} {A : Request → Prop} (h : work.Respects R A)
    (refl : ∀ p, R p p) (trans : ∀ {p q r}, R p q → R q r → R p r) (cancel : ∀ p, R p p.cancel) :
    Leads s work p (fun _ q => R p q) := by
  intro w
  refine Program.Respects.run (T := fun x y => R x.1 y.1) (fun x => refl x.1) trans ?changes
    ?answers h p w
  case changes => exact fun _ _ _ change => change
  case answers =>
    intro r q v _
    change R q (if s.cancelled (s.reply r v).2 then q.cancel else q)
    split
    · exact cancel q
    · exact refl q

/-- What is ensured whatever others do holds without them. -/
theorem of_ensures {Q : List (Exchange Request Request.Reply) → α → Prop} (h : work.Ensures Q) :
    Leads s work p (fun a _ => ∃ exchanges, Q exchanges a) := by
  intro w
  obtain ⟨exchanges, -, holds⟩ := h.run s.answer p w []
  have same := congrArg Prod.fst (Program.run_journaling s.answer work p (w, []))
  exact ⟨exchanges, same ▸ holds⟩

end Leads

end Work

/-- A change of a pool that neither its environments nor the list of tracked ones show. -/
structure Pool.Undisturbed (p q : Pool) : Prop where
  environment : ∀ k, q.environment k = p.environment k
  tracked : q.tracked = p.tracked

/-- A change of a pool that leaves all other environments alone. -/
structure Pool.Touches (id : EnvironmentId) (p q : Pool) : Prop where
  others : ∀ k, k ≠ id → q.environment k = p.environment k
  tracked : ∀ k, k ≠ id → (k ∈ q.tracked ↔ k ∈ p.tracked)

/-- An environment that is there to be used. -/
structure Pool.Live (p : Pool) (id : EnvironmentId) : Prop where
  tracked : id ∈ p.tracked
  alive : (p.environment id).status ≠ .deleted

/-- An environment that is deleted and forgotten. -/
structure Pool.Gone (p : Pool) (id : EnvironmentId) : Prop where
  deleted : (p.environment id).status = .deleted
  untracked : id ∉ p.tracked

/-- An environment that waits to be handed out again. -/
structure Manager.Idle (m : Manager) (p : Pool) (id : EnvironmentId) : Prop where
  reuses : m.config.reuseEnvironments = true
  tracked : id ∈ p.tracked
  unused : (p.environment id).inUse = false
  clean : (p.environment id).dirty = false
  deployed : (p.environment id).status.isDeployed = true

namespace Pool

variable {p q r : Pool} {id : EnvironmentId}

theorem Works.cancel (p : Pool) : p.Works id p.cancel :=
  ⟨rfl, fun _ _ => rfl, .refl _, rfl, rfl, rfl, rfl, fun _ => rfl⟩

theorem Works.live (h : p.Works id q) (live : p.Live id) : q.Live id :=
  ⟨h.tracked ▸ live.tracked, fun dead => live.alive (h.worked.alive dead)⟩

namespace Undisturbed

theorem refl (p : Pool) : p.Undisturbed p := ⟨fun _ => rfl, rfl⟩

theorem trans (first : p.Undisturbed q) (second : q.Undisturbed r) : p.Undisturbed r :=
  ⟨fun k => (second.environment k).trans (first.environment k), second.tracked.trans first.tracked⟩

theorem leads {s : Surroundings ω} {work : Work α} {A : Request → Prop}
    (h : work.Respects Undisturbed A) : Work.Leads s work p (fun _ q => p.Undisturbed q) :=
  .of_respects h refl trans (fun _ => ⟨fun _ => rfl, rfl⟩)

theorem touches (h : p.Undisturbed q) (id : EnvironmentId) : p.Touches id q :=
  ⟨fun k _ => h.environment k, fun k _ => by rw [h.tracked]⟩

theorem live (h : p.Undisturbed q) (live : p.Live id) : q.Live id :=
  ⟨h.tracked ▸ live.tracked, h.environment id ▸ live.alive⟩

end Undisturbed

namespace Touches

theorem refl (id : EnvironmentId) (p : Pool) : p.Touches id p := ⟨fun _ _ => rfl, fun _ _ => .rfl⟩

theorem trans (first : p.Touches id q) (second : q.Touches id r) : p.Touches id r where
  others k apart := (second.others k apart).trans (first.others k apart)
  tracked k apart := (second.tracked k apart).trans (first.tracked k apart)

theorem of_works (h : p.Works id q) : p.Touches id q :=
  ⟨h.others, fun k _ => by rw [h.tracked]⟩

theorem modify (p : Pool) (id : EnvironmentId) (f : Environment → Environment) :
    p.Touches id (p.modify id f) :=
  ⟨fun k apart => by rw [environment_modify, if_neg (fun same => apart same.1)], fun _ _ => .rfl⟩

theorem untrack (p : Pool) (id : EnvironmentId) : p.Touches id (p.untrack id) := by
  refine ⟨fun _ _ => rfl, fun k apart => ?_⟩
  simp [Pool.untrack, apart]

theorem leads {s : Surroundings ω} {work : Work α} {A : Request → Prop}
    (h : work.Respects (Touches id) A) : Work.Leads s work p (fun _ q => p.Touches id q) :=
  .of_respects h (refl id) trans (fun _ => ⟨fun _ _ => rfl, fun _ _ => .rfl⟩)

end Touches

end Pool

/-- Locking and unlocking disturb nothing. -/
theorem Work.Leads.holding {s : Surroundings ω} {id : EnvironmentId} {work : Work α} {p : Pool}
    {Q : α → Pool → Prop} (inner : ∀ q, p.Undisturbed q →
      Work.Leads s work q (fun a r => Q a (r.unlock id))) :
    Work.Leads s (Work.holding id work) p Q := by
  have asked : Work.Leads s (Program.request (Request.lock id)) p (fun _ q => p.Undisturbed q) :=
    Pool.Undisturbed.leads (A := fun _ => True) (.request trivial)
  refine .bind asked (fun _ q same => .modify_bind ?_)
  have locked : p.Undisturbed (q.lock id) := ⟨same.environment, same.tracked⟩
  exact .bind (inner _ locked) (fun _ _ holds => .modify_bind (.pure holds))

section Touching

variable {A : Request → Prop} {id : EnvironmentId}

theorem Work.holding_touches {work : Work α}
    (touches : work.Respects (Pool.Touches id) (fun _ => True)) :
    (Work.holding id work).Respects (Pool.Touches id) (fun _ => True) := by
  have marks (change : Pool → Pool) (same : ∀ p : Pool, p.Undisturbed (change p)) (p : Pool) :
      p.Touches id (change p) := (same p).touches id
  refine .bind (.request trivial) (fun _ => .bind (.modify (marks _ ?lock)) (fun _ => ?_))
  case lock => exact fun _ => ⟨fun _ => rfl, rfl⟩
  refine .bind touches (fun value => .bind (.modify (marks _ ?unlock)) (fun _ => .pure value))
  case unlock => exact fun _ => ⟨fun _ => rfl, rfl⟩

/-- Work on an environment keeps it in place. -/
theorem Work.On.holding_leads {s : Surroundings ω} {p : Pool} {work : Work α} (on : Work.On id work)
    (live : p.Live id) :
    Work.Leads s (Work.holding id work) p (fun _ q => p.Touches id q ∧ q.Live id) := by
  refine .holding (fun q same => ?_)
  have works : Work.Leads s work q (fun _ r => q.Works id r) :=
    .of_respects on (.refl id) .trans (fun q => .cancel q)
  refine works.mono (fun _ r works => ?_)
  have touched := (same.touches id).trans (.of_works works)
  have live := works.live (same.live live)
  exact ⟨⟨touched.others, touched.tracked⟩, ⟨live.tracked, live.alive⟩⟩

/-- Whatever a program does to its environment, others are left alone. -/
theorem Program.onEnvironment_touches (id : EnvironmentId) (program : Caller Environment α) :
    (program.onEnvironment id).Respects (Pool.Touches id) (fun _ => True) := by
  induction program with
  | done value => exact .pure value
  | act change next ih => exact fun p => ⟨.modify p id change, ih (p.environment id)⟩
  | ask call next ih => exact ⟨trivial, fun reply => ih reply⟩

theorem Body.work_touches (id : EnvironmentId) (body : Body ε α) :
    (body.work id).Respects (Pool.Touches id) (fun _ => True) := by
  induction body with
  | finish outcome => exact .pure _
  | visit actions next ih =>
    exact .bind (Work.holding_touches (Program.onEnvironment_touches id _)) ih

end Touching

namespace Manager

variable {s : Surroundings ω} {p : Pool} {id : EnvironmentId}

theorem prepare_leads (m : Manager) (s : Surroundings ω) (requirement : EnvironmentSpace)
    (p : Pool) :
    Work.Leads s (m.prepare requirement) p (m.Prepares requirement p) := by
  intro w
  obtain ⟨result, q, advanced, prepares⟩ := m.prepare_advance requirement p
  have ran : Work.run s (m.prepare requirement) p w = (result, q, w) :=
    Program.run_of_advance _ _ advanced w
  rw [ran]
  exact prepares

/-- An environment stays in place while it is brought up, whatever comes of it. -/
theorem bringUp_leads (m : Manager) (s : Surroundings ω) (live : p.Live id) :
    Work.Leads s (m.bringUp id) p (fun _ q => p.Touches id q ∧ q.Live id) := by
  refine .bind ((deployHeld_on m id).holding_leads live) (fun deployed q middle => ?_)
  cases deployed with
  | error error => exact .pure middle
  | ok _ =>
    refine ((connectHeld_on m id).holding_leads middle.2).mono (fun _ r last => ?_)
    exact ⟨middle.1.trans last.1, last.2⟩

theorem markDirty_leads (s : Surroundings ω) (live : p.Live id) :
    Work.Leads s (markDirty id) p (fun _ q => p.Touches id q ∧ q.Live id) :=
  (markDirtyHeld_on id).holding_leads live

theorem relinquish_leads (s : Surroundings ω) (e : Environment) (p : Pool) :
    Work.Leads s (relinquish e) p (fun _ q => p.Undisturbed q) := by
  refine Pool.Undisturbed.leads (A := fun _ => True) ?_
  unfold relinquish
  split
  · exact .pure ()
  · refine .bind (.request trivial) (fun reply => ?_)
    cases reply with
    | ok _ => exact .pure ()
    | error error => exact .modify (fun p => ⟨fun _ => rfl, rfl⟩)

/-- Deleting forgets an environment. -/
theorem delete_leads (s : Surroundings ω) (alive : (p.environment id).status ≠ .deleted) :
    Work.Leads s (delete id) p (fun _ q => p.Touches id q ∧ q.Gone id) := by
  have held : Work.Leads s (Work.holding id (deleteHeld id)) p (fun deleted q =>
      deleted = true ∧ p.Touches id q ∧ (q.environment id).status = .deleted) := by
    refine .holding (fun locked same => .environment_bind ?_)
    rw [if_neg (same.environment id ▸ alive)]
    refine .bind (relinquish_leads s _ locked) (fun _ q given => .modify_bind (.pure ⟨rfl, ?_, ?_⟩))
    · have retired := Pool.Touches.modify q id Environment.forceDeleted
      have touched := ((same.trans given).touches id).trans retired
      exact ⟨touched.others, touched.tracked⟩
    · have has : q.Has id := Pool.has_of_alive (by rwa [given.environment, same.environment])
      have dead := q.environment_retire id id (.environmentDeleted id.text
        (locked.environment id).status (locked.environment id).dirty)
      rw [if_pos ⟨rfl, has⟩] at dead
      exact congrArg Environment.status dead
  refine .bind held (fun deleted q after => ?_)
  obtain ⟨rfl, touched, dead⟩ := after
  have untracked : id ∉ (q.untrack id).tracked := by simp [Pool.untrack]
  intro w
  exact ⟨touched.trans (.untrack q id), ⟨dead, untracked⟩⟩

/-- Releasing forgets an environment or leaves it idle. -/
theorem release_leads (m : Manager) (s : Surroundings ω) (live : p.Live id) :
    Work.Leads s (m.release id) p (fun _ q => p.Touches id q ∧ (q.Gone id ∨ m.Idle q id)) := by
  have held : Work.Leads s (Work.holding id (Program.update (fun p : Pool =>
      let kept := m.keeps (p.environment id)
      (kept, if kept then p.modify id (fun e => { e with inUse := false }) else p)))) p
      (fun kept q => p.Touches id q ∧ if kept then m.Idle q id else q.Live id) := by
    refine .holding (fun q same w => ?_)
    have there : q.Has id := Pool.has_of_alive (same.live live).alive
    simp only [Work.run, Program.run_update]
    by_cases kept : m.keeps (q.environment id) = true
    case neg =>
      have still := same.live live
      have touched := same.touches id
      simp only [kept, if_false, Bool.false_eq_true]
      exact ⟨⟨touched.others, touched.tracked⟩, ⟨still.tracked, still.alive⟩⟩
    case pos =>
      simp only [kept, if_true]
      simp only [keeps, Bool.and_eq_true, Bool.not_eq_true'] at kept
      obtain ⟨⟨reuses, clean⟩, deployed⟩ := kept
      have touched := (same.touches id).trans (.modify q id (fun e => { e with inUse := false }))
      have idle : (q.modify id (fun e => { e with inUse := false })).environment id =
          { q.environment id with inUse := false } := by
        rw [Pool.environment_modify, if_pos ⟨rfl, there⟩]
      refine ⟨⟨touched.others, touched.tracked⟩, reuses, (same.live live).tracked, ?_, ?_, ?_⟩
      · exact congrArg Environment.inUse idle
      · exact (congrArg Environment.dirty idle).trans clean
      · exact (congrArg (fun e => e.status.isDeployed) idle).trans deployed
  refine .bind held (fun kept q after => ?_)
  obtain ⟨touched, fate⟩ := after
  cases kept with
  | true => exact .pure ⟨touched, .inr fate⟩
  | false =>
    refine (delete_leads s fate.alive).mono (fun _ r gone => ?_)
    exact ⟨touched.trans gone.1, .inl gone.2⟩

end Manager

end Testbed
