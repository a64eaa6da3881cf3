import Testbed.Proofs.Lifecycle.Contract
import Testbed.Proofs.Lifecycle.Work

/-!
# Tasks keep the contract

What each task does between its requests, as a stretch of the contract of clients. Work under the
lock of an environment is one stretch or several; deleting an environment is one for a new
environment, and else one before and one after the answer of the platform.
-/
namespace Testbed

/-- The environment that a task may set free. -/
def Task.frees : Task → Option EnvironmentId
  | .release id => some id
  | .prepare _ | .deploy _ | .connect _ | .markDirty _ | .delete _ | .shutdown => none

/-- An environment that can be handed out again. -/
structure Pool.Reusable (p : Pool) (candidates : List EnvironmentSpace)
    (requirement : EnvironmentSpace) (id : EnvironmentId) : Prop where
  tracked : id ∈ p.tracked
  unlocked : id ∉ p.locked
  idle : (p.environment id).inUse = false
  clean : (p.environment id).dirty = false
  deployed : (p.environment id).status.isDeployed = true
  resolved : ∃ candidate, candidates[(p.environment id).candidateIndex]? = some candidate ∧
    requirement.intersect candidate = .ok (p.environment id).space

theorem Pool.reusable_of_findReusable {p : Pool} {candidates : List EnvironmentSpace}
    {requirement : EnvironmentSpace} {id : EnvironmentId}
    (found : p.findReusable candidates requirement = some id) :
    p.Reusable candidates requirement id := by
  have tracked : id ∈ p.tracked := List.mem_of_find?_eq_some found
  have reusable : p.reusable candidates requirement id = true := List.find?_some found
  dsimp only [Pool.reusable] at reusable
  split at reusable
  · cases reusable
  · rename_i usable
    simp only [not_or, Bool.not_eq_true] at usable
    obtain ⟨unlocked, idle, clean, provisioned⟩ := usable
    have deployed : (p.environment id).status.isDeployed = true := by simpa using provisioned
    split at reusable
    · cases reusable
    · rename_i candidate listed
      split at reusable
      · rename_i space intersected
        have same : space = (p.environment id).space := of_decide_eq_true reusable
        exact ⟨tracked, unlocked, idle, clean, deployed, candidate, listed, same ▸ intersected⟩
      · cases reusable

/-- What preparing gives, and the pool that it leaves. -/
inductive Manager.Prepares (m : Manager) (requirement : EnvironmentSpace) (p : Pool) :
    Except LifecycleError EnvironmentId → Pool → Prop where
  | reused {id : EnvironmentId} (reusable : p.Reusable m.candidates requirement id) :
    Prepares m requirement p (.ok id) (p.handOut id)
  | created {found : MatchedEnvironment} (resolved : resolve requirement m.candidates = .ok found) :
    Prepares m requirement p (.ok p.nextId) (p.create found)
  | refused {error : LifecycleError} : Prepares m requirement p (.error error) p

namespace Manager

/-- Preparing is one stretch. -/
theorem prepare_advance (m : Manager) (requirement : EnvironmentSpace) (p : Pool) :
    ∃ result q, (m.prepare requirement).advance p = (.finished result, q) ∧
      m.Prepares requirement p result q := by
  refine ⟨_, _, rfl, ?_⟩
  cases found : (if m.config.reuseEnvironments then p.findReusable m.candidates requirement
    else none) with
  | some id =>
    simp only [found]
    refine .reused (Pool.reusable_of_findReusable ?_)
    split at found
    · exact found
    · cases found
  | none =>
    simp only [found]
    cases resolved : resolve requirement m.candidates with
    | ok found => exact .created resolved
    | error reasons => exact .refused

theorem Prepares.stretch {m : Manager} {requirement : EnvironmentSpace} {p q : Pool}
    {result : Except LifecycleError EnvironmentId} (h : m.Prepares requirement p result q)
    (b : p.Balanced) : Stretch none {} p {} q := by
  cases h with
  | reused reusable => exact .handOut b reusable.unlocked
  | created resolved => exact .create b _
  | refused => exact .idle b []

/-- What was prepared is in use, and was idle and deployed if it was there before. -/
theorem Prepares.ok {m : Manager} {requirement : EnvironmentSpace} {p q : Pool}
    {id : EnvironmentId} (h : m.Prepares requirement p (.ok id) q) (b : p.Balanced) :
    q.Has id ∧ (q.environment id).inUse = true ∧
      (p.Has id → p.Reusable m.candidates requirement id ∧
        (q.environment id).status = (p.environment id).status) := by
  cases h with
  | reused reusable =>
    have has : p.Has id := (b.tracked_alive id reusable.tracked).1
    have environment : (p.handOut id).environment id = { p.environment id with inUse := true } := by
      rw [Pool.environment_handOut, if_pos ⟨rfl, has⟩]
    refine ⟨(p.has_modify id id _).2 has, ?_, fun _ => ⟨reusable, ?_⟩⟩
    · rw [environment]
    · rw [environment]
  | @created found resolved =>
    refine ⟨(p.has_create found _).2 (.inr rfl), ?_, fun has => absurd has (Nat.lt_irrefl _)⟩
    rw [Pool.environment_create_last]
    rfl

theorem Prepares.tracked {m : Manager} {requirement : EnvironmentSpace} {p q : Pool}
    {id : EnvironmentId} (h : m.Prepares requirement p (.ok id) q) : id ∈ q.tracked := by
  cases h with
  | reused reusable => exact reusable.tracked
  | created resolved => exact List.mem_append_right _ List.mem_cons_self

end Manager

namespace Work

variable {α : Type} {ends : α → Stance → Pool → Pool → Prop} {stance : Stance} {start now : Pool}
  {about : Option EnvironmentId} {id : EnvironmentId} {due : List EnvironmentId}

/-- A client that has locked nothing can go on to lock an environment. -/
theorem holding_meets {work : Work α} (closed : Stretch none stance start { due } now)
    (has : now.Has id)
    (inner : ∀ later, now.environments.length ≤ later.environments.length →
      Inside none id { hold := .working id, due } later (later.lock id) →
        work.Meets (clientContract about)
          (fun value stance start now => ends value stance start (now.unlock id))
          { hold := .working id, due } later (later.lock id)) :
    (Work.holding id work).Meets (clientContract about) ends stance start now := by
  refine ⟨{ due }, closed, rfl, ?_⟩
  intro later reply relied admitted
  have free : id ∉ later.locked := by simpa [clientContract, Pool.grants] using admitted
  have inside : Inside none id { hold := .working id, due } later (later.lock id) :=
    .lock relied.balanced (relied.has has) free due
  exact Program.Meets.bind work (inner later relied.grows inside)

/-- Work on the environment that it has locked keeps the contract throughout. -/
theorem On.meets {work : Work α} (on : Work.On id work) (own : about = some id)
    (working : stance.hold = .working id)
    (finish : ∀ value start now, Inside none id stance start now → ends value stance start now)
    (inside : Inside none id stance start now) :
    work.Meets (clientContract about) ends stance start now := by
  refine Program.Respects.meets
    (fun current start now => current = stance ∧ Inside none id current start now)
    ?changes ?pauses ?finish work on ⟨rfl, inside⟩
  case changes =>
    rintro current before now next ⟨same, sofar⟩ works
    exact ⟨same, sofar.work works⟩
  case pauses =>
    rintro current before now r ⟨rfl, sofar⟩ allowed
    have waits : ∃ k, about = some k ∧ current.hold = .working k := ⟨id, own, working⟩
    have again (later : Pool) (relied : Rely current now later) :
        current = current ∧ Inside none id current later later :=
      ⟨rfl, .resume sofar.holds sofar.present relied⟩
    cases r with
    | lock k | delete e => cases allowed
    | prepare e | deploy e | interruptible call | call call | notify message =>
      exact ⟨sofar.pause working, waits, again⟩
  case finish =>
    rintro value current before now ⟨rfl, sofar⟩
    exact finish value before now sofar

/-- Work on an environment is over when the environment is unlocked. -/
theorem On.holding_meets {work : Work α} (on : Work.On id work) (own : about = some id)
    (b : start.Balanced) (has : start.Has id)
    (ended : ∀ value stance start now, Stretch none stance start {} now →
      ends value stance start now) :
    (Work.holding id work).Meets (clientContract about) ends {} start start := by
  refine Work.holding_meets (.idle b []) has (fun later _ inside => ?_)
  refine on.meets own rfl (fun value start now inside => ?_) inside
  exact ended _ _ _ _ (inside.unlock rfl (fun _ listed => .inl listed))

end Work

namespace Manager

variable {about : Option EnvironmentId} {stance : Stance} {start now : Pool} {id : EnvironmentId}
  {due : List EnvironmentId}

/-- Giving up an environment that the platform holds is a stretch of its own. Either way the
environment is still there in the end, for its deletion. -/
theorem relinquish_meets {ends : Unit → Stance → Pool → Pool → Prop}
    (inside : Inside none id { hold := .working id, due } start now)
    (alive : (now.environment id).status ≠ .deleted)
    (ended : ∀ stance start later, now.environments.length ≤ later.environments.length →
      Inside none id stance start later → stance.due = due →
      (start.environment id).status ≠ .deleted →
      (start.environment id).status = .new ∨ stance.hold = .deleting id →
        ends () stance start later) :
    (relinquish (now.environment id)).Meets (clientContract about) ends
      { hold := .working id, due } start now := by
  unfold relinquish
  split
  · rename_i new
    have alive_before : (start.environment id).status ≠ .deleted := fun dead =>
      alive (inside.evolved.deleted dead)
    exact ended _ _ _ (Nat.le_refl _) inside rfl alive_before (.inl (inside.evolved.new new))
  · rename_i used
    have name : (now.environment id).id = id := inside.balanced.numbered id inside.present
    refine ⟨{ hold := .deleting id, due }, inside.ask rfl used alive, ?_, ?_⟩
    · change Hold.deleting id = .deleting (now.environment id).id
      rw [name]
    · intro later reply relied _
      have inside : Inside none id { hold := .deleting id, due } later later :=
        .resume (.inr rfl) inside.present relied
      have alive_later : (later.environment id).status ≠ .deleted := by
        rw [relied.unchanged id (.inr rfl)]
        exact alive
      cases reply with
      | ok _ => exact ended _ _ _ relied.grows inside rfl alive_later (.inr rfl)
      | error error =>
        have counted : later.Works id (later.count .deleteFailures) := .count later nofun nofun
        have noted : later.Works id ((later.count .deleteFailures).report
            (.environmentDeleteFailed (now.environment id).id.text error.message)) :=
          counted.trans (.report _ (fun _ => rfl))
        exact ended _ _ _ relied.grows (inside.work noted) rfl alive_later (.inr rfl)

/-- Deleting an environment takes it off what is due. -/
theorem delete_meets {after : List EnvironmentId} {ends : Unit → Stance → Pool → Pool → Prop}
    (closed : Stretch none stance start { due } now) (has : now.Has id)
    (still : ∀ k ∈ due, k ∈ after ∨ k = id)
    (ended : ∀ stance start later, now.environments.length ≤ later.environments.length →
      Stretch none stance start { due := after } later → ends () stance start later) :
    (delete id).Meets (clientContract about) ends stance start now := by
  refine Program.Meets.bind _ (Work.holding_meets closed has (fun locked grown inside => ?_))
  change (if _ then _ else _ : Work Bool).Meets _ _ _ _ _
  split
  · rename_i dead
    refine ended _ _ _ grown (inside.unlock rfl (fun k listed => ?_))
    rcases still k listed with listed | rfl
    · exact .inl listed
    · exact .inr dead
  · rename_i alive
    refine Program.Meets.bind _ (relinquish_meets inside alive ?_)
    intro stance start later grown_later inside due_same alive asked
    have length := later.retire_length id (.environmentDeleted id.text
      ((locked.lock id).environment id).status ((locked.lock id).environment id).dirty)
    have grows := Nat.le_trans grown (Nat.le_trans grown_later (Nat.le_of_eq length.symm))
    have still_due (k : EnvironmentId) (listed : k ∈ stance.due) : k ∈ after ∨ k = id :=
      still k (due_same ▸ listed)
    exact ended _ _ _ grows (inside.retire alive asked still_due)

/-- Deleting environments one after the other takes them all off what is due. -/
theorem deleteAll_meets {ends : Unit → Stance → Pool → Pool → Prop} (ids : List EnvironmentId)
    (closed : Stretch none stance start { due := ids } now) (has : ∀ id ∈ ids, now.Has id)
    (ended : ∀ stance start later, Stretch none stance start {} later →
      ends () stance start later) :
    (deleteAll ids).Meets (clientContract about) ends stance start now := by
  induction ids generalizing stance start now with
  | nil => exact ended _ _ _ closed
  | cons id rest ih =>
    obtain ⟨has, others⟩ := List.forall_mem_cons.1 has
    have still (k : EnvironmentId) (listed : k ∈ id :: rest) : k ∈ rest ∨ k = id :=
      (List.mem_cons.1 listed).symm
    refine Program.Meets.bind _ (delete_meets closed has still ?ended)
    case ended =>
      intro stance start later grown closed
      exact ih closed (fun k listed => Nat.lt_of_lt_of_le (others k listed) grown)

theorem shutdown_meets {ends : Unit → Stance → Pool → Pool → Prop} (b : start.Balanced)
    (ended : ∀ stance start later, Stretch none stance start {} later →
      ends () stance start later) :
    shutdown.Meets (clientContract about) ends {} start start := by
  have tracked (id : EnvironmentId) (listed : id ∈ start.tracked.reverse) : start.Has id :=
    (b.tracked_alive id (List.mem_reverse.1 listed)).1
  refine Program.Meets.bind (Program.update _) ?_
  refine Program.Meets.bind _ (deleteAll_meets _ (.untrackAll b) tracked ?_)
  intro stance start later closed
  exact ended _ _ _ (closed.reportMetrics later.metrics)

theorem release_meets (m : Manager) {ends : Unit → Stance → Pool → Pool → Prop}
    (b : start.Balanced) (has : start.Has id)
    (ended : ∀ stance start later, Stretch (some id) stance start {} later →
      ends () stance start later) :
    (m.release id).Meets (clientContract about) ends {} start start := by
  refine Program.Meets.bind _ (Work.holding_meets (.idle b []) has (fun locked grown inside => ?_))
  cases kept : m.keeps ((locked.lock id).environment id) with
  | true =>
    have idle : Stretch (some id) { hold := .working id } locked {}
        (((locked.lock id).modify id (fun e => { e with inUse := false })).unlock id) :=
      inside.free.unlock rfl (fun k listed => nomatch listed)
    simp only [Program.update, Program.Meets, kept, if_true]
    exact ended _ _ _ idle
  | false =>
    have unlocked : Stretch none { hold := .working id } locked {} ((locked.lock id).unlock id) :=
      inside.unlock rfl (fun k listed => nomatch listed)
    simp only [Program.update, Program.Meets, kept, Bool.false_eq_true, if_false]
    refine delete_meets unlocked inside.present (fun k listed => .inl listed) ?_
    intro stance start later _ closed
    exact ended _ _ _ closed.relax

/-- What is known at the end of a task. -/
def Ends (m : Manager) (task : Task) (result : task.Result) (stance : Stance)
    (start now : Pool) : Prop :=
  Stretch task.frees stance start {} now ∧
    match task, result with
    | .prepare requirement, result => m.Prepares requirement start result now
    | .markDirty id, result => result = .ok () → (now.environment id).dirty = true
    | _, _ => True

/-- Whoever marks an environment dirty leaves it so. -/
theorem markDirty_meets (m : Manager) (b : start.Balanced) (has : start.Has id) :
    (markDirty id).Meets (clientContract about) (m.Ends (.markDirty id)) {} start start := by
  refine Work.holding_meets (.idle b []) has (fun later _ inside => ?_)
  have present : (later.lock id).Has id := inside.has
  have closes {q : Pool} (works : (later.lock id).Works id q) :
      Stretch none { hold := .working id } later {} (q.unlock id) :=
    (inside.work works).unlock rfl (fun k listed => nomatch listed)
  refine Program.Meets.bind (Program.update _) ?_
  cases marked : ((later.lock id).environment id).markDirty with
  | error cause =>
    simp only [Program.update, Program.Meets, marked]
    exact ⟨closes (.refl id _), nofun⟩
  | ok e =>
    simp only [Program.update, Program.Meets, marked]
    refine ⟨closes (.modify _ (.markDirty marked)), fun _ => ?_⟩
    obtain rfl := Environment.markDirty_ok marked
    rw [Pool.environment_unlock, Pool.environment_modify, if_pos ⟨rfl, present⟩]

/-- Every task keeps the contract. -/
theorem perform_meets (m : Manager) (task : Task) (b : start.Balanced)
    (known : ∀ id, task.environment? = some id → start.Has id) :
    (m.perform task).Meets (clientContract task.environment?) (m.Ends task) {} start start := by
  cases task with
  | prepare requirement =>
    obtain ⟨result, q, advanced, prepares⟩ := m.prepare_advance requirement start
    exact .of_advance _ advanced ⟨prepares.stretch b, prepares⟩
  | deploy id =>
    exact (deployHeld_on m id).holding_meets rfl b (known id rfl)
      (fun _ _ _ _ closed => ⟨closed, trivial⟩)
  | connect id =>
    exact (connectHeld_on m id).holding_meets rfl b (known id rfl)
      (fun _ _ _ _ closed => ⟨closed, trivial⟩)
  | markDirty id => exact m.markDirty_meets b (known id rfl)
  | release id =>
    exact m.release_meets b (known id rfl) (fun _ _ _ closed => ⟨closed, trivial⟩)
  | delete id =>
    exact delete_meets (.idle b []) (known id rfl) (fun _ listed => .inl listed)
      (fun _ _ _ _ closed => ⟨closed, trivial⟩)
  | shutdown => exact shutdown_meets b (fun _ _ _ closed => ⟨closed, trivial⟩)

end Manager

end Testbed
