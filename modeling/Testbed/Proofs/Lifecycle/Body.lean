import Testbed.Environment.Action
import Testbed.Proofs.Lifecycle.Work

/-!
# Bodies

What a body does to the environment that it is given: it may move the environment on through its
statuses and change what is known of it, any number of times and depending on what came of it, and
may call the outside world. It cannot untrack the environment, nor ask the platform to delete it.
-/
namespace Testbed

/-- A change of a pool that leaves what is tracked, and that changes an environment in some way. -/
structure Pool.Keeps (R : Environment → Environment → Prop) (id : EnvironmentId)
    (p q : Pool) : Prop where
  tracked : q.tracked = p.tracked
  has : q.Has id ↔ p.Has id
  environment : R (p.environment id) (q.environment id)

/-- Work that changes an environment in some way, and does not ask the platform to delete it. -/
abbrev Work.Keeping {α : Type} (R : Environment → Environment → Prop) (id : EnvironmentId)
    (work : Work α) : Prop :=
  work.Respects (Pool.Keeps R id) (fun r => r.deletes id = false)

section Keeping

variable {α : Type} {R : Environment → Environment → Prop} {id : EnvironmentId}

theorem Pool.Keeps.of_worked {p q : Pool} (worked : ∀ e f, e.Worked f → R e f)
    (h : p.Works id q) : p.Keeps R id q :=
  ⟨h.tracked, h.has id, worked _ _ h.worked⟩

theorem Work.On.keeping {work : Work α} (worked : ∀ e f, e.Worked f → R e f)
    (on : Work.On id work) : Work.Keeping R id work := by
  refine on.mono (fun _ _ => .of_worked worked) (fun r allowed => ?_)
  cases r with
  | lock k | delete e => cases allowed
  | prepare e | deploy e | interruptible call | call call | notify message => rfl

theorem Work.Keeping.holding (refl : ∀ e, R e e) {work : Work α}
    (keeping : Work.Keeping R id work) : Work.Keeping R id (Work.holding id work) := by
  refine .bind (.request rfl) (fun _ => .bind (.modify ?locks) (fun _ => ?_))
  case locks => exact fun p => ⟨rfl, .rfl, refl _⟩
  refine .bind keeping (fun value => .bind (.modify ?unlocks) (fun _ => .pure value))
  case unlocks => exact fun p => ⟨rfl, .rfl, refl _⟩

/-- A program on an environment changes the environment in the pool the same way. -/
theorem Work.Keeping.onEnvironment (refl : ∀ e, R e e) {program : Caller Environment α}
    (h : program.Respects R (fun _ => True)) : Work.Keeping R id (program.onEnvironment id) := by
  induction program with
  | done value => exact .pure value
  | ask call next ih => exact ⟨rfl, fun reply => ih reply (h.2 reply)⟩
  | act change next ih =>
    intro p
    refine ⟨⟨rfl, Pool.has_modify p id id change, ?_⟩, ih _ (h (p.environment id)).2⟩
    rw [Pool.environment_modify]
    split
    · exact (h (p.environment id)).1
    · exact refl _

end Keeping

section PowerProbe

variable {σ Request' : Type} {Reply : Request' → Type} {R : σ → σ → Prop} {A : Request' → Prop}
  {probe : PowerProbe (Program σ Request' Reply)}

theorem pollPower_respects (status : probe.status.Respects R A) (now : probe.now.Respects R A)
    (pause : ∀ ms, (probe.pause ms).Respects R A) (expected : PowerState) (operation : String)
    (deadline poll tries : Nat) :
    (pollPower probe expected operation deadline poll tries).Respects R A := by
  induction tries with
  | zero => exact .pure _
  | succ tries ih =>
    refine .bind status (fun answered => ?_)
    cases answered with
    | error error => exact .pure _
    | ok text =>
      dsimp only
      split
      · exact .pure _
      · refine .bind now (fun moment => ?_)
        split
        · exact .pure _
        · cases timer? moment poll with
          | none => exact .pure _
          | some ms => exact .bind (pause ms) (fun _ => ih)

theorem waitForPower_respects (status : probe.status.Respects R A) (now : probe.now.Respects R A)
    (pause : ∀ ms, (probe.pause ms).Respects R A) (expected : PowerState) (operation : String)
    (timeout poll : Nat) : (waitForPower probe expected operation timeout poll).Respects R A := by
  refine .bind now (fun started => ?_)
  cases deadline? started timeout with
  | none => exact .pure _
  | some deadline => exact pollPower_respects status now pause expected operation deadline poll _

end PowerProbe

namespace Action

/-- What actions may do to an environment. -/
abbrev Moves {α : Type} (program : Caller Environment α) : Prop :=
  program.Respects Environment.Evolves (fun _ => True)

theorem get_moves : Moves Program.get := .get Environment.Evolves.refl

theorem revise_moves {f : Environment → Except EnvironmentError Environment}
    (evolves : ∀ e e', f e = .ok e' → e.Evolves e') : Moves (revise f) := by
  refine .update (fun e => ?_)
  cases revised : f e with
  | error cause => exact .refl e
  | ok e' => exact evolves e e' revised

theorem reviseNode_moves (index : Nat) (f : Node → Except FeatureError (ActionResult × Node)) :
    Moves (reviseNode index f) := by
  refine .update (fun e => ?_)
  cases e.nodes[index]? with
  | none => exact .refl e
  | some node =>
    cases revised : f node with
    | error cause => simpa [revised] using .refl e
    | ok pair => simpa [revised] using (Environment.Worked.modifyNode e index _).toEvolves

theorem readNode_moves {α : Type} (index : Nat) (f : Node → Except FeatureError α) :
    Moves (readNode index f) := by
  refine .update (fun e => ?_)
  cases e.nodes[index]? <;> exact .refl e

theorem runCommand_moves (index : Nat) (command : String) : Moves (runCommand index command) := by
  refine .bind get_moves (fun e => ?_)
  cases e.nodes[index]? with
  | none => exact .pure _
  | some node =>
    dsimp only
    cases node.session with
    | none => exact .pure _
    | some session =>
      refine .bind (.request trivial) (fun reply => ?_)
      cases reply <;> exact .pure _

theorem awaitPower_moves (index : Nat) (expected : PowerState) (operation : String)
    (timeout poll : Nat) : Moves (awaitPower index expected operation timeout poll) := by
  refine .bind (readNode_moves index _) (fun switch => ?_)
  cases switch with
  | error error => exact .pure _
  | ok _ =>
    refine .bind (waitForPower_respects ?status ?now ?pause _ _ _ _) (fun waited => ?_)
    case status =>
      refine .bind get_moves (fun e => ?_)
      cases e.nodes[index]? <;> exact .pure _
    case now => exact .bind (.request trivial) (fun _ => .pure _)
    case pause => exact fun _ => .request trivial
    cases waited <;> exact .pure _

/-- Whatever an action does, the environment only evolves. -/
theorem run_moves (action : Action) : Moves action.run := by
  cases action with
  | fail texts => exact .pure _
  | sleep ms => exact .bind (.request trivial) (fun _ => .pure _)
  | markDirty =>
    exact revise_moves (fun _ _ marked => (Environment.Worked.markDirty marked).toEvolves)
  | setStatus next => exact revise_moves (fun _ _ set => .setStatus set)
  | setInformation key value =>
    rw [run]
    refine revise_moves (fun e e' set => ?_)
    obtain rfl := Except.ok.inj set
    exact (Environment.Worked.setInformation e key value).toEvolves
  | setNodeInformation index key value | attach index feature | resize index action
  | power index action =>
    rw [run]
    exact reviseNode_moves index _
  | metadata | inspect => exact .bind get_moves (fun _ => .pure _)
  | execute index command => exact runCommand_moves index command
  | waitPower index expected operation timeout poll =>
    exact awaitPower_moves index expected operation timeout poll
  | console index | nics index => exact .bind (readNode_moves index _) (fun _ => .pure _)

theorem runAll_moves (actions : List Action) : Moves (runAll actions) := by
  induction actions with
  | nil => exact .pure _
  | cons action rest ih =>
    refine .bind (run_moves action) (fun ran => ?_)
    cases ran with
    | error error => exact .pure _
    | ok result => exact .bind ih (fun _ => .pure _)

end Action

/-- What a caller does with the environment that it is given. -/
inductive Body (ε α : Type) where
  | finish (outcome : Except ε α)
  /-- Lock the environment for some actions, and go on from what came of them. -/
  | visit (actions : List Action)
    (next : List ActionResult × Except ActionError Unit → Body ε α)

namespace Body

variable {ε α : Type}

def work (id : EnvironmentId) : Body ε α → Work (Except ε α)
  | finish outcome => return outcome
  | visit actions next => do
    let seen ← Work.holding id ((Action.runAll actions).onEnvironment id)
    (next seen).work id

/-- Whatever a body does, its environment only evolves. -/
theorem work_keeping (id : EnvironmentId) (body : Body ε α) :
    Work.Keeping Environment.Evolves id (body.work id) := by
  induction body with
  | finish outcome => exact .pure _
  | visit actions next ih =>
    have acted : Work.Keeping Environment.Evolves id ((Action.runAll actions).onEnvironment id) :=
      .onEnvironment .refl (Action.runAll_moves actions)
    exact .bind (acted.holding .refl) ih

end Body

/-- Bringing an environment up never deletes it. -/
theorem Manager.bringUp_keeping (m : Manager) (id : EnvironmentId) :
    Work.Keeping Environment.Worked id (m.bringUp id) := by
  have deployed := (deployHeld_on m id).keeping (fun _ _ worked => worked)
  have connected := (connectHeld_on m id).keeping (fun _ _ worked => worked)
  refine .bind (deployed.holding .refl) (fun outcome => ?_)
  cases outcome with
  | error error => exact .pure _
  | ok _ => exact connected.holding .refl

end Testbed
