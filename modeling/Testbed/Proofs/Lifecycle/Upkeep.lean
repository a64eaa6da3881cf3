import Testbed.Proofs.Lifecycle.Invariant

/-!
# What holds of every environment

A property of environments holds of all of them, in all traffic, if they are created with it and
everything that a manager does to one keeps it. Deploying is done in steps: the platform's answer
tells whether an environment is ready to be equipped, and nobody else changes it from then on until
it is deployed.
-/
namespace Testbed

open Program

/-- Whether something holds of all environments. -/
def Pool.All (E : Environment → Prop) (p : Pool) : Prop := ∀ k, E (p.environment k)

/-- Changing an environment in a way that keeps what holds of all. -/
theorem Pool.All.modify {E : Environment → Prop} {p : Pool} {id : EnvironmentId}
    {f : Environment → Environment} (changed : E (p.environment id) → E (f (p.environment id)))
    (all : p.All E) : (p.modify id f).All E := by
  intro k
  rw [Pool.environment_modify]
  split
  · exact changed (all id)
  · exact all k

/-- What a manager does to environments, apart from connecting them, keeps what holds of each, given
answers of some kind. -/
structure Manager.Upkeep (m : Manager) (A : (r : Request) → r.Reply → Prop)
    (E Ready : Environment → Prop) : Prop where
  created : ∀ id found, E { Environment.ofMatch id found with inUse := true }
  handedOut : ∀ e, e.status.isDeployed = true → E e → E { e with inUse := true }
  handedBack : ∀ e, E e → E { e with inUse := false }
  dirtied : ∀ e, e.status.isDeployed = true → E e → E { e with dirty := true }
  deleted : ∀ e, E e → E e.forceDeleted
  prepared : ∀ e, e.status = .new → E e → E { e with status := .prepared }
  accepted : ∀ e deployed, A (.deploy e) deployed → e.status = .prepared → E e →
    E (e.accept deployed.provision) ∧
      (deployed.outcome = some (.ok ()) → Ready (e.accept deployed.provision))
  attached : ∀ e, e.status = .prepared → E e → Ready e →
    E { e with nodes := (m.features.attachToAll e.nodes).1 }
  equipped : ∀ e, e.status = .prepared → E e → Ready e →
    (m.features.attachToAll e.nodes).2 = none →
    E { e with nodes := (m.features.attachToAll e.nodes).1, status := .deployed }

section Upkeep

variable {α : Type} {m : Manager} {A : (r : Request) → r.Reply → Prop}
  {E Ready : Environment → Prop} {Q : Pool → Prop} {id : EnvironmentId} {p : Pool}

/-- Work of changes that each keep what holds of all environments. -/
abbrev Work.Preserves (E : Environment → Prop) (work : Work α) : Prop :=
  work.Respects (fun p q => p.All E → q.All E) (fun _ => True)

theorem Work.revise_preserves {f : Environment → Except EnvironmentError Environment}
    (keeps : ∀ e e', f e = .ok e' → E e → E e') : Work.Preserves E (Work.revise id f) := by
  apply Respects.update
  intro p all
  cases revised : f (p.environment id) with
  | error cause => exact all
  | ok e => exact all.modify (keeps _ _ revised)

theorem Work.holding_preserves {work : Work α} (preserves : Work.Preserves E work) :
    Work.Preserves E (Work.holding id work) := by
  refine .bind (.request trivial) (fun _ => .bind (.modify (fun _ all => all)) (fun _ => ?_))
  exact .bind preserves (fun value => .bind (.modify (fun _ all => all)) (fun _ => .pure value))

namespace Manager

theorem prepare_preserves (upkeep : m.Upkeep A E Ready) (requirement : EnvironmentSpace) :
    Work.Preserves E (m.prepare requirement) := by
  apply Respects.update
  intro p all
  obtain ⟨result, q, advanced, prepares⟩ := m.prepare_advance requirement p
  change ((m.prepare requirement).advance p).2.All E
  rw [advanced]
  cases prepares with
  | refused => exact all
  | @reused id reusable => exact all.modify (upkeep.handedOut _ reusable.deployed)
  | created resolved =>
    intro k
    rw [Pool.environment_create]
    split
    · exact upkeep.created _ _
    · exact all k

theorem markDirty_preserves (upkeep : m.Upkeep A E Ready) (id : EnvironmentId) :
    Work.Preserves E (markDirty id) := by
  refine Work.holding_preserves (.bind (Work.revise_preserves ?_) (fun _ => .pure _))
  intro e f marked holds
  obtain rfl := Environment.markDirty_ok marked
  exact upkeep.dirtied e (Environment.markDirty_deployed marked) holds

theorem delete_preserves (upkeep : m.Upkeep A E Ready) (id : EnvironmentId) :
    Work.Preserves E (delete id) := by
  have given (e : Environment) : Work.Preserves E (relinquish e) := by
    unfold relinquish
    split
    · exact .pure ()
    · refine .bind (.request trivial) (fun reply => ?_)
      cases reply with
      | ok _ => exact .pure ()
      | error error => exact .modify (fun _ all => all)
  have held : Work.Preserves E (deleteHeld id) := by
    refine .bind (.bind (.get (fun _ all => all)) (fun _ => .pure _)) (fun e => ?_)
    split
    · exact .pure false
    · refine .bind (given e) (fun _ => .bind (.modify (fun p => ?_)) (fun _ => .pure true))
      exact Pool.All.modify (upkeep.deleted _)
  refine .bind (Work.holding_preserves held) (fun deleted => ?_)
  cases deleted with
  | true => exact .modify (fun _ all => all)
  | false => exact .pure ()

theorem release_preserves (upkeep : m.Upkeep A E Ready) (id : EnvironmentId) :
    Work.Preserves E (m.release id) := by
  refine .bind (Work.holding_preserves (.update (fun p all => ?_))) (fun kept => ?_)
  · dsimp only
    split
    · exact all.modify (upkeep.handedBack _)
    · exact all
  · cases kept with
    | true => exact .pure ()
    | false => exact delete_preserves upkeep id

theorem shutdown_preserves (upkeep : m.Upkeep A E Ready) : Work.Preserves E shutdown := by
  have deleted (ids : List EnvironmentId) : Work.Preserves E (deleteAll ids) := by
    induction ids with
    | nil => exact .pure ()
    | cons id rest ih => exact .bind (delete_preserves upkeep id) (fun _ => ih)
  refine .bind (.update (fun _ all => all)) (fun tracked => .bind (deleted _) (fun _ => ?_))
  exact .modify (fun _ all => all)

/-- What is to be known when work on an environment ends: what holds of all environments still does,
and if the work succeeded something else does, too. -/
def Leaves (E : Environment → Prop) (Q : Pool → Prop) (outcome : Except LifecycleError α)
    (p : Pool) : Prop :=
  p.All E ∧ (∀ value, outcome = .ok value → Q p)

/-- Work that did not succeed leaves nothing but what holds of all. -/
theorem Leaves.failed {error : LifecycleError} (all : p.All E) :
    Leaves E Q (.error error : Except LifecycleError α) p :=
  ⟨all, nofun⟩

theorem setStatus_sustains (all : p.All E) {next : EnvironmentStatus}
    (moves : (p.environment id).status.canBecome next = true →
      E { p.environment id with status := next }) :
    (setStatus id next).Sustains id (Pool.All E) A
      (Leaves E (fun q => (q.environment id).status = next)) p := by
  apply Sustains.update_bind
  dsimp only
  cases set : (p.environment id).setStatus next with
  | error cause => exact .pure (.failed all)
  | ok e =>
    obtain ⟨allowed, rfl⟩ := Environment.setStatus_ok set
    have alive : (p.environment id).status ≠ .deleted := by
      intro dead
      rw [dead] at allowed
      cases next <;> cases allowed
    constructor
    · exact all.modify (fun _ => moves allowed)
    · intro _ _
      simp [Pool.environment_modify, Pool.has_of_alive alive]

theorem deploymentFailed_sustains (all : p.All E) (e : Environment) (source : PlatformError) :
    (deploymentFailed e source).Sustains id (Pool.All E) A (Leaves E Q) p :=
  .modify_bind (.pure (.failed all))

theorem askPlatform_sustains (upkeep : m.Upkeep A E Ready) (all : p.All E)
    (new : (p.environment id).status = .new) :
    (m.askPlatform id).Sustains id (Pool.All E) A
      (Leaves E (fun q => (q.environment id).status = .prepared)) p := by
  refine .environment_bind (.cancelled_bind ?_)
  split
  · exact .pure (.failed all)
  · refine .request_bind all (fun later reply same all _ => ?_)
    rcases reply with _ | (source | (_ | _))
    · exact .pure (.failed all)
    · exact deploymentFailed_sustains all _ source
    · exact deploymentFailed_sustains all _ _
    · apply setStatus_sustains all
      intro _
      exact upkeep.prepared _ (same ▸ new) (all id)

theorem equip_sustains (upkeep : m.Upkeep A E Ready) (all : p.All E)
    (prepared : (p.environment id).status = .prepared) (ready : Ready (p.environment id)) :
    (m.equip id).Sustains id (Pool.All E) A (Leaves E (fun _ => True)) p := by
  have has : p.Has id := Pool.has_of_alive (by simp [prepared])
  have attached : (p.modify id (fun e => { e with
      nodes := (m.features.attachToAll (p.environment id).nodes).1 })).All E :=
    all.modify (fun holds => upkeep.attached _ prepared holds ready)
  apply Sustains.update_bind
  dsimp only
  apply Work.Sustains.environment_bind
  cases failed : (m.features.attachToAll (p.environment id).nodes).2 with
  | some cause => exact deploymentFailed_sustains attached _ _
  | none =>
    refine .bind (setStatus_sustains attached (fun _ => ?_)) (fun moved q after => ?_)
    · rw [Pool.environment_modify, if_pos ⟨rfl, has⟩]
      exact upkeep.equipped _ prepared (all id) ready failed
    · cases moved with
      | error error => exact .pure (.failed after.1)
      | ok _ => exact .modify_bind (.pure ⟨after.1, fun _ _ => trivial⟩)

/-- Nobody else changes the environment before the platform's answer, which is about the environment
as it was asked for. -/
theorem provision_sustains (upkeep : m.Upkeep A E Ready) (all : p.All E)
    (prepared : (p.environment id).status = .prepared) :
    (m.provision id).Sustains id (Pool.All E) A (Leaves E (fun _ => True)) p := by
  refine .environment_bind (.cancelled_bind ?_)
  split
  · exact .pure (.failed all)
  · refine .request_bind all (fun later deployed same all answered => .modify_bind ?_)
    have known := upkeep.accepted _ deployed answered prepared (same ▸ all id)
    have now : (later.modify id (·.accept deployed.provision)).environment id =
        (p.environment id).accept deployed.provision := by
      have has : later.Has id := Pool.has_of_alive (by simp [same, prepared])
      rw [Pool.environment_modify, if_pos ⟨rfl, has⟩, same]
    have accepted : (later.modify id (·.accept deployed.provision)).All E :=
      all.modify (fun _ => same ▸ known.1)
    rcases outcome : deployed.outcome with _ | (source | _)
    · exact .pure (.failed accepted)
    · exact deploymentFailed_sustains accepted _ source
    · apply equip_sustains upkeep accepted
      · rw [now]
        exact prepared
      · rw [now]
        exact known.2 outcome

theorem deployHeld_sustains (upkeep : m.Upkeep A E Ready) (all : p.All E) :
    (m.deployHeld id).Sustains id (Pool.All E) A (Leaves E (fun _ => True)) p := by
  apply Work.Sustains.environment_bind
  cases status : (p.environment id).status with
  | deployed | connected => exact .pure ⟨all, fun _ _ => trivial⟩
  | deleted => exact .pure (.failed all)
  | prepared => exact provision_sustains upkeep all status
  | new =>
    refine .bind (askPlatform_sustains upkeep all status) (fun asked q after => ?_)
    cases asked with
    | error error => exact .pure (.failed after.1)
    | ok value => exact provision_sustains upkeep after.1 (after.2 value rfl)

/-- Connecting an environment that nobody else changes keeps what holds of all. -/
abbrev Connects (m : Manager) (A : (r : Request) → r.Reply → Prop) (E : Environment → Prop) : Prop :=
  ∀ id p, p.All E → (m.connectHeld id).Sustains id (Pool.All E) A (fun _ q => q.All E) p

/-- All tasks keep what holds of all environments. -/
theorem perform_keeps (upkeep : m.Upkeep A E Ready) (connects : m.Connects A E) :
    Traffic.KeptBy m (Pool.All E) A := by
  intro task p b all known
  have meets := m.perform_meets task b known
  cases task with
  | deploy id =>
    apply (deployHeld_on m id).holding_maintains rfl b (known id rfl) all
    · intro _ _ _ _ closed
      exact ⟨closed, trivial⟩
    · intro later all
      have locked : (later.lock id).All E := all
      exact (deployHeld_sustains upkeep locked).mono (fun _ _ after => after.1)
  | connect id =>
    apply (connectHeld_on m id).holding_maintains rfl b (known id rfl) all
    · intro _ _ _ _ closed
      exact ⟨closed, trivial⟩
    · intro later all
      exact connects id (later.lock id) all
  | prepare requirement => exact .of_respects meets (prepare_preserves upkeep requirement) all
  | markDirty id => exact .of_respects meets (markDirty_preserves upkeep id) all
  | release id => exact .of_respects meets (release_preserves upkeep id) all
  | delete id => exact .of_respects meets (delete_preserves upkeep id) all
  | shutdown => exact .of_respects meets (shutdown_preserves upkeep) all

/-- It holds of every environment, whatever clients do and in whatever order. -/
theorem traffic_upheld (upkeep : m.Upkeep A E Ready) (connects : m.Connects A E)
    (absent : ∀ id, E (Pool.absent id)) (rules : Standing → Task → Bool) (turns : List Turn)
    (answered : Traffic.Answered A turns) : (m.traffic rules turns).pool.All E := by
  have empty : ({} : Traffic).Maintained m (Pool.All E) A (fun _ => {}) :=
    ⟨.empty m, absent, fun _ _ pending => nomatch pending⟩
  obtain ⟨stances, maintained⟩ := empty.run (perform_keeps upkeep connects) (fun _ all => all) rules
    turns answered
  exact maintained.here

end Manager

end Upkeep

end Testbed
