import Testbed.Proofs.Lifecycle.Yields

/-!
# Deploying

How far a deployment comes is told by its exchanges with the platform: it has the platform prepare,
if the environment is new, and then deploy, and equips the nodes last. The status that the
environment is left with says where this ended, and so does the error that is returned. It is asked
for nothing once the run is cancelled, and what it does not answer has been interrupted.
-/
namespace Testbed

open Program

variable {ω α : Type}

namespace Manager

/-- The answers to asking the platform whether it can host an environment, when the run has been
cancelled before or not, with the result and the status that they lead to. -/
inductive Asks (m : Manager) (e : Environment) :
    Bool → Journal → Except LifecycleError Unit → EnvironmentStatus → Prop where
  | cancelled : Asks m e true [] (.error (.cancelled .prepare)) .new
  | interrupted : Asks m e false [⟨.prepare e, none⟩] (.error (.cancelled .prepare)) .new
  | refused : Asks m e false [⟨.prepare e, some (.ok false)⟩]
    (.error (.deployment e.name (.capacity s!"{m.platform} cannot host {e.name}"))) .new
  | failed (source : PlatformError) : Asks m e false [⟨.prepare e, some (.error source)⟩]
    (.error (.deployment e.name source)) .new
  | agreed : Asks m e false [⟨.prepare e, some (.ok true)⟩] (.ok ()) .prepared

/-- The same for having a prepared environment provisioned. -/
inductive Provisions (m : Manager) (e : Environment) :
    Bool → Journal → Except LifecycleError Unit → EnvironmentStatus → Prop where
  | cancelled : Provisions m e true [] (.error (.cancelled .deploy)) .prepared
  | interrupted (provision : Provision) : Provisions m e false [⟨.deploy e, ⟨provision, none⟩⟩]
    (.error (.cancelled .deploy)) .prepared
  | failed (provision : Provision) (source : PlatformError) :
    Provisions m e false [⟨.deploy e, ⟨provision, some (.error source)⟩⟩]
      (.error (.deployment e.name source)) .prepared
  | unequipped {provision : Provision} {cause : FeatureError}
    (attached : (m.features.attachToAll (e.accept provision).nodes).2 = some cause) :
    Provisions m e false [⟨.deploy e, ⟨provision, some (.ok ())⟩⟩]
      (.error (.deployment e.name (.feature cause))) .prepared
  | equipped {provision : Provision}
    (attached : (m.features.attachToAll (e.accept provision).nodes).2 = none) :
    Provisions m e false [⟨.deploy e, ⟨provision, some (.ok ())⟩⟩] (.ok ()) .deployed

/-- The same for a whole deployment. The run has been cancelled before it, or not, and before the
answer to whether the platform can host the environment. -/
inductive Deploys (m : Manager) (e : Environment) (stopped later : Bool) :
    Journal → Except LifecycleError Unit → EnvironmentStatus → Prop where
  | settled (deployed : e.status.isDeployed = true) :
    Deploys m e stopped later [] (.ok ()) e.status
  | deleted (deleted : e.status = .deleted) : Deploys m e stopped later []
    (.error (.environment (.invalidState e.name "deploy" .deleted))) .deleted
  | prepared {journal : Journal} {result : Except LifecycleError Unit} {status : EnvironmentStatus}
    (prepared : e.status = .prepared) (provisions : m.Provisions e stopped journal result status) :
    Deploys m e stopped later journal result status
  | unprepared {journal : Journal} {error : LifecycleError} {status : EnvironmentStatus}
    (new : e.status = .new) (asks : m.Asks e stopped journal (.error error) status) :
    Deploys m e stopped later journal (.error error) status
  | agreed {first rest : Journal} {result : Except LifecycleError Unit} {status : EnvironmentStatus}
    (new : e.status = .new) (asks : m.Asks e stopped first (.ok ()) .prepared)
    (provisions : m.Provisions { e with status := .prepared } later rest result status) :
    Deploys m e stopped later (first ++ rest) result status

theorem Asks.prepared {m : Manager} {e : Environment} {stopped : Bool} {journal : Journal}
    {reached : EnvironmentStatus} (asks : m.Asks e stopped journal (.ok ()) reached) :
    reached = .prepared := by
  cases asks
  rfl

end Manager

/-- Whether a result is a deployment that failed, counted. -/
def failedDeployments : Except LifecycleError α → UInt64
  | .error (.deployment _ _) => 1
  | .error (.noEnvironmentAvailable _) | .error (.connection ..) | .error (.environment _)
  | .error (.cancelled _) | .ok _ => 0

/-- How the environment and the counters are left. -/
structure Pool.Left (id : EnvironmentId) (p : Pool) (result : Except LifecycleError Unit)
    (reached : EnvironmentStatus) (q : Pool) : Prop where
  status : (q.environment id).status = reached
  failures : q.metrics.deploymentFailures =
    p.metrics.deploymentFailures + failedDeployments result
  deployed : q.metrics.deployed =
    p.metrics.deployed +
      if (p.environment id).status ≠ .deployed ∧ reached = .deployed then 1 else 0

namespace Pool.Left

variable {id : EnvironmentId} {p q r : Pool} {result : Except LifecycleError Unit}
  {reached : EnvironmentStatus}

/-- Nothing was counted. -/
theorem uncounted (status : (q.environment id).status = reached) (metrics : q.metrics = p.metrics)
    (undeployed : reached = .deployed → (p.environment id).status = .deployed)
    (unfailed : failedDeployments result = 0) : p.Left id result reached q where
  status
  failures := by rw [metrics, unfailed, UInt64.add_zero]
  deployed := by rw [metrics, if_neg (fun now => now.1 (undeployed now.2)), UInt64.add_zero]

/-- A failure was counted. -/
theorem failed {name : String} {source : PlatformError}
    (status : (q.environment id).status = reached) (metrics : q.metrics = p.metrics)
    (undeployed : reached ≠ .deployed) :
    p.Left id (.error (.deployment name source)) reached (q.count .deploymentFailures) where
  status
  failures := congrArg (·.deploymentFailures + 1) metrics
  deployed := by
    rw [if_neg (fun now => undeployed now.2), UInt64.add_zero]
    exact congrArg (·.deployed) metrics

/-- What is counted is counted since before a change that counts nothing. -/
theorem since (left : q.Left id result reached r) (metrics : q.metrics = p.metrics)
    (status : (q.environment id).status = (p.environment id).status) :
    p.Left id result reached r :=
  ⟨left.status, metrics ▸ left.failures, metrics ▸ status ▸ left.deployed⟩

/-- A part of a deployment that counts nothing comes before the rest of it. -/
theorem after {middle : EnvironmentStatus} (first : p.Left id (.ok ()) middle q)
    (rest : q.Left id result reached r) (before : (p.environment id).status ≠ .deployed)
    (between : middle ≠ .deployed) : p.Left id result reached r where
  status := rest.status
  failures := by
    rw [rest.failures, first.failures]
    exact congrArg (· + _) (UInt64.add_zero _)
  deployed := by
    rw [rest.deployed, first.deployed, if_neg (fun now => between now.2), UInt64.add_zero,
      first.status]
    simp only [before, between, ne_eq, not_false_eq_true, true_and]

end Pool.Left

namespace Manager

variable {m : Manager} {s : Surroundings ω} {id : EnvironmentId} {p : Pool} {w : ω}

theorem deploymentFailed_yields {Q : Journal → Except LifecycleError Unit → Pool → ω → Prop}
    {e : Environment} {source : PlatformError}
    (h : Q [] (.error (.deployment e.name source)) (p.count .deploymentFailures) w) :
    Work.Yields s (deploymentFailed e source) p w Q :=
  .modify_bind (.pure h)

theorem askPlatform_yields (new : (p.environment id).status = .new) :
    let asked := s.answer (.prepare (p.environment id)) p w
    Work.Yields s (m.askPlatform id) p w (fun journal result q _ => ∃ reached,
      m.Asks (p.environment id) p.cancelled journal result reached ∧ p.Left id result reached q ∧
        (result = .ok () → q.environment id = { p.environment id with status := .prepared } ∧
          q.cancelled = asked.2.1.cancelled)) := by
  intro asked
  have has : p.Has id := Pool.has_of_alive (by simp [new])
  refine .environment_bind (.cancelled_bind ?_)
  cases stopped : p.cancelled with
  | true => exact .pure ⟨_, .cancelled, .uncounted new rfl nofun rfl, nofun⟩
  | false =>
    obtain ⟨cancelled, same⟩ := s.answer_pool (.prepare (p.environment id)) p w
    refine .asked_bind ?_
    simp only [asked]
    generalize s.answer (.prepare (p.environment id)) p w = asked at same ⊢
    obtain ⟨reply, q, _⟩ := asked
    obtain rfl : q = { p with cancelled } := same
    rcases reply with _ | (source | (_ | _))
    · exact .pure ⟨_, .interrupted, .uncounted new rfl nofun rfl, nofun⟩
    · exact deploymentFailed_yields ⟨_, .failed source, .failed new rfl nofun, nofun⟩
    · exact deploymentFailed_yields ⟨_, .refused, .failed new rfl nofun, nofun⟩
    · have allowed : (p.environment id).status.canBecome .prepared = true := by rw [new]; rfl
      refine .of_advance (setStatus_advance (p := { p with cancelled }) allowed) ?_
      have now := Pool.environment_modify { p with cancelled } id id
        (fun _ => { p.environment id with status := .prepared })
      rw [if_pos ⟨rfl, has⟩] at now
      have status := congrArg Environment.status now
      exact ⟨_, .agreed, .uncounted status rfl nofun rfl, fun _ => ⟨now, rfl⟩⟩

/-- Equipping the nodes makes no request. -/
theorem equip_yields (prepared : (p.environment id).status = .prepared) :
    Work.Yields s (m.equip id) p w (fun journal result q _ => journal = [] ∧
      match (m.features.attachToAll (p.environment id).nodes).2 with
      | some cause => result = .error (.deployment (p.environment id).name (.feature cause)) ∧
        p.Left id result .prepared q
      | none => result = .ok () ∧ p.Left id result .deployed q) := by
  have has : p.Has id := Pool.has_of_alive (by simp [prepared])
  let equipped := p.modify id
    (fun e => { e with nodes := (m.features.attachToAll (p.environment id).nodes).1 })
  have now : equipped.environment id = { p.environment id with
      nodes := (m.features.attachToAll (p.environment id).nodes).1 } := by
    rw [Pool.environment_modify, if_pos ⟨rfl, has⟩]
  refine .update_bind (.environment_bind ?_)
  change Work.Yields s (match (m.features.attachToAll (p.environment id).nodes).2 with
    | some cause => deploymentFailed (equipped.environment id) (.feature cause)
    | none => _) equipped w _
  have status : (equipped.environment id).status = .prepared := by rw [now]; exact prepared
  cases (m.features.attachToAll (p.environment id).nodes).2 with
  | some cause =>
    rw [now]
    exact deploymentFailed_yields ⟨rfl, rfl, .failed status rfl nofun⟩
  | none =>
    have allowed : (equipped.environment id).status.canBecome .deployed = true := by
      rw [status]; rfl
    have moved := equipped.environment_modify id id
      (fun _ => { equipped.environment id with status := .deployed })
    rw [if_pos ⟨rfl, (p.has_modify id id _).2 has⟩] at moved
    refine .advance_bind (setStatus_advance allowed) (.modify_bind (.pure ?_))
    refine ⟨rfl, rfl, congrArg Environment.status moved, ?_, ?_⟩
    · exact (UInt64.add_zero _).symm
    · rw [if_pos ⟨by rw [prepared]; nofun, rfl⟩]
      rfl

theorem provision_yields (prepared : (p.environment id).status = .prepared) :
    Work.Yields s (m.provision id) p w (fun journal result q _ => ∃ reached,
      m.Provisions (p.environment id) p.cancelled journal result reached ∧
        p.Left id result reached q) := by
  have has : p.Has id := Pool.has_of_alive (by simp [prepared])
  refine .environment_bind (.cancelled_bind ?_)
  cases stopped : p.cancelled with
  | true => exact .pure ⟨_, .cancelled, .uncounted prepared rfl nofun rfl⟩
  | false =>
    refine .request_bind (fun deployed cancelled v => .modify_bind ?_)
    obtain ⟨provision, outcome⟩ := deployed
    let accepted := { p with cancelled }.modify id (·.accept provision)
    have now : accepted.environment id = (p.environment id).accept provision := by
      rw [Pool.environment_modify, if_pos ⟨rfl, has⟩]
      rfl
    have status : (accepted.environment id).status = .prepared := by rw [now]; exact prepared
    rcases outcome with _ | (source | _)
    · exact .pure ⟨_, .interrupted provision, .uncounted status rfl nofun rfl⟩
    · exact deploymentFailed_yields ⟨_, .failed provision source, .failed status rfl nofun⟩
    · refine (equip_yields (m := m) (p := accepted) status).mono ?_
      rintro _ result q _ ⟨rfl, equips⟩
      rw [now] at equips
      cases attached : (m.features.attachToAll ((p.environment id).accept provision).nodes).2 with
      | some cause =>
        rw [attached] at equips
        obtain ⟨rfl, left⟩ := equips
        exact ⟨_, .unequipped attached, left.since rfl (status.trans prepared.symm)⟩
      | none =>
        rw [attached] at equips
        obtain ⟨rfl, left⟩ := equips
        exact ⟨_, .equipped attached, left.since rfl (status.trans prepared.symm)⟩

theorem deployHeld_yields (m : Manager) (s : Surroundings ω) (id : EnvironmentId) (p : Pool)
    (w : ω) :
    let asked := s.answer (.prepare (p.environment id)) p w
    Work.Yields s (m.deployHeld id) p w (fun journal result q _ => ∃ reached,
      m.Deploys (p.environment id) p.cancelled asked.2.1.cancelled journal result reached ∧
        p.Left id result reached q ∧
        ((p.environment id).status ≠ .new → (p.environment id).status ≠ .prepared → q = p)) := by
  intro asked
  refine .environment_bind ?_
  cases status : (p.environment id).status with
  | deployed | connected =>
    refine .pure ⟨_, .settled ?_, .uncounted rfl rfl (fun now => now) rfl, fun _ _ => rfl⟩
    rw [status]
    rfl
  | deleted => exact .pure ⟨_, .deleted status, .uncounted status rfl nofun rfl, fun _ _ => rfl⟩
  | prepared =>
    refine (provision_yields status).mono ?_
    rintro _ _ _ _ ⟨reached, provisions, left⟩
    exact ⟨reached, .prepared status provisions, left, fun _ other => absurd rfl other⟩
  | new =>
    refine .bind (askPlatform_yields status) ?_
    rintro first result q v ⟨middle, asks, left, ready⟩
    cases result with
    | error error =>
      refine .pure ⟨middle, ?_, left, fun other => absurd rfl other⟩
      rw [List.append_nil]
      exact .unprepared status asks
    | ok _ =>
      obtain rfl := asks.prepared
      obtain ⟨now, later⟩ := ready rfl
      refine (provision_yields left.status).mono ?_
      rintro rest result r _ ⟨reached, provisions, after⟩
      rw [now, later] at provisions
      have before : (p.environment id).status ≠ .deployed := by rw [status]; nofun
      exact ⟨reached, .agreed status asks provisions, left.after after before nofun,
        fun other => absurd rfl other⟩

end Manager

/-- Whether a platform agrees to host an environment. -/
def Exchange.agrees : Exchange Request Request.Reply → Bool
  | ⟨.prepare _, some (.ok true)⟩ => true
  | _ => false

/-- What an exchange with the platform is to blame for when the deployment of an environment of this
name fails. -/
def Manager.blamed (m : Manager) (name : String) :
    Exchange Request Request.Reply → Option PlatformError
  | ⟨.prepare _, some (.ok false)⟩ => some (.capacity s!"{m.platform} cannot host {name}")
  | ⟨.prepare _, some (.error source)⟩ | ⟨.deploy _, ⟨_, some (.error source)⟩⟩ => some source
  | ⟨.deploy e, ⟨provision, some (.ok ())⟩⟩ =>
    (m.features.attachToAll (e.accept provision).nodes).2.map .feature
  | _ => none

/-- Whether an exchange with the platform shows that an operation was interrupted. -/
def Exchange.interrupts : Operation → Exchange Request Request.Reply → Bool
  | .prepare, ⟨.prepare _, none⟩ | .deploy, ⟨.deploy _, ⟨_, none⟩⟩ => true
  | _, _ => false

/-- Whether the platform provides an environment in an exchange, and features can be attached to all
nodes of it. -/
def Manager.provides (m : Manager) : Exchange Request Request.Reply → Bool
  | ⟨.deploy e, ⟨provision, some (.ok ())⟩⟩ =>
    (m.features.attachToAll (e.accept provision).nodes).2.isNone
  | _ => false

/-- Whether an operation of a deployment is left out, since the run has been cancelled before the
deployment, or later, before the platform agrees. -/
def Environment.skips (e : Environment) (stopped later agreed : Bool) : Operation → Bool
  | .prepare => e.status = .new && stopped
  | .deploy => e.status = .prepared && stopped || e.status = .new && agreed && later
  | .connect => false

/-- What the platform is asked for in a deployment. -/
def Environment.deployCalls (e : Environment) (stopped later agreed : Bool) : List Request :=
  match e.status with
  | .new =>
    if stopped then []
    else if agreed && !later then [.prepare e, .deploy { e with status := .prepared }]
    else [.prepare e]
  | .prepared => if stopped then [] else [.deploy e]
  | .deployed | .connected | .deleted => []

namespace Manager.Deploys

variable {m : Manager} {e : Environment} {stopped later : Bool} {journal : Journal}
  {result : Except LifecycleError Unit} {reached : EnvironmentStatus}

theorem of_deployed (deploys : m.Deploys e stopped later journal result reached)
    (deployed : e.status.isDeployed = true) : journal = [] ∧ result = .ok () := by
  cases deploys with
  | settled => exact ⟨rfl, rfl⟩
  | deleted other | prepared other | unprepared other | agreed other =>
    simp [other, EnvironmentStatus.isDeployed] at deployed

theorem of_deleted (deploys : m.Deploys e stopped later journal result reached)
    (deleted : e.status = .deleted) :
    journal = [] ∧ result = .error (.environment (.invalidState e.name "deploy" .deleted)) := by
  cases deploys with
  | settled deployed => simp [deleted, EnvironmentStatus.isDeployed] at deployed
  | deleted => exact ⟨rfl, rfl⟩
  | prepared other | unprepared other | agreed other => simp [deleted] at other

theorem of_new (deploys : m.Deploys e stopped later journal result reached)
    (new : e.status = .new) :
    (reached = .new ↔ journal.any Exchange.agrees = false) ∧
    (reached = .prepared ↔ journal.any Exchange.agrees = true ∧ result ≠ .ok ()) ∧
    (reached = .deployed ↔ result = .ok ()) := by
  cases deploys with
  | settled deployed => simp [new, EnvironmentStatus.isDeployed] at deployed
  | deleted deleted => simp [new] at deleted
  | prepared prepared => simp [new] at prepared
  | unprepared _ asks => cases asks <;> simp [Exchange.agrees]
  | agreed _ asks provisions =>
    cases asks
    cases provisions <;> simp [Exchange.agrees]

theorem of_prepared (deploys : m.Deploys e stopped later journal result reached)
    (prepared : e.status = .prepared) :
    (∀ k, .prepare k ∉ platformCalls journal) ∧
    (reached = .prepared ↔ result ≠ .ok ()) ∧ (reached = .deployed ↔ result = .ok ()) := by
  cases deploys with
  | settled deployed => simp [prepared, EnvironmentStatus.isDeployed] at deployed
  | deleted deleted => simp [prepared] at deleted
  | prepared _ provisions => cases provisions <;> simp [platformCalls]
  | unprepared new | agreed new => simp [prepared] at new

/-- The platform is asked as long as the run goes on. -/
theorem calls (deploys : m.Deploys e stopped later journal result reached) :
    platformCalls journal = e.deployCalls stopped later (journal.any Exchange.agrees) := by
  cases deploys with
  | settled deployed =>
    cases status : e.status <;> simp_all [EnvironmentStatus.isDeployed, Environment.deployCalls] <;>
      rfl
  | deleted deleted => simp [deleted, Environment.deployCalls, platformCalls]
  | prepared prepared provisions =>
    cases provisions <;> simp [prepared, Environment.deployCalls, platformCalls]
  | unprepared new asks =>
    cases asks <;> simp [new, Environment.deployCalls, platformCalls, Exchange.agrees]
  | agreed new asks provisions =>
    cases asks
    cases provisions <;> simp [new, Environment.deployCalls, platformCalls, Exchange.agrees]

/-- A deployment succeeds exactly if it has been done, or the platform provides what it is to. -/
theorem ok_iff (deploys : m.Deploys e stopped later journal result reached) :
    result = .ok () ↔ e.status.isDeployed = true ∨ journal.any m.provides = true := by
  cases deploys with
  | settled deployed => simp [deployed]
  | deleted deleted => simp [deleted, EnvironmentStatus.isDeployed]
  | prepared prepared provisions =>
    cases provisions with
    | unequipped attached | equipped attached =>
      simp [prepared, EnvironmentStatus.isDeployed, provides, attached]
    | cancelled | interrupted | failed => simp [prepared, EnvironmentStatus.isDeployed, provides]
  | unprepared new asks => cases asks <;> simp [new, EnvironmentStatus.isDeployed, provides]
  | agreed new asks provisions =>
    cases asks
    cases provisions with
    | unequipped attached | equipped attached =>
      simp [new, EnvironmentStatus.isDeployed, provides, attached]
    | cancelled | interrupted | failed => simp [new, EnvironmentStatus.isDeployed, provides]

/-- It is cancelled exactly if an exchange was interrupted, or left out because of that. -/
theorem cancelled_iff (deploys : m.Deploys e stopped later journal result reached)
    (operation : Operation) : result = .error (.cancelled operation) ↔
      journal.any (Exchange.interrupts operation) = true ∨
        e.skips stopped later (journal.any Exchange.agrees) operation = true := by
  cases deploys with
  | settled deployed =>
    cases operation <;> cases status : e.status <;>
      simp_all [EnvironmentStatus.isDeployed, Environment.skips]
  | deleted deleted => cases operation <;> simp [deleted, Environment.skips]
  | prepared prepared provisions =>
    cases provisions <;> cases operation <;>
      simp [prepared, Environment.skips, Exchange.interrupts]
  | unprepared new asks =>
    cases asks <;> cases operation <;>
      simp [new, Environment.skips, Exchange.interrupts, Exchange.agrees]
  | agreed new asks provisions =>
    cases asks
    cases provisions <;> cases operation <;>
      simp [new, Environment.skips, Exchange.interrupts, Exchange.agrees]

/-- A deployment failed exactly if the platform is to blame, and then says for what. -/
theorem blames (deploys : m.Deploys e stopped later journal result reached) (name : String)
    (source : PlatformError) : result = .error (.deployment name source) ↔
      name = e.name ∧ source ∈ journal.filterMap (m.blamed e.name) := by
  have provisioned {k : Environment} {going : Bool} (same : k.name = e.name) {rest : Journal}
      (provisions : m.Provisions k going rest result reached) :
      result = .error (.deployment name source) ↔
        name = e.name ∧ source ∈ rest.filterMap (m.blamed e.name) := by
    rw [← same]
    cases provisions with
    | cancelled | interrupted _ | failed _ _ => simp [blamed, eq_comm]
    | unequipped attached => simp [blamed, attached, eq_comm]
    | equipped attached => simp [blamed, attached]
  cases deploys with
  | settled deployed => simp
  | deleted deleted => simp
  | prepared _ provisions => exact provisioned rfl provisions
  | unprepared _ asks => cases asks <;> simp [blamed, eq_comm]
  | agreed _ asks provisions =>
    cases asks
    simpa [blamed] using provisioned (k := { e with status := .prepared }) rfl provisions

end Manager.Deploys

namespace Manager

/-- A deployment reports truthfully how far it came, whatever the platform answers and whenever the
run is cancelled. Once the environment is locked, the platform is asked as long as the run has not
been cancelled, and its answers decide everything else. There is nothing to do for an environment
that is provisioned, and nothing can be done for one that is deleted. A new one stays new unless the
platform agrees to host it, and a prepared one stays prepared unless everything after that succeeds;
then it is deployed, and the deployment has succeeded. It has been cancelled exactly if an exchange
was interrupted or is left out. What is blamed for a failure is what the platform or a feature
reported, and failures and successes are counted as they are reported. -/
theorem deploy_truthful (m : Manager) (s : Surroundings ω) (id : EnvironmentId) (p : Pool) (w : ω) :
    let e := p.environment id
    let locked := s.answer (.lock id) p w
    let asked := s.answer (.prepare e) (locked.2.1.lock id) locked.2.2
    let stopped := locked.2.1.cancelled
    let later := asked.2.1.cancelled
    let ran := Work.follow s.answer (m.deploy id) p (w, [])
    let result := ran.1
    let q := ran.2.1
    let journal := ran.2.2.2
    let agreed := journal.any Exchange.agrees
    let reached := (q.environment id).status
    (∃ rest, journal = ⟨.lock id, ()⟩ :: rest ∧ m.Deploys e stopped later rest result reached) ∧
    platformCalls journal = e.deployCalls stopped later agreed ∧
    (result = .ok () ↔ e.status.isDeployed = true ∨ journal.any m.provides = true) ∧
    (∀ operation, result = .error (.cancelled operation) ↔
      journal.any (Exchange.interrupts operation) = true ∨
        e.skips stopped later agreed operation = true) ∧
    (e.status.isDeployed = true →
      result = .ok () ∧ platformCalls journal = [] ∧ q = { p with cancelled := q.cancelled }) ∧
    (e.status = .deleted →
      result = .error (.environment (.invalidState e.name "deploy" .deleted)) ∧
        platformCalls journal = [] ∧ q = { p with cancelled := q.cancelled }) ∧
    (e.status = .new →
      (reached = .new ↔ agreed = false) ∧
      (reached = .prepared ↔ agreed = true ∧ result ≠ .ok ()) ∧
      (reached = .deployed ↔ result = .ok ())) ∧
    (e.status = .prepared →
      (∀ k, .prepare k ∉ platformCalls journal) ∧
      (reached = .prepared ↔ result ≠ .ok ()) ∧ (reached = .deployed ↔ result = .ok ())) ∧
    (∀ name source, result = .error (.deployment name source) ↔
      name = e.name ∧ source ∈ journal.filterMap (m.blamed e.name)) ∧
    q.metrics.deploymentFailures =
      p.metrics.deploymentFailures + failedDeployments result ∧
    q.metrics.deployed =
      p.metrics.deployed + if e.status ≠ .deployed ∧ reached = .deployed then 1 else 0 := by
  intro e locked asked stopped later ran result q journal agreed reached
  have yields : Work.Yields s (m.deploy id) p w (fun journal result q _ => ∃ rest reached,
      journal = ⟨.lock id, ()⟩ :: rest ∧ m.Deploys e stopped later rest result reached ∧
        p.Left id result reached q ∧
        (e.status ≠ .new → e.status ≠ .prepared → q = { p with cancelled := q.cancelled })) := by
    refine .holding ?_
    obtain ⟨cancelled, same⟩ := s.answer_pool (.lock id) p w
    have held := deployHeld_yields m s id (locked.2.1.lock id) locked.2.2
    simp only [stopped, later, asked, locked] at held ⊢
    rw [same] at held ⊢
    refine held.mono ?_
    rintro rest result q _ ⟨reached, deploys, left, settled⟩
    refine ⟨rest, reached, rfl, deploys, ⟨left.status, left.failures, left.deployed⟩, ?_⟩
    intro old unprepared
    rw [settled old unprepared]
    simp [Pool.lock, Pool.unlock]
  obtain ⟨rest, came, all, deploys, left, same⟩ := yields.run
  obtain rfl : came = reached := left.status.symm
  -- the lock is no matter of the platform
  have all : journal = ⟨.lock id, ()⟩ :: rest := all
  have calls : platformCalls journal = platformCalls rest := by rw [all]; rfl
  have agrees : agreed = rest.any Exchange.agrees := by simp only [agreed, all]; rfl
  have provided : journal.any m.provides = rest.any m.provides := by rw [all]; rfl
  have interrupts (operation : Operation) : journal.any (Exchange.interrupts operation) =
      rest.any (Exchange.interrupts operation) := by
    rw [all]
    cases operation <;> rfl
  have blamed : journal.filterMap (m.blamed e.name) = rest.filterMap (m.blamed e.name) := by
    rw [all]; rfl
  simp only [interrupts]
  rw [calls, agrees, provided, blamed]
  refine ⟨⟨rest, all, deploys⟩, deploys.calls, deploys.ok_iff, deploys.cancelled_iff,
    fun deployed => ?_, fun deleted => ?_, deploys.of_new, deploys.of_prepared, deploys.blames,
    left.failures, left.deployed⟩
  · obtain ⟨none, fine⟩ := deploys.of_deployed deployed
    refine ⟨fine, by rw [none]; rfl, same (fun new => ?_) (fun prepared => ?_)⟩
    · simp [new, EnvironmentStatus.isDeployed] at deployed
    · simp [prepared, EnvironmentStatus.isDeployed] at deployed
  · obtain ⟨none, refused⟩ := deploys.of_deleted deleted
    exact ⟨refused, by rw [none]; rfl, same (by simp [deleted]) (by simp [deleted])⟩

/-- A platform that agrees to host a new environment and is interrupted when it provides it: the
environment is left prepared, and nothing is counted. With one that is not interrupted it is
deployed. -/
theorem deploy_truthful_interrupted :
    let p : Pool := { environments :=
      [{ id := ⟨0⟩, name := "single", candidateIndex := 0, space := {}, nodes := [Node.new 0 {}] }] }
    let breaking : Surroundings Bool := {
      reply := fun r stopped => match r with
        | .deploy e => (⟨e.provision, none⟩, true)
        | r => (r.obliging, stopped)
      cancelled := fun stopped => stopped }
    let smooth : Surroundings Bool := ⟨fun r stopped => (r.obliging, stopped), fun stopped => stopped⟩
    let deployed (s : Surroundings Bool) := Work.follow s.answer (sample.deploy ⟨0⟩) p (false, [])
    (deployed breaking).1 = .error (.cancelled .deploy) ∧
      ((deployed breaking).2.1.environment ⟨0⟩).status = .prepared ∧
      (deployed breaking).2.1.metrics.deployed = 0 ∧
      (deployed smooth).1 = .ok () ∧
      ((deployed smooth).2.1.environment ⟨0⟩).status = .deployed ∧
      (deployed smooth).2.1.metrics.deployed = 1 := by
  intro p breaking smooth deployed
  obtain ⟨-, -, -, cancelled, -, -, broken, -, -, -, uncounted⟩ :=
    deploy_truthful sample breaking ⟨0⟩ p false
  obtain ⟨-, -, provided, -, -, -, done, -, -, -, counted⟩ :=
    deploy_truthful sample smooth ⟨0⟩ p false
  have stopped : (deployed breaking).1 = .error (.cancelled .deploy) :=
    (cancelled .deploy).2 (.inl rfl)
  have failed : (deployed breaking).1 ≠ .ok () := by rw [stopped]; nofun
  have prepared : ((deployed breaking).2.1.environment ⟨0⟩).status = .prepared :=
    (broken rfl).2.1.2 ⟨rfl, failed⟩
  have succeeded : (deployed smooth).1 = .ok () := provided.2 (.inr rfl)
  have reached : ((deployed smooth).2.1.environment ⟨0⟩).status = .deployed :=
    (done rfl).2.2.2 succeeded
  refine ⟨stopped, prepared, uncounted.trans ?_, succeeded, reached, counted.trans ?_⟩
  · rw [if_neg (fun now => ?_)]
    · rfl
    · exact absurd (prepared.symm.trans now.2) nofun
  · rw [if_pos ⟨nofun, reached⟩]
    rfl

end Manager

end Testbed
