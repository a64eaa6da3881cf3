import Testbed.Proofs.BareMetal.Deployment
import Testbed.Proofs.Lifecycle.Work
import Testbed.Proofs.Program.Log

/-!
# Attempts at a deployment

A manager has a bare-metal platform deploy at a site, which answers the calls of the platform or
lets the run be cancelled while one is pending. How an attempt ends, how it leaves the environment
and which calls it made depends on the status of the environment and on what comes of the
configuration at the site.
-/
namespace Testbed

variable {ω α β : Type}

section Ends

variable {s : Surroundings ω} {work : Work α} {p : Pool} {w : ω} {Q Q' : α → Pool → ω → Prop}

/-- What holds where a run of work ends. -/
def Work.Ends (s : Surroundings ω) (work : Work α) (p : Pool) (w : ω) (Q : α → Pool → ω → Prop) :
    Prop :=
  Q (Work.run s work p w).1 (Work.run s work p w).2.1 (Work.run s work p w).2.2

namespace Work.Ends

theorem mono (h : Work.Ends s work p w Q) (weaker : ∀ a q v, Q a q v → Q' a q v) :
    Work.Ends s work p w Q' := weaker _ _ _ h

theorem pure {a : α} (h : Q a p w) : Work.Ends s (Pure.pure a) p w Q := h

theorem bind {f : α → Work β} {Q' : β → Pool → ω → Prop} (first : Work.Ends s work p w Q)
    (rest : ∀ a q v, Q a q v → Work.Ends s (f a) q v Q') : Work.Ends s (work >>= f) p w Q' := by
  unfold Work.Ends Work.run
  rw [Program.run_bind]
  exact rest _ _ _ first

theorem modify_bind {change : Pool → Pool} {f : Unit → Work α}
    (h : Work.Ends s (f ()) (change p) w Q) : Work.Ends s (Program.modify change >>= f) p w Q := h

theorem update_bind {change : Pool → β × Pool} {f : β → Work α}
    (h : Work.Ends s (f (change p).1) (change p).2 w Q) :
    Work.Ends s (Program.update change >>= f) p w Q := h

theorem environment_bind {id : EnvironmentId} {f : Environment → Work α}
    (h : Work.Ends s (f (p.environment id)) p w Q) :
    Work.Ends s (Work.environment id >>= f) p w Q := h

theorem cancelled_bind {f : Bool → Work α} (h : Work.Ends s (f p.cancelled) p w Q) :
    Work.Ends s (Work.cancelled >>= f) p w Q := h

theorem request_bind {r : Request} {f : r.Reply → Work α}
    (h : Work.Ends s (f (s.answer r p w).1) (s.answer r p w).2.1 (s.answer r p w).2.2 Q) :
    Work.Ends s (Program.request r >>= f) p w Q := h

/-- Work that makes no request comes before the rest. -/
theorem advance_bind {first : Work β} {f : β → Work α} {b : β} {q : Pool}
    (advanced : first.advance p = (.finished b, q)) (h : Work.Ends s (f b) q w Q) :
    Work.Ends s (first >>= f) p w Q := by
  unfold Work.Ends Work.run
  rw [Program.run_bind, Program.run_of_advance _ _ advanced]
  exact h

theorem of_advance {a : α} {q : Pool} (advanced : work.advance p = (.finished a, q))
    (h : Q a q w) : Work.Ends s work p w Q := by
  unfold Work.Ends Work.run
  rw [Program.run_of_advance _ _ advanced]
  exact h

end Work.Ends

/-- Only the cancellation of the run can come with an answer. -/
theorem Surroundings.environment_answer (s : Surroundings ω) (r : Request) (p : Pool) (w : ω)
    (id : EnvironmentId) : (s.answer r p w).2.1.environment id = p.environment id := by
  unfold Surroundings.answer
  dsimp only
  split <;> rfl

end Ends

/-- An environment with as many features attached to its nodes as can be. -/
def Manager.attached (m : Manager) (e : Environment) : Environment :=
  { e with nodes := (m.features.attachToAll e.nodes).1 }

namespace BareMetal

/-- The calls that a platform began, with the answers of those that were not given up. -/
abbrev CallLog := Log Call Call.Reply

/-- Where a platform deploys. -/
structure Site (ω : Type) where
  /-- Answer a call, or let the run be cancelled first. -/
  answer : (c : Call) → ω → Option c.Reply × ω
  /-- What happens while the manager waits for anything else. -/
  pass : ω → ω
  /-- Whether the run has been cancelled. -/
  cancelled : ω → Bool

/-- A run of the deployment by itself, from what an environment is provided with so far. -/
def PlatformConfig.deployAt (config : PlatformConfig) (site : Site ω) (p : Provision)
    (w : ω × CallLog) : Option (Except BareMetalError Unit) × Provision × ω × CallLog :=
  config.deploy.runUntil (Program.noting site.answer) p w

/-- Whatever holds of all traces of the deployment holds of a run. -/
theorem PlatformConfig.deployAt_traces {config : PlatformConfig} {site : Site ω}
    {Q : CallLog → Option (Except BareMetalError Unit) → Provision → Prop} {p q : Provision}
    {w v : ω} {outcome : Option (Except BareMetalError Unit)} {calls : CallLog}
    (traced : config.deploy.Traces Q p)
    (ran : config.deployAt site p (w, []) = (outcome, q, v, calls)) : Q calls outcome q := by
  obtain ⟨log, kept, holds⟩ := traced.runUntil site.answer w []
  rw [PlatformConfig.deployAt] at ran
  rw [ran] at kept holds
  obtain rfl : calls = log := kept
  exact holds

/-- The surroundings of a manager with a bare-metal platform, which keep a log of the calls. -/
def PlatformConfig.surroundings (config : PlatformConfig) (site : Site ω) :
    Surroundings (ω × CallLog) where
  reply
    | .prepare e, (w, calls) =>
      (some (.ok (config.canHost e.nodes.length)), site.pass w, calls)
    | .deploy e, w =>
      let ran := config.deployAt site e.provision w
      (⟨ran.2.1, ran.1.map (·.mapError BareMetalError.toPlatform)⟩, ran.2.2)
    | r, (w, calls) => (r.obliging, site.pass w, calls)
  cancelled w := site.cancelled w.1

/-- What is seen of an attempt. -/
structure Attempt where
  result : Except LifecycleError Unit
  pool : Pool
  calls : CallLog

/-- An attempt of a manager to deploy an environment. -/
def PlatformConfig.attempt (config : PlatformConfig) (m : Manager) (site : Site ω) (p : Pool)
    (id : EnvironmentId) (w : ω) : Attempt :=
  let ran := Work.run (config.surroundings site) (m.deploy id) p (w, [])
  ⟨ran.1, ran.2.1, ran.2.2.2⟩

section Attempts

variable (config : PlatformConfig) (m : Manager) (site : Site ω)

/-- How provisioning a prepared environment ends, how the environment is left, and the calls that
were made. -/
inductive Provisions (e : Environment) : Except LifecycleError Unit → Environment → CallLog → Prop
  where
  | cancelled : Provisions e (.error (.cancelled .deploy)) e []
  | interrupted {w v : ω} {provision : Provision} {calls : CallLog}
    (ran : config.deployAt site e.provision (w, []) = (none, provision, v, calls)) :
    Provisions e (.error (.cancelled .deploy)) (e.accept provision) calls
  | failed {w v : ω} {provision : Provision} {calls : CallLog} {error : BareMetalError}
    (ran : config.deployAt site e.provision (w, []) =
      (some (.error error), provision, v, calls)) :
    Provisions e (.error (.deployment e.name error.toPlatform)) (e.accept provision) calls
  | unequipped {w v : ω} {provision : Provision} {calls : CallLog} {cause : FeatureError}
    (ran : config.deployAt site e.provision (w, []) = (some (.ok ()), provision, v, calls))
    (attached : (m.features.attachToAll (e.accept provision).nodes).2 = some cause) :
    Provisions e (.error (.deployment e.name (.feature cause)))
      (m.attached (e.accept provision)) calls
  | equipped {w v : ω} {provision : Provision} {calls : CallLog}
    (ran : config.deployAt site e.provision (w, []) = (some (.ok ()), provision, v, calls))
    (attached : (m.features.attachToAll (e.accept provision).nodes).2 = none) :
    Provisions e (.ok ()) { m.attached (e.accept provision) with status := .deployed } calls

/-- The same for an attempt as a whole. -/
inductive Attempts (e : Environment) : Except LifecycleError Unit → Environment → CallLog → Prop
  where
  | settled (deployed : e.status.isDeployed = true) : Attempts e (.ok ()) e []
  | deleted (deleted : e.status = .deleted) :
    Attempts e (.error (.environment (.invalidState e.name "deploy" .deleted))) e []
  | unprepared (new : e.status = .new) : Attempts e (.error (.cancelled .prepare)) e []
  | refused (new : e.status = .new) (unable : config.canHost e.nodes.length = false) :
    Attempts e (.error (.deployment e.name (.capacity s!"{m.platform} cannot host {e.name}"))) e []
  | agreed {result : Except LifecycleError Unit} {left : Environment} {calls : CallLog}
    (new : e.status = .new) (able : config.canHost e.nodes.length = true)
    (provisions : Provisions config m site { e with status := .prepared } result left calls) :
    Attempts e result left calls
  | prepared {result : Except LifecycleError Unit} {left : Environment} {calls : CallLog}
    (prepared : e.status = .prepared) (provisions : Provisions config m site e result left calls) :
    Attempts e result left calls

variable {config m site} {id : EnvironmentId} {p : Pool}

/-- A status that an environment can take is set at once. -/
theorem setStatus_advances {e : Environment} (next : EnvironmentStatus)
    (here : p.environment id = e) (allowed : e.status.canBecome next = true)
    (alive : e.status ≠ .deleted) :
    ∃ q, (Manager.setStatus id next).advance p = (.finished (.ok ()), q) ∧
      q.environment id = { e with status := next } := by
  subst here
  refine ⟨_, Manager.setStatus_advance allowed, ?_⟩
  rw [Pool.environment_modify, if_pos ⟨rfl, Pool.has_of_alive alive⟩]

/-- Equipping the nodes is a matter of their features, and nothing is asked for. -/
theorem equip_ends {s : Surroundings ω} {w : ω} (prepared : (p.environment id).status = .prepared) :
    Work.Ends s (m.equip id) p w (fun result q v => v = w ∧
      match (m.features.attachToAll (p.environment id).nodes).2 with
      | some cause => result = .error (.deployment (p.environment id).name (.feature cause)) ∧
        q.environment id = m.attached (p.environment id)
      | none => result = .ok () ∧
        q.environment id = { m.attached (p.environment id) with status := .deployed }) := by
  have has : p.Has id := Pool.has_of_alive (by simp [prepared])
  let equipped := p.modify id
    (fun e => { e with nodes := (m.features.attachToAll (p.environment id).nodes).1 })
  have now : equipped.environment id = m.attached (p.environment id) := by
    rw [Pool.environment_modify, if_pos ⟨rfl, has⟩]
    rfl
  refine .update_bind (.environment_bind ?_)
  change Work.Ends s (match (m.features.attachToAll (p.environment id).nodes).2 with
    | some cause => Manager.deploymentFailed (equipped.environment id) (.feature cause)
    | none => _) equipped w _
  cases (m.features.attachToAll (p.environment id).nodes).2 with
  | some cause =>
    rw [now]
    exact .modify_bind (.pure ⟨rfl, rfl, now⟩)
  | none =>
    have status : (m.attached (p.environment id)).status = .prepared := prepared
    obtain ⟨q, advanced, moved⟩ := setStatus_advances .deployed now (by rw [status]; rfl)
      (by rw [status]; nofun)
    exact .advance_bind advanced (.modify_bind (.pure ⟨rfl, rfl, moved⟩))

theorem provision_ends {w : ω} (prepared : (p.environment id).status = .prepared) :
    Work.Ends (config.surroundings site) (m.provision id) p (w, []) (fun result q v =>
      Provisions config m site (p.environment id) result (q.environment id) v.2) := by
  have has : p.Has id := Pool.has_of_alive (by simp [prepared])
  refine .environment_bind (.cancelled_bind ?_)
  split
  · exact .pure .cancelled
  · refine .request_bind (.modify_bind ?_)
    have same := (config.surroundings site).environment_answer (.deploy (p.environment id)) p
      (w, []) id
    obtain ⟨ran, came⟩ : ∃ ran, config.deployAt site (p.environment id).provision (w, []) = ran :=
      ⟨_, rfl⟩
    have answered : (config.surroundings site).answer (.deploy (p.environment id)) p (w, []) =
        (⟨ran.2.1, ran.1.map (·.mapError BareMetalError.toPlatform)⟩,
          ((config.surroundings site).answer (.deploy (p.environment id)) p (w, [])).2.1,
          ran.2.2) := by
      rw [← came]
      rfl
    rw [answered]
    generalize ((config.surroundings site).answer (.deploy (p.environment id)) p (w, [])).2.1 = q
      at same ⊢
    obtain ⟨outcome, provision, v, calls⟩ := ran
    have accepted : (q.modify id (·.accept provision)).environment id =
        (p.environment id).accept provision := by
      have there : q.Has id := Pool.has_of_alive (by simp [same, prepared])
      rw [Pool.environment_modify, if_pos ⟨rfl, there⟩, same]
    rcases outcome with _ | (error | _)
    · refine .pure ?_
      rw [accepted]
      exact .interrupted came
    · refine .modify_bind (.pure ?_)
      change Provisions config m site _ _ ((q.modify id (·.accept provision)).environment id) _
      rw [accepted]
      exact .failed came
    · have status : ((q.modify id (·.accept provision)).environment id).status = .prepared := by
        rw [accepted]
        exact prepared
      refine (equip_ends status).mono ?_
      rintro result r _ ⟨rfl, equips⟩
      rw [accepted] at equips
      cases attached : (m.features.attachToAll ((p.environment id).accept provision).nodes).2 with
      | some cause =>
        rw [attached] at equips
        rw [equips.1, equips.2]
        exact .unequipped came attached
      | none =>
        rw [attached] at equips
        rw [equips.1, equips.2]
        exact .equipped came attached

theorem askPlatform_ends {w : ω × CallLog} (new : (p.environment id).status = .new) :
    Work.Ends (config.surroundings site) (m.askPlatform id) p w (fun result q v =>
      v.2 = w.2 ∧
      match result with
      | .ok () => config.canHost (p.environment id).nodes.length = true ∧
        q.environment id = { p.environment id with status := .prepared }
      | .error error => q.environment id = p.environment id ∧
        (error = .cancelled .prepare ∧ q.cancelled = true ∨
          config.canHost (p.environment id).nodes.length = false ∧
          error = .deployment (p.environment id).name
            (.capacity s!"{m.platform} cannot host {(p.environment id).name}"))) := by
  refine .environment_bind (.cancelled_bind ?_)
  split
  · rename_i stopped
    exact .pure ⟨rfl, rfl, .inl ⟨rfl, stopped⟩⟩
  · refine .request_bind ?_
    have same := (config.surroundings site).environment_answer (.prepare (p.environment id)) p w id
    obtain ⟨able, hosts⟩ : ∃ able, config.canHost (p.environment id).nodes.length = able :=
      ⟨_, rfl⟩
    have answered : (config.surroundings site).answer (.prepare (p.environment id)) p w =
        (some (.ok able),
          ((config.surroundings site).answer (.prepare (p.environment id)) p w).2.1,
          (site.pass w.1, w.2)) := by
      rw [← hosts]
      rfl
    rw [answered, hosts]
    generalize ((config.surroundings site).answer (.prepare (p.environment id)) p w).2.1 = q
      at same ⊢
    cases able with
    | false => exact .modify_bind (.pure ⟨rfl, same, .inr ⟨rfl, rfl⟩⟩)
    | true =>
      obtain ⟨r, advanced, moved⟩ := setStatus_advances .prepared same (by rw [new]; rfl)
        (by rw [new]; nofun)
      exact .of_advance advanced ⟨rfl, rfl, moved⟩

/-- What is provisioned is past being prepared. -/
theorem Provisions.prepared {e left : Environment} {result : Except LifecycleError Unit}
    {calls : CallLog} (provisions : Provisions config m site e result left calls) :
    result ≠ .error (.cancelled .prepare) := by
  cases provisions <;> exact nofun

theorem deployHeld_ends {w : ω} :
    Work.Ends (config.surroundings site) (m.deployHeld id) p (w, []) (fun result q v =>
      Attempts config m site (p.environment id) result (q.environment id) v.2 ∧
        (result = .error (.cancelled .prepare) → q.cancelled = true)) := by
  have provisioned (q : Pool) (v : ω) (prepared : (q.environment id).status = .prepared) :
      Work.Ends (config.surroundings site) (m.provision id) q (v, []) (fun result r u =>
        Provisions config m site (q.environment id) result (r.environment id) u.2 ∧
          (result = .error (.cancelled .prepare) → r.cancelled = true)) := by
    refine (provision_ends prepared).mono (fun result r u provisions => ⟨provisions, ?_⟩)
    exact fun unprepared => absurd unprepared provisions.prepared
  refine .environment_bind ?_
  cases status : (p.environment id).status with
  | deployed | connected =>
    refine .pure ⟨.settled ?_, nofun⟩
    rw [status]
    rfl
  | deleted => exact .pure ⟨.deleted status, nofun⟩
  | prepared =>
    exact (provisioned p w status).mono (fun _ _ _ => And.imp_left (.prepared status))
  | new =>
    refine .bind (askPlatform_ends status) ?_
    rintro asked q ⟨v, calls⟩ ⟨rfl, came⟩
    cases asked with
    | error error =>
      obtain ⟨same, ⟨rfl, stopped⟩ | ⟨unable, rfl⟩⟩ := came
      · refine .pure ⟨?_, fun _ => stopped⟩
        rw [same]
        exact .unprepared status
      · refine .pure ⟨?_, nofun⟩
        rw [same]
        exact .refused status unable
    | ok _ =>
      obtain ⟨able, now⟩ := came
      have prepared : (q.environment id).status = .prepared := by rw [now]
      refine (provisioned q v prepared).mono (fun _ _ _ => And.imp_left (fun provisions => ?_))
      rw [now] at provisions
      exact .agreed status able provisions

theorem attempt_attempts (config : PlatformConfig) (m : Manager) (site : Site ω) (p : Pool)
    (id : EnvironmentId) (w : ω) :
    let attempt := config.attempt m site p id w
    Attempts config m site (p.environment id) attempt.result (attempt.pool.environment id)
      attempt.calls ∧
    (attempt.result = .error (.cancelled .prepare) → attempt.pool.cancelled = true) := by
  have ends : Work.Ends (config.surroundings site) (m.deploy id) p (w, []) (fun result q v =>
      Attempts config m site (p.environment id) result (q.environment id) v.2 ∧
        (result = .error (.cancelled .prepare) → q.cancelled = true)) := by
    refine .request_bind (.modify_bind ?_)
    have same := (config.surroundings site).environment_answer (.lock id) p (w, []) id
    have answered : ((config.surroundings site).answer (.lock id) p (w, [])).2.2 =
      (site.pass w, []) := rfl
    rw [answered]
    generalize ((config.surroundings site).answer (.lock id) p (w, [])).2.1 = q at same ⊢
    rw [← same]
    exact .bind deployHeld_ends (fun _ _ _ came => .modify_bind (.pure came))
  exact ends

end Attempts

end BareMetal

end Testbed
