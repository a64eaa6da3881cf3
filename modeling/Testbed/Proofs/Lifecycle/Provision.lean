import Testbed.Proofs.Lifecycle.Upkeep

/-!
# What a platform provides

Whatever successful deployments provide, and nothing else that is done to an environment takes away,
holds of every environment as long as it is deployed or connected, in all traffic. Nothing is known
of environments before their deployment has succeeded, or once they are deleted.
-/
namespace Testbed

open Program

/-- Whether something holds of an environment if it is deployed. -/
def Environment.WhenDeployed (On : Environment → Prop) (e : Environment) : Prop :=
  e.status.isDeployed = true → On e

/-- What successful deployments provide, given answers of some kind, and nothing else that a manager
does to an environment takes away. -/
structure Manager.Provides (m : Manager) (A : (r : Request) → r.Reply → Prop)
    (On : Environment → Prop) : Prop where
  accepted : ∀ e deployed, A (.deploy e) deployed → deployed.outcome = some (.ok ()) →
    On (e.accept deployed.provision)
  attached : ∀ e, On e → On { e with nodes := (m.features.attachToAll e.nodes).1 }
  opened : ∀ e index session, On e →
    On (e.modifyNode index (fun node => { node with session := some session }))
  flagged : ∀ e status dirty inUse, On e → On { e with status, dirty, inUse }

namespace Manager

variable {m : Manager} {A : (r : Request) → r.Reply → Prop} {On : Environment → Prop}

namespace Provides

/-- An environment is ready to be equipped once the platform has provided for it. -/
theorem upkeep (provides : m.Provides A On) : m.Upkeep A (Environment.WhenDeployed On) On where
  created _ _ := nofun
  handedOut e _ on deployed := provides.flagged e e.status e.dirty true (on deployed)
  handedBack e on deployed := provides.flagged e e.status e.dirty false (on deployed)
  dirtied e _ on deployed := provides.flagged e e.status true e.inUse (on deployed)
  deleted _ _ := nofun
  prepared _ _ _ := nofun
  accepted e deployed answered prepared _ := by
    constructor
    · intro provisioned
      have still : e.status.isDeployed = true := provisioned
      rw [prepared] at still
      cases still
    · exact provides.accepted e deployed answered
  attached e _ _ on _ := provides.attached e on
  equipped e _ _ on _ _ :=
    provides.flagged _ .deployed e.dirty e.inUse (provides.attached e on)

/-- Sessions take nothing away, and only deployed environments become connected. -/
theorem connects (provides : m.Provides A On) :
    m.Connects A (Environment.WhenDeployed On) := by
  intro id p all
  have moved : Work.Preserves (Environment.WhenDeployed On) (setStatus id .connected) := by
    refine .bind (Work.revise_preserves ?_) (fun _ => .pure _)
    intro e f set on _
    obtain ⟨allowed, rfl⟩ := Environment.setStatus_ok set
    have deployed : e.status.isDeployed = true := by
      cases status : e.status <;> rw [status] at allowed <;> first | rfl | cases allowed
    exact provides.flagged e .connected e.dirty e.inUse (on deployed)
  have keeps : Work.Preserves (Environment.WhenDeployed On) (m.connectHeld id) :=
    connectHeld_respects m {
      same := fun _ all => all
      asks := fun _ => trivial
      retried := fun _ all => all
      overflowed := fun _ all => all
      opened := fun _ index session all => all.modify (fun on deployed =>
        provides.opened _ index session (on deployed))
      moved
      reported := fun _ _ _ all => all }
  exact .of_keeps keeps (fun _ all => all) (fun _ _ _ all _ => all) all

end Provides

/-- What successful deployments provide holds of every deployed environment, whatever clients do and
in whatever order. -/
theorem traffic_provided (provides : m.Provides A On) (rules : Standing → Task → Bool)
    (turns : List Turn) (answered : Traffic.Answered A turns) (id : EnvironmentId)
    (deployed : ((m.traffic rules turns).pool.environment id).status.isDeployed = true) :
    On ((m.traffic rules turns).pool.environment id) :=
  traffic_upheld provides.upkeep provides.connects (fun _ => nofun) rules turns answered id deployed

end Manager

end Testbed
