import Testbed.Proofs.Lifecycle.Work
import Testbed.Proofs.Program.Journal

/-!
# What managing environments tells

The messages about results that were passed on can be read off the journal of a run. Managing
environments passes none on, and it lacks capacity only when the platform has said so.
-/
namespace Testbed

open Program

/-- What work asked and was answered. -/
abbrev Journal := List (Exchange Request Request.Reply)

/-- Do work and keep its journal, with the requests answered in any way and the pool open to
anything that others do while one is pending. -/
abbrev Work.follow {ω α : Type} (answer : (q : Request) → Pool → ω → q.Reply × Pool × ω)
    (work : Work α) : Pool → ω × Journal → α × Pool × ω × Journal :=
  Program.run (journaling answer) work

/-- The messages about results, in the order in which they were passed on. -/
def sent (journal : Journal) : List TestResultMessage :=
  journal.filterMap (fun exchange =>
    match exchange.request with
    | .notify (.testResult message) => some message
    | _ => none)

/-- The statuses that were told. -/
def statuses (journal : Journal) : List TestStatus := (sent journal).map (·.status)

theorem sent_append (first rest : Journal) : sent (first ++ rest) = sent first ++ sent rest :=
  List.filterMap_append

theorem statuses_append (first rest : Journal) :
    statuses (first ++ rest) = statuses first ++ statuses rest := by
  simp only [statuses, sent_append, List.map_append]

/-- Whether an answer says that the platform has no room for an environment. -/
def Exchange.LacksCapacity : Exchange Request Request.Reply → Prop
  | ⟨.prepare _, reply⟩ =>
    reply = some (.ok false) ∨ ∃ reason, reply = some (.error (.capacity reason))
  | ⟨.deploy _, reply⟩ => ∃ reason, reply.outcome = some (.error (.capacity reason))
  | _ => False

/-- Whether a request passes a message on. -/
def Request.Notifies : Request → Prop
  | .notify _ => True
  | .lock _ | .prepare _ | .deploy _ | .delete _ | .interruptible _ | .call _ => False

/-- Work that passes no message on. -/
abbrev Work.Quiet {α : Type} (work : Work α) : Prop :=
  work.Respects (fun _ _ => True) (fun r => ¬ r.Notifies)

section Quiet

variable {α : Type} {id : EnvironmentId}

theorem sent_eq_nil {journal : Journal}
    (quiet : ∀ exchange ∈ journal, ¬ exchange.request.Notifies) :
    sent journal = [] := by
  refine List.filterMap_eq_nil_iff.2 (fun exchange member => ?_)
  have silent := quiet exchange member
  cases request : exchange.request with
  | notify message =>
    rw [request] at silent
    exact absurd trivial silent
  | lock _ | prepare _ | deploy _ | delete _ | interruptible _ | call _ => rfl

theorem Work.Quiet.ensures {work : Work α} (quiet : Work.Quiet work) :
    work.Ensures (fun journal _ => sent journal = []) :=
  (Respects.ensures quiet).mono (fun _ _ silent => sent_eq_nil silent)

theorem Work.Quiet.holding {work : Work α} (quiet : Work.Quiet work) :
    Work.Quiet (Work.holding id work) := by
  refine .bind (.request nofun) (fun _ => .bind (.modify (fun _ => trivial)) (fun _ => ?_))
  exact .bind quiet (fun value => .bind (.modify (fun _ => trivial)) (fun _ => .pure value))

theorem Work.environment_quiet (id : EnvironmentId) : Work.Quiet (Work.environment id) :=
  .bind (.get (fun _ => trivial)) (fun _ => .pure _)

namespace Manager

variable (m : Manager) (id : EnvironmentId)

theorem prepare_quiet (requirement : EnvironmentSpace) : Work.Quiet (m.prepare requirement) :=
  .update (fun _ => trivial)

theorem revised_quiet (f : Environment → Except EnvironmentError Environment) :
    Work.Quiet (do return (← Work.revise id f).mapError LifecycleError.environment) :=
  .bind (.update (fun _ => trivial)) (fun _ => .pure _)

theorem connectHeld_quiet : Work.Quiet (m.connectHeld id) :=
  connectHeld_respects m {
    same := fun _ => trivial
    asks := fun _ => nofun
    retried := fun _ => trivial
    overflowed := fun _ => trivial
    opened := fun _ _ _ => trivial
    moved := revised_quiet id _
    reported := fun _ _ _ => trivial }

theorem delete_quiet : Work.Quiet (delete id) := by
  have held : Work.Quiet (deleteHeld id) := by
    refine .bind (Work.environment_quiet id) (fun e => ?_)
    split
    · exact .pure false
    · refine .bind ?relinquished (fun _ => .bind (.modify (fun _ => trivial)) (fun _ => .pure true))
      unfold relinquish
      split
      · exact .pure ()
      · refine .bind (.request nofun) (fun reply => ?_)
        cases reply with
        | ok _ => exact .pure ()
        | error error => exact .modify (fun _ => trivial)
  refine .bind held.holding (fun deleted => ?_)
  split
  · exact .modify (fun _ => trivial)
  · exact .pure ()

theorem release_quiet : Work.Quiet (m.release id) := by
  have held : Work.Quiet (Program.update (fun p : Pool =>
      let kept := m.keeps (p.environment id)
      (kept, if kept then p.modify id (fun e => { e with inUse := false }) else p))) :=
    .update (fun _ => trivial)
  refine .bind held.holding (fun kept => ?_)
  split
  · exact .pure ()
  · exact delete_quiet id

theorem markDirty_quiet : Work.Quiet (markDirty id) := (revised_quiet id _).holding

end Manager

end Quiet

/-- Nothing is told, and a lack of capacity is one that the platform reported. -/
structure Blames {α : Type} (journal : Journal) (result : Except LifecycleError α) : Prop where
  quiet : sent journal = []
  reported : ∀ error, result = .error error → error.isCapacity = true →
    ∃ exchange ∈ journal, exchange.LacksCapacity

namespace Blames

variable {α : Type} {journal : Journal} {result : Except LifecycleError α} {id : EnvironmentId}

theorem ok (quiet : sent journal = []) (value : α) : Blames journal (.ok value) :=
  ⟨quiet, nofun⟩

theorem error (quiet : sent journal = []) {error : LifecycleError}
    (other : error.isCapacity = false) :
    Blames journal (.error error : Except LifecycleError α) := by
  refine ⟨quiet, ?_⟩
  rintro _ ⟨⟩ lacking
  cases other.symm.trans lacking

theorem after {first rest : Journal} (quiet : sent first = []) (blames : Blames rest result) :
    Blames (first ++ rest) result := by
  refine ⟨by rw [sent_append, quiet, blames.quiet, List.append_nil], ?_⟩
  intro error failed lacking
  obtain ⟨exchange, member, reported⟩ := blames.reported error failed lacking
  exact ⟨exchange, List.mem_append_right first member, reported⟩

theorem cons {exchange : Exchange Request Request.Reply} (quiet : sent [exchange] = [])
    (blames : Blames journal result) : Blames (exchange :: journal) result :=
  after quiet blames

theorem holding {work : Work (Except LifecycleError α)} (blames : work.Ensures Blames) :
    (Work.holding id work).Ensures Blames := by
  refine .request_bind (fun _ => .modify_bind (.bind blames (fun journal result blames => ?_)))
  refine .modify_bind (.pure ?_)
  rw [List.append_nil]
  exact .cons rfl blames

end Blames

/-- A failure, if it is one, for another reason than a lack of capacity. -/
def NotCapacity {α : Type} (result : Except LifecycleError α) : Prop :=
  ∀ error, result = .error error → error.isCapacity = false

theorem NotCapacity.ok {α : Type} (value : α) : NotCapacity (.ok value) := nofun

theorem NotCapacity.error {α : Type} {error : LifecycleError} (other : error.isCapacity = false) :
    NotCapacity (.error error : Except LifecycleError α) := by
  rintro _ ⟨⟩
  exact other

/-- Only a platform lacks capacity. -/
theorem LifecycleError.capacity_of {name : String} {source : PlatformError}
    (lacking : (deployment name source).isCapacity = true) :
    ∃ reason, source = .capacity reason := by
  cases source with
  | capacity reason => exact ⟨reason, rfl⟩
  | deployment _ | delete _ | feature _ | session _ => cases lacking

namespace Work

variable {α : Type} {Q : Journal → α → Prop}

theorem environment_bind {id : EnvironmentId} {f : Environment → Work α}
    (h : ∀ e, (f e).Ensures Q) : (Work.environment id >>= f).Ensures Q :=
  fun p => h (p.environment id)

theorem cancelled_bind {f : Bool → Work α} (h : ∀ cancelled, (f cancelled).Ensures Q) :
    (Work.cancelled >>= f).Ensures Q :=
  fun p => h p.cancelled

end Work

namespace Manager

variable (m : Manager) (id : EnvironmentId)

/-- Setting a status makes no request and can only be refused. -/
theorem setStatus_bind {α : Type} {Q : Journal → α → Prop} {next : EnvironmentStatus}
    {f : Except LifecycleError Unit → Work α} (ok : (f (.ok ())).Ensures Q)
    (refused : ∀ cause, (f (.error (.environment cause))).Ensures Q) :
    (setStatus id next >>= f).Ensures Q := by
  refine .update_bind (f := fun revised => f (Except.mapError .environment revised))
    (fun revised => ?_)
  cases revised with
  | ok _ => exact ok
  | error cause => exact refused cause

theorem deploymentFailed_ensures {Q : Journal → Except LifecycleError Unit → Prop}
    {e : Environment} {source : PlatformError} (h : Q [] (.error (.deployment e.name source))) :
    (deploymentFailed e source).Ensures Q :=
  .modify_bind (.pure h)

theorem askPlatform_blames : (m.askPlatform id).Ensures Blames := by
  refine Work.environment_bind (fun e => Work.cancelled_bind (fun cancelled => ?_))
  cases cancelled with
  | true => exact .pure (.error rfl rfl)
  | false =>
    refine .request_bind (fun reply => ?_)
    rcases reply with _ | (source | hosts)
    · exact .pure (.error rfl rfl)
    · refine deploymentFailed_ensures ⟨rfl, ?_⟩
      rintro _ ⟨⟩ lacking
      obtain ⟨reason, rfl⟩ := LifecycleError.capacity_of lacking
      exact ⟨_, List.mem_singleton_self _, .inr ⟨reason, rfl⟩⟩
    · cases hosts with
      | true => exact setStatus_bind id (.pure (.ok rfl ())) (fun cause => .pure (.error rfl rfl))
      | false =>
        refine deploymentFailed_ensures ⟨rfl, fun _ _ _ => ?_⟩
        exact ⟨_, List.mem_singleton_self _, .inl rfl⟩

theorem equip_blames : (m.equip id).Ensures Blames := by
  refine .update_bind (fun failed => Work.environment_bind (fun e => ?_))
  cases failed with
  | some cause => exact deploymentFailed_ensures (.error rfl rfl)
  | none =>
    refine setStatus_bind id ?ok (fun cause => .pure (.error rfl rfl))
    exact .modify_bind (.pure (.ok rfl ()))

theorem provision_blames : (m.provision id).Ensures Blames := by
  refine Work.environment_bind (fun e => Work.cancelled_bind (fun cancelled => ?_))
  cases cancelled with
  | true => exact .pure (.error rfl rfl)
  | false =>
    refine .request_bind (fun deployed => .modify_bind ?_)
    cases outcome : deployed.outcome with
    | none => exact .pure (.error rfl rfl)
    | some answered =>
      cases answered with
      | error source =>
        refine deploymentFailed_ensures ⟨rfl, ?_⟩
        rintro _ ⟨⟩ lacking
        obtain ⟨reason, rfl⟩ := LifecycleError.capacity_of lacking
        exact ⟨_, List.mem_singleton_self _, reason, outcome⟩
      | ok _ => exact (equip_blames m id).mono (fun _ _ => .cons rfl)

theorem deployHeld_blames : (m.deployHeld id).Ensures Blames := by
  refine Work.environment_bind (fun e => ?_)
  cases status : e.status with
  | deployed | connected => exact .pure (.ok rfl ())
  | deleted => exact .pure (.error rfl rfl)
  | prepared => exact provision_blames m id
  | new =>
    refine .bind (askPlatform_blames m id) (fun journal asked blames => ?_)
    cases asked with
    | error error => exact .pure (by rwa [List.append_nil])
    | ok _ => exact (provision_blames m id).mono (fun _ _ => .after blames.quiet)

/-- Connecting does not fail for lack of capacity. -/
theorem connectNode_ensures (place : Nat) (total : UInt32) (node : Node) :
    (m.connectNode id place total node).Ensures (fun _ result => NotCapacity result) := by
  unfold connectNode
  cases node.connection with
  | none => exact .pure (.error rfl)
  | some info =>
    refine .bind (Q := fun _ _ => True) (.of_forall _ (fun _ _ => trivial)) (fun _ tried _ => ?_)
    cases tried with
    | ok attempted =>
      refine .bind (Q := fun _ _ => True) (.of_forall _ (fun _ _ => trivial)) (fun _ total _ => ?_)
      exact .modify_bind (.pure (.ok total))
    | error error => cases error <;> exact .pure (.error rfl)

theorem connectNodes_ensures (place : Nat) (total : UInt32) (nodes : List Node) :
    (m.connectNodes id place total nodes).Ensures (fun _ result => NotCapacity result) := by
  induction nodes generalizing place total with
  | nil => exact .pure (.ok total)
  | cons node rest ih =>
    refine .bind (connectNode_ensures m id place total node) (fun _ connected known => ?_)
    cases connected with
    | ok total => exact ih (place + 1) total
    | error error => exact .pure (.error (known error rfl))

theorem connectHeld_ensures : (m.connectHeld id).Ensures (fun _ result => NotCapacity result) := by
  refine Work.environment_bind (fun e => ?_)
  cases status : e.status with
  | connected => exact .pure (.ok ())
  | new | prepared | deleted => exact .pure (.error rfl)
  | deployed =>
    refine .bind (connectNodes_ensures m id 0 0 e.nodes) (fun _ connected known => ?_)
    cases connected with
    | error error => exact .pure (.error (known error rfl))
    | ok total =>
      refine setStatus_bind id ?ok (fun cause => .pure (.error rfl))
      exact .modify_bind (.pure (.ok ()))

/-- Bringing an environment up tells nothing, and lacks capacity when the platform does. -/
theorem bringUp_blames : (m.bringUp id).Ensures Blames := by
  have connected : (m.connect id).Ensures Blames := by
    have both := (connectHeld_quiet m id).ensures.and (connectHeld_ensures m id)
    refine Blames.holding (both.mono ?_)
    rintro journal result ⟨quiet, known⟩
    refine ⟨quiet, fun error failed lacking => ?_⟩
    cases (known error failed).symm.trans lacking
  refine .bind (Blames.holding (deployHeld_blames m id)) (fun journal deployed blames => ?_)
  cases deployed with
  | ok _ => exact connected.mono (fun _ _ => .after blames.quiet)
  | error error => exact .pure (by rwa [List.append_nil])

end Manager

end Testbed
