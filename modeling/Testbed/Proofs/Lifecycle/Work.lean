import Testbed.Proofs.Lifecycle.Pool

/-!
# Work on a locked environment

Deploying, connecting and marking dirty change the environment that they are about, short of
deleting it, and nothing else that the books of the pool show. While they do so they neither ask for
locks nor for deletions.
-/
namespace Testbed

/-- The requests that are made in the middle of work on a locked environment. -/
def Request.IsWork : Request → Prop
  | .lock _ | .delete _ => False
  | .prepare _ | .deploy _ | .interruptible _ | .call _ | .notify _ => True

/-- Work on an environment that somebody has locked. -/
abbrev Work.On {α : Type} (id : EnvironmentId) (work : Work α) : Prop :=
  work.Respects (Pool.Works id) Request.IsWork

section Retry

variable {σ Request' α : Type} {Reply : Request' → Type} {R : σ → σ → Prop} {A : Request' → Prop}
  {policy : ConnectPolicy} {steps : RetrySteps (Program σ Request' Reply) α}

theorem addCounts_respects {overflow : Program σ Request' Reply Unit}
    (noted : overflow.Respects R A) (a b : UInt32) : (addCounts overflow a b).Respects R A := by
  unfold addCounts
  split
  · exact .pure _
  · exact .bind noted (fun _ => .pure _)

theorem tryOnce_respects {attempt : UInt32}
    {afterFailure : String → Program σ Request' Reply (Except RetryError (Attempted α))}
    (attempts : ∀ n, (steps.attempt n).Respects R A)
    (failed : ∀ reason, (afterFailure reason).Respects R A) :
    (tryOnce policy steps attempt afterFailure).Respects R A := by
  refine .bind (attempts attempt) ?_
  intro trial
  cases trial with
  | succeeded value => exact .pure _
  | cancelled => exact .pure _
  | failed reason => exact failed reason
  | overdue => exact failed _

theorem retryFrom_respects (attempts : ∀ n, (steps.attempt n).Respects R A)
    (retrying : steps.retrying.Respects R A) (pauses : ∀ ms, (steps.pause ms).Respects R A)
    (noted : steps.overflow.Respects R A) (attempt : UInt32) (retries : Nat) :
    (retryFrom policy steps attempt retries).Respects R A := by
  induction retries generalizing attempt with
  | zero => exact tryOnce_respects attempts (fun _ => .pure _)
  | succ retries ih =>
    refine tryOnce_respects attempts (fun _ => ?_)
    refine .bind retrying (fun _ => .bind (pauses _) (fun cancelled => ?_))
    cases cancelled with
    | true => exact .pure _
    | false => exact .bind (addCounts_respects noted _ _) ih

theorem retry_respects (attempts : ∀ n, (steps.attempt n).Respects R A)
    (retrying : steps.retrying.Respects R A) (pauses : ∀ ms, (steps.pause ms).Respects R A)
    (noted : steps.overflow.Respects R A) : (retry policy steps).Respects R A :=
  .bind (addCounts_respects noted _ _)
    (fun _ => retryFrom_respects attempts retrying pauses noted _ _)

end Retry

namespace Work

variable (id : EnvironmentId)

theorem environment_on (k : EnvironmentId) : On id (Work.environment k) :=
  .bind (.get (Pool.Works.refl id)) (fun _ => .pure _)

theorem cancelled_on : On id Work.cancelled :=
  .bind (.get (Pool.Works.refl id)) (fun _ => .pure _)

theorem revise_on {f : Environment → Except EnvironmentError Environment}
    (worked : ∀ e e', f e = .ok e' → e.Worked e') : On id (Work.revise id f) := by
  refine .update (fun p => ?_)
  cases revised : f (p.environment id) with
  | error cause => exact .refl id p
  | ok e => exact .modify p (worked _ _ revised)

end Work

namespace Manager

variable (m : Manager) (id : EnvironmentId)

theorem setStatus_on {next : EnvironmentStatus} (keeps : next ≠ .deleted) :
    Work.On id (setStatus id next) :=
  .bind (Work.revise_on id (fun _ _ set => .setStatus set keeps)) (fun _ => .pure _)

/-- A status that the environment can take is set at once. -/
theorem setStatus_advance {id : EnvironmentId} {next : EnvironmentStatus} {p : Pool}
    (allowed : (p.environment id).status.canBecome next = true) :
    (setStatus id next).advance p =
      (.finished (.ok ()), p.modify id (fun _ => { p.environment id with status := next })) := by
  have taken : (p.environment id).setStatus next = .ok { p.environment id with status := next } :=
    if_pos allowed
  have revised : (Work.revise id (·.setStatus next)).advance p =
      (.finished (.ok ()), p.modify id (fun _ => { p.environment id with status := next })) := by
    unfold Work.revise Program.update
    simp only [Program.advance, taken]
  unfold setStatus
  rw [Program.advance_bind revised]
  rfl

theorem deploymentFailed_on (e : Environment) (source : PlatformError) :
    Work.On id (deploymentFailed e source) :=
  .bind (.modify (fun p => .count p nofun nofun)) (fun _ => .pure _)

theorem askPlatform_on : Work.On id (m.askPlatform id) := by
  refine .bind (Work.environment_on id id) (fun e => .bind (Work.cancelled_on id) ?_)
  intro cancelled
  cases cancelled with
  | true => exact .pure _
  | false =>
    refine .bind (.request trivial) (fun reply => ?_)
    cases reply with
    | none => exact .pure _
    | some answered =>
      cases answered with
      | error source => exact deploymentFailed_on id e source
      | ok hosts =>
        cases hosts with
        | true => exact setStatus_on id nofun
        | false => exact deploymentFailed_on id e _

theorem equip_on : Work.On id (m.equip id) := by
  refine .bind (.update (fun p => .modify p (.setNodes _ _))) (fun failed => ?_)
  refine .bind (Work.environment_on id id) (fun e => ?_)
  cases failed with
  | some cause => exact deploymentFailed_on id e _
  | none =>
    refine .bind (setStatus_on id nofun) (fun moved => ?_)
    cases moved with
    | error error => exact .pure _
    | ok _ =>
      refine .bind (.modify (fun p => ?_)) (fun _ => .pure _)
      have counted : p.Works id (p.count .deployed) := .count p nofun nofun
      exact counted.trans (.report _ (fun _ => rfl))

theorem provision_on : Work.On id (m.provision id) := by
  refine .bind (Work.environment_on id id) (fun e => .bind (Work.cancelled_on id) ?_)
  intro cancelled
  cases cancelled with
  | true => exact .pure _
  | false =>
    refine .bind (.request trivial) (fun deployed => ?_)
    refine .bind (.modify (fun p => .modify p (.accept _ _))) (fun _ => ?_)
    cases deployed.outcome with
    | none => exact .pure _
    | some answered =>
      cases answered with
      | error source => exact deploymentFailed_on id e source
      | ok _ => exact equip_on m id

theorem deployHeld_on : Work.On id (m.deployHeld id) := by
  refine .bind (Work.environment_on id id) (fun e => ?_)
  cases status : e.status with
  | deployed | connected | deleted => exact .pure _
  | prepared => exact provision_on m id
  | new =>
    refine .bind (askPlatform_on m id) (fun asked => ?_)
    cases asked with
    | error error => exact .pure _
    | ok _ => exact provision_on m id

/-- The changes and requests that connecting an environment is made of are of some kind. -/
structure ConnectsBy (R : Pool → Pool → Prop) (A : Request → Prop) : Prop where
  same : ∀ p, R p p
  asks : ∀ call, A (.interruptible call)
  retried : ∀ p, R p (p.count .connectionRetries)
  overflowed : ∀ p, R p p.overflow
  opened : ∀ p index session, R p (p.modify id (·.modifyNode index
    (fun node => { node with session := some session })))
  moved : (setStatus id .connected).Respects R A
  reported : ∀ p nodes attempts, R p (p.report (.environmentConnected id.text nodes attempts))

section Connecting

variable {R : Pool → Pool → Prop} {A : Request → Prop} {id}

/-- An attempt asks at most once. -/
theorem attempt_respects (same : ∀ p, R p p) (asks : ∀ call, A (.interruptible call))
    (info : ConnectionInfo) (n : UInt32) : ((m.connectSteps info).attempt n).Respects R A := by
  refine .bind (.bind (.get same) (fun _ => .pure _)) (fun cancelled => ?_)
  cases cancelled with
  | true => exact .pure _
  | false =>
    refine .bind (.request (asks _)) (fun reply => ?_)
    rcases reply with _ | (session | error | _) <;> exact .pure _

theorem pause_respects (same : ∀ p, R p p) (asks : ∀ call, A (.interruptible call))
    (info : ConnectionInfo) (ms : Nat) : ((m.connectSteps info).pause ms).Respects R A := by
  refine .bind (.bind (.get same) (fun _ => .pure _)) (fun cancelled => ?_)
  cases cancelled with
  | true => exact .pure _
  | false => exact .bind (.request (asks _)) (fun _ => .pure _)

/-- Trying for a session only asks, counts retries, and notes a count that has left its word. -/
theorem tryConnect_respects (same : ∀ p, R p p) (asks : ∀ call, A (.interruptible call))
    (retried : ∀ p, R p (p.count .connectionRetries)) (overflowed : ∀ p, R p p.overflow)
    (info : ConnectionInfo) :
    (retry m.config.connect (m.connectSteps info)).Respects R A :=
  retry_respects (attempt_respects m same asks info) (.modify retried)
    (pause_respects m same asks info) (.modify overflowed)

theorem connectNode_respects (kinds : ConnectsBy id R A) (place : Nat) (total : UInt32)
    (node : Node) : (m.connectNode id place total node).Respects R A := by
  unfold connectNode
  cases node.connection with
  | none => exact .pure _
  | some info =>
    refine .bind (tryConnect_respects m kinds.same kinds.asks kinds.retried kinds.overflowed info)
      (fun tried => ?_)
    cases tried with
    | ok attempted =>
      refine .bind (addCounts_respects (.modify kinds.overflowed) _ _) (fun _ => ?_)
      exact .bind (.modify (fun p => kinds.opened p _ _)) (fun _ => .pure _)
    | error error => cases error <;> exact .pure _

theorem connectNodes_respects (kinds : ConnectsBy id R A) (place : Nat) (total : UInt32)
    (nodes : List Node) : (m.connectNodes id place total nodes).Respects R A := by
  induction nodes generalizing place total with
  | nil => exact .pure _
  | cons node rest ih =>
    refine .bind (connectNode_respects m kinds place total node) (fun connected => ?_)
    cases connected with
    | ok total => exact ih (place + 1) total
    | error error => exact .pure _

theorem connectHeld_respects (kinds : ConnectsBy id R A) : (m.connectHeld id).Respects R A := by
  refine .bind (.bind (.get kinds.same) (fun _ => .pure _)) (fun e => ?_)
  cases status : e.status with
  | new | prepared | connected | deleted => exact .pure _
  | deployed =>
    refine .bind (connectNodes_respects m kinds 0 0 e.nodes) (fun connected => ?_)
    cases connected with
    | error error => exact .pure _
    | ok total =>
      refine .bind kinds.moved (fun moved => ?_)
      cases moved with
      | error error => exact .pure _
      | ok _ => exact .bind (.modify (fun p => kinds.reported p _ _)) (fun _ => .pure _)

end Connecting

theorem connectHeld_on : Work.On id (m.connectHeld id) :=
  connectHeld_respects m {
    same := .refl id
    asks := fun _ => trivial
    retried := fun p => .count p nofun nofun
    overflowed := .overflow
    opened := fun p _ _ => .modify p (.modifyNode _ _ _)
    moved := setStatus_on id nofun
    reported := fun p _ _ => .report p (fun _ => rfl) }

/-- What marking dirty does once nobody else works on the environment. -/
theorem markDirtyHeld_on :
    Work.On id (do
      return (← Work.revise id Environment.markDirty).mapError LifecycleError.environment) :=
  .bind (Work.revise_on id (fun _ _ marked => .markDirty marked)) (fun _ => .pure _)

end Manager

end Testbed
