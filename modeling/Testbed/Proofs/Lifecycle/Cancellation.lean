import Testbed.Proofs.Lifecycle.Work

/-!
# Work after cancellation

Deploying and connecting look at the cancellation of the run right before each request of theirs,
so in a cancelled pool neither makes one: each is over at once, from what the status and the first
node of the environment tell, and leaves the pool as it is, but for the note of a count that does not
fit into its word.
-/
namespace Testbed

/-- A pool as it was, or with the note of a count that has left its word. -/
def Pool.UpToNote (p q : Pool) : Prop := q = p ∨ q = p.overflow

theorem Pool.UpToNote.cancelled {p q : Pool} (noted : p.UpToNote q) :
    q.cancelled = p.cancelled := by
  obtain rfl | rfl := noted <;> rfl

theorem Pool.UpToNote.status {p q : Pool} (noted : p.UpToNote q) (k : EnvironmentId) :
    (q.environment k).status = (p.environment k).status := by
  obtain rfl | rfl := noted <;> rfl

/-- How a node fails to connect that its platform has not told how to reach. -/
def Node.unreachable (n : Node) : LifecycleError :=
  .connection n.name 0 "platform did not provide connection info"

/-- How a node fails to connect once the run is cancelled. -/
def Node.connectCancelled (n : Node) : LifecycleError :=
  if n.connection = none then n.unreachable else .cancelled .connect

namespace Environment

/-- What deploying comes to once the run is cancelled. -/
def deployCancelled (e : Environment) : Except LifecycleError Unit :=
  match e.status with
  | .new => .error (.cancelled .prepare)
  | .prepared => .error (.cancelled .deploy)
  | .deployed | .connected => .ok ()
  | .deleted => .error (.environment (.invalidState e.name "deploy" .deleted))

/-- What connecting comes to once the run is cancelled. Without nodes there is nothing to wait
for. -/
def connectCancelled (e : Environment) : Except LifecycleError Unit :=
  match e.status, e.nodes with
  | .connected, _ | .deployed, [] => .ok ()
  | .deployed, node :: _ => .error node.connectCancelled
  | status, _ => .error (.environment (.invalidState e.name "connect" status))

end Environment

namespace Manager

variable (m : Manager) {p : Pool} (id : EnvironmentId)

theorem environment_advance :
    (Work.environment id).advance p = (.finished (p.environment id), p) := rfl

theorem cancelled_advance (stopped : p.cancelled = true) :
    Work.cancelled.advance p = (.finished true, p) := by
  rw [← stopped]
  rfl

theorem provision_cancelled (stopped : p.cancelled = true) :
    (m.provision id).advance p = (.finished (.error (.cancelled .deploy)), p) := by
  unfold provision
  rw [Program.advance_bind (environment_advance id), Program.advance_bind (cancelled_advance stopped)]
  rfl

theorem deployHeld_cancelled (stopped : p.cancelled = true) :
    (m.deployHeld id).advance p = (.finished (p.environment id).deployCancelled, p) := by
  have asked : (m.askPlatform id).advance p = (.finished (.error (.cancelled .prepare)), p) := by
    unfold askPlatform
    rw [Program.advance_bind (environment_advance id), Program.advance_bind (cancelled_advance stopped)]
    rfl
  unfold deployHeld
  rw [Program.advance_bind (environment_advance id)]
  unfold Environment.deployCancelled
  cases (p.environment id).status with
  | new =>
    change (m.askPlatform id >>= _).advance p = _
    rw [Program.advance_bind asked]
    rfl
  | prepared => exact m.provision_cancelled id stopped
  | deployed | connected | deleted => rfl

/-- A sum of counts is at most noted. -/
theorem addCounts_advance (a b : UInt32) :
    ∃ q, (addCounts (Program.modify Pool.overflow) a b : Work UInt32).advance p =
      (.finished (a + b), q) ∧ p.UpToNote q := by
  unfold addCounts
  split
  · exact ⟨p, rfl, .inl rfl⟩
  · exact ⟨p.overflow, rfl, .inr rfl⟩

theorem attempt_cancelled (info : ConnectionInfo) (attempt : UInt32) (stopped : p.cancelled = true) :
    ((m.connectSteps info).attempt attempt).advance p = (.finished .cancelled, p) := by
  change (Work.cancelled >>= _).advance p = _
  rw [Program.advance_bind (cancelled_advance stopped)]
  rfl

theorem pause_cancelled (info : ConnectionInfo) (ms : Nat) (stopped : p.cancelled = true) :
    ((m.connectSteps info).pause ms).advance p = (.finished true, p) := by
  change (Work.cancelled >>= _).advance p = _
  rw [Program.advance_bind (cancelled_advance stopped)]
  rfl

/-- No attempt is made. -/
theorem retryFrom_cancelled (info : ConnectionInfo) (attempt : UInt32) (retries : Nat)
    (stopped : p.cancelled = true) :
    (retryFrom m.config.connect (m.connectSteps info) attempt retries).advance p =
      (.finished (.error .cancelled), p) := by
  cases retries with
  | zero | succ retries =>
    unfold retryFrom tryOnce
    rw [Program.advance_bind (m.attempt_cancelled info attempt stopped)]
    rfl

theorem retry_cancelled (info : ConnectionInfo) (stopped : p.cancelled = true) :
    ∃ q, (retry m.config.connect (m.connectSteps info)).advance p =
      (.finished (.error .cancelled), q) ∧ p.UpToNote q := by
  obtain ⟨q, counted, noted⟩ := addCounts_advance (p := p) m.config.connect.maxRetries 1
  refine ⟨q, ?_, noted⟩
  unfold retry
  change (addCounts (Program.modify Pool.overflow) _ 1 >>= _).advance p = _
  rw [Program.advance_bind counted]
  exact m.retryFrom_cancelled info _ _ (noted.cancelled.trans stopped)

theorem connectNode_cancelled (place : Nat) (total : UInt32) (node : Node)
    (stopped : p.cancelled = true) :
    ∃ q, (m.connectNode id place total node).advance p =
      (.finished (.error node.connectCancelled), q) ∧ p.UpToNote q := by
  unfold connectNode Node.connectCancelled
  cases node.connection with
  | none => exact ⟨p, rfl, .inl rfl⟩
  | some info =>
    obtain ⟨q, tried, noted⟩ := m.retry_cancelled info stopped
    refine ⟨q, ?_, noted⟩
    dsimp only
    rw [Program.advance_bind tried]
    rfl

theorem connectNodes_cancelled (place : Nat) (total : UInt32) (node : Node) (rest : List Node)
    (stopped : p.cancelled = true) :
    ∃ q, (m.connectNodes id place total (node :: rest)).advance p =
      (.finished (.error node.connectCancelled), q) ∧ p.UpToNote q := by
  obtain ⟨q, tried, noted⟩ := m.connectNode_cancelled id place total node stopped
  refine ⟨q, ?_, noted⟩
  unfold connectNodes
  rw [Program.advance_bind tried]
  rfl

theorem connectHeld_cancelled (stopped : p.cancelled = true)
    (equipped : (p.environment id).status = .deployed → (p.environment id).nodes ≠ []) :
    ∃ q, (m.connectHeld id).advance p = (.finished (p.environment id).connectCancelled, q) ∧
      p.UpToNote q := by
  unfold connectHeld
  rw [Program.advance_bind (environment_advance id)]
  unfold Environment.connectCancelled
  cases status : (p.environment id).status with
  | new | prepared | connected | deleted => exact ⟨p, rfl, .inl rfl⟩
  | deployed =>
    obtain ⟨node, rest, nodes⟩ := List.exists_cons_of_ne_nil (equipped status)
    rw [nodes]
    obtain ⟨q, connected, noted⟩ := m.connectNodes_cancelled id 0 0 node rest stopped
    refine ⟨q, ?_, noted⟩
    dsimp only
    rw [Program.advance_bind connected]
    rfl

end Manager

end Testbed
