import Testbed.Proofs.Environment.Nodes
import Testbed.Proofs.Lifecycle.Tasks
import Testbed.Proofs.Space.Resolution

/-!
# What tasks change

Every single change that a task makes to the pool creates an environment, edits one, or only shows
in the books. None of them takes back a cancellation or a deletion, nor leaves an environment
without the nodes that it was created with.
-/
namespace Testbed

/-- What a manager does to an environment at one time. -/
inductive Manager.Edit (m : Manager) (e : Environment) : Environment → Prop where
  | accepted (provision : Provision) : Edit m e (e.accept provision)
  | attached : Edit m e { e with nodes := (m.features.attachToAll e.nodes).1 }
  | opened (index : Nat) (session : Session) :
    Edit m e (e.modifyNode index (fun node => { node with session := some session }))
  | moved {next : EnvironmentStatus} {f : Environment} (set : e.setStatus next = .ok f) : Edit m e f
  | flagged (dirty inUse : Bool) : Edit m e { e with dirty, inUse }
  | deleted : Edit m e e.forceDeleted

/-- What a manager does to its pool at one time. -/
inductive Manager.Change (m : Manager) (p : Pool) : Pool → Prop where
  | noted {q : Pool} (environments : q.environments = p.environments)
    (cancelled : q.cancelled = p.cancelled) : Change m p q
  | created {requirement : EnvironmentSpace} {found : MatchedEnvironment}
    (resolved : resolve requirement m.candidates = .ok found) : Change m p (p.create found)
  | edited {id : EnvironmentId} {f : Environment → Environment} {q : Pool}
    (edit : m.Edit (p.environment id) (f (p.environment id)))
    (environments : q.environments = (p.modify id f).environments)
    (cancelled : q.cancelled = p.cancelled) : Change m p q

/-- An environment that is to be used has nodes. -/
def Environment.Equipped (e : Environment) : Prop := e.status ≠ .deleted → e.nodes ≠ []

/-- All environments of a pool that are to be used have nodes. -/
def Pool.Equipped (p : Pool) : Prop := ∀ k, (p.environment k).Equipped

/-- A later pool, in which environments that were there still are, and those that were deleted still
are. -/
structure Pool.Outlived (p q : Pool) : Prop where
  has : ∀ k, p.Has k → q.Has k
  deleted : ∀ k, p.Has k → (p.environment k).status = .deleted → (q.environment k).status = .deleted

namespace Pool.Outlived

variable {p q r : Pool}

theorem refl (p : Pool) : p.Outlived p := ⟨fun _ has => has, fun _ _ dead => dead⟩

theorem trans (first : p.Outlived q) (second : q.Outlived r) : p.Outlived r where
  has k has := second.has k (first.has k has)
  deleted k has dead := second.deleted k (first.has k has) (first.deleted k has dead)

end Pool.Outlived

theorem Node.equip_length (nodes : List Node) (machines : List Machine) :
    (equip nodes machines).length = nodes.length := by
  simpa using congrArg List.length (map_equip (f := Node.index) (fun _ _ => rfl) nodes machines)

theorem FeatureRegistry.attachToAll_length (r : FeatureRegistry) (nodes : List Node) :
    (r.attachToAll nodes).1.length = nodes.length := by
  simpa using congrArg List.length (map_attachToAll (f := Node.index) (fun _ _ => rfl) r nodes)

/-- What a requirement is resolved to has nodes. -/
theorem resolve_nodes_ne_nil {requirement : EnvironmentSpace} {candidates : List EnvironmentSpace}
    {found : MatchedEnvironment} (resolved : resolve requirement candidates = .ok found) :
    found.space.nodes ≠ [] := by
  obtain ⟨candidate, -, -, matched⟩ := resolve_ok _ _ _ resolved
  have narrowed := (matchCandidate_ok _ _ _ _ matched).2.1
  obtain ⟨assignment, assigned, nodes⟩ := EnvironmentSpace.intersect_nodes _ _ _ narrowed
  have count := (EnvironmentSpace.assignNodes_covers _ _ _ assigned).nodes_length
  have required := requirement.requiredNodes_ne_nil
  rw [← List.length_pos_iff] at required ⊢
  rw [nodes, count]
  exact required

namespace Manager

variable {m : Manager} {e f : Environment} {p q : Pool}

namespace Edit

theorem nodes_length (edit : m.Edit e f) : f.nodes.length = e.nodes.length := by
  cases edit with
  | accepted provision => exact Node.equip_length _ _
  | attached => exact m.features.attachToAll_length _
  | opened index session => exact List.length_modify ..
  | moved set =>
    obtain ⟨-, rfl⟩ := Environment.setStatus_ok set
    rfl
  | flagged dirty inUse => rfl
  | deleted => exact List.length_map ..

theorem deleted_of_deleted (edit : m.Edit e f) (dead : e.status = .deleted) :
    f.status = .deleted := by
  cases edit with
  | accepted provision => exact dead
  | attached => exact dead
  | opened index session => exact dead
  | moved set => exact (Environment.Evolves.setStatus set).deleted dead
  | flagged dirty inUse => exact dead
  | deleted => rfl

theorem equipped (edit : m.Edit e f) (equipped : e.Equipped) : f.Equipped := by
  intro alive
  have nodes : e.nodes ≠ [] := equipped (fun dead => alive (edit.deleted_of_deleted dead))
  rw [← List.length_pos_iff] at nodes ⊢
  rw [edit.nodes_length]
  exact nodes

end Edit

namespace Change

theorem cancelled (change : m.Change p q) : q.cancelled = p.cancelled := by
  cases change with
  | noted environments cancelled => exact cancelled
  | created resolved => rfl
  | edited edit environments cancelled => exact cancelled

theorem environment_of_environments (same : q.environments = p.environments) (k : EnvironmentId) :
    q.environment k = p.environment k := by
  rw [Pool.environment, Pool.environment, same]

theorem equipped (change : m.Change p q) (equipped : p.Equipped) : q.Equipped := by
  intro k
  cases change with
  | noted environments =>
    rw [environment_of_environments environments]
    exact equipped k
  | @created requirement found resolved =>
    rw [Pool.environment_create]
    split
    · intro _
      have nodes := resolve_nodes_ne_nil resolved
      rw [← List.length_pos_iff] at nodes ⊢
      simpa [Pool.created, Environment.ofMatch] using nodes
    · exact equipped k
  | edited edit environments =>
    rw [environment_of_environments environments, Pool.environment_modify]
    split
    · exact edit.equipped (equipped _)
    · exact equipped k

theorem outlived (change : m.Change p q) : p.Outlived q := by
  constructor
  case has =>
    intro k has
    cases change with
    | noted environments =>
      rw [Pool.Has, environments]
      exact has
    | created resolved => exact (p.has_create _ k).2 (.inl has)
    | @edited id f _ edit environments =>
      rw [Pool.Has, environments, Pool.modify_length]
      exact has
  case deleted =>
    intro k has dead
    cases change with
    | noted environments => rwa [environment_of_environments environments]
    | created resolved => rwa [p.environment_create_old _ has]
    | edited edit environments =>
      rw [environment_of_environments environments, Pool.environment_modify]
      split
      · rename_i here
        exact edit.deleted_of_deleted (here.1 ▸ dead)
      · exact dead

/-- Deleting an environment, with what is counted and reported about it. -/
theorem retire (p : Pool) (id : EnvironmentId) (event : Event) : m.Change p (p.retire id event) :=
  .edited (f := Environment.forceDeleted) .deleted rfl rfl

end Change

theorem Change.same (p : Pool) : m.Change p p := .noted rfl rfl

section Tasks

variable {α : Type} {A : Request → Prop} {id : EnvironmentId}

/-- Work that only makes such changes. -/
abbrev Changes (m : Manager) (work : Work α) : Prop := work.Respects m.Change (fun _ => True)

theorem environment_changes (k : EnvironmentId) : (Work.environment k).Respects m.Change A :=
  .bind (.get Change.same) (fun _ => .pure _)

theorem cancelled_changes : Work.cancelled.Respects m.Change A :=
  .bind (.get Change.same) (fun _ => .pure _)

theorem revise_changes {f : Environment → Except EnvironmentError Environment}
    (edits : ∀ e e', f e = .ok e' → m.Edit e e') : (Work.revise id f).Respects m.Change A := by
  refine .update (fun p => ?_)
  cases revised : f (p.environment id) with
  | error cause => exact .same p
  | ok e => exact .edited (f := fun _ => e) (edits _ _ revised) rfl rfl

theorem setStatus_changes (next : EnvironmentStatus) :
    (setStatus id next).Respects m.Change A :=
  .bind (revise_changes (fun _ _ set => .moved set)) (fun _ => .pure _)

theorem deploymentFailed_changes (e : Environment) (source : PlatformError) :
    (deploymentFailed e source).Respects m.Change A :=
  .bind (.modify (fun _ => .noted rfl rfl)) (fun _ => .pure _)

/-- Equipping an environment asks for nothing. -/
theorem equip_changes : (m.equip id).Respects m.Change A := by
  have attaches (p : Pool) : m.Edit (p.environment id)
      { p.environment id with
        nodes := (m.features.attachToAll (p.environment id).nodes).1 } := .attached
  refine .bind (.update (fun p => .edited (attaches p) rfl rfl)) (fun failed => ?_)
  refine .bind (environment_changes id) (fun e => ?_)
  cases failed with
  | some cause => exact deploymentFailed_changes e _
  | none =>
    refine .bind (setStatus_changes .deployed) (fun moved => ?_)
    cases moved with
    | error error => exact .pure _
    | ok _ => exact .bind (.modify (fun _ => .noted rfl rfl)) (fun _ => .pure _)

theorem askPlatform_changes : m.Changes (m.askPlatform id) := by
  refine .bind (environment_changes id) (fun e => .bind cancelled_changes (fun cancelled => ?_))
  cases cancelled with
  | true => exact .pure _
  | false =>
    refine .bind (.request trivial) (fun reply => ?_)
    rcases reply with _ | (source | (_ | _))
    · exact .pure _
    · exact deploymentFailed_changes e source
    · exact deploymentFailed_changes e _
    · exact setStatus_changes .prepared

theorem provision_changes : m.Changes (m.provision id) := by
  refine .bind (environment_changes id) (fun e => .bind cancelled_changes (fun cancelled => ?_))
  cases cancelled with
  | true => exact .pure _
  | false =>
    refine .bind (.request trivial) (fun deployed => ?_)
    have accepts (p : Pool) : m.Change p (p.modify id (·.accept deployed.provision)) :=
      .edited (f := (·.accept deployed.provision)) (.accepted _) rfl rfl
    refine .bind (.modify accepts) (fun _ => ?_)
    rcases deployed.outcome with _ | (source | _)
    · exact .pure _
    · exact deploymentFailed_changes e source
    · exact equip_changes

theorem deployHeld_changes : m.Changes (m.deployHeld id) := by
  refine .bind (environment_changes id) (fun e => ?_)
  cases e.status with
  | deployed | connected | deleted => exact .pure _
  | prepared => exact provision_changes
  | new =>
    refine .bind askPlatform_changes (fun asked => ?_)
    cases asked with
    | error error => exact .pure _
    | ok _ => exact provision_changes

theorem connectHeld_changes : m.Changes (m.connectHeld id) :=
  connectHeld_respects m {
    same := .same
    asks := fun _ => trivial
    retried := fun _ => .noted rfl rfl
    overflowed := fun _ => .noted rfl rfl
    opened := fun _ index session => .edited (f := (·.modifyNode index
      (fun node => { node with session := some session }))) (.opened index session) rfl rfl
    moved := setStatus_changes .connected
    reported := fun _ _ _ => .noted rfl rfl }

theorem holding_changes {work : Work α} (changes : m.Changes work) :
    m.Changes (Work.holding id work) := by
  refine .bind (.request trivial) (fun _ => .bind (.modify (fun _ => .noted rfl rfl)) (fun _ => ?_))
  exact .bind changes (fun _ => .bind (.modify (fun _ => .noted rfl rfl)) (fun _ => .pure _))

theorem prepare_changes (requirement : EnvironmentSpace) : m.Changes (m.prepare requirement) := by
  refine .update (fun p => ?_)
  obtain ⟨result, q, advanced, prepares⟩ := m.prepare_advance requirement p
  change m.Change p ((m.prepare requirement).advance p).2
  rw [advanced]
  cases prepares with
  | refused => exact .same p
  | created resolved => exact .created resolved
  | @reused id reusable =>
    exact .edited (f := fun e => { e with inUse := true })
      (.flagged (p.environment id).dirty true) rfl rfl

theorem markDirty_changes : m.Changes (markDirty id) := by
  refine holding_changes (.bind (revise_changes ?_) (fun _ => .pure _))
  intro e f marked
  obtain rfl := Environment.markDirty_ok marked
  exact .flagged true e.inUse

theorem delete_changes : m.Changes (delete id) := by
  have given (e : Environment) : m.Changes (relinquish e) := by
    unfold relinquish
    split
    · exact .pure ()
    · refine .bind (.request trivial) (fun reply => ?_)
      cases reply with
      | ok _ => exact .pure ()
      | error error => exact .modify (fun _ => .noted rfl rfl)
  have held : m.Changes (deleteHeld id) := by
    refine .bind (environment_changes id) (fun e => ?_)
    split
    · exact .pure false
    · exact .bind (given e) (fun _ => .bind (.modify (fun _ => .retire _ id _)) (fun _ => .pure _))
  refine .bind (holding_changes held) (fun deleted => ?_)
  cases deleted with
  | true => exact .modify (fun _ => .noted rfl rfl)
  | false => exact .pure ()

theorem release_changes : m.Changes (m.release id) := by
  refine .bind (holding_changes (.update (fun p => ?_))) (fun kept => ?_)
  · dsimp only
    split
    · exact .edited (f := fun e => { e with inUse := false })
        (.flagged (p.environment id).dirty false) rfl rfl
    · exact .same p
  · cases kept with
    | true => exact .pure ()
    | false => exact delete_changes

theorem deleteAll_changes (ids : List EnvironmentId) : m.Changes (deleteAll ids) := by
  induction ids with
  | nil => exact .pure ()
  | cons id rest ih => exact .bind delete_changes (fun _ => ih)

theorem shutdown_changes : m.Changes shutdown := by
  refine .bind (.update (fun _ => .noted rfl rfl)) (fun tracked => ?_)
  exact .bind (deleteAll_changes _) (fun _ => .modify (fun _ => .noted rfl rfl))

/-- All that a task does is made of such changes. -/
theorem perform_changes (m : Manager) (task : Task) : m.Changes (m.perform task) := by
  cases task with
  | prepare requirement => exact prepare_changes requirement
  | deploy id => exact holding_changes deployHeld_changes
  | connect id => exact holding_changes connectHeld_changes
  | markDirty id => exact markDirty_changes
  | release id => exact release_changes
  | delete id => exact delete_changes
  | shutdown => exact shutdown_changes

end Tasks

end Manager

end Testbed
