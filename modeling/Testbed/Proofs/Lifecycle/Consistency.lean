import Mathlib.Logic.Relation
import Testbed.Proofs.Lifecycle.Changes
import Testbed.Proofs.Lifecycle.HandOut
import Testbed.Proofs.Lifecycle.Upkeep

/-!
# What statuses tell

The status of an environment tells which of its nodes have sessions, which features they have and
which of its flags can be set, however far an operation came that failed or was cancelled: nodes get
sessions one after the other while the environment is deployed, and features while it is prepared.
Sessions are opened by index, so the nodes must be known to stand at the places that they name.
-/
namespace Testbed

open Program

/-- What the status of an environment tells about the rest of it. -/
structure Environment.Consistent (registry : FeatureRegistry) (e : Environment) : Prop where
  connected : e.status = .connected → ∀ node ∈ e.nodes, node.isConnected = true
  deployed : e.status.isDeployed = true → ∀ node ∈ e.nodes,
    node.featureTypes = registry.types ∧
      ∀ type handle, node.feature? type = some handle → handle.type = type
  unprovisioned : e.status = .new ∨ e.status = .prepared →
    e.dirty = false ∧ ∀ node ∈ e.nodes, node.isConnected = false
  deleted : e.status = .deleted →
    e.inUse = false ∧ ∀ node ∈ e.nodes, node.isConnected = false ∧ node.featureTypes = []

/-- How an environment can be found at a later time. -/
structure Environment.Forward (e f : Environment) : Prop where
  status : Relation.ReflTransGen (fun s t => EnvironmentStatus.canBecome s t = true)
    e.status f.status
  deleted : e.status = .deleted → f.status = .deleted
  dirty : e.dirty = true → f.dirty = true

/-- No environment moves by more than one allowed step. -/
def Pool.Steps (p q : Pool) : Prop :=
  ∀ k, p.Has k → (q.environment k).status = (p.environment k).status ∨
    (p.environment k).status.canBecome (q.environment k).status = true

/-- A consistent environment whose nodes are numbered, with features of registered types only. -/
structure Environment.Sound (registry : FeatureRegistry) (e : Environment) : Prop
    extends Environment.Consistent registry e where
  numbered : e.nodes.map Node.index = List.range e.nodes.length
  fitted : ∀ node ∈ e.nodes, registry.Fits node.features

theorem EnvironmentStatus.reaches_of_rank_le {s t : EnvironmentStatus} (h : s.rank ≤ t.rank) :
    Relation.ReflTransGen (fun s t => canBecome s t = true) s t := by
  cases s <;> cases t <;>
    first
    | exact .refl
    | exact .single rfl
    | exact .head (b := .prepared) rfl (.single rfl)
    | exact .head (b := .deployed) rfl (.single rfl)
    | exact .head (b := .prepared) rfl (.head (b := .deployed) rfl (.single rfl))
    | exact absurd h (by decide)

theorem Environment.Evolves.forward {e f : Environment} (evolves : e.Evolves f) : e.Forward f where
  status := EnvironmentStatus.reaches_of_rank_le evolves.status
  deleted := evolves.deleted
  dirty := evolves.dirty

section Steps

variable {m : Manager} {e f : Environment} {p q : Pool}

theorem Manager.Edit.steps (edit : m.Edit e f) :
    f.status = e.status ∨ e.status.canBecome f.status = true := by
  cases edit with
  | accepted | attached | opened | flagged => exact .inl rfl
  | moved set =>
    obtain ⟨allowed, rfl⟩ := Environment.setStatus_ok set
    exact .inr allowed
  | deleted =>
    change EnvironmentStatus.deleted = e.status ∨ e.status.canBecome .deleted = true
    cases e.status <;> simp [EnvironmentStatus.canBecome]

theorem Manager.Change.steps (change : m.Change p q) : p.Steps q := by
  intro k has
  cases change with
  | noted environments => exact .inl (by rw [environment_of_environments environments])
  | created resolved => exact .inl (by rw [p.environment_create_old _ has])
  | edited edit environments =>
    rw [environment_of_environments environments, Pool.environment_modify]
    split
    · rename_i here
      exact here.1 ▸ edit.steps
    · exact .inl rfl

end Steps

section Sound

variable {registry : FeatureRegistry} {e : Environment}

namespace Environment.Sound

theorem created (registry : FeatureRegistry) (id : EnvironmentId) (found : MatchedEnvironment) :
    Sound registry { ofMatch id found with inUse := true } where
  connected := nofun
  deployed := nofun
  deleted := nofun
  unprovisioned _ := by
    constructor
    · rfl
    · intro node listed
      obtain ⟨entry, -, rfl⟩ := List.mem_map.1 listed
      rfl
  numbered := by simp [ofMatch, Node.new, Function.comp_def, List.range_eq_range']
  fitted := by
    intro node listed type handle has
    obtain ⟨entry, -, rfl⟩ := List.mem_map.1 listed
    cases has

theorem absent (registry : FeatureRegistry) (id : EnvironmentId) :
    Sound registry (Pool.absent id) where
  connected := nofun
  deployed := nofun
  unprovisioned := by simp [Pool.absent]
  deleted _ := by simp [Pool.absent]
  numbered := rfl
  fitted := by simp [Pool.absent]

/-- Of a prepared environment little is to be known. -/
theorem of_prepared (prepared : e.status = .prepared) (clean : e.dirty = false)
    (unconnected : ∀ node ∈ e.nodes, node.isConnected = false)
    (numbered : e.nodes.map Node.index = List.range e.nodes.length)
    (fitted : ∀ node ∈ e.nodes, registry.Fits node.features) : e.Sound registry where
  connected := by simp [prepared]
  deployed := by simp [prepared, EnvironmentStatus.isDeployed]
  unprovisioned _ := ⟨clean, unconnected⟩
  deleted := by simp [prepared]
  numbered
  fitted

theorem forceDeleted (sound : e.Sound registry) : e.forceDeleted.Sound registry where
  connected := nofun
  deployed := nofun
  unprovisioned := nofun
  deleted _ := by
    constructor
    · rfl
    · intro node listed
      obtain ⟨before, -, rfl⟩ := List.mem_map.1 listed
      exact ⟨rfl, rfl⟩
  numbered := by
    simpa [Environment.forceDeleted, Node.clearFeatures, Function.comp_def] using sound.numbered
  fitted := by
    intro node listed type handle has
    obtain ⟨before, -, rfl⟩ := List.mem_map.1 listed
    cases has

/-- What a platform provides does not show in sessions and features. -/
theorem accept (sound : e.Sound registry) (prepared : e.status = .prepared) (p : Provision) :
    (e.accept p).Sound registry := by
  obtain ⟨clean, unconnected⟩ := sound.unprovisioned (.inr prepared)
  have same {β : Type} {f : Node → β}
      (kept : ∀ (node : Node) (machine : Machine), f { node with toMachine := machine } = f node) :
      (e.accept p).nodes.map f = e.nodes.map f :=
    Node.map_equip kept e.nodes p.machines
  apply of_prepared (e := e.accept p) prepared clean
  · exact forall_of_map_eq (P := fun connected => connected = false) (same (fun _ _ => rfl))
      unconnected
  · have length : (e.accept p).nodes.length = e.nodes.length := Node.equip_length _ _
    rw [same (fun _ _ => rfl), length]
    exact sound.numbered
  · exact forall_of_map_eq (f := Node.features) (same (fun _ _ => rfl)) sound.fitted

/-- What is kept of the nodes when features are attached to some of them. -/
theorem attach (sound : e.Sound registry) (prepared : e.status = .prepared) :
    Sound registry { e with nodes := (registry.attachToAll e.nodes).1 } := by
  obtain ⟨clean, unconnected⟩ := sound.unprovisioned (.inr prepared)
  have same {β : Type} {f : Node → β}
      (kept : ∀ (node : Node) (features : Dict FeatureType FeatureHandle),
        f { node with features } = f node) :
      (registry.attachToAll e.nodes).1.map f = e.nodes.map f :=
    FeatureRegistry.map_attachToAll kept registry e.nodes
  apply of_prepared (e := { e with nodes := (registry.attachToAll e.nodes).1 }) prepared clean
  · exact forall_of_map_eq (P := fun connected => connected = false) (same (fun _ _ => rfl))
      unconnected
  · rw [same (fun _ _ => rfl), registry.attachToAll_length]
    exact sound.numbered
  · exact FeatureRegistry.attachToAll_fits sound.fitted

/-- An environment is deployed once features were attached to all nodes. -/
theorem equip (sound : e.Sound registry) (prepared : e.status = .prepared)
    (attached : (registry.attachToAll e.nodes).2 = none) :
    Sound registry { e with nodes := (registry.attachToAll e.nodes).1, status := .deployed } := by
  have before := sound.attach prepared
  have types := FeatureRegistry.attachToAll_featureTypes sound.fitted attached
  exact {
    connected := nofun
    deployed := fun _ node listed =>
      ⟨types node listed, fun type handle has => (before.fitted node listed type handle has).1⟩
    unprovisioned := nofun
    deleted := nofun
    numbered := before.numbered
    fitted := before.fitted }

/-- Flags of a deployed environment are free to change. -/
theorem flag (sound : e.Sound registry) (deployed : e.status.isDeployed = true)
    (dirty inUse : Bool) : Sound registry { e with dirty, inUse } where
  connected := sound.connected
  deployed := sound.deployed
  unprovisioned early := by
    change e.status = .new ∨ e.status = .prepared at early
    rcases early with new | prepared
    · simp [new, EnvironmentStatus.isDeployed] at deployed
    · simp [prepared, EnvironmentStatus.isDeployed] at deployed
  deleted dead := by
    change e.status = .deleted at dead
    simp [dead, EnvironmentStatus.isDeployed] at deployed
  numbered := sound.numbered
  fitted := sound.fitted

/-- A node of a deployed environment gets a session. -/
theorem openSession (sound : e.Sound registry) (deployed : e.status = .deployed) (index : Nat)
    (session : Session) :
    (e.modifyNode index (fun node => { node with session := some session })).Sound registry := by
  have same {β : Type} {f : Node → β}
      (kept : ∀ node : Node, f { node with session := some session } = f node) :
      (e.modifyNode index (fun node => { node with session := some session })).nodes.map f =
        e.nodes.map f :=
    map_modify_of_same kept e.nodes index
  have status : (e.modifyNode index (fun node => { node with session := some session })).status =
      .deployed := deployed
  have features := sound.deployed (by rw [deployed]; rfl)
  exact {
    connected := by simp [status]
    deployed := fun _ => forall_of_map_eq (f := Node.features)
      (P := fun features => features.keys = registry.types ∧
        ∀ type handle, features.get? type = some handle → handle.type = type)
      (same (fun _ => rfl)) features
    unprovisioned := by simp [status]
    deleted := by simp [status]
    numbered := by
      have length := congrArg List.length (same (f := Node.index) (fun _ => rfl))
      rw [List.length_map, List.length_map] at length
      rw [same (fun _ => rfl), length]
      exact sound.numbered
    fitted := forall_of_map_eq (f := Node.features) (same (fun _ => rfl)) sound.fitted }

/-- A deployed environment whose nodes have a session each can be called connected. -/
theorem connect (sound : e.Sound registry) (deployed : e.status = .deployed)
    (sessions : ∀ node ∈ e.nodes, node.isConnected = true) :
    Sound registry { e with status := .connected } where
  connected _ := sessions
  deployed _ := sound.deployed (by rw [deployed]; rfl)
  unprovisioned := nofun
  deleted := nofun
  numbered := sound.numbered
  fitted := sound.fitted

end Environment.Sound

/-- Everything but connecting keeps environments sound. -/
theorem Manager.upkeep_sound (m : Manager) :
    m.Upkeep (fun _ _ => True) (Environment.Sound m.features) (fun _ => True) where
  created := .created m.features
  handedOut e deployed sound := sound.flag deployed e.dirty true
  handedBack e sound := {
    sound with deleted := fun dead => ⟨rfl, (sound.deleted dead).2⟩ }
  dirtied e deployed sound := sound.flag deployed true e.inUse
  deleted _ sound := sound.forceDeleted
  prepared e new sound := by
    obtain ⟨clean, unconnected⟩ := sound.unprovisioned (.inl new)
    exact .of_prepared rfl clean unconnected sound.numbered sound.fitted
  accepted _ deployed _ prepared sound := ⟨sound.accept prepared deployed.provision, fun _ => trivial⟩
  attached _ prepared sound _ := sound.attach prepared
  equipped _ prepared sound _ attached := sound.equip prepared attached

end Sound

section Connecting

/-- Sound environments, one of which is being connected: it is deployed, and of its nodes, so many in
all, the first ones have a session. -/
structure Pool.Connecting (registry : FeatureRegistry) (id : EnvironmentId) (total count : Nat)
    (p : Pool) : Prop where
  all : p.All (Environment.Sound registry)
  deployed : (p.environment id).status = .deployed
  nodes : (p.environment id).nodes.length = total
  sessions : ∀ (i : Nat) (node : Node), i < count → (p.environment id).nodes[i]? = some node →
    node.isConnected = true

variable {m : Manager} {A : (r : Request) → r.Reply → Prop} {registry : FeatureRegistry}
  {id : EnvironmentId} {total count : Nat} {p q : Pool}

namespace Pool.Connecting

/-- Others leave the environment as it is. -/
theorem of_same (connecting : p.Connecting registry id total count)
    (same : q.environment id = p.environment id) (all : q.All (Environment.Sound registry)) :
    q.Connecting registry id total count where
  all
  deployed := same ▸ connecting.deployed
  nodes := same ▸ connecting.nodes
  sessions := same ▸ connecting.sessions

/-- The next node gets its session. -/
theorem next (connecting : p.Connecting registry id total count) (session : Session) :
    (p.modify id (·.modifyNode count (fun node => { node with session := some session }))).Connecting
      registry id total (count + 1) := by
  have has : p.Has id := Pool.has_of_alive (by simp [connecting.deployed])
  have now : (p.modify id (·.modifyNode count
      (fun node => { node with session := some session }))).environment id =
      (p.environment id).modifyNode count (fun node => { node with session := some session }) := by
    rw [Pool.environment_modify, if_pos ⟨rfl, has⟩]
  constructor
  · exact connecting.all.modify (fun sound => sound.openSession connecting.deployed count session)
  · rw [now]
    exact connecting.deployed
  · rw [now]
    exact (List.length_modify ..).trans connecting.nodes
  · intro i node below found
    rw [now, Environment.modifyNode, List.getElem?_modify] at found
    obtain ⟨before, there, rfl⟩ := Option.map_eq_some_iff.1 found
    split
    · rfl
    · exact connecting.sessions i before (by omega) there

/-- All nodes have a session then. -/
theorem connected (connecting : p.Connecting registry id total total) :
    ∀ node ∈ (p.environment id).nodes, node.isConnected = true := by
  intro node listed
  obtain ⟨i, inside, at_i⟩ := List.getElem_of_mem listed
  apply connecting.sessions i node (connecting.nodes ▸ inside)
  rw [← at_i]
  exact List.getElem?_eq_getElem inside

end Pool.Connecting

namespace Manager

theorem connectNode_sustains (attempts : UInt32) (node : Node)
    (connecting : p.Connecting registry id total count) :
    (m.connectNode id count attempts node).Sustains id (Pool.All (Environment.Sound registry)) A
      (Leaves (Environment.Sound registry) (Pool.Connecting registry id total (count + 1))) p := by
  have noted (p : Pool) (connecting : p.Connecting registry id total count) :
      p.overflow.Connecting registry id total count := connecting.of_same rfl connecting.all
  unfold connectNode
  cases node.connection with
  | none => exact .pure (.failed connecting.all)
  | some info =>
    have tried : (retry m.config.connect (m.connectSteps info)).Respects
        (fun p q => p.Connecting registry id total count → q.Connecting registry id total count)
        (fun _ => True) := by
      apply tryConnect_respects
      · exact fun _ connecting => connecting
      · exact fun _ => trivial
      · exact fun _ connecting => connecting.of_same rfl connecting.all
      · exact noted
    refine .bind (.of_keeps tried (fun _ connecting => connecting.all)
      (fun _ _ same all connecting => connecting.of_same same all) connecting) ?_
    intro outcome q connecting
    cases outcome with
    | ok attempted =>
      have summed : Program.Respects
          (fun p q => p.Connecting registry id total count → q.Connecting registry id total count)
          (fun _ => True)
          (addCounts (Program.modify Pool.overflow) attempts attempted.attempts : Work UInt32) :=
        addCounts_respects (.modify noted) _ _
      refine .bind (.of_keeps summed (fun _ connecting => connecting.all)
        (fun _ _ same all connecting => connecting.of_same same all) connecting) ?_
      intro attempts q connecting
      have opened := connecting.next attempted.value
      exact .modify_bind (.pure ⟨opened.all, fun _ _ => opened⟩)
    | error error => cases error <;> exact .pure (.failed connecting.all)

/-- All nodes before the next one have their sessions while nodes are connected. -/
theorem connectNodes_sustains (nodes : List Node) (attempts : UInt32)
    (connecting : p.Connecting registry id total count) :
    (m.connectNodes id count attempts nodes).Sustains id (Pool.All (Environment.Sound registry)) A
      (Leaves (Environment.Sound registry) (Pool.Connecting registry id total (count + nodes.length)))
      p := by
  induction nodes generalizing attempts count p with
  | nil => exact .pure ⟨connecting.all, fun _ _ => connecting⟩
  | cons node rest ih =>
    refine .bind (connectNode_sustains attempts node connecting) (fun outcome q after => ?_)
    cases outcome with
    | error error => exact .pure (.failed after.1)
    | ok attempts =>
      have others := ih attempts (after.2 attempts rfl)
      rw [List.length_cons, Nat.add_comm rest.length, ← Nat.add_assoc]
      exact others

/-- Connecting keeps environments sound: it ends before the status changes, unless every node has a
session. -/
theorem connects_sound (m : Manager) (A : (r : Request) → r.Reply → Prop) :
    m.Connects A (Environment.Sound registry) := by
  intro id p all
  apply Work.Sustains.environment_bind
  cases deployed : (p.environment id).status with
  | new | prepared | connected | deleted => exact .pure all
  | deployed =>
    have none_yet : p.Connecting registry id (p.environment id).nodes.length 0 :=
      ⟨all, deployed, rfl, fun i _ below => absurd below (Nat.not_lt_zero i)⟩
    refine .bind (connectNodes_sustains _ 0 none_yet) (fun outcome q after => ?_)
    cases outcome with
    | error error => exact .pure after.1
    | ok total =>
      have connecting := after.2 total rfl
      rw [Nat.zero_add] at connecting
      have allowed : Environment.Sound registry { q.environment id with status := .connected } :=
        (after.1 id).connect connecting.deployed connecting.connected
      refine .bind (setStatus_sustains after.1 (fun _ => allowed)) (fun outcome q after => ?_)
      cases outcome with
      | error error => exact .pure after.1
      | ok _ => exact .modify_bind (.pure after.1)

end Manager

end Connecting

namespace Manager

/-- In all traffic of a manager the status of every environment tells what its nodes have. An
environment is found later at a status that the allowed steps lead to, and dirty if it was, and
no single change of an operation makes more than one such step. -/
theorem traffic_consistent (m : Manager) (rules : Standing → Task → Bool) :
    (∀ turns id, ((m.traffic rules turns).pool.environment id).Consistent m.features) ∧
    (∀ earlier later id, (m.traffic rules earlier).pool.Has id →
      ((m.traffic rules earlier).pool.environment id).Forward
        ((m.traffic rules (earlier ++ later)).pool.environment id)) ∧
    ∀ task, (m.perform task).Respects Pool.Steps (fun _ => True) := by
  constructor
  · intro turns id
    have sound := traffic_upheld m.upkeep_sound (m.connects_sound _) (.absent m.features) rules turns
      (fun _ _ _ _ => trivial) id
    exact sound.toConsistent
  constructor
  · intro earlier later id has
    exact (m.traffic_evolves rules earlier later has).2.forward
  · intro task
    exact (m.perform_changes task).mono (fun _ _ change => change.steps) (fun _ _ => trivial)

/-- In all traffic the nodes of an environment stand at the places that they name. -/
theorem traffic_numbered (m : Manager) (rules : Standing → Task → Bool) (turns : List Turn)
    (id : EnvironmentId) :
    let e := (m.traffic rules turns).pool.environment id
    e.nodes.map Node.index = List.range e.nodes.length :=
  (traffic_upheld m.upkeep_sound (m.connects_sound _) (.absent m.features) rules turns
    (fun _ _ _ _ => trivial) id).numbered

end Manager

end Testbed
