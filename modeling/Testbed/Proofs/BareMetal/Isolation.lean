import Testbed.Proofs.BareMetal.Deployment
import Testbed.Proofs.Lifecycle.Provision

/-!
# Which clients environments share

A bare-metal platform keeps no account of the clients that are taken: every deployment goes to the
first clients of the first cluster, one for each node. So the nodes of one environment are kept
apart from each other if the clients are, and environments that are deployed at the same time share
the clients at the places that they have in common.
-/
namespace Testbed

theorem Node.equip_connections (nodes : List Node) (machines : List Machine)
    (same : machines.length = nodes.length) :
    (equip nodes machines).map (fun node => node.connection) = machines.map Machine.connection := by
  induction nodes generalizing machines with
  | nil =>
    obtain rfl := List.length_eq_zero_iff.1 same
    rfl
  | cons node nodes ih =>
    cases machines with
    | nil => cases same
    | cons machine machines =>
      have rest := ih machines (Nat.succ.inj same)
      simp [equip, rest]

namespace BareMetal

/-- What a bare-metal platform answers: it counts the clients of its first cluster, deploys as it is
configured until it is done or interrupted, whatever its own calls are answered, and has nothing to
give up. -/
def PlatformConfig.Answers (config : PlatformConfig) : (r : Request) → r.Reply → Prop
  | .prepare e, reply => reply = none ∨ reply = some (.ok (config.canHost e.nodes.length))
  | .deploy e, reply => ∃ (ω : Type) (answer : (c : Call) → ω → Option c.Reply × ω) (w : ω),
    let ran := config.deploy.runUntil answer e.provision w
    reply = ⟨ran.2.1, ran.1.map (·.mapError BareMetalError.toPlatform)⟩
  | .delete _, reply => reply = .ok ()
  | .lock _, _ | .interruptible _, _ | .call _, _ | .notify _, _ => True

/-- An environment whose nodes are reached as the first clients of a cluster. -/
def ClusterConfig.Hosts (cluster : ClusterConfig) (e : Environment) : Prop :=
  e.connections <+: cluster.connections

section Hosting

variable {config : PlatformConfig} {cluster : ClusterConfig} {others : List ClusterConfig}

/-- A deployment that succeeds puts its environment on the clients. -/
theorem PlatformConfig.Answers.hosts (first : config.cluster = cluster :: others)
    (plain : cluster.ipGetter = none) {e : Environment} {deployed : Deployed}
    (answers : config.Answers (.deploy e) deployed) (ok : deployed.outcome = some (.ok ())) :
    cluster.Hosts (e.accept deployed.provision) := by
  obtain ⟨ω, answer, w, rfl⟩ := answers
  obtain ⟨outcome, ended, converted⟩ := Option.map_eq_some_iff.1 ok
  obtain rfl := mapError_ok.1 converted
  have came := (config.deploy_comes first plain e.provision).runUntil answer w ended rfl
  generalize (config.deploy.runUntil answer e.provision w).2.1 = q at came ⊢
  obtain ⟨enough, reached⟩ := came
  have nodes : e.provision.machines.length = e.nodes.length := List.length_map _
  have machines : q.machines.length = e.nodes.length := by
    have lengths := congrArg List.length reached
    simp only [Provision.connections, ClusterConfig.connections, List.length_map,
      List.length_take] at lengths
    omega
  have taken : (e.accept q).connections = cluster.connections.take e.provision.machines.length := by
    rw [← reached]
    exact Node.equip_connections e.nodes q.machines machines
  rw [ClusterConfig.Hosts, taken]
  exact List.take_prefix _ _

theorem PlatformConfig.provides (m : Manager) (first : config.cluster = cluster :: others)
    (plain : cluster.ipGetter = none) : m.Provides config.Answers cluster.Hosts where
  accepted e deployed answers ok := answers.hosts first plain ok
  attached e hosts := by
    have same := FeatureRegistry.map_attachToAll (f := fun node => node.connection)
      (fun _ _ => rfl) m.features e.nodes
    rw [ClusterConfig.Hosts, Environment.connections, same]
    exact hosts
  opened e index session hosts := by
    have same := e.connections_modifyNode index
      (f := fun node => { node with session := some session }) (fun _ => rfl)
    rw [ClusterConfig.Hosts, same]
    exact hosts
  flagged e status dirty inUse hosts := hosts

/-- The node at a place is reached as the client at that place. -/
theorem ClusterConfig.Hosts.client {e : Environment} (hosts : cluster.Hosts e) {i : Nat}
    {node : Node} (at_place : e.nodes[i]? = some node) :
    ∃ client, cluster.client[i]? = some client ∧ node.connection = some client.connection := by
  have reached : e.connections[i]? = some node.connection := by
    simp [Environment.connections, at_place]
  have listed : cluster.connections[i]? = some node.connection := by
    obtain ⟨more, whole⟩ := hosts
    have inside := (List.getElem?_eq_some_iff.1 reached).1
    rw [← whole, List.getElem?_append_left inside, reached]
  rw [ClusterConfig.connections, List.getElem?_map] at listed
  obtain ⟨client, found, same⟩ := Option.map_eq_some_iff.1 listed
  exact ⟨client, found, same.symm⟩

/-- In all traffic of a manager on a bare-metal platform whose first cluster has clients with
endpoints of their own and no address getter, two nodes of deployed or connected environments, of
one or of two, have the same endpoint exactly if they have the same place in their environments. -/
theorem PlatformConfig.traffic_endpoints (config : PlatformConfig)
    (first : config.cluster = cluster :: others)
    (distinct : (cluster.client.map (fun client => client.connection.endpoint)).Nodup)
    (plain : cluster.ipGetter = none) (m : Manager) (rules : Standing → Task → Bool)
    (turns : List Turn) (answered : Traffic.Answered config.Answers turns) :
    let p := (m.traffic rules turns).pool
    ∀ a b, (p.environment a).status.isDeployed = true →
      (p.environment b).status.isDeployed = true →
      ∀ (i j : Nat) (node other : Node), (p.environment a).nodes[i]? = some node →
        (p.environment b).nodes[j]? = some other →
        ∃ info info', node.connection = some info ∧ other.connection = some info' ∧
          (info.endpoint = info'.endpoint ↔ i = j) := by
  intro p a b deployed deployed' i j node other at_i at_j
  have hosted (k : EnvironmentId) (deployed : (p.environment k).status.isDeployed = true) :
      cluster.Hosts (p.environment k) :=
    Manager.traffic_provided (provides m first plain) rules turns answered k deployed
  obtain ⟨client, found, reached⟩ := (hosted a deployed).client at_i
  obtain ⟨client', found', reached'⟩ := (hosted b deployed').client at_j
  refine ⟨client.connection, client'.connection, reached, reached', ?_⟩
  have place : (cluster.client.map (fun client => client.connection.endpoint))[i]? =
      some client.connection.endpoint := by simp [found]
  have place' : (cluster.client.map (fun client => client.connection.endpoint))[j]? =
      some client'.connection.endpoint := by simp [found']
  have inside := (List.getElem?_eq_some_iff.1 place).1
  have apart := List.getElem?_inj inside distinct (j := j)
  rw [place, place', Option.some.injEq] at apart
  exact apart

end Hosting

/-- Answers of a bare-metal platform with which nothing fails. -/
def PlatformConfig.obliging (config : PlatformConfig) : (r : Request) → r.Reply
  | .prepare e => some (.ok (config.canHost e.nodes.length))
  | .deploy e =>
    let ran := config.deploy.runUntil (fun c (w : Unit) => (some c.obliging, w)) e.provision ()
    ⟨ran.2.1, ran.1.map (·.mapError BareMetalError.toPlatform)⟩
  | r => r.obliging

theorem PlatformConfig.obliging_answers (config : PlatformConfig) (r : Request) :
    config.Answers r (config.obliging r) := by
  cases r with
  | prepare e => exact .inr rfl
  | deploy e => exact ⟨Unit, _, (), rfl⟩
  | delete e => rfl
  | lock id | interruptible call | call call | notify message => trivial

/-- A rack of two clients. -/
def rack : ClusterConfig where
  client := [{ managementPort := some 1, connection := .new "10.0.0.1" "root" },
    { managementPort := some 2, connection := .new "10.0.0.2" "root" }]
  settings := .ofList [("connection", .object [("address", .string "10.0.0.9"),
    ("username", .string "admin")])]

def rackPlatform : PlatformConfig := { cluster := [rack] }

def rackManager : Manager where
  platform := platformName
  features := features
  candidates := [{ nodes := [{}] }]
  config := {}

/-- Two clients of the manager have an environment of one node deployed each. -/
def deployBoth : List Turn :=
  let answer (client : Nat) : Turn := .answer client rackPlatform.obliging
  [.call 0 (.prepare { nodes := [{}] }), .call 1 (.prepare { nodes := [{}] }),
    .call 0 (.deploy ⟨0⟩), answer 0, answer 0, answer 0,
    .call 1 (.deploy ⟨1⟩), answer 1, answer 1, answer 1]

theorem deployBoth_answered : Traffic.Answered rackPlatform.Answers deployBoth := by
  intro client reply member r
  have same : reply = rackPlatform.obliging := by
    simp only [deployBoth, List.mem_cons, Turn.answer.injEq, reduceCtorEq, false_or,
      List.not_mem_nil, or_false] at member
    rcases member with turn | turn | turn | turn | turn | turn <;> exact turn.2
  rw [same]
  exact rackPlatform.obliging_answers r

/-- Both environments are deployed then, and their only nodes have the same endpoint. -/
theorem traffic_endpoints_deployBoth :
    let p := (rackManager.traffic Standing.mayAsk deployBoth).pool
    (rack.client.map (fun client => client.connection.endpoint)).Nodup ∧
      (p.environment ⟨0⟩).status = .deployed ∧ (p.environment ⟨1⟩).status = .deployed ∧
      ∃ (node other : Node) (info info' : ConnectionInfo),
        (p.environment ⟨0⟩).nodes[0]? = some node ∧ (p.environment ⟨1⟩).nodes[0]? = some other ∧
        node.connection = some info ∧ other.connection = some info' ∧
        info.endpoint = info'.endpoint := by
  intro p
  have distinct : (rack.client.map (fun client => client.connection.endpoint)).Nodup := by
    decide +kernel
  have deployed : (p.environment ⟨0⟩).status = .deployed := by decide +kernel
  have deployed' : (p.environment ⟨1⟩).status = .deployed := by decide +kernel
  have nodes : (p.environment ⟨0⟩).nodes.length = 1 := by decide +kernel
  have nodes' : (p.environment ⟨1⟩).nodes.length = 1 := by decide +kernel
  have at_zero : (p.environment ⟨0⟩).nodes[0]? = some (p.environment ⟨0⟩).nodes[0] :=
    List.getElem?_eq_getElem (by omega)
  have at_zero' : (p.environment ⟨1⟩).nodes[0]? = some (p.environment ⟨1⟩).nodes[0] :=
    List.getElem?_eq_getElem (by omega)
  obtain ⟨info, info', reached, reached', same⟩ := rackPlatform.traffic_endpoints rfl distinct rfl
    rackManager Standing.mayAsk deployBoth deployBoth_answered ⟨0⟩ ⟨1⟩ (deployed ▸ rfl)
    (deployed' ▸ rfl) 0 0 _ _ at_zero at_zero'
  exact ⟨distinct, deployed, deployed', _, _, info, info', at_zero, at_zero', reached, reached',
    same.2 rfl⟩

/-- So environments that are deployed at the same time are not kept apart from each other. -/
theorem deployBoth_not_isolated :
    let p := (rackManager.traffic Standing.mayAsk deployBoth).pool
    rackPlatform.cluster = [rack] ∧ rack.ipGetter = none ∧
      (rack.client.map (fun client => client.connection.endpoint)).Nodup ∧
      Traffic.Answered rackPlatform.Answers deployBoth ∧
      ¬ ∀ a b, a ≠ b → (p.environment a).status.isDeployed = true →
        (p.environment b).status.isDeployed = true →
        ∀ node ∈ (p.environment a).nodes, ∀ other ∈ (p.environment b).nodes,
        ∀ info info', node.connection = some info → other.connection = some info' →
          info.endpoint ≠ info'.endpoint := by
  intro p
  have distinct : (rack.client.map (fun client => client.connection.endpoint)).Nodup := by
    decide +kernel
  refine ⟨rfl, rfl, distinct, deployBoth_answered, fun isolated => ?_⟩
  have deployed : (p.environment ⟨0⟩).status.isDeployed = true := by decide +kernel
  have deployed' : (p.environment ⟨1⟩).status.isDeployed = true := by decide +kernel
  have reached : some (.new "10.0.0.1" "root") ∈ (p.environment ⟨0⟩).connections := by
    decide +kernel
  have reached' : some (.new "10.0.0.1" "root") ∈ (p.environment ⟨1⟩).connections := by
    decide +kernel
  obtain ⟨node, among, info⟩ := List.mem_map.1 reached
  obtain ⟨other, among', info'⟩ := List.mem_map.1 reached'
  exact isolated ⟨0⟩ ⟨1⟩ nofun deployed deployed' node among other among' _ _ info info' rfl

end BareMetal

end Testbed
