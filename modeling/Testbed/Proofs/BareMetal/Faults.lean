import Testbed.Proofs.BareMetal.Isolation
import Testbed.Proofs.BareMetal.Resets

/-!
# Faulty configurations

Everything that can be wrong with a configuration is found before another machine is reached. A rack
manager whose session opens is then told to reset its clients one after the other, up to the first
that fails, and nothing is deployed unless all of them were reset.
-/
namespace Testbed

variable {ω : Type}

namespace BareMetal

/-- What can be wrong with the cluster that is to host so many nodes. -/
inductive ClusterConfig.Fault (cluster : ClusterConfig) (nodes : Nat) : Prop where
  | unknownCluster (unknown : clusters.contains cluster.typeName = false)
  | unknownReadyChecker {checker : ReadyCheckerConfig} (given : cluster.readyChecker = some checker)
    (unknown : readyCheckers.contains checker.typeName = false)
  | unknownIpGetter {getter : IpGetterConfig} (given : cluster.ipGetter = some getter)
    (unknown : ipGetters.contains getter.typeName = false)
  | clusterSettings (unreadable : cluster.settings.connection? = none)
  /-- Only the ready checker that waits for a file has settings. -/
  | readyCheckerSettings {checker : ReadyCheckerConfig}
    (given : cluster.readyChecker = some checker)
    (file : checker.typeName = ReadyChecker.fileSingleName)
    (unreadable : checker.settings.file? = none)
  | ipGetterSettings {getter : IpGetterConfig} (given : cluster.ipGetter = some getter)
    (unreadable : getter.settings.file? = none)
  | noClient (missing : cluster.client = [])
  | notEnoughClients (few : cluster.client.length < nodes)
  | missingManagementPort (client : ClientConfig) (member : client ∈ cluster.client)
    (unplugged : client.managementPort = none)

/-- What can be wrong with a configuration for an environment of so many nodes. -/
inductive PlatformConfig.Fault (config : PlatformConfig) (nodes : Nat) : Prop where
  | noCluster (missing : config.cluster = [])
  | cluster {cluster : ClusterConfig} {others : List ClusterConfig}
    (first : config.cluster = cluster :: others) (fault : cluster.Fault nodes)

section Creation

variable {κ α : Type}

theorem Registry.create_ok {registry : Registry κ α} {typeName : String} {config : κ} {value : α}
    (created : registry.create typeName config = .ok value) :
    ∃ factory, registry.factories.get? typeName = some factory ∧ factory config = .ok value := by
  unfold Registry.create at created
  split at created
  · exact ⟨_, ‹_›, created⟩
  · cases created

theorem Registry.contains_of_create {registry : Registry κ α} {typeName : String} {config : κ}
    {value : α} (created : registry.create typeName config = .ok value) :
    registry.contains typeName = true := by
  obtain ⟨factory, found, -⟩ := create_ok created
  simp [Registry.contains, Dict.contains, found]

theorem createOptional_ok {registry : Registry κ α} {typeName : κ → String} {config : κ}
    {created : Option α} (ok : createOptional registry typeName (some config) = .ok created) :
    ∃ value, registry.create (typeName config) config = .ok value := by
  obtain ⟨value, created, -⟩ := map_ok.1 ok
  exact ⟨value, created⟩

/-- Where one type is registered, it is the one that creates. -/
theorem Registry.create_only {registry : Registry κ α} {name typeName : String}
    {factory : κ → Except BareMetalError α} {config : κ} {value : α}
    (only : registry.factories = .ofList [(name, factory)])
    (created : registry.create typeName config = .ok value) : factory config = .ok value := by
  obtain ⟨found, listed, made⟩ := create_ok created
  simp only [only, Dict.ofList, List.foldl, Dict.get?_insert, Dict.get?_empty] at listed
  split at listed
  · obtain rfl := Option.some.inj listed
    exact made
  · cases listed

theorem RackManager.of_create {config : ClusterConfig} {typeName : String} {manager : RackManager}
    (created : clusters.create typeName config = .ok manager) :
    config.settings.connection? = some manager.connection ∧ manager.clients = config.client := by
  have made := Registry.create_only rfl created
  unfold RackManager.ofConfig at made
  split at made
  · rename_i connection read
    obtain rfl := Except.ok.inj made
    exact ⟨read, rfl⟩
  · cases made

theorem IpGetter.of_create {config : IpGetterConfig} {typeName : String} {getter : IpGetter}
    (created : ipGetters.create typeName config = .ok getter) :
    config.settings.file? = some getter.file := by
  have made := Registry.create_only rfl created
  unfold IpGetter.ofConfig at made
  split at made
  · rename_i file read
    obtain rfl := Except.ok.inj made
    exact read
  · cases made

theorem ReadyChecker.of_create {config : ReadyCheckerConfig} {checker : ReadyChecker}
    (created : readyCheckers.create fileSingleName config = .ok checker) :
    config.settings.file? ≠ none := by
  obtain ⟨factory, found, made⟩ := Registry.create_ok created
  obtain rfl : fileSingleOfConfig = factory := by
    simp only [readyCheckers, Dict.ofList, List.foldl, Dict.get?_insert, Dict.get?_empty] at found
    split at found
    · exact absurd ‹ReadyChecker.fileSingleName = ReadyChecker.sshName› (by decide)
    · exact Option.some.inj found
  unfold fileSingleOfConfig at made
  split at made
  · rename_i file read
    simp [read]
  · cases made

end Creation

theorem RackManager.portsFrom_ok {index : Nat} {clients : List ClientConfig} {ports : List UInt32}
    (known : portsFrom index clients = .ok ports) :
    clients.map ClientConfig.managementPort = ports.map some := by
  induction clients generalizing index ports with
  | nil =>
    obtain rfl := Except.ok.inj known
    rfl
  | cons client rest ih =>
    rw [portsFrom] at known
    cases plugged : client.managementPort with
    | none =>
      rw [plugged] at known
      cases known
    | some port =>
      rw [plugged] at known
      obtain ⟨others, found, rfl⟩ := map_ok.1 known
      simp [plugged, ih found]

theorem RackManager.ports_ok {r : RackManager} {ports : List UInt32} (known : r.ports = .ok ports) :
    r.clients.map ClientConfig.managementPort = ports.map some := by
  unfold RackManager.ports at known
  split at known
  · cases known
  · exact portsFrom_ok known

/-- A plan whose rack manager knows its ports has no fault. -/
theorem PlatformConfig.Fault.unsettled {config : PlatformConfig} {nodes : Nat}
    (fault : config.Fault nodes) {plan : Plan} (planned : config.plan nodes = .ok plan)
    (ports : List UInt32) : plan.manager.ports ≠ .ok ports := by
  intro known
  obtain ⟨cluster, others, first, created, some_client, enough, checks, gets, -⟩ :=
    plan_settles planned
  obtain ⟨read, clients⟩ := RackManager.of_create created
  cases fault with
  | noCluster missing => simp [missing] at first
  | cluster same fault =>
    obtain ⟨rfl, -⟩ := List.cons.inj (first.symm.trans same)
    cases fault with
    | unknownCluster unknown => simp [Registry.contains_of_create created] at unknown
    | unknownReadyChecker given unknown =>
      rw [given] at checks
      obtain ⟨checker, created⟩ := createOptional_ok checks
      simp [Registry.contains_of_create created] at unknown
    | unknownIpGetter given unknown =>
      rw [given] at gets
      obtain ⟨getter, created⟩ := createOptional_ok gets
      simp [Registry.contains_of_create created] at unknown
    | clusterSettings unreadable => simp [unreadable] at read
    | readyCheckerSettings given file unreadable =>
      rw [given] at checks
      obtain ⟨checker, created⟩ := createOptional_ok checks
      rw [file] at created
      exact ReadyChecker.of_create created unreadable
    | ipGetterSettings given unreadable =>
      rw [given] at gets
      obtain ⟨getter, created⟩ := createOptional_ok gets
      simp [IpGetter.of_create created] at unreadable
    | noClient missing => exact some_client missing
    | notEnoughClients few => omega
    | missingManagementPort client member unplugged =>
      have listed : none ∈ plan.manager.clients.map ClientConfig.managementPort :=
        List.mem_map.2 ⟨client, clients ▸ member, unplugged⟩
      simp [RackManager.ports_ok known] at listed

section Attempts

variable {config : PlatformConfig} {m : Manager} {site : Site ω} {e left : Environment}
  {result : Except LifecycleError Unit} {calls : CallLog}

/-- How far the platform comes, from what the configuration alone decides on. -/
inductive PlatformConfig.Reaches (config : PlatformConfig) (nodes : Nat) :
    CallLog → Option (Except BareMetalError Unit) → Prop where
  | unplanned {outcome : Option (Except BareMetalError Unit)} (failed : outcome ≠ some (.ok ())) :
    Reaches config nodes [] outcome
  | planned {plan : Plan} {log : CallLog} {outcome : Option (Except BareMetalError Unit)}
    (planned : config.plan nodes = .ok plan) (reaches : plan.Reaches log outcome) :
    Reaches config nodes log outcome

theorem PlatformConfig.deploy_traces (config : PlatformConfig) (p : Provision) :
    config.deploy.Traces (fun log outcome _ => config.Reaches p.machines.length log outcome) p := by
  refine .get_bind ?_
  split
  · exact .pure (.unplanned nofun)
  · rename_i plan planned
    exact (plan.carryOut_traces p).mono (fun log outcome _ => .planned planned)

/-- Whatever ends an attempt, its calls are those of the platform. -/
theorem Provisions.reaches (provisions : Provisions config m site e result left calls) :
    ∃ outcome, config.Reaches e.nodes.length calls outcome ∧
      (result = .ok () → outcome = some (.ok ())) ∧
      (outcome = none → result = .error (.cancelled .deploy)) := by
  have nodes : e.provision.machines.length = e.nodes.length := List.length_map _
  rw [← nodes]
  have traces := config.deploy_traces e.provision
  cases provisions with
  | cancelled => exact ⟨none, .unplanned nofun, nofun, fun _ => rfl⟩
  | interrupted ran => exact ⟨none, PlatformConfig.deployAt_traces traces ran, nofun, fun _ => rfl⟩
  | failed ran => exact ⟨_, PlatformConfig.deployAt_traces traces ran, nofun, nofun⟩
  | unequipped ran _ => exact ⟨_, PlatformConfig.deployAt_traces traces ran, nofun, nofun⟩
  | equipped ran _ => exact ⟨_, PlatformConfig.deployAt_traces traces ran, fun _ => rfl, nofun⟩

/-- An attempt with a new environment is over before the platform deploys, or is up to the platform.
-/
theorem Attempts.reaches (attempts : Attempts config m site e result left calls)
    (new : e.status = .new) :
    calls = [] ∧ result ≠ .ok () ∨ ∃ outcome, config.Reaches e.nodes.length calls outcome ∧
      (result = .ok () → outcome = some (.ok ())) ∧
      (outcome = none → result = .error (.cancelled .deploy)) := by
  cases attempts with
  | settled deployed => simp [new, EnvironmentStatus.isDeployed] at deployed
  | deleted deleted => simp [new] at deleted
  | prepared prepared => simp [new] at prepared
  | unprepared | refused => exact .inl ⟨rfl, nofun⟩
  | agreed _ _ provisions => exact .inr provisions.reaches

/-- Faults of the configuration are found before another machine is reached. -/
theorem Attempts.faulty (attempts : Attempts config m site e result left calls)
    (new : e.status = .new) (fault : config.Fault e.nodes.length) :
    result ≠ .ok () ∧ ∀ exchange ∈ calls, exchange.request.isRemote = false := by
  rcases attempts.reaches new with ⟨rfl, failed⟩ | ⟨outcome, reaches, ok, -⟩
  · exact ⟨failed, nofun⟩
  · cases reaches with
    | unplanned failed => exact ⟨fun done => failed (ok done), nofun⟩
    | planned planned reaches =>
      obtain ⟨failed, here⟩ := reaches.unmanaged (fault.unsettled planned)
      exact ⟨fun done => failed (ok done), here⟩

/-- Too few clients are told before the platform is to deploy. -/
theorem Attempts.crowded (attempts : Attempts config m site e result left calls)
    (new : e.status = .new) {cluster : ClusterConfig} {others : List ClusterConfig}
    (first : config.cluster = cluster :: others) (few : cluster.client.length < e.nodes.length) :
    left = e ∧ calls = [] ∧ (result = .error (.cancelled .prepare) ∨
      result = .error (.deployment e.name (.capacity s!"{m.platform} cannot host {e.name}"))) := by
  have unable : config.canHost e.nodes.length = false := by
    simp [PlatformConfig.canHost, first, few]
  cases attempts with
  | settled deployed => simp [new, EnvironmentStatus.isDeployed] at deployed
  | deleted deleted => simp [new] at deleted
  | prepared prepared => simp [new] at prepared
  | unprepared => exact ⟨rfl, rfl, .inl rfl⟩
  | refused => exact ⟨rfl, rfl, .inr rfl⟩
  | agreed _ able => simp [unable] at able

/-- Once the session to the rack manager is open, its clients are reset in order. -/
theorem Attempts.managed (attempts : Attempts config m site e result left calls)
    (new : e.status = .new) (stays : result ≠ .error (.cancelled .deploy)) {info : ConnectionInfo}
    {session : Session} (opened : ⟨.connect info none, some (.opened session)⟩ ∈ calls) :
    ∃ cluster others ports replies reset, config.cluster = cluster :: others ∧
      cluster.settings.connection? = some info ∧
      cluster.client.map ClientConfig.managementPort = ports.map some ∧
      commands calls = RackManager.resets session ports replies ∧
      RackManager.Resets ports replies reset ∧ (reset ≠ .ok () → result ≠ .ok ()) := by
  rcases attempts.reaches new with ⟨rfl, -⟩ | ⟨outcome, reaches, ok, given_up⟩
  · cases opened
  · cases reaches with
    | unplanned => cases opened
    | planned planned reaches =>
      obtain ⟨rfl, ports, replies, reset, known, commands, resets, failed⟩ :=
        reaches.managed (fun none => stays (given_up none)) opened
      obtain ⟨cluster, others, first, created, -⟩ := PlatformConfig.plan_settles planned
      obtain ⟨read, clients⟩ := RackManager.of_create created
      exact ⟨cluster, others, ports, replies, reset, first, read,
        clients ▸ RackManager.ports_ok known, commands, resets,
        fun unreset done => failed unreset (ok done)⟩

end Attempts

/-- No fault of a configuration touches other machines. If anything is wrong with it, an attempt to
deploy a new environment fails with no session tried for and no command begun. If there are fewer
clients than nodes, the environment stays new, and it is reported as lack of capacity unless the run
has been cancelled. And once the session to the rack manager is open, an attempt that is not
cancelled has the clients reset at their ports, in order and up to the first that fails, and fails
itself unless every command succeeds. -/
theorem attempt_cautious (config : PlatformConfig) (m : Manager) (site : Site ω) (p : Pool)
    (id : EnvironmentId) (w : ω) (new : (p.environment id).status = .new) :
    let e := p.environment id
    let attempt := config.attempt m site p id w
    (config.Fault e.nodes.length → attempt.result ≠ .ok () ∧
      ∀ exchange ∈ attempt.calls, exchange.request.isRemote = false) ∧
    (∀ cluster others, config.cluster = cluster :: others →
      cluster.client.length < e.nodes.length →
      (attempt.pool.environment id).status = .new ∧ attempt.calls = [] ∧
      (attempt.pool.cancelled = false → attempt.result =
        .error (.deployment e.name (.capacity s!"{m.platform} cannot host {e.name}")))) ∧
    (∀ info session, ⟨.connect info none, some (.opened session)⟩ ∈ attempt.calls →
      attempt.result ≠ .error (.cancelled .deploy) →
      ∃ cluster others ports replies, config.cluster = cluster :: others ∧
        cluster.settings.connection? = some info ∧
        cluster.client.map ClientConfig.managementPort = ports.map some ∧
        commands attempt.calls = List.zipWith (fun port reply =>
            ⟨.execute session (RackManager.resetCommand port), some reply⟩) ports replies ∧
        (replies.length = ports.length ∧ (∀ reply ∈ replies, Succeeds reply) ∨
          attempt.result ≠ .ok () ∧ ∃ earlier last, replies = earlier ++ [last] ∧
            earlier.length < ports.length ∧ (∀ reply ∈ earlier, Succeeds reply) ∧
            ¬ Succeeds last)) := by
  intro e attempt
  obtain ⟨attempts, stopped⟩ := attempt_attempts config m site p id w
  refine ⟨attempts.faulty new, fun cluster others first few => ?_, ?_⟩
  · obtain ⟨same, none, cancelled | crowded⟩ := attempts.crowded new first few
    · have stopped : attempt.pool.cancelled = true := stopped cancelled
      exact ⟨same ▸ new, none, fun running => by simp [stopped] at running⟩
    · exact ⟨same ▸ new, none, fun _ => crowded⟩
  · intro info session opened stays
    obtain ⟨cluster, others, ports, replies, reset, first, read, plugged, commands, resets,
      failed⟩ := attempts.managed new stays opened
    refine ⟨cluster, others, ports, replies, first, read, plugged, commands, ?_⟩
    cases resets with
    | all complete succeeded => exact .inl ⟨complete, succeeded⟩
    | stopped earlier room succeeded unsuccessful =>
      exact .inr ⟨failed nofun, earlier, _, rfl, room, succeeded, unsuccessful⟩

/-- A site where nothing fails. -/
def rackSite : Site Unit where
  answer call w := (some call.obliging, w)
  pass w := w
  cancelled _ := false

/-- The candidate of a manager of racks, for so many nodes. -/
def rackMatch (nodes : Nat) : MatchedEnvironment where
  candidateIndex := 0
  name := "rack"
  space := { nodes := List.replicate nodes {} }
  nodeAssignment := List.replicate nodes 0

/-- A pool with one environment, of so many nodes. -/
def newEnvironment (nodes : Nat) : Pool := ({} : Pool).create (rackMatch nodes)

/-- A rack of three clients, of which the last one is plugged in nowhere. -/
def unpluggedPlatform : PlatformConfig where
  cluster := [{ rack with client := rack.client ++ [{ connection := .new "10.0.0.3" "root" }] }]

/-- A client without a port keeps others from being reset for an environment that does not need it,
three nodes are too many for two clients, and a node that can be deployed has all clients reset. -/
theorem attempt_cautious_rack :
    let faulty := unpluggedPlatform.attempt rackManager rackSite (newEnvironment 1) ⟨0⟩ ()
    let crowded := rackPlatform.attempt rackManager rackSite (newEnvironment 3) ⟨0⟩ ()
    let deployed := rackPlatform.attempt rackManager rackSite (newEnvironment 1) ⟨0⟩ ()
    (faulty.result ≠ .ok () ∧ ∀ exchange ∈ faulty.calls, exchange.request.isRemote = false) ∧
    ((crowded.pool.environment ⟨0⟩).status = .new ∧ crowded.result =
      .error (.deployment "rack" (.capacity "baremetal cannot host rack"))) ∧
    (deployed.result = .ok () ∧ ∃ replies, replies.length = 2 ∧
      (∀ reply ∈ replies, Succeeds reply) ∧
      commands deployed.calls = List.zipWith (fun port reply =>
          ⟨.execute ⟨"10.0.0.9:22"⟩ (RackManager.resetCommand port), some reply⟩) [1, 2]
          replies) := by
  intro faulty crowded deployed
  have fault : unpluggedPlatform.Fault 1 := .cluster rfl
    (.missingManagementPort { connection := .new "10.0.0.3" "root" }
      (List.mem_append_right _ (List.mem_singleton_self _)) rfl)
  obtain ⟨status, -, told⟩ := (attempt_cautious rackPlatform rackManager rackSite
    (newEnvironment 3) ⟨0⟩ () rfl).2.1 rack [] rfl (by decide)
  have opened : ⟨.connect (.new "10.0.0.9" "admin") none, some (.opened ⟨"10.0.0.9:22"⟩)⟩ ∈
      deployed.calls := .head _
  have done : deployed.result = .ok () := isOk_iff.1 (by decide +kernel)
  have stays : deployed.result ≠ .error (.cancelled .deploy) := by
    rw [done]
    nofun
  obtain ⟨cluster, others, ports, replies, first, -, plugged, commands, all | stopped⟩ :=
    (attempt_cautious rackPlatform rackManager rackSite (newEnvironment 1) ⟨0⟩ () rfl).2.2
      _ _ opened stays
  · obtain ⟨rfl, rfl⟩ := List.cons.inj first
    have plugged : [1, 2].map some = ports.map some := plugged
    obtain rfl := (List.map_inj_right (fun _ _ => Option.some.inj)).1 plugged
    refine ⟨?_, ⟨status, told (by decide +kernel)⟩, done, replies, all.1, all.2, commands⟩
    exact (attempt_cautious unpluggedPlatform rackManager rackSite (newEnvironment 1) ⟨0⟩ ()
      rfl).1 fault
  · exact absurd done stopped.1

end BareMetal

end Testbed
