import Testbed.Proofs.BareMetal.Faults
import Testbed.Proofs.BareMetal.Settling

/-!
# What failed attempts leave behind

Attempts that fail, or are cancelled, leave of an environment nothing that the attempt after them
does not settle anew. So an environment that is deployed in the end is what it would have been if it
had been deployed at once.
-/
namespace Testbed

variable {ω υ : Type}

section Nodes

/-- The machines that nodes are given replace those that they had. -/
theorem Node.equip_equip (nodes : List Node) (machines machines' : List Machine)
    (enough : machines.length ≤ machines'.length) :
    equip (equip nodes machines) machines' = equip nodes machines' := by
  induction nodes generalizing machines machines' with
  | nil => cases machines <;> rfl
  | cons node rest ih =>
    cases machines with
    | nil => rfl
    | cons machine machines =>
      cases machines' with
      | nil => cases enough
      | cons machine' machines' =>
        exact congrArg (_ :: ·) (ih machines machines' (Nat.le_of_succ_le_succ enough))

theorem Node.equip_toMachine (nodes : List Node) :
    equip nodes (nodes.map Node.toMachine) = nodes := by
  induction nodes with
  | nil => rfl
  | cons node rest ih => exact congrArg (node :: ·) ih

theorem Node.map_toMachine_equip (nodes : List Node) (machines : List Machine)
    (same : machines.length = nodes.length) :
    (equip nodes machines).map Node.toMachine = machines := by
  induction nodes generalizing machines with
  | nil => exact (List.length_eq_zero_iff.1 same).symm
  | cons node rest ih =>
    cases machines with
    | nil => cases same
    | cons machine machines => exact congrArg (machine :: ·) (ih machines (Nat.succ.inj same))

end Nodes

namespace Environment

variable {e : Environment} {p q : Provision}

theorem accept_provision (e : Environment) : e.accept e.provision = e := by
  unfold accept provision
  dsimp only
  rw [Node.equip_toMachine]

theorem provision_accept (same : q.machines.length = e.nodes.length) :
    (e.accept q).provision = q := by
  unfold accept provision
  dsimp only
  rw [Node.map_toMachine_equip _ _ same]

theorem accept_accept (enough : p.machines.length ≤ q.machines.length) :
    (e.accept p).accept q = e.accept q := by
  unfold accept
  dsimp only
  rw [Node.equip_equip _ _ _ enough]

end Environment

namespace BareMetal

/-- The features of the platform can be attached to all nodes. -/
theorem attachToAll_features (nodes : List Node) : (features.attachToAll nodes).2 = none := by
  induction nodes with
  | nil => rfl
  | cons node rest ih =>
    have attached : (features.attachAll node).2 = none := rfl
    rw [FeatureRegistry.attachToAll]
    generalize features.attachAll node = result at attached ⊢
    obtain ⟨attached_node, failed⟩ := result
    obtain rfl : failed = none := attached
    exact ih

/-- What a failed attempt may leave of an environment: of one that is deployed, everything; else
machines of which the same lasts, and another status. -/
structure Residue (clients : List ClientConfig) (e e' : Environment) : Prop where
  deployed : e.status.isDeployed = true → e' = e
  undeployed : e.status.isDeployed = false → e'.status.isDeployed = false
  provided : ∃ q, e' = { e.accept q with status := e'.status } ∧
    lasting clients q = lasting clients e.provision

namespace Residue

variable {clients : List ClientConfig} {e e' e'' : Environment}

theorem refl (clients : List ClientConfig) (e : Environment) : Residue clients e e where
  deployed _ := rfl
  undeployed := id
  provided := ⟨e.provision, by rw [e.accept_provision], rfl⟩

/-- What lasts of what is provided is what lasted before. -/
theorem provision (residue : Residue clients e e') :
    lasting clients e'.provision = lasting clients e.provision := by
  obtain ⟨q, same, lasts⟩ := residue.provided
  have nodes : q.machines.length = e.nodes.length :=
    (lasting_length lasts).trans (List.length_map _)
  have provided : e'.provision = q := by
    rw [same]
    exact Environment.provision_accept nodes
  rw [provided, lasts]

/-- Whatever is accepted next replaces it. -/
theorem accept (residue : Residue clients e e') {r : Provision}
    (length : r.machines.length = e.nodes.length) :
    e'.accept r = { e.accept r with status := e'.status } := by
  obtain ⟨q, same, lasts⟩ := residue.provided
  have nodes : q.machines.length = e.nodes.length :=
    (lasting_length lasts).trans (List.length_map _)
  have accepted : (e.accept q).accept r = e.accept r :=
    Environment.accept_accept (Nat.le_of_eq (nodes.trans length.symm))
  calc e'.accept r = { (e.accept q).accept r with status := e'.status } := by rw [same]; rfl
    _ = { e.accept r with status := e'.status } := by rw [accepted]

theorem trans (first : Residue clients e e') (rest : Residue clients e' e'') :
    Residue clients e e'' where
  deployed held := by
    obtain rfl := first.deployed held
    exact rest.deployed held
  undeployed free := rest.undeployed (first.undeployed free)
  provided := by
    obtain ⟨q, same, lasts⟩ := rest.provided
    have lasting := lasts.trans first.provision
    have length : q.machines.length = e.nodes.length :=
      (lasting_length lasting).trans (List.length_map _)
    refine ⟨q, ?_, lasting⟩
    calc e'' = { e'.accept q with status := e''.status } := same
      _ = { e.accept q with status := e''.status } := by rw [first.accept length]

end Residue

section Attempts

variable {config : PlatformConfig} {m : Manager} {site : Site ω} {e left : Environment}
  {result : Except LifecycleError Unit} {calls : CallLog}

theorem Provisions.residue (featured : m.features = features)
    (provisions : Provisions config m site e result left calls) (prepared : e.status = .prepared)
    (failed : result ≠ .ok ()) : Residue config.clients e left := by
  have settles := config.deploy_settles e.provision
  have undeployed : e.status.isDeployed = false := by rw [prepared]; rfl
  have accepted {q : Provision} (lasts : lasting config.clients q =
      lasting config.clients e.provision) : Residue config.clients e (e.accept q) := by
    refine ⟨fun deployed => ?_, id, q, rfl, lasts⟩
    simp [undeployed] at deployed
  cases provisions with
  | cancelled => exact .refl _ _
  | interrupted ran => exact accepted ((PlatformConfig.deployAt_traces settles ran).1 nofun)
  | failed ran => exact accepted ((PlatformConfig.deployAt_traces settles ran).1 nofun)
  | unequipped _ attached =>
    rw [featured, attachToAll_features] at attached
    cases attached
  | equipped => exact absurd rfl failed

theorem Attempts.residue (featured : m.features = features)
    (attempts : Attempts config m site e result left calls) (failed : result ≠ .ok ()) :
    Residue config.clients e left := by
  cases attempts with
  | settled => exact absurd rfl failed
  | deleted | unprepared | refused => exact .refl _ _
  | prepared prepared provisions => exact provisions.residue featured prepared failed
  | agreed new _ provisions =>
    have residue := provisions.residue featured rfl failed
    have undeployed : e.status.isDeployed = false := by rw [new]; rfl
    refine ⟨fun deployed => ?_, fun _ => residue.undeployed rfl, residue.provided⟩
    simp [undeployed] at deployed

/-- An attempt that succeeds finishes what is provided. -/
structure Finishes (m : Manager) (cluster : ClusterConfig) (e left : Environment)
    (calls : CallLog) : Prop where
  enough : e.nodes.length ≤ cluster.client.length
  count : (addresses calls).length = if cluster.ipGetter.isSome then e.nodes.length else 0
  reachable : ∀ machine ∈ (finished cluster.client (addresses calls) e.provision).machines,
    hasAddress machine = true
  left : left = { m.attached (e.accept (finished cluster.client (addresses calls) e.provision)) with
    status := .deployed }

theorem Provisions.finishes (provisions : Provisions config m site e (.ok ()) left calls) :
    ∃ cluster others, config.cluster = cluster :: others ∧
      Finishes m cluster e left calls := by
  have nodes : e.provision.machines.length = e.nodes.length := List.length_map _
  cases provisions with
  | equipped ran _ =>
    obtain ⟨cluster, others, first, enough, count, reachable, rfl⟩ :=
      (PlatformConfig.deployAt_traces (config.deploy_settles e.provision) ran).2 rfl
    rw [nodes] at enough count
    exact ⟨cluster, others, first, enough, count, reachable, rfl⟩

theorem Attempts.finishes (attempts : Attempts config m site e (.ok ()) left calls)
    (undeployed : e.status.isDeployed = false) :
    ∃ cluster others, config.cluster = cluster :: others ∧
      Finishes m cluster e left calls := by
  cases attempts with
  | settled deployed => simp [undeployed] at deployed
  | prepared _ provisions => exact provisions.finishes
  | agreed _ _ provisions =>
    obtain ⟨cluster, others, first, finishes⟩ := provisions.finishes
    exact ⟨cluster, others, first, finishes.enough, finishes.count, finishes.reachable,
      finishes.left⟩

/-- What finishes the residue of failed attempts finishes what was there before them. -/
theorem Finishes.of_residue {cluster : ClusterConfig} {e' : Environment}
    (finishes : Finishes m cluster e' left calls)
    (residue : Residue cluster.client e e') : Finishes m cluster e left calls := by
  have nodes : e'.nodes.length = e.nodes.length := by
    simpa [Environment.provision] using lasting_length residue.provision
  have enough := nodes ▸ finishes.enough
  have made : finished cluster.client (addresses calls) e'.provision =
      finished cluster.client (addresses calls) e.provision :=
    finished_eq _ (by simpa [Environment.provision] using enough) residue.provision
  have accepted := residue.accept (r := finished cluster.client (addresses calls) e.provision)
    (by simp [finished_length, Environment.provision])
  exact {
    enough
    count := nodes ▸ finishes.count
    reachable := made ▸ finishes.reachable
    left := by rw [finishes.left, made, accepted]; rfl }

/-- Nothing happens to what is deployed. -/
theorem Attempts.settles (attempts : Attempts config m site e result left calls)
    (deployed : e.status.isDeployed = true) : left = e := by
  cases attempts with
  | settled => rfl
  | deleted other | unprepared other | refused other | agreed other | prepared other =>
    simp [other, EnvironmentStatus.isDeployed] at deployed

/-- A node that is finished is reached as its client, at the address that was read for it if there
is an address getter. -/
theorem Finishes.node {cluster : ClusterConfig} (finishes : Finishes m cluster e left calls)
    {i : Nat} {node : Node} (here : left.nodes[i]? = some node) :
    node.name = Node.defaultName i ∧ ∃ client info, cluster.client[i]? = some client ∧
      node.connection = some info ∧ info.address ≠ "" ∧
      (cluster.ipGetter = none → info = client.connection) ∧
      (cluster.ipGetter ≠ none → ∃ address, (addresses calls)[i]? = some address ∧
        info = { client.connection with address }) := by
  have length : (finished cluster.client (addresses calls) e.provision).machines.length =
      e.nodes.length := by simp [finished_length, Environment.provision]
  have machines : left.nodes.map Node.toMachine =
      (finished cluster.client (addresses calls) e.provision).machines := by
    rw [finishes.left]
    exact (FeatureRegistry.map_attachToAll (f := Node.toMachine) (fun _ _ => rfl) _ _).trans
      (Node.map_toMachine_equip _ _ length)
  have listed : (finished cluster.client (addresses calls) e.provision).machines[i]? =
      some node.toMachine := by
    rw [← machines, List.getElem?_map, here]
    rfl
  have enough : e.provision.machines.length ≤ cluster.client.length := by
    simpa [Environment.provision] using finishes.enough
  have reachable := finishes.reachable _ (List.mem_of_getElem? listed)
  have inside : i < e.nodes.length := length ▸ (List.getElem?_eq_some_iff.1 listed).1
  obtain ⟨name, client, given, reached⟩ := finished_machine enough listed
  have count := finishes.count
  cases getter : cluster.ipGetter with
  | none =>
    rw [getter] at count
    have unread : (addresses calls)[i]? = none := by
      rw [List.eq_nil_of_length_eq_zero count]
      rfl
    rw [unread] at reached
    refine ⟨name, client, client.connection, given, reached, ?_, fun _ => rfl, absurd rfl⟩
    simpa [hasAddress, reached] using reachable
  | some config =>
    rw [getter] at count
    have count : (addresses calls).length = e.nodes.length := count
    have read : (addresses calls)[i]? = some (addresses calls)[i] :=
      List.getElem?_eq_getElem (by omega)
    rw [read] at reached
    refine ⟨name, client, _, given, reached, ?_, nofun, fun _ => ⟨_, read, rfl⟩⟩
    simpa [hasAddress, reached] using reachable

end Attempts

/-- What any number of attempts that do not succeed may leave of an environment, whichever sites
they are made at and whatever else happens to the pool between them. -/
inductive PlatformConfig.Leaves (config : PlatformConfig) (m : Manager) (e : Environment) :
    Environment → Prop where
  | untried : Leaves config m e e
  | failed {ω : Type} {site : Site ω} {p : Pool} {id : EnvironmentId} {w : ω}
    (before : Leaves config m e (p.environment id))
    (failed : (config.attempt m site p id w).result ≠ .ok ()) :
    Leaves config m e ((config.attempt m site p id w).pool.environment id)

theorem PlatformConfig.Leaves.residue {config : PlatformConfig} {m : Manager}
    {e e' : Environment} (featured : m.features = features) (leaves : config.Leaves m e e') :
    Residue config.clients e e' := by
  induction leaves with
  | untried => exact .refl _ _
  | failed before failed ih =>
    exact ih.trans ((attempt_attempts config m _ _ _ _).1.residue featured failed)

/-- Failed attempts leave nothing behind. However often a manager with the features of the platform
has failed to deploy an environment, or was cancelled, an attempt that succeeds leaves it as it is
left by one that succeeds at once, at whatever site, for the same environment under another id, if
both read the same addresses. Every node is then reached as its client, at the address that was read
for it if there is an address getter, and the address is not empty. -/
theorem deploy_leaves_nothing (config : PlatformConfig) (m : Manager)
    (featured : m.features = features) {e : Environment} (site : Site ω) (p : Pool)
    (id : EnvironmentId) (w : ω) (leaves : config.Leaves m e (p.environment id))
    (ok : (config.attempt m site p id w).result = .ok ()) :
    let attempt := config.attempt m site p id w
    let final := attempt.pool.environment id
    (∀ {υ : Type} (site' : Site υ) (p' : Pool) (id' k : EnvironmentId) (w' : υ),
      p'.environment id' = { e with id := k } →
      (config.attempt m site' p' id' w').result = .ok () →
      addresses (config.attempt m site' p' id' w').calls = addresses attempt.calls →
      (config.attempt m site' p' id' w').pool.environment id' = { final with id := k }) ∧
    (e.status.isDeployed = false → final.status = .deployed ∧
      ∃ cluster others, config.cluster = cluster :: others ∧
        ∀ (i : Nat) (node : Node), final.nodes[i]? = some node → node.name = Node.defaultName i ∧
          ∃ client info, cluster.client[i]? = some client ∧ node.connection = some info ∧
            info.address ≠ "" ∧
            (cluster.ipGetter = none → info = client.connection) ∧
            (cluster.ipGetter ≠ none → ∃ address, (addresses attempt.calls)[i]? = some address ∧
              info = { client.connection with address })) := by
  intro attempt final
  have residue := leaves.residue featured
  have attempts := (attempt_attempts config m site p id w).1
  rw [ok] at attempts
  constructor
  · intro υ site' p' id' k w' twin ok' same
    have attempts' := (attempt_attempts config m site' p' id' w').1
    rw [twin, ok'] at attempts'
    cases deployed : e.status.isDeployed with
    | true =>
      have untouched := residue.deployed deployed
      have kept : final = p.environment id := attempts.settles (untouched.symm ▸ deployed)
      rw [attempts'.settles deployed, kept, untouched]
    | false =>
      obtain ⟨cluster, others, first, finishes⟩ :=
        attempts.finishes (residue.undeployed deployed)
      obtain ⟨_, _, first', finishes'⟩ := attempts'.finishes deployed
      obtain ⟨rfl, rfl⟩ := List.cons.inj (first.symm.trans first')
      rw [PlatformConfig.clients, first] at residue
      have left : final = _ := (finishes.of_residue residue).left
      rw [finishes'.left, left, same]
      rfl
  · intro undeployed
    obtain ⟨cluster, others, first, finishes⟩ := attempts.finishes (residue.undeployed undeployed)
    have status : final.status = .deployed := by
      change (attempt.pool.environment id).status = _
      rw [finishes.left]
    exact ⟨status, cluster, others, first, fun i node here => finishes.node here⟩

/-- A rack whose clients get their addresses from a server that notes the last one in a file. -/
def leasingPlatform : PlatformConfig where
  cluster := [{ rack with ipGetter := some { settings := .ofList [("file", .string "lease")] } }]

/-- A site where reading a file gives this content, or the run is cancelled. -/
def leasingSite (content : Option String) : Site Unit where
  answer
    | .readFile _, w => (content.map .ok, w)
    | call, w => (some call.obliging, w)
  pass w := w
  cancelled _ := false

/-- An environment that is deployed after no address was found in the file, and after the run was
cancelled while the file was read, is as one that is deployed at once. -/
theorem deploy_leaves_nothing_leasing :
    let created := newEnvironment 1
    let unread := leasingPlatform.attempt rackManager (leasingSite (some "none")) created ⟨0⟩ ()
    let cancelled := leasingPlatform.attempt rackManager (leasingSite none) unread.pool ⟨0⟩ ()
    let retried := leasingPlatform.attempt rackManager (leasingSite (some "at 10.0.1.7"))
      cancelled.pool ⟨0⟩ ()
    let twin := created.create (rackMatch 1)
    let direct := leasingPlatform.attempt rackManager (leasingSite (some "at 10.0.1.7")) twin ⟨1⟩ ()
    unread.result ≠ .ok () ∧ cancelled.result ≠ .ok () ∧ retried.result = .ok () ∧
      direct.result = .ok () ∧ addresses direct.calls = addresses retried.calls ∧
      direct.pool.environment ⟨1⟩ = { retried.pool.environment ⟨0⟩ with id := ⟨1⟩ } ∧
      (retried.pool.environment ⟨0⟩).status = .deployed := by
  intro created unread cancelled retried twin direct
  have unfound : unread.result ≠ .ok () := fun ok => absurd (isOk_iff.2 ok) (by decide +kernel)
  have stopped : cancelled.result ≠ .ok () := fun ok => absurd (isOk_iff.2 ok) (by decide +kernel)
  have leaves : leasingPlatform.Leaves rackManager (created.environment ⟨0⟩)
      (cancelled.pool.environment ⟨0⟩) := .failed (.failed .untried unfound) stopped
  have done : retried.result = .ok () := isOk_iff.1 (by decide +kernel)
  have done' : direct.result = .ok () := isOk_iff.1 (by decide +kernel)
  have same : addresses direct.calls = addresses retried.calls := by decide +kernel
  obtain ⟨equal, reached⟩ := deploy_leaves_nothing leasingPlatform rackManager rfl
    (leasingSite (some "at 10.0.1.7")) cancelled.pool ⟨0⟩ () leaves done
  exact ⟨unfound, stopped, done, done', same, equal _ twin ⟨1⟩ ⟨1⟩ () rfl done' same,
    (reached rfl).1⟩

end BareMetal

end Testbed
