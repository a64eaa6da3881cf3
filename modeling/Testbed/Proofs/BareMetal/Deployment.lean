import Testbed.BareMetal.Deployment
import Testbed.Proofs.Environment.Nodes
import Testbed.Proofs.Outcomes
import Testbed.Proofs.Program.Invariant

/-!
# Where a bare-metal deployment leads

Each part of a deployment makes calls of its own sort and changes little of what is provided.
Without an address getter, every node of a deployed environment is reached the way the client at its
place is configured. Which clients these are depends on the number of nodes only.
-/
namespace Testbed

/-- How the machines of an environment are reached. -/
def Provision.connections (p : Provision) : List (Option ConnectionInfo) :=
  p.machines.map Machine.connection

/-- How the nodes of an environment are reached. -/
def Environment.connections (e : Environment) : List (Option ConnectionInfo) :=
  e.nodes.map (fun node => node.connection)

theorem Environment.connections_modifyNode (e : Environment) (index : Nat) {f : Node → Node}
    (same : ∀ node, (f node).connection = node.connection) :
    (e.modifyNode index f).connections = e.connections :=
  map_modify_of_same same e.nodes index

namespace BareMetal

/-- How the clients of a cluster are reached. -/
def ClusterConfig.connections (cluster : ClusterConfig) : List (Option ConnectionInfo) :=
  cluster.client.map (fun client => some client.connection)

/-- What a deployment makes a call for. -/
inductive Errand where
  | cleaning | resetting | waiting | reading

/-- A session without a limit on the time it takes is one to the rack manager. -/
def Errand.of : Call → Errand
  | .removeFile _ => cleaning
  | .connect _ none | .execute .. => resetting
  | .connect _ (some _) | .findFile _ | .clock | .pause _ => waiting
  | .readFile _ => reading

section Calls

variable {σ : Type} {R : σ → σ → Prop}

theorem ReadyChecker.cleanUp_respects (checker : ReadyChecker) :
    (checker.cleanUp : Caller σ _).Respects R (fun c => Errand.of c = .cleaning) := by
  cases checker with
  | ssh timeout => exact .pure _
  | fileSingle file timeout =>
    refine .bind (.request rfl) (fun reply => ?_)
    rcases reply with cause | _
    · cases cause <;> exact .pure _
    · exact .pure _

theorem ReadyChecker.now_respects :
    (ReadyChecker.now : Caller σ Nat).Respects R (fun c => Errand.of c = .waiting) :=
  .bind (.request rfl) (fun _ => .pure _)

theorem ReadyChecker.isReady_respects (checker : ReadyChecker) (machine : Machine) :
    (checker.isReady machine : Caller σ _).Respects R (fun c => Errand.of c = .waiting) := by
  have file (path : String) (late : BareMetalError) (deadline probes : Nat) :
      (awaitFile path late deadline probes : Caller σ _).Respects R
        (fun c => Errand.of c = .waiting) := by
    induction probes with
    | zero => exact .pure _
    | succ probes ih =>
      refine .bind (.request rfl) (fun reply => ?_)
      rcases reply with cause | (_ | _)
      · exact .pure _
      · refine .bind now_respects (fun moment => ?_)
        split
        · exact .pure _
        · exact .bind (.request rfl) (fun _ => ih)
      · exact .pure _
  have session (info : ConnectionInfo) (late : BareMetalError) (deadline probes : Nat) :
      (awaitSession info late deadline probes : Caller σ _).Respects R
        (fun c => Errand.of c = .waiting) := by
    induction probes with
    | zero => exact .pure _
    | succ probes ih =>
      refine .bind now_respects (fun moment => .bind (.request rfl) (fun reply => ?_))
      rcases reply with session | error | _
      · exact .pure _
      · refine .bind now_respects (fun moment => ?_)
        dsimp only
        split
        · exact .bind (.request rfl) (fun _ => .pure _)
        · exact .bind (.request rfl) (fun _ => ih)
      · exact .pure _
  cases checker with
  | fileSingle path timeout =>
    refine .bind now_respects (fun start => ?_)
    cases deadline? start (timeout * 1000) with
    | none => exact .pure _
    | some deadline => exact file path _ deadline _
  | ssh timeout =>
    unfold isReady
    dsimp only
    split
    · exact .pure _
    · refine .bind now_respects (fun start => ?_)
      cases timer? start (timeout * 1000) with
      | none => exact .pure _
      | some ms => exact session _ _ _ _

theorem RackManager.resetClients_respects (r : RackManager) :
    (r.resetClients : Caller σ _).Respects R (fun c => Errand.of c = .resetting) := by
  have opened : (r.openSession : Caller σ _).Respects R (fun c => Errand.of c = .resetting) := by
    refine .bind (.request rfl) (fun reply => ?_)
    rcases reply with session | error | _ <;> exact .pure _
  have reset (session : Session) (ports : List UInt32) :
      (resetAll session ports : Caller σ _).Respects R (fun c => Errand.of c = .resetting) := by
    induction ports with
    | nil => exact .pure _
    | cons port rest ih =>
      refine .bind (.request rfl) (fun reply => ?_)
      rcases reply with cause | result
      · exact .pure _
      · dsimp only
        split
        · exact ih
        · exact .pure _
  unfold resetClients
  split
  · exact .pure _
  · refine .bind opened (fun session => ?_)
    cases session with
    | error error => exact .pure _
    | ok session => exact reset session _

theorem IpGetter.getIp_respects (getter : IpGetter) :
    (getter.getIp : Caller σ _).Respects R (fun c => Errand.of c = .reading) := by
  refine .bind (.request rfl) (fun reply => ?_)
  rcases reply with cause | content <;> exact .pure _

end Calls

theorem assignClients_connections (machines : List Machine) (clients : List ClientConfig)
    (enough : machines.length ≤ clients.length) :
    (assignClients machines clients).map Machine.connection =
      (clients.take machines.length).map (fun client => some client.connection) := by
  induction machines generalizing clients with
  | nil => simp [assignClients]
  | cons machine machines ih =>
    cases clients with
    | nil => simp at enough
    | cons client clients =>
      have rest := ih clients (Nat.le_of_succ_le_succ enough)
      simp [assignClients, assignClient, rest]

/-- A change that does not show in how machines are reached. -/
abbrev SameConnections (p q : Provision) : Prop := q.connections = p.connections

section Plan

variable {plan : Plan} {config : PlatformConfig} {cluster : ClusterConfig}
  {others : List ClusterConfig}

section Parts

variable {R : Provision → Provision → Prop}

theorem cleanUp_respects (plan : Plan) :
    (cleanUp plan).Respects R (fun c => Errand.of c = .cleaning) := by
  unfold cleanUp
  split
  · exact ReadyChecker.cleanUp_respects _
  · exact .pure _

theorem awaitMachine_respects (plan : Plan) (machine : Machine) :
    (awaitMachine plan machine).Respects R (fun c => Errand.of c = .waiting) := by
  unfold awaitMachine
  split
  · exact ReadyChecker.isReady_respects _ machine
  · exact .pure _

/-- Finishing changes machines by settling them, with no address if there is no getter for one. -/
theorem finishMachine_respects (index : Nat) (machine : Machine)
    (settled : ∀ address p, (plan.ipGetter = none → address = none) →
      R p (p.modify index (settle index address))) :
    (finishMachine plan index machine).Respects R
      (fun c => Errand.of c = .waiting ∨ Errand.of c = .reading) := by
  have given (address : Option String) (known : plan.ipGetter = none → address = none) :
      (do
        Program.modify (fun p => p.modify index (settle index address))
        if hasAddress (settle index address machine) then return .ok ()
        else return .error (.emptyAddress (Node.defaultName index)) :
        Caller Provision (Except BareMetalError Unit)).Respects R
          (fun c => Errand.of c = .waiting ∨ Errand.of c = .reading) := by
    refine .bind (.modify (fun p => settled address p known)) (fun _ => ?_)
    split <;> exact .pure _
  refine .bind ((awaitMachine_respects plan machine).mono (fun _ _ same => same)
    (fun _ => .inl)) (fun ready => ?_)
  cases ready with
  | error error => exact .pure _
  | ok _ =>
    cases present : plan.ipGetter with
    | none =>
      have unread : readAddress plan = pure (.ok none) := by simp [readAddress, present]
      dsimp only
      rw [unread, pure_bind]
      exact given none (fun _ => rfl)
    | some getter =>
      have reads : (readAddress plan).Respects R
          (fun c => Errand.of c = .waiting ∨ Errand.of c = .reading) := by
        simp only [readAddress, present]
        exact .bind (getter.getIp_respects.mono (fun _ _ same => same) (fun _ => .inr))
          (fun _ => .pure _)
      refine .bind reads (fun read => ?_)
      cases read with
      | error error => exact .pure _
      | ok address => exact given address (by simp [present])

theorem finishMachines_respects (index : Nat) (machines : List Machine)
    (settled : ∀ index address p, (plan.ipGetter = none → address = none) →
      R p (p.modify index (settle index address))) :
    (finishMachines plan index machines).Respects R
      (fun c => Errand.of c = .waiting ∨ Errand.of c = .reading) := by
  induction machines generalizing index with
  | nil => exact .pure _
  | cons machine rest ih =>
    refine .bind (finishMachine_respects index machine (settled index)) (fun outcome => ?_)
    cases outcome with
    | error error => exact .pure _
    | ok _ => exact ih (index + 1)

end Parts

/-- Without an address getter, settling a machine does not show in how it is reached. -/
theorem settle_connections (plain : plan.ipGetter = none) (index : Nat) (address : Option String)
    (p : Provision) (known : plan.ipGetter = none → address = none) :
    SameConnections p (p.modify index (settle index address)) := by
  obtain rfl := known plain
  have kept (machine : Machine) : (settle index none machine).connection = machine.connection := rfl
  exact map_modify_of_same kept p.machines index

/-- What comes of a program on a provision that nobody else changes. -/
abbrev Comes {α : Type} (program : Caller Provision α) (p : Provision)
    (Q : α → Provision → Prop) : Prop :=
  program.Sustains (fun p q => p = q) (fun _ => True) (fun _ _ => True) Q p

/-- A plan that is carried out reaches machines the way its first clients are. -/
theorem Plan.carryOut_comes (plain : plan.ipGetter = none) {p : Provision}
    (enough : p.machines.length ≤ plan.clients.length) :
    Comes plan.carryOut p (fun outcome q => outcome = .ok () →
      q.connections = (plan.clients.take p.machines.length).map (fun c => some c.connection)) := by
  have eq_trans (p q r : Provision) (first : p = q) (second : q = r) : p = r := first.trans second
  refine .bind (Program.Sustains.of_respects (cleanUp_respects plan) (fun _ => rfl) eq_trans
    (fun _ _ => id)) ?_
  rintro outcome _ rfl
  cases outcome with
  | error error => exact .pure nofun
  | ok _ =>
    refine .modify_bind ?_
    have assigned := assignClients_connections p.machines plan.clients enough
    refine .bind (Program.Sustains.of_respects plan.manager.resetClients_respects (fun _ => rfl)
      eq_trans (fun _ _ => id)) ?_
    rintro reset _ rfl
    cases reset with
    | error error => exact .pure nofun
    | ok _ =>
      refine .get_bind (.bind (Program.Sustains.of_respects
        (finishMachines_respects 0 _ (settle_connections plain)) (fun _ => rfl)
        (fun _ _ _ first second => second.trans first) (fun p _ same => same ▸ rfl)) ?_)
      intro finished q same
      cases finished with
      | error error => exact .pure nofun
      | ok _ => exact .modify_bind (.pure (fun _ => same.trans assigned))

/-- What there has to be for a plan. -/
theorem PlatformConfig.plan_settles {nodes : Nat} (planned : config.plan nodes = .ok plan) :
    ∃ cluster others, config.cluster = cluster :: others ∧
      clusters.create cluster.typeName cluster = .ok plan.manager ∧ cluster.client ≠ [] ∧
      nodes ≤ cluster.client.length ∧
      createOptional readyCheckers ReadyCheckerConfig.typeName cluster.readyChecker =
        .ok plan.readyChecker ∧
      createOptional ipGetters IpGetterConfig.typeName cluster.ipGetter = .ok plan.ipGetter ∧
      plan.clients = cluster.client := by
  unfold PlatformConfig.plan at planned
  split at planned
  · cases planned
  · rename_i cluster others first
    obtain ⟨manager, created, planned⟩ := bind_ok.1 planned
    split at planned
    · cases planned
    · rename_i clients
      split at planned
      · cases planned
      · rename_i enough
        obtain ⟨checker, checks, planned⟩ := bind_ok.1 planned
        obtain ⟨getter, gets, planned⟩ := bind_ok.1 planned
        obtain rfl := return_ok.1 planned
        exact ⟨cluster, others, first, created, by simpa using clients, Nat.le_of_not_lt enough,
          checks, gets, rfl⟩

theorem PlatformConfig.plan_ok (first : config.cluster = cluster :: others)
    (plain : cluster.ipGetter = none) {nodes : Nat} (planned : config.plan nodes = .ok plan) :
    plan.ipGetter = none ∧ plan.clients = cluster.client ∧ nodes ≤ cluster.client.length := by
  obtain ⟨_, _, same, _, _, enough, _, gets, clients⟩ := plan_settles planned
  obtain ⟨rfl, -⟩ := List.cons.inj (first.symm.trans same)
  rw [plain] at gets
  exact ⟨(Except.ok.inj gets).symm, clients, enough⟩

/-- A deployment that succeeds reaches machines the way the first clients of the first cluster are.
-/
theorem PlatformConfig.deploy_comes (first : config.cluster = cluster :: others)
    (plain : cluster.ipGetter = none) (p : Provision) :
    Comes config.deploy p (fun outcome q => outcome = .ok () →
      p.machines.length ≤ cluster.client.length ∧
      q.connections = cluster.connections.take p.machines.length) := by
  refine .get_bind ?_
  split
  · exact .pure nofun
  · rename_i plan planned
    obtain ⟨unread, clients, enough⟩ := plan_ok first plain planned
    refine (Plan.carryOut_comes unread (clients ▸ enough)).mono (fun outcome q reached ok => ?_)
    refine ⟨enough, ?_⟩
    rw [reached ok, clients, ClusterConfig.connections, List.map_take]

end Plan

end BareMetal

end Testbed
