import Testbed.Proofs.BareMetal.Attempt

/-!
# What a deployment settles

However far a deployment comes, it leaves the facts of the environment and, once the places of the
images are noted, the facts of its machines as they were. What else it changes, it settles anew each
time. So a deployment that succeeds makes of these facts, and of the addresses that it reads, what
does not depend on anything that was there before.
-/
namespace Testbed

/-- Putting in what is there changes nothing. -/
theorem Dict.insert_insert_self {κ α : Type} [LT κ] [DecidableLT κ] [DecidableEq κ] [StrictOrder κ]
    (d : Dict κ α) (key : κ) (value : α) :
    (d.insert key value).insert key value = d.insert key value := by
  refine Dict.eq_of_get? (fun other => ?_)
  simp only [Dict.get?_insert]
  split <;> rfl

theorem modify_middle {α : Type} (f : α → α) (before : List α) (a : α) (after : List α) :
    (before ++ a :: after).modify before.length f = before ++ f a :: after := by
  induction before with
  | nil => rfl
  | cons first rest ih => simp [ih]

namespace BareMetal

/-- The addresses that were read. -/
def addresses (calls : CallLog) : List String :=
  calls.filterMap (fun
    | ⟨.readFile _, some (.ok content)⟩ => (findAddress content.toList).map String.ofList
    | _ => none)

theorem addresses_append (first rest : CallLog) :
    addresses (first ++ rest) = addresses first ++ addresses rest :=
  List.filterMap_append

theorem addresses_eq_nil {calls : CallLog}
    (other : ∀ exchange ∈ calls, Errand.of exchange.request ≠ .reading) : addresses calls = [] := by
  refine List.filterMap_eq_nil_iff.2 (fun exchange member => ?_)
  have errand := other exchange member
  split
  · exact absurd rfl errand
  · rfl

section Machines

variable {machines machines' : List Machine} {clients : List ClientConfig}

theorem assignClient_information {machine machine' : Machine} (client : ClientConfig)
    (same : machine.information = machine'.information) :
    (assignClient machine client).information = (assignClient machine' client).information := by
  simp only [assignClient, same]

/-- The facts of machines with clients depend on their facts without. -/
theorem assignClients_information
    (same : machines.map Machine.information = machines'.map Machine.information) :
    (assignClients machines clients).map Machine.information =
      (assignClients machines' clients).map Machine.information := by
  induction machines generalizing machines' clients with
  | nil =>
    obtain rfl := List.map_eq_nil_iff.1 same.symm
    rfl
  | cons machine rest ih =>
    obtain ⟨machine', rest', rfl, here, others⟩ := List.map_eq_cons_iff.1 same.symm
    cases clients with
    | nil => exact same
    | cons client clients =>
      exact congrArg₂ List.cons (assignClient_information client here.symm) (ih others.symm)

theorem assignClients_length (machines : List Machine) (clients : List ClientConfig) :
    (assignClients machines clients).length = machines.length := by
  induction machines generalizing clients with
  | nil => rfl
  | cons machine rest ih =>
    cases clients with
    | nil => rfl
    | cons client clients => exact congrArg (· + 1) (ih clients)

theorem assignClients_assignClients :
    assignClients (assignClients machines clients) clients = assignClients machines clients := by
  induction machines generalizing clients with
  | nil => rfl
  | cons machine rest ih =>
    cases clients with
    | nil => rfl
    | cons client clients =>
      have again :
          assignClient (assignClient machine client) client = assignClient machine client := by
        simp only [assignClient]
        split
        · rfl
        · rw [Dict.insert_insert_self]
      simp only [assignClients, again, ih]

/-- Settle machines from an index on, with the addresses that were read for them. -/
def settleAll (index : Nat) (addresses : List String) : List Machine → List Machine
  | [] => []
  | machine :: rest =>
    settle index addresses.head? machine :: settleAll (index + 1) addresses.tail rest

theorem settleAll_length (index : Nat) (addresses : List String) (machines : List Machine) :
    (settleAll index addresses machines).length = machines.length := by
  induction machines generalizing index addresses with
  | nil => rfl
  | cons machine rest ih => exact congrArg (· + 1) (ih (index + 1) addresses.tail)

theorem getElem?_settleAll (index : Nat) (addresses : List String) (machines : List Machine)
    (i : Nat) : (settleAll index addresses machines)[i]? =
      machines[i]?.map (settle (index + i) addresses[i]?) := by
  induction machines generalizing index addresses i with
  | nil => rfl
  | cons machine rest ih =>
    cases i with
    | zero => simp [settleAll, List.head?_eq_getElem?]
    | succ i => simp [settleAll, ih, Nat.add_assoc, Nat.add_comm 1]

theorem getElem?_assignClients {i : Nat} {machine : Machine} {client : ClientConfig}
    (here : machines[i]? = some machine) (given : clients[i]? = some client) :
    (assignClients machines clients)[i]? = some (assignClient machine client) := by
  induction machines generalizing clients i with
  | nil => simp at here
  | cons first rest ih =>
    cases clients with
    | nil => simp at given
    | cons first_client clients =>
      cases i with
      | zero =>
        obtain rfl := Option.some.inj here
        obtain rfl := Option.some.inj given
        rfl
      | succ i => exact ih here given

/-- Of machines that are assigned and settled, nothing else counts than their facts. -/
theorem settleAll_assignClients (index : Nat) (addresses : List String)
    (enough : machines.length ≤ clients.length)
    (same : (assignClients machines clients).map Machine.information =
      (assignClients machines' clients).map Machine.information) :
    settleAll index addresses (assignClients machines clients) =
      settleAll index addresses (assignClients machines' clients) := by
  induction machines generalizing machines' clients index addresses with
  | nil =>
    cases machines' with
    | nil => rfl
    | cons machine' rest' => cases clients <;> simp [assignClients] at same
  | cons machine rest ih =>
    cases clients with
    | nil => cases enough
    | cons client clients =>
      cases machines' with
      | nil => simp [assignClients] at same
      | cons machine' rest' =>
        obtain ⟨here, others⟩ := List.cons.inj same
        have settled : settle index addresses.head? (assignClient machine client) =
            settle index addresses.head? (assignClient machine' client) := by
          simp only [settle, here]
          rfl
        simp only [assignClients, settleAll]
        rw [settled, ih _ _ (Nat.le_of_succ_le_succ enough) others]

end Machines

/-- The clients that host environments. -/
def PlatformConfig.clients (config : PlatformConfig) : List ClientConfig :=
  match config.cluster with
  | [] => []
  | cluster :: _ => cluster.client

/-- What lasts of what is provided: the facts, with the places of the images noted. -/
def lasting (clients : List ClientConfig) (p : Provision) : List Facts × Facts :=
  ((assignClients p.machines clients).map Machine.information, p.information)

/-- What a deployment makes of what is provided, with the addresses that it reads. -/
def finished (clients : List ClientConfig) (addresses : List String) (p : Provision) : Provision :=
  { p with machines := settleAll 0 addresses (assignClients p.machines clients) }
    |>.setInformation "platform" platformName
    |>.setInformation "cluster" RackManager.typeName

section Provisions

variable {clients : List ClientConfig} {p q : Provision} {plan : Plan}

theorem lasting_assignClients (clients : List ClientConfig) (p : Provision) :
    lasting clients { p with machines := assignClients p.machines clients } =
      lasting clients p := by
  simp only [lasting, assignClients_assignClients]

theorem lasting_settle (clients : List ClientConfig) (p : Provision) (index : Nat)
    (address : Option String) :
    lasting clients (p.modify index (settle index address)) = lasting clients p := by
  have kept (machine : Machine) :
      (settle index address machine).information = machine.information := rfl
  have same := map_modify_of_same kept p.machines index
  exact congrArg (·, p.information) (assignClients_information same)

theorem lasting_length (same : lasting clients q = lasting clients p) :
    q.machines.length = p.machines.length := by
  simpa [lasting, assignClients_length] using congrArg (fun facts => facts.1.length) same

theorem finished_length (clients : List ClientConfig) (addresses : List String) (p : Provision) :
    (finished clients addresses p).machines.length = p.machines.length :=
  (settleAll_length ..).trans (assignClients_length ..)

/-- What lasts is all that a deployment depends on. -/
theorem finished_eq (addresses : List String) (enough : p.machines.length ≤ clients.length)
    (same : lasting clients q = lasting clients p) :
    finished clients addresses q = finished clients addresses p := by
  obtain ⟨machines, information⟩ := Prod.mk.inj same
  simp only [finished]
  rw [settleAll_assignClients 0 addresses (lasting_length same ▸ enough) machines, information]

theorem readAddress_traces (plan : Plan) (p : Provision) :
    (readAddress plan).Traces (fun log outcome q => q = p ∧
      ∀ address, outcome = some (.ok address) →
        addresses log = address.toList ∧ address.isSome = plan.ipGetter.isSome) p := by
  unfold readAddress
  cases plan.ipGetter with
  | none =>
    refine .pure ⟨rfl, ?_⟩
    rintro _ ⟨⟩
    exact ⟨rfl, rfl⟩
  | some getter =>
    refine .bind (Q := fun log outcome q => q = p ∧ ∀ address, outcome = some (.ok address) →
      addresses log = [address]) ?read (fun log q came => ⟨came.1, nofun⟩) ?told
    case read =>
      refine .request_bind ⟨rfl, nofun⟩ (fun reply => ?_)
      cases reply with
      | error cause => exact .pure ⟨rfl, nofun⟩
      | ok content =>
        refine .pure ⟨rfl, fun address told => ?_⟩
        have told := Option.some.inj told
        unfold IpGetter.address at told
        split at told
        · rename_i found
          obtain rfl := Except.ok.inj told
          simp [addresses, found]
        · cases told
    case told =>
      rintro log read _ ⟨rfl, came⟩
      cases read with
      | error error => exact .pure ⟨rfl, nofun⟩
      | ok address =>
        refine .pure ⟨rfl, ?_⟩
        rintro _ ⟨⟩
        rw [List.append_nil]
        exact ⟨came address rfl, rfl⟩

/-- Finishing a machine that succeeds settles it with the address that was read, if one was. -/
theorem finishMachine_traces (plan : Plan) (index : Nat) (machine : Machine) (p : Provision) :
    (finishMachine plan index machine).Traces (fun log outcome q => outcome = some (.ok ()) →
      ∃ address, addresses log = address.toList ∧ address.isSome = plan.ipGetter.isSome ∧
        hasAddress (settle index address machine) = true ∧
        q = p.modify index (settle index address)) p := by
  refine .unless_failed (.of_respects (R := Eq) (awaitMachine_respects plan machine)
    (fun _ => rfl) (fun _ _ _ first rest => first.trans rest)) (fun _ => rfl)
    (fun _ _ _ failed _ ok => absurd ok failed) ?_
  rintro log _ ⟨rfl, waiting⟩
  have unread : addresses log = [] :=
    addresses_eq_nil (fun exchange member => by rw [waiting exchange member]; nofun)
  refine .bind (readAddress_traces plan p) (fun _ _ _ => nofun) ?_
  rintro more read _ ⟨rfl, came⟩
  cases read with
  | error error => exact .pure nofun
  | ok address =>
    obtain ⟨given, present⟩ := came address rfl
    refine .modify_bind ?_
    split
    · rename_i reachable
      refine .pure (fun _ => ⟨address, ?_, present, reachable, rfl⟩)
      rw [List.append_nil, addresses_append, unread, given, List.nil_append]
    · exact .pure nofun

theorem finishMachines_traces (plan : Plan) (index : Nat) (before rest : List Machine)
    (p : Provision) (length : before.length = index) (here : p.machines = before ++ rest) :
    (finishMachines plan index rest).Traces (fun log outcome q => outcome = some (.ok ()) →
      (addresses log).length = (if plan.ipGetter.isSome then rest.length else 0) ∧
      (∀ machine ∈ settleAll index (addresses log) rest, hasAddress machine = true) ∧
      q = { p with machines := before ++ settleAll index (addresses log) rest }) p := by
  induction rest generalizing index before p with
  | nil =>
    refine .pure (fun _ => ⟨?_, nofun, ?_⟩)
    · split <;> rfl
    · rw [settleAll, ← here]
  | cons machine rest ih =>
    refine .unless_failed (finishMachine_traces plan index machine p) (fun _ => rfl)
      (fun _ _ _ failed _ ok => absurd ok failed) (fun log q came => ?_)
    obtain ⟨address, read, present, reachable, rfl⟩ := came rfl
    have next : (p.modify index (settle index address)).machines =
        (before ++ [settle index address machine]) ++ rest := by
      subst length
      simp [Provision.modify, here, modify_middle]
    refine (ih (index + 1) (before ++ [settle index address machine]) _ (by simp [length])
      next).mono (fun more outcome q came ok => ?_)
    obtain ⟨count, others, rfl⟩ := came ok
    -- without a getter there is no address at all, so none is taken for a later machine
    have settled : settleAll index (addresses (log ++ more)) (machine :: rest) =
        settle index address machine :: settleAll (index + 1) (addresses more) rest := by
      rw [addresses_append, read, settleAll]
      cases address with
      | some address => rfl
      | none =>
        have getter : plan.ipGetter.isSome = false := present.symm
        simp only [getter, Bool.false_eq_true, if_false] at count
        rw [List.eq_nil_of_length_eq_zero count]
        rfl
    rw [settled]
    refine ⟨?_, List.forall_mem_cons.2 ⟨reachable, others⟩, by simp [Provision.modify]⟩
    rw [addresses_append, read, List.length_append, count, ← present]
    cases address with
    | some address => simp [Nat.add_comm]
    | none => simp

/-- What lasts is kept unless the deployment succeeds, and then it is finished. -/
theorem Plan.carryOut_settles (plan : Plan) (p : Provision) :
    plan.carryOut.Traces (fun log outcome q =>
      (outcome ≠ some (.ok ()) → lasting plan.clients q = lasting plan.clients p) ∧
      (outcome = some (.ok ()) →
        (addresses log).length = (if plan.ipGetter.isSome then p.machines.length else 0) ∧
        (∀ machine ∈ q.machines, hasAddress machine = true) ∧
        q = finished plan.clients (addresses log) p)) p := by
  have eq_trans (p q r : Provision) (first : p = q) (rest : q = r) : p = r := first.trans rest
  have assigned := lasting_assignClients plan.clients p
  refine .unless_failed (.of_respects (R := Eq) (cleanUp_respects plan) (fun _ => rfl) eq_trans)
    (fun _ => rfl) (fun _ _ _ failed came => ⟨fun _ => by rw [came.1], fun ok => absurd ok failed⟩)
    ?cleaned
  rintro cleaning _ ⟨rfl, cleans⟩
  refine .modify_bind (.unless_failed (.of_respects (R := Eq) plan.manager.resetClients_respects
    (fun _ => rfl) eq_trans) (fun _ => rfl) (fun _ _ _ failed came =>
      ⟨fun _ => came.1 ▸ assigned, fun ok => absurd ok failed⟩) ?reset)
  rintro resetting _ ⟨rfl, resets⟩
  have finishing : (finishMachines plan 0 (assignClients p.machines plan.clients)).Respects
      (fun p q => lasting plan.clients q = lasting plan.clients p) _ :=
    finishMachines_respects 0 _ (fun i address p _ => lasting_settle plan.clients p i address)
  refine .get_bind (.unless_failed (.and (.of_respects finishing (fun _ => rfl)
    (fun _ _ _ first rest => rest.trans first)) (finishMachines_traces plan 0 [] _ _ rfl rfl))
    (fun _ => rfl) (fun _ _ _ failed came =>
      ⟨fun _ => came.1.1.trans assigned, fun ok => absurd ok failed⟩) (fun log q came => ?_))
  obtain ⟨count, reachable, rfl⟩ := came.2 rfl
  have read : addresses (cleaning ++ (resetting ++ (log ++ []))) = addresses log := by
    rw [List.append_nil, addresses_append, addresses_append,
      addresses_eq_nil (fun exchange member => by rw [cleans exchange member]; nofun),
      addresses_eq_nil (fun exchange member => by rw [resets exchange member]; nofun)]
    rfl
  refine .modify_bind (.pure ⟨fun failed => absurd rfl failed, fun _ => ?_⟩)
  rw [read]
  rw [assignClients_length] at count
  exact ⟨count, reachable, rfl⟩

theorem createOptional_isSome {κ α : Type} {registry : Registry κ α} {typeName : κ → String}
    {config : Option κ} {created : Option α}
    (ok : createOptional registry typeName config = .ok created) :
    created.isSome = config.isSome := by
  cases config with
  | none =>
    obtain rfl := Except.ok.inj ok
    rfl
  | some config =>
    obtain ⟨value, -, rfl⟩ := map_ok.1 ok
    rfl

theorem PlatformConfig.deploy_settles (config : PlatformConfig) (p : Provision) :
    config.deploy.Traces (fun log outcome q =>
      (outcome ≠ some (.ok ()) → lasting config.clients q = lasting config.clients p) ∧
      (outcome = some (.ok ()) → ∃ cluster others, config.cluster = cluster :: others ∧
        p.machines.length ≤ cluster.client.length ∧
        (addresses log).length = (if cluster.ipGetter.isSome then p.machines.length else 0) ∧
        (∀ machine ∈ q.machines, hasAddress machine = true) ∧
        q = finished cluster.client (addresses log) p)) p := by
  refine .get_bind ?_
  split
  · exact .pure ⟨fun _ => rfl, nofun⟩
  · rename_i plan planned
    obtain ⟨cluster, others, first, -, -, enough, -, gets, clients⟩ :=
      PlatformConfig.plan_settles planned
    have hosts : config.clients = plan.clients := by
      rw [PlatformConfig.clients, first, clients]
    refine (plan.carryOut_settles p).mono (fun log outcome q came => ⟨?_, fun ok => ?_⟩)
    · rw [hosts]
      exact came.1
    · refine ⟨cluster, others, first, enough, ?_⟩
      rw [← clients, ← createOptional_isSome gets]
      exact came.2 ok

/-- The machine at a place is reached as the client at that place, at the address that was read for
it. -/
theorem finished_machine {addresses : List String} (enough : p.machines.length ≤ clients.length)
    {i : Nat} {machine : Machine}
    (here : (finished clients addresses p).machines[i]? = some machine) :
    machine.name = Node.defaultName i ∧ ∃ client, clients[i]? = some client ∧
      machine.connection = some { client.connection with
        address := addresses[i]?.getD client.connection.address } := by
  have settled : (assignClients p.machines clients)[i]?.map (settle (0 + i) addresses[i]?) =
      some machine := by
    rw [← getElem?_settleAll]
    exact here
  obtain ⟨assigned, found, rfl⟩ := Option.map_eq_some_iff.1 settled
  have inside : i < p.machines.length := by
    have inside := (List.getElem?_eq_some_iff.1 found).1
    rwa [assignClients_length] at inside
  have given : clients[i]? = some clients[i] := List.getElem?_eq_getElem (by omega)
  rw [getElem?_assignClients (List.getElem?_eq_getElem inside) given] at found
  obtain rfl := Option.some.inj found
  refine ⟨congrArg Node.defaultName (Nat.zero_add i), _, given, ?_⟩
  cases addresses[i]? <;> rfl

end Provisions

end BareMetal

end Testbed
