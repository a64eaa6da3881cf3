import Testbed.Proofs.Lifecycle.Dialing

/-!
# Connecting

Connecting an environment succeeds if every node of it can be reached. Otherwise it ends at the
first one that cannot, which the error names, with sessions on the nodes before that one only.
-/
namespace Testbed

open Program

section Tries

variable {policy : ConnectPolicy} {verdict : Nat → Except String Session}

theorem Effort.verdict_isOk (effort : Effort) : (effort.verdict policy).isOk = true ↔
    effort.ms ≤ policy.timeoutMs.toNat ∧ effort.outcome.isOk = true := by
  unfold verdict
  split
  case isTrue late => exact iff_of_false Bool.false_ne_true (fun soon => Nat.not_le.2 late soon.1)
  case isFalse soon =>
    cases effort.outcome with
    | ok session => exact iff_of_true rfl ⟨Nat.not_lt.1 soon, rfl⟩
    | error error => exact iff_of_false Bool.false_ne_true (fun ok => Bool.false_ne_true ok.2)

/-- A node is tried for at least once and as often as is allowed at most. -/
theorem ConnectPolicy.triesFor_bounds (policy : ConnectPolicy)
    (verdict : Nat → Except String Session) :
    1 ≤ policy.triesFor verdict ∧ policy.triesFor verdict ≤ policy.maxRetries.toNat + 1 := by
  unfold triesFor
  cases found : (List.range' 1 (policy.maxRetries.toNat + 1)).find? (fun n => (verdict n).isOk) with
  | none => simp
  | some made =>
    obtain ⟨first, last⟩ := List.mem_range'_1.1 (List.find?_range'_eq_some.1 found).2.1
    exact ⟨first, by simp only [Option.getD_some]; omega⟩

/-- If any of the tries that are allowed succeeds, so does the last one that is made. -/
theorem ConnectPolicy.triesFor_isOk (policy : ConnectPolicy)
    (verdict : Nat → Except String Session) :
    (verdict (policy.triesFor verdict)).isOk = true ↔
      ∃ n, 1 ≤ n ∧ n ≤ policy.maxRetries.toNat + 1 ∧ (verdict n).isOk = true := by
  constructor
  · intro ok
    obtain ⟨first, last⟩ := policy.triesFor_bounds verdict
    exact ⟨_, first, last, ok⟩
  · rintro ⟨n, first, last, ok⟩
    unfold triesFor
    cases found : (List.range' 1 (policy.maxRetries.toNat + 1)).find?
        (fun n => (verdict n).isOk) with
    | none =>
      have failed := List.find?_range'_eq_none.1 found n first (by omega)
      simp [ok] at failed
    | some made => exact (List.find?_range'_eq_some.1 found).1

/-- If none does, all are made. -/
theorem ConnectPolicy.triesFor_failed {reason : String}
    (failed : verdict (policy.triesFor verdict) = .error reason) :
    policy.triesFor verdict = policy.maxRetries.toNat + 1 := by
  unfold triesFor at failed ⊢
  cases found : (List.range' 1 (policy.maxRetries.toNat + 1)).find? (fun n => (verdict n).isOk) with
  | none => rfl
  | some made =>
    rw [found, Option.getD_some] at failed
    have ok := (List.find?_range'_eq_some.1 found).1
    rw [failed] at ok
    cases ok

end Tries

section Expected

variable {m : Manager} {script : Efforts} {first : Nat} {nodes : List Node}

/-- Whether a node can be connected: it is known how to reach it, and one of the tries that are
allowed succeeds in time. -/
def Manager.Reaches (m : Manager) (script : Efforts) (place : Nat) (node : Node) : Prop :=
  node.connection.isSome = true ∧ ∃ n, 1 ≤ n ∧ n ≤ m.config.connect.maxRetries.toNat + 1 ∧
    (script place n).ms ≤ m.config.connect.timeoutMs.toNat ∧ (script place n).outcome.isOk = true

theorem Manager.reaches_iff (m : Manager) (script : Efforts) (place : Nat) (node : Node) :
    m.Reaches script place node ↔ node.connection.isSome = true ∧
      ((script place (m.triesFor script place)).verdict m.config.connect).isOk = true := by
  rw [m.config.connect.triesFor_isOk (fun n => (script place n).verdict m.config.connect)]
  simp only [Reaches, Effort.verdict_isOk]

theorem Manager.triesFor_bounds (m : Manager) (script : Efforts) (place : Nat) :
    1 ≤ m.triesFor script place ∧
      m.triesFor script place ≤ m.config.connect.maxRetries.toNat + 1 :=
  m.config.connect.triesFor_bounds _

/-- What is expected by the script accords with what the nodes are. -/
structure Manager.Accords (m : Manager) (script : Efforts) (first : Nat) (nodes : List Node)
    (d : Dialed) : Prop where
  opened_le : d.opened ≤ nodes.length
  reached : ∀ k node, k < d.opened → nodes[k]? = some node → m.Reaches script (first + k) node
  sessions : ∀ k : Nat, d.nodes[k]? = nodes[k]?.map (fun node =>
    if k < d.opened then
      { node with session := ((script (first + k) (m.triesFor script (first + k))).verdict
          m.config.connect).toOption }
    else node)
  tries : d.tries = ((nodes.take (d.opened + 1)).mapIdx (fun k node =>
    node.connection.elim [] (List.replicate (m.triesFor script (first + k))))).flatten
  retries : d.retries + (nodes.take (d.opened + 1)).countP (·.connection.isSome) = d.tries.length
  few : d.tries.length ≤ (m.config.connect.maxRetries.toNat + 1) * nodes.length
  error : match nodes[d.opened]? with
    | none => d.error = none
    | some node => ¬ m.Reaches script (first + d.opened) node ∧
      match node.connection with
      | none => d.error =
        some (.connection node.name 0 "platform did not provide connection info")
      | some _ => ∃ reason, (script (first + d.opened)
          (m.config.connect.maxRetries.toNat + 1)).verdict m.config.connect = .error reason ∧
        d.error = some (.connection node.name
          (.ofNat (m.config.connect.maxRetries.toNat + 1)) reason)

theorem Manager.Accords.nil (m : Manager) (script : Efforts) (first : Nat) :
    m.Accords script first [] ⟨[], [], 0, 0, none⟩ where
  opened_le := Nat.le_refl 0
  reached k _ below := absurd below (Nat.not_lt_zero k)
  sessions _ := rfl
  tries := rfl
  retries := rfl
  few := Nat.zero_le _
  error := rfl

/-- Nothing changes at a node that cannot be connected, nor after it. -/
theorem Manager.Accords.stopped {node : Node} {rest : List Node} {tries : List ConnectionInfo}
    {retries : Nat} {error : LifecycleError}
    (made : tries = node.connection.elim [] (List.replicate (m.triesFor script first)))
    (counted : retries + (if node.connection.isSome then 1 else 0) = tries.length)
    (unreached : ¬ m.Reaches script first node)
    (failed : match node.connection with
      | none => error = .connection node.name 0 "platform did not provide connection info"
      | some _ => ∃ reason, (script first
          (m.config.connect.maxRetries.toNat + 1)).verdict m.config.connect = .error reason ∧
        error = .connection node.name (.ofNat (m.config.connect.maxRetries.toNat + 1)) reason) :
    m.Accords script first (node :: rest) ⟨node :: rest, tries, retries, 0, some error⟩ where
  opened_le := Nat.zero_le _
  reached k _ below := absurd below (Nat.not_lt_zero k)
  sessions k := by simp
  tries := by simp [made]
  retries := by simpa [List.countP_cons] using counted
  few := by
    have most := (m.triesFor_bounds script first).2
    have few : tries.length ≤ m.config.connect.maxRetries.toNat + 1 := by
      rw [made]
      cases node.connection with
      | none => exact Nat.zero_le _
      | some info => simpa using most
    exact Nat.le_trans few (Nat.le_mul_of_pos_right _ (Nat.succ_pos rest.length))
  error := by
    refine ⟨unreached, ?_⟩
    cases known : node.connection with
    | none => simpa [known] using failed
    | some info => simpa [known] using failed

/-- A node that gets a session comes before all others. -/
theorem Manager.Accords.opened {node : Node} {rest : List Node} {info : ConnectionInfo}
    {session : Session} {d : Dialed} (known : node.connection = some info)
    (came : (script first (m.triesFor script first)).verdict m.config.connect = .ok session)
    (others : m.Accords script (first + 1) rest d) :
    m.Accords script first (node :: rest)
      { nodes := { node with session := some session } :: d.nodes
        tries := List.replicate (m.triesFor script first) info ++ d.tries
        retries := m.triesFor script first - 1 + d.retries
        opened := d.opened + 1
        error := d.error } := by
  have bounds := m.triesFor_bounds script first
  have shift (k : Nat) : first + (k + 1) = first + 1 + k := by omega
  constructor
  case opened_le => exact Nat.succ_le_succ others.opened_le
  case reached =>
    intro k other below found
    cases k with
    | zero =>
      obtain rfl := Option.some.inj found
      exact (m.reaches_iff script first node).2 ⟨by rw [known]; rfl, by rw [came]; rfl⟩
    | succ k =>
      rw [shift]
      exact others.reached k other (Nat.lt_of_succ_lt_succ below) found
  case sessions =>
    intro k
    cases k with
    | zero => simp [came, Except.toOption]
    | succ k =>
      simp only [List.getElem?_cons_succ, Nat.add_lt_add_iff_right]
      rw [shift]
      exact others.sessions k
  case tries =>
    have same : (fun k (node : Node) => node.connection.elim []
        (List.replicate (m.triesFor script (first + (k + 1))))) =
        fun k (node : Node) => node.connection.elim []
          (List.replicate (m.triesFor script (first + 1 + k))) := by
      funext k node
      rw [shift]
    simp [known, others.tries, List.mapIdx_cons, same]
  case retries =>
    have counted := others.retries
    simp only [List.take_succ_cons, List.countP_cons, known, Option.isSome_some, if_true,
      List.length_append, List.length_replicate]
    omega
  case few =>
    have few := others.few
    simp only [List.length_append, List.length_replicate, List.length_cons, Nat.mul_add_one]
    omega
  case error =>
    have failed := others.error
    rw [List.getElem?_cons_succ, shift]
    exact failed

/-- The script leads one to expect what accords with the nodes. -/
theorem Manager.dial_accords (m : Manager) (script : Efforts) (first : Nat) (nodes : List Node) :
    m.Accords script first nodes (m.dial script first nodes) := by
  induction nodes generalizing first with
  | nil => exact .nil m script first
  | cons node rest ih =>
    cases known : node.connection with
    | none =>
      rw [dial_unknown known]
      refine .stopped (by simp [known]) (by simp [known]) ?_ (by simp [known])
      simp [Reaches, known]
    | some info =>
      have bounds := m.triesFor_bounds script first
      cases came : (script first (m.triesFor script first)).verdict m.config.connect with
      | ok session =>
        rw [dial_opened known came]
        exact .opened known came (ih (first + 1))
      | error reason =>
        have spent : m.triesFor script first = m.config.connect.maxRetries.toNat + 1 :=
          ConnectPolicy.triesFor_failed came
        rw [dial_failed known came]
        refine .stopped (by simp [known]) ?counted ?unreached ?failed
        case counted => simp [known, Nat.sub_add_cancel bounds.1]
        case unreached =>
          rw [reaches_iff, came]
          exact fun reached => nomatch reached.2
        case failed =>
          rw [known]
          refine ⟨reason, ?_, ?_⟩
          · rw [← spent]
            exact came
          · rw [spent]

/-- Nothing fails if all nodes can be reached. -/
theorem Manager.Accords.error_eq_none_iff {d : Dialed} (accords : m.Accords script first nodes d) :
    d.error = none ↔
      ∀ (k : Nat) node, nodes[k]? = some node → m.Reaches script (first + k) node := by
  have failed := accords.error
  cases there : nodes[d.opened]? with
  | none =>
    rw [there] at failed
    refine iff_of_true failed (fun k node found => accords.reached k node ?_ found)
    have inside := (List.getElem?_eq_some_iff.1 found).1
    have all := List.getElem?_eq_none_iff.1 there
    omega
  | some node =>
    rw [there] at failed
    obtain ⟨unreached, failed⟩ := failed
    refine iff_of_false (fun fine => ?_) (fun all => unreached (all _ node there))
    rw [fine] at failed
    split at failed
    · cases failed
    · obtain ⟨reason, -, failed⟩ := failed
      cases failed

theorem Pool.Came.ok_iff {id : EnvironmentId} {p q : Pool} {d : Dialed}
    {result : Except LifecycleError Unit} (came : p.Came id d result q) :
    result = .ok () ↔ d.error = none := by
  rw [came.result]
  cases d.error <;> simp

theorem Pool.Came.connected_iff {id : EnvironmentId} {p q : Pool} {d : Dialed}
    {result : Except LifecycleError Unit} (came : p.Came id d result q) :
    (q.environment id).status = .connected ↔ d.error = none := by
  rw [came.environment]
  cases d.error <;> simp

end Expected

namespace Manager

/-- Connecting a deployed environment of a run that is not cancelled opens a session on one node
after the other, up to the first that cannot be reached. Retries are counted as they are made. -/
theorem connect_course (m : Manager) (script : Efforts) (id : EnvironmentId) (p : Pool)
    (deployed : (p.environment id).status = .deployed) (running : p.cancelled = false)
    (room : (m.config.connect.maxRetries.toNat + 1) * (p.environment id).nodes.length < 2 ^ 32) :
    let nodes := (p.environment id).nodes
    let verdict place n := (script place n).verdict m.config.connect
    let ran := Work.follow (dialing script).answer (m.connect id) p ((0, 0), [])
    let q := ran.2.1
    let calls := tries ran.2.2.2
    (ran.1 = .ok () ↔
      ∀ (place : Nat) node, nodes[place]? = some node → m.Reaches script place node) ∧
    ((q.environment id).status = .connected ↔ ran.1 = .ok ()) ∧
    ∃ opened,
      (∀ (place : Nat) node, place < opened → nodes[place]? = some node →
        m.Reaches script place node ∧
        ∃ session, verdict place (m.triesFor script place) = .ok session ∧
          (q.environment id).nodes[place]? = some { node with session := some session }) ∧
      (∀ place : Nat, opened ≤ place → (q.environment id).nodes[place]? = nodes[place]?) ∧
      calls = ((nodes.take (opened + 1)).mapIdx (fun place node =>
        node.connection.elim [] (List.replicate (m.triesFor script place)))).flatten ∧
      q.metrics.connectionRetries = p.metrics.connectionRetries +
        .ofNat (calls.length - (nodes.take (opened + 1)).countP (·.connection.isSome)) ∧
      match nodes[opened]? with
      | none => ran.1 = .ok () ∧ ∃ attempts : UInt32, attempts.toNat = calls.length ∧
        q.events = p.events ++ [.environmentConnected id.text nodes.length attempts]
      | some node => ¬ m.Reaches script opened node ∧ (q.environment id).status = .deployed ∧
        q.events = p.events ∧
        match node.connection with
        | none => ran.1 =
          .error (.connection node.name 0 "platform did not provide connection info")
        | some _ => ∃ reason,
          verdict opened (m.config.connect.maxRetries.toNat + 1) = .error reason ∧
          ran.1 = .error (.connection node.name
            (.ofNat (m.config.connect.maxRetries.toNat + 1)) reason) := by
  intro nodes verdict ran q calls
  obtain ⟨asked, came⟩ := m.connect_run script deployed running room
  have accords := m.dial_accords script 0 nodes
  have asked : calls = (m.dial script 0 nodes).tries := asked
  have came : p.Came id (m.dial script 0 nodes) ran.1 q := came
  generalize m.dial script 0 nodes = expected at accords asked came
  have fine := accords.error_eq_none_iff
  have sessions := accords.sessions
  have reached := accords.reached
  have failed := accords.error
  simp only [Nat.zero_add] at fine sessions reached failed
  have ok_iff := came.ok_iff
  have held : (q.environment id).nodes = expected.nodes := by rw [came.environment]
  refine ⟨ok_iff.trans fine, came.connected_iff.trans ok_iff.symm, expected.opened,
    ?_, ?_, ?_, ?_, ?_⟩
  · intro place node before found
    have reaches := reached place node before found
    refine ⟨reaches, ?_⟩
    cases came_of : (script place (m.triesFor script place)).verdict m.config.connect with
    | error reason =>
      have ok := ((m.reaches_iff script place node).1 reaches).2
      rw [came_of] at ok
      cases ok
    | ok session =>
      refine ⟨session, came_of, ?_⟩
      rw [held, sessions, found, Option.map_some, if_pos before, came_of]
      rfl
  · intro place behind
    rw [held, sessions]
    simp [Nat.not_lt.2 behind]
  · rw [asked]
    simpa only [Nat.zero_add] using accords.tries
  · rw [came.retries, asked, ← accords.retries, Nat.add_sub_cancel]
  · cases there : nodes[expected.opened]? with
    | none =>
      rw [there] at failed
      have few : calls.length < 2 ^ 32 := asked ▸ Nat.lt_of_le_of_lt accords.few room
      refine ⟨ok_iff.2 failed, .ofNat calls.length, UInt32.toNat_ofNat_of_lt' few, ?_⟩
      rw [came.events, failed, asked]
      rfl
    | some node =>
      rw [there] at failed
      obtain ⟨unreached, failed⟩ := failed
      have erred : expected.error ≠ none := fun none => unreached (fine.1 none _ node there)
      have given {error : LifecycleError} (expects : expected.error = some error) :
          ran.1 = .error error := by
        rw [came.result, expects]
        rfl
      refine ⟨unreached, ?_, ?_, ?_⟩
      · rw [came.environment]
        simp [erred]
      · rw [came.events]
        simp [erred]
      · cases known : node.connection with
        | none =>
          rw [known] at failed
          exact given failed
        | some info =>
          rw [known] at failed
          obtain ⟨reason, came_of, failed⟩ := failed
          exact ⟨reason, came_of, given failed⟩

/-- Of two nodes, one is reached at the second try and the very limit, and the other one never in
time. -/
theorem connect_course_second :
    let m := { sample with config := { connect := { timeoutMs := 10, maxRetries := 1 } } }
    let node (index : Nat) : Node :=
      { Node.new index {} with connection := some (.new "127.0.0.1" "root") }
    let e : Environment :=
      { id := ⟨0⟩, name := "pair", candidateIndex := 0, space := {}, nodes := [node 0, node 1]
        status := .deployed }
    let script : Efforts := fun place n =>
      { ms := if place = 0 then 10 else 11
        outcome := if n = 1 then .error (.connect "127.0.0.1:22" "connection refused")
          else .ok ⟨"127.0.0.1:22"⟩ }
    let p : Pool := { environments := [e] }
    let ran := Work.follow (dialing script).answer (m.connect ⟨0⟩) p ((0, 0), [])
    ran.1 = .error (.connection "node_1" 2 "attempt timed out after 10ms") ∧
      (tries ran.2.2.2).length = 4 ∧ ran.2.1.metrics.connectionRetries = 2 := by
  intro m node e script p ran
  obtain ⟨-, -, opened, sessions, -, calls, retries, ended⟩ :=
    connect_course m script ⟨0⟩ p rfl rfl (by decide)
  obtain rfl | rfl | behind : opened = 0 ∨ opened = 1 ∨ 2 ≤ opened := by omega
  · have reached : m.Reaches script 0 (node 0) :=
      ⟨rfl, 2, by decide, by decide, by decide, rfl⟩
    exact absurd reached ended.1
  · obtain ⟨-, -, -, reason, late, failed⟩ := ended
    have overdue : (script 1 2).verdict m.config.connect =
      .error "attempt timed out after 10ms" := by
        rw [Effort.verdict, if_pos (by decide)]
        exact congrArg Except.error (by decide)
    obtain rfl := Except.error.inj (overdue.symm.trans late)
    refine ⟨failed, ?_, ?_⟩
    · rw [calls]
      rfl
    · rw [retries, calls]
      rfl
  · obtain ⟨⟨-, n, -, -, soon, -⟩, -⟩ := sessions 1 (node 1) behind rfl
    have soon : 11 ≤ 10 := soon
    exact absurd soon (by decide)

end Manager

end Testbed
