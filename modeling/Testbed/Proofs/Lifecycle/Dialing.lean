import Testbed.Proofs.Lifecycle.Journal
import Testbed.Proofs.Lifecycle.Retry

/-!
# Connecting by a script

The nodes of an environment are connected one after the other, and each is tried for until a try
succeeds in time or none is left. Where a script says how the tries go, it can be said beforehand
which nodes get sessions, how often each is tried for, and what is counted.
-/
namespace Testbed

open Program

/-- How a try for a session goes that is given the time it takes. -/
structure Effort where
  ms : Nat
  outcome : Except SessionError Session

/-- What comes of a try that is given up at the limit. -/
def Effort.verdict (policy : ConnectPolicy) (effort : Effort) : Except String Session :=
  if policy.timeoutMs.toNat < effort.ms then .error policy.overdueReason
  else effort.outcome.mapError SessionError.message

/-- How the tries for each node go. The nodes are numbered from zero on, and the tries for a node
from one on. -/
abbrev Efforts := Nat → Nat → Effort

/-- Surroundings that are never cancelled and in which tries go by a script. They know the node that
is tried for and how often it has been. -/
def dialing (script : Efforts) : Surroundings (Nat × Nat) where
  reply r place :=
    match r with
    | .interruptible (.connect _ limit) =>
      let effort := script place.1 (place.2 + 1)
      if limit.any (· < effort.ms) then (some .overdue, place.1, place.2 + 1)
      else match effort.outcome with
        | .ok session => (some (.opened session), place.1 + 1, 0)
        | .error error => (some (.refused error), place.1, place.2 + 1)
    | r => (r.obliging, place)
  cancelled _ := false

/-- The tries for sessions, each with what was known of the node. -/
def tries (journal : Journal) : List ConnectionInfo :=
  journal.filterMap (fun exchange =>
    match exchange.request with
    | .interruptible (.connect info _) => some info
    | _ => none)

theorem tries_append (first rest : Journal) : tries (first ++ rest) = tries first ++ tries rest :=
  List.filterMap_append

/-- The number of the first try that succeeds in time, or that of the last one if none does. -/
def ConnectPolicy.triesFor (policy : ConnectPolicy) (verdict : Nat → Except String Session) : Nat :=
  ((List.range' 1 (policy.maxRetries.toNat + 1)).find? (fun n => (verdict n).isOk)).getD
    (policy.maxRetries.toNat + 1)

theorem Retried.made_eq {σ : Type} {policy : ConnectPolicy} {verdict : Nat → Except String Session}
    {After : Nat → σ → Prop} {made : Nat} {ran : Except RetryError (Attempted Session) × σ}
    (retried : Retried policy verdict After made ran) : made = policy.triesFor verdict := by
  have result := retried.result
  have failed (n : Nat) (first : 1 ≤ n) (below : n < made) : (!(verdict n).isOk) = true := by
    obtain ⟨reason, failed⟩ := retried.failed n first below
    rw [failed]
    rfl
  unfold ConnectPolicy.triesFor
  cases came : verdict made with
  | ok session =>
    have found : (List.range' 1 (policy.maxRetries.toNat + 1)).find? (fun n => (verdict n).isOk) =
        some made := by
      have listed : made ∈ List.range' 1 (policy.maxRetries.toNat + 1) :=
        List.mem_range'_1.2 ⟨retried.first, by have := retried.last; omega⟩
      exact List.find?_range'_eq_some.2 ⟨by rw [came]; rfl, listed, failed⟩
    rw [found, Option.getD_some]
  | error reason =>
    rw [came] at result
    have none_left : (List.range' 1 (policy.maxRetries.toNat + 1)).find?
        (fun n => (verdict n).isOk) = none := by
      refine List.find?_range'_eq_none.2 (fun n first last => ?_)
      by_cases earlier : n < made
      · exact failed n first earlier
      · obtain rfl : n = made := by
          have := retried.last
          omega
        rw [came]
        rfl
    rw [none_left, Option.getD_none, result.1]

section Dialing

variable {m : Manager} {script : Efforts} {id : EnvironmentId} {p q : Pool}

/-- Work is run where tries go by the script. -/
abbrev dialed (script : Efforts) : Runs Work (Pool × (Nat × Nat) × Journal) :=
  .program (journaling (dialing script).answer)

/-- What an answer to a call for a session is for retrying. -/
def Opening.trial : Option Opening → Trial Session
  | none => .cancelled
  | some (.opened session) => .succeeded session
  | some (.refused error) => .failed error.message
  | some .overdue => .overdue

theorem Manager.connectSteps_attempt (running : q.cancelled = false) (info : ConnectionInfo)
    (number : UInt32) (w : (Nat × Nat) × Journal) :
    let call : Request := .interruptible (.connect info (some m.config.connect.timeoutMs.toNat))
    let answered := journaling (dialing script).answer call q w
    (dialed script).run ((m.connectSteps info).attempt number) (q, w) =
      (Opening.trial answered.1, answered.2) := by
  intro call answered
  simp only [dialed, Runs.program, connectSteps, Work.cancelled, Program.run_bind,
    Program.run_get, Program.run_pure, running, Bool.false_eq_true, if_false, Program.run_request]
  subst answered call
  generalize journaling (dialing script).answer _ q w = answered
  obtain ⟨_ | (_ | _ | _), after⟩ := answered <;> rfl

/-- What a try comes to. -/
theorem Manager.dialing_answer (script : Efforts) (info : ConnectionInfo) (q : Pool)
    (node made : Nat) (journal : Journal) :
    let call : Request := .interruptible (.connect info (some m.config.connect.timeoutMs.toNat))
    let verdict := (script node (made + 1)).verdict m.config.connect
    let answered := journaling (dialing script).answer call q ((node, made), journal)
    (Opening.trial answered.1).verdict? m.config.connect = some verdict ∧ answered.2.1 = q ∧
      answered.2.2.1 = (if verdict.isOk then (node + 1, 0) else (node, made + 1)) ∧
      tries answered.2.2.2 = tries journal ++ [info] := by
  intro call verdict answered
  have asked : tries answered.2.2.2 = tries journal ++ [info] := tries_append ..
  refine ⟨?_, rfl, ?_, asked⟩
  all_goals
    simp only [answered, verdict, call, journaling, Surroundings.answer, dialing, Effort.verdict,
      Option.any_some, decide_eq_true_eq]
    by_cases late : m.config.connect.timeoutMs.toNat < (script node (made + 1)).ms
    · simp only [late, if_true]
      rfl
    · simp only [late, if_false]
      cases (script node (made + 1)).outcome <;> rfl

theorem Manager.connectSteps_pause (running : q.cancelled = false) (info : ConnectionInfo)
    (ms : Nat) (w : (Nat × Nat) × Journal) :
    (dialed script).run ((m.connectSteps info).pause ms) (q, w) =
      (false, q, w.1, w.2 ++ [⟨.interruptible (.pause ms), some ()⟩]) := by
  simp only [dialed, Runs.program, connectSteps, Work.cancelled, Program.run_bind,
    Program.run_get, Program.run_pure, running, Bool.false_eq_true, if_false, Program.run_request]
  rfl

/-- What connecting does to a pool: the nodes of an environment change, and retries are counted. -/
structure Pool.Redialed (id : EnvironmentId) (p : Pool) (nodes : List Node) (retries : Nat)
    (q : Pool) : Prop where
  environment : q.environment id = { p.environment id with nodes }
  retries : q.metrics.connectionRetries = p.metrics.connectionRetries + .ofNat retries
  events : q.events = p.events
  cancelled : q.cancelled = p.cancelled

namespace Pool.Redialed

variable {nodes nodes' : List Node} {retries more : Nat} {r : Pool}

theorem refl (id : EnvironmentId) (p : Pool) : p.Redialed id (p.environment id).nodes 0 p :=
  ⟨rfl, (UInt64.add_zero _).symm, rfl, rfl⟩

theorem trans (first : p.Redialed id nodes retries q) (second : q.Redialed id nodes' more r) :
    p.Redialed id nodes' (retries + more) r where
  environment := by rw [second.environment, first.environment]
  retries := by rw [second.retries, first.retries, UInt64.ofNat_add, UInt64.add_assoc]
  events := second.events.trans first.events
  cancelled := second.cancelled.trans first.cancelled

theorem count (h : p.Redialed id nodes retries q) :
    p.Redialed id nodes (retries + 1) (q.count .connectionRetries) where
  environment := h.environment
  retries := by
    rw [UInt64.ofNat_add, ← UInt64.add_assoc]
    exact congrArg (· + 1) h.retries
  events := h.events
  cancelled := h.cancelled

theorem overflow (h : p.Redialed id nodes retries q) : p.Redialed id nodes retries q.overflow :=
  ⟨h.environment, h.retries, h.events, h.cancelled⟩

end Pool.Redialed

/-- How far the tries for a node have come. -/
structure Tried (id : EnvironmentId) (p : Pool) (info : ConnectionInfo)
    (before : List ConnectionInfo) (made retries : Nat) (place : Nat × Nat)
    (x : Pool × (Nat × Nat) × Journal) : Prop where
  pool : p.Redialed id (p.environment id).nodes retries x.1
  place : x.2.1 = place
  tries : tries x.2.2 = before ++ List.replicate made info

/-- The tries for a node go by the script. -/
theorem Manager.connectSteps_attempts (m : Manager) (script : Efforts) (id : EnvironmentId)
    (running : p.cancelled = false) (info : ConnectionInfo) (before : List ConnectionInfo)
    (node : Nat) :
    Attempts (dialed script) m.config.connect (m.connectSteps info)
      (fun n => (script node n).verdict m.config.connect)
      (fun n => Tried id p info before (n - 1) (n - 1) (node, n - 1))
      (fun n => Tried id p info before n (n - 1)
        (if ((script node n).verdict m.config.connect).isOk then (node + 1, 0)
          else (node, n))) where
  made n x first _ tried := by
    obtain ⟨k, rfl⟩ := Nat.exists_eq_add_of_le' first
    obtain ⟨q, place, journal⟩ := x
    obtain rfl : place = (node, k) := tried.place
    have still : q.cancelled = false := tried.pool.cancelled.trans running
    obtain ⟨came, same, moved, asked⟩ := dialing_answer (m := m) script info q node k journal
    rw [connectSteps_attempt still]
    refine ⟨came, ?_, moved, ?_⟩
    · rw [same]
      exact tried.pool
    · rw [asked, tried.tries, List.append_assoc, Nat.add_sub_cancel, List.replicate_succ']
  again n x first _ failed tried := by
    obtain ⟨reason, failed⟩ := failed
    obtain ⟨k, rfl⟩ := Nat.exists_eq_add_of_le' first
    obtain ⟨q, place, journal⟩ := x
    have counted := tried.pool.count
    have still : (q.count .connectionRetries).cancelled = false :=
      tried.pool.cancelled.trans running
    have noted : (dialed script).run (m.connectSteps info).retrying (q, place, journal) =
      ((), q.count .connectionRetries, place, journal) := rfl
    rw [noted]
    dsimp only
    rw [connectSteps_pause still]
    refine ⟨rfl, counted, ?_, ?_⟩
    · have place := tried.place
      rw [failed] at place
      exact place
    · exact (tries_append ..).trans ((List.append_nil _).trans tried.tries)

/-- Counts are added up whatever comes of it, and a sum that leaves its word is noted. -/
theorem addCounts_dialed (script : Efforts) (a b : UInt32) (v : (Nat × Nat) × Journal) :
    (dialed script).run (addCounts (Program.modify Pool.overflow) a b) (q, v) =
      (a + b, if a.toNat + b.toNat < UInt32.size then q else q.overflow, v) := by
  unfold addCounts
  split <;> rfl

/-- How often a node is tried for. -/
abbrev Manager.triesFor (m : Manager) (script : Efforts) (node : Nat) : Nat :=
  m.config.connect.triesFor (fun n => (script node n).verdict m.config.connect)

/-- A node gets the session of the first try that succeeds in time, and the tries for it are added to
those before. -/
theorem Manager.connectNode_run (m : Manager) (script : Efforts) {node : Node}
    {info : ConnectionInfo} (known : node.connection = some info)
    (alive : (p.environment id).status ≠ .deleted) (running : p.cancelled = false)
    (room : m.config.connect.maxRetries.toNat < 2 ^ 32 - 1) (place : Nat) (total : UInt32)
    (journal : Journal) :
    let made := m.triesFor script place
    let ran := (dialed script).run (m.connectNode id place total node) (p, (place, 0), journal)
    tries ran.2.2.2 = tries journal ++ List.replicate made info ∧
    match (script place made).verdict m.config.connect with
    | .ok session => ran.1 = .ok (total + .ofNat made) ∧ ran.2.2.1 = (place + 1, 0) ∧
      (2 ^ 32 ≤ total.toNat + made → ran.2.1.overflowed = true) ∧
      p.Redialed id ((p.environment id).nodes.modify place
        (fun node => { node with session := some session })) (made - 1) ran.2.1
    | .error reason => ran.1 = .error (.connection node.name (.ofNat made) reason) ∧
      p.Redialed id (p.environment id).nodes (made - 1) ran.2.1 := by
  intro made ran
  have start : Tried id p info (tries journal) (1 - 1) (1 - 1) (place, 1 - 1)
      (p, (place, 0), journal) := ⟨.refl id p, rfl, (List.append_nil _).symm⟩
  obtain ⟨last, retried⟩ :=
    (m.connectSteps_attempts script id running info (tries journal) place).retry room start
  obtain rfl : last = made := retried.made_eq
  obtain ⟨⟨outcome, q, moved, noted⟩, tried⟩ : ∃ x, (dialed script).run
    (retry m.config.connect (m.connectSteps info)) (p, (place, 0), journal) = x := ⟨_, rfl⟩
  have result := retried.result
  have after := retried.after
  rw [tried] at result after
  cases came : (script place made).verdict m.config.connect with
  | ok session =>
    rw [came] at result after
    obtain rfl : outcome = .ok ⟨session, .ofNat made⟩ := result
    obtain rfl : moved = (place + 1, 0) := after.place
    let change := fun e : Environment =>
      e.modifyNode place (fun node => { node with session := some session })
    let t := if total.toNat + (UInt32.ofNat made).toNat < UInt32.size then q else q.overflow
    have summed : p.Redialed id (p.environment id).nodes (made - 1) t := by
      obtain fits | large := em (total.toNat + (UInt32.ofNat made).toNat < UInt32.size)
      · simpa only [t, if_pos fits] using after.pool
      · simpa only [t, if_neg large] using after.pool.overflow
    have went : ran = (.ok (total + .ofNat made), t.modify id change, (place + 1, 0), noted) := by
      simp only [ran, connectNode, known]
      rw [(dialed script).run_bind, tried]
      dsimp only
      rw [(dialed script).run_bind, addCounts_dialed]
      rfl
    have now : (t.modify id change).environment id = change (t.environment id) := by
      have has : t.Has id := Pool.has_of_alive (by rwa [summed.environment])
      rw [Pool.environment_modify, if_pos ⟨rfl, has⟩]
    rw [went]
    refine ⟨after.tries, rfl, rfl, ?_, ?_, summed.retries, summed.events, summed.cancelled⟩
    · intro large
      have most : made < 2 ^ 32 := Nat.lt_of_le_of_lt retried.last (by omega)
      have many : ¬ total.toNat + (UInt32.ofNat made).toNat < UInt32.size := by
        rw [UInt32.toNat_ofNat_of_lt' most]
        exact Nat.not_lt.2 large
      simp only [t, if_neg many]
      rfl
    · rw [now, summed.environment]
      rfl
  | error reason =>
    rw [came] at result after
    obtain rfl : outcome = .error (.exhausted (.ofNat made) reason) := result.2
    have went : ran = (.error (.connection node.name (.ofNat made) reason), q, moved, noted) := by
      simp only [ran, connectNode, known]
      rw [(dialed script).run_bind, tried]
      rfl
    rw [went]
    exact ⟨after.tries, rfl, after.pool⟩

/-- What connecting some nodes comes to: the nodes as they are then, the tries, how many of these
were retries, how many sessions were opened, and what failed. -/
structure Dialed where
  nodes : List Node
  tries : List ConnectionInfo
  retries : Nat
  opened : Nat
  error : Option LifecycleError

/-- Connecting some nodes when tries go by the script, the first node having the given number. -/
def Manager.dial (m : Manager) (script : Efforts) (first : Nat) : List Node → Dialed
  | [] => ⟨[], [], 0, 0, none⟩
  | node :: rest =>
    match node.connection with
    | none => ⟨node :: rest, [], 0, 0,
        some (.connection node.name 0 "platform did not provide connection info")⟩
    | some info =>
      let made := m.triesFor script first
      match (script first made).verdict m.config.connect with
      | .error reason => ⟨node :: rest, List.replicate made info, made - 1, 0,
          some (.connection node.name (.ofNat made) reason)⟩
      | .ok session =>
        let others := m.dial script (first + 1) rest
        { nodes := { node with session := some session } :: others.nodes
          tries := List.replicate made info ++ others.tries
          retries := made - 1 + others.retries
          opened := others.opened + 1
          error := others.error }

section Equations

variable {first : Nat} {node : Node} {rest : List Node} {info : ConnectionInfo}

theorem Manager.dial_unknown (unknown : node.connection = none) :
    m.dial script first (node :: rest) = ⟨node :: rest, [], 0, 0,
      some (.connection node.name 0 "platform did not provide connection info")⟩ := by
  simp only [dial, unknown]

theorem Manager.dial_failed {reason : String} (known : node.connection = some info)
    (failed : (script first (m.triesFor script first)).verdict m.config.connect = .error reason) :
    m.dial script first (node :: rest) = ⟨node :: rest,
      List.replicate (m.triesFor script first) info, m.triesFor script first - 1, 0,
      some (.connection node.name (.ofNat (m.triesFor script first)) reason)⟩ := by
  simp only [dial, known, failed]

theorem Manager.dial_opened {session : Session} (known : node.connection = some info)
    (opened : (script first (m.triesFor script first)).verdict m.config.connect = .ok session) :
    m.dial script first (node :: rest) =
      let others := m.dial script (first + 1) rest
      { nodes := { node with session := some session } :: others.nodes
        tries := List.replicate (m.triesFor script first) info ++ others.tries
        retries := m.triesFor script first - 1 + others.retries
        opened := others.opened + 1
        error := others.error } := by
  simp only [dial, known, opened]

end Equations

theorem modify_length_append {α : Type} (done rest : List α) (a : α) (f : α → α) :
    (done ++ a :: rest).modify done.length f = done ++ f a :: rest := by
  induction done with
  | nil => rfl
  | cons b done ih => simp [ih]

/-- The nodes after one are connected if that one could be. -/
theorem Manager.connectNodes_cons (place : Nat) (total : UInt32) (node : Node) (rest : List Node)
    (x : Pool × (Nat × Nat) × Journal) :
    (dialed script).run (m.connectNodes id place total (node :: rest)) x =
      let tried := (dialed script).run (m.connectNode id place total node) x
      match tried.1 with
      | .ok total => (dialed script).run (m.connectNodes id (place + 1) total rest) tried.2
      | .error error => (.error error, tried.2) := by
  rw [connectNodes, (dialed script).run_bind]
  generalize (dialed script).run (m.connectNode id place total node) x = tried
  obtain ⟨_ | _, _⟩ := tried <;> rfl

/-- Connecting nodes comes to what is expected by the script. -/
theorem Manager.connectNodes_run (m : Manager) (script : Efforts) {done nodes : List Node}
    (whole : (p.environment id).nodes = done ++ nodes)
    (alive : (p.environment id).status ≠ .deleted) (running : p.cancelled = false)
    (room : (m.config.connect.maxRetries.toNat + 1) * nodes.length < 2 ^ 32)
    (total : UInt32) (journal : Journal) :
    let expected := m.dial script done.length nodes
    let ran := (dialed script).run (m.connectNodes id done.length total nodes)
      (p, (done.length, 0), journal)
    ran.1 = expected.error.elim (.ok (total + .ofNat expected.tries.length)) .error ∧
      tries ran.2.2.2 = tries journal ++ expected.tries ∧
      p.Redialed id (done ++ expected.nodes) expected.retries ran.2.1 := by
  induction nodes generalizing done p total journal with
  | nil =>
    refine ⟨congrArg Except.ok (UInt32.add_zero total).symm, (List.append_nil _).symm, ?_⟩
    change p.Redialed id (done ++ []) 0 p
    rw [← whole]
    exact .refl id p
  | cons node rest ih =>
    rw [List.length_cons, Nat.mul_add_one] at room
    cases known : node.connection with
    | none =>
      have tried : (dialed script).run (m.connectNode id done.length total node)
          (p, (done.length, 0), journal) = (.error (.connection node.name 0
            "platform did not provide connection info"), p, (done.length, 0), journal) := by
        simp only [connectNode, known]
        rfl
      rw [dial_unknown known, connectNodes_cons, tried]
      refine ⟨rfl, (List.append_nil _).symm, ?_⟩
      rw [← whole]
      exact .refl id p
    | some info =>
      obtain ⟨asked, comes⟩ :=
        m.connectNode_run script known alive running (by omega) done.length total journal
      obtain ⟨⟨outcome, q, moved, noted⟩, tried⟩ : ∃ x, (dialed script).run
        (m.connectNode id done.length total node) (p, (done.length, 0), journal) = x := ⟨_, rfl⟩
      rw [tried] at asked comes
      cases came :
        (script done.length (m.triesFor script done.length)).verdict m.config.connect with
      | error reason =>
        rw [came] at comes
        obtain ⟨rfl, pool⟩ := comes
        rw [dial_failed known came, connectNodes_cons, tried]
        refine ⟨rfl, asked, ?_⟩
        rw [← whole]
        exact pool
      | ok session =>
        rw [came] at comes
        obtain ⟨rfl, rfl, -, pool⟩ := comes
        let made := m.triesFor script done.length
        have whole : (q.environment id).nodes =
            (done ++ [{ node with session := some session }]) ++ rest := by
          rw [pool.environment, List.append_assoc, List.singleton_append]
          dsimp only
          rw [whole, modify_length_append]
        have one_more : (done ++ [{ node with session := some session }]).length =
            done.length + 1 := List.length_append
        have others := ih whole (by rw [pool.environment]; exact alive)
          (pool.cancelled.trans running) (by omega) (total + .ofNat made) noted
        rw [one_more] at others
        obtain ⟨result, asked_then, then_pool⟩ := others
        rw [dial_opened known came, connectNodes_cons, tried]
        refine ⟨?_, ?_, ?_⟩
        · rw [result]
          simp [UInt32.ofNat_add, UInt32.add_assoc, made]
        · rw [asked_then, asked, List.append_assoc]
        · rw [List.append_assoc, List.singleton_append] at then_pool
          exact pool.trans then_pool

/-- What connecting a whole environment leaves. -/
structure Pool.Came (id : EnvironmentId) (p : Pool) (expected : Dialed)
    (result : Except LifecycleError Unit) (q : Pool) : Prop where
  result : result = expected.error.elim (.ok ()) .error
  environment : q.environment id = { p.environment id with
    nodes := expected.nodes
    status := if expected.error.isNone then .connected else .deployed }
  retries : q.metrics.connectionRetries = p.metrics.connectionRetries + .ofNat expected.retries
  events : q.events = p.events ++ if expected.error.isNone then
    [.environmentConnected id.text (p.environment id).nodes.length (.ofNat expected.tries.length)]
    else []

/-- Once its nodes are connected, so is a deployed environment. -/
theorem Manager.connectHeld_deployed (script : Efforts)
    (deployed : (p.environment id).status = .deployed) (v : (Nat × Nat) × Journal) :
    let tried := (dialed script).run (m.connectNodes id 0 0 (p.environment id).nodes) (p, v)
    let q := tried.2.1
    (q.environment id).status = .deployed →
    (dialed script).run (m.connectHeld id) (p, v) = match tried.1 with
      | .error error => (.error error, tried.2)
      | .ok total => (.ok (),
        (q.modify id (fun _ => { q.environment id with status := .connected })).report
          (.environmentConnected id.text (p.environment id).nodes.length total), tried.2.2) := by
  have looked : (dialed script).run (Work.environment id) (p, v) = (p.environment id, p, v) := rfl
  rw [connectHeld, (dialed script).run_bind, looked]
  simp only [deployed]
  rw [(dialed script).run_bind]
  generalize (dialed script).run (m.connectNodes id 0 0 (p.environment id).nodes) (p, v) = tried
  obtain ⟨outcome, q, w⟩ := tried
  intro still
  cases outcome with
  | error error => rfl
  | ok total =>
    have allowed : (q.environment id).status.canBecome .connected = true := by
      rw [still]
      rfl
    have taken : (dialed script).run (setStatus id .connected) (q, w) =
        (.ok (), q.modify id (fun _ => { q.environment id with status := .connected }), w) :=
      Program.run_of_advance (journaling (dialing script).answer) _ (setStatus_advance allowed) _
    dsimp only
    rw [(dialed script).run_bind, taken]
    rfl

theorem Manager.connectHeld_run (m : Manager) (script : Efforts)
    (deployed : (p.environment id).status = .deployed) (running : p.cancelled = false)
    (room : (m.config.connect.maxRetries.toNat + 1) * (p.environment id).nodes.length < 2 ^ 32)
    (journal : Journal) :
    let expected := m.dial script 0 (p.environment id).nodes
    let ran := (dialed script).run (m.connectHeld id) (p, (0, 0), journal)
    tries ran.2.2.2 = tries journal ++ expected.tries ∧ p.Came id expected ran.1 ran.2.1 := by
  have alive : (p.environment id).status ≠ .deleted := by simp [deployed]
  have whole : (p.environment id).nodes = [] ++ (p.environment id).nodes := rfl
  obtain ⟨result, asked, pool⟩ :=
    m.connectNodes_run script whole alive running room 0 journal
  obtain ⟨⟨outcome, q, w⟩, tried⟩ : ∃ x, (dialed script).run
    (m.connectNodes id 0 0 (p.environment id).nodes) (p, (0, 0), journal) = x := ⟨_, rfl⟩
  rw [List.length_nil, tried] at result asked pool
  rw [UInt32.zero_add] at result
  have still : (q.environment id).status = .deployed := by
    rw [pool.environment]
    exact deployed
  have went := connectHeld_deployed (m := m) script deployed ((0, 0), journal)
  rw [tried] at went
  dsimp only
  rw [went still]
  generalize m.dial script 0 (p.environment id).nodes = expected at result asked pool ⊢
  cases failed : expected.error with
  | some error =>
    rw [failed] at result
    obtain rfl : outcome = .error error := result
    refine ⟨asked, ?_, ?_, pool.retries, ?_⟩
    · rw [failed]
      rfl
    · rw [failed, pool.environment]
      simp [deployed]
    · rw [failed, pool.events]
      exact (List.append_nil _).symm
  | none =>
    rw [failed] at result
    obtain rfl : outcome = .ok (.ofNat expected.tries.length) := result
    have has : q.Has id := Pool.has_of_alive (by simp [still])
    have now := q.environment_modify id id
      (fun _ => { q.environment id with status := .connected })
    rw [if_pos ⟨rfl, has⟩] at now
    refine ⟨asked, ?_, ?_, pool.retries, ?_⟩
    · rw [failed]
      rfl
    · rw [failed]
      refine now.trans ?_
      rw [pool.environment]
      rfl
    · rw [failed]
      exact congrArg (· ++ [_]) pool.events

theorem Manager.connect_run (m : Manager) (script : Efforts)
    (deployed : (p.environment id).status = .deployed) (running : p.cancelled = false)
    (room : (m.config.connect.maxRetries.toNat + 1) * (p.environment id).nodes.length < 2 ^ 32) :
    let expected := m.dial script 0 (p.environment id).nodes
    let ran := Work.follow (dialing script).answer (m.connect id) p ((0, 0), [])
    tries ran.2.2.2 = expected.tries ∧ p.Came id expected ran.1 ran.2.1 := by
  have locked : (p.lock id).cancelled = false := running
  obtain ⟨asked, came⟩ :=
    m.connectHeld_run script (p := p.lock id) deployed locked room [⟨.lock id, ()⟩]
  have went : Work.follow (dialing script).answer (m.connect id) p ((0, 0), []) =
      let worked := (dialed script).run (m.connectHeld id) (p.lock id, (0, 0), [⟨.lock id, ()⟩])
      (worked.1, worked.2.1.unlock id, worked.2.2) := by
    simp only [Work.follow, connect, Work.holding, Program.run_bind, Program.run_request,
      Program.run_modify, Program.run_pure]
    rfl
  rw [went]
  exact ⟨asked, ⟨came.result, came.environment, came.retries, came.events⟩⟩

end Dialing

end Testbed
