import Testbed.Proofs.Lifecycle.Alone
import Testbed.Proofs.Lifecycle.Connecting
import Testbed.Proofs.Program.Checked
import Testbed.Runbook

/-!
# Room for counting attempts

A runbook may declare any number of retries that 32 bits hold. Pauses never leave their words. The
number of attempts that is allowed for a node does so after the largest number of retries, and the
number of attempts made for all nodes can do so if the nodes that can be tried for may take more of
them than fit. With checked sums, connecting is broken off there.
-/
namespace Testbed

open Program

section Run

variable {ω α : Type} {s : Surroundings ω} {p : Pool}

/-- Counts that have left their word stay noted. -/
abbrev Pool.Spoils : Pool → Pool → Prop := Program.Spoils (fun p => !p.overflowed)

theorem Pool.Spoils.of_same {p q : Pool} (same : q.overflowed = p.overflowed) : p.Spoils q := by
  intro spoiled
  change (!q.overflowed) = false
  rw [same]
  exact spoiled

theorem Surroundings.answer_overflowed (s : Surroundings ω) (r : Request) (p : Pool) (w : ω) :
    (s.answer r p w).2.1.overflowed = p.overflowed := by
  unfold answer
  dsimp only
  split <;> rfl

theorem Manager.connect_spoils_by (id : EnvironmentId) :
    ConnectsBy id Pool.Spoils (fun _ => True) where
  same _ := .of_same rfl
  asks _ := trivial
  retried _ := .of_same rfl
  overflowed _ _ := rfl
  opened _ _ _ := .of_same rfl
  moved := by
    refine .bind (.update (fun p => ?_)) (fun _ => .pure _)
    split <;> exact .of_same rfl
  reported _ _ _ := .of_same rfl

theorem Manager.connect_spoils (m : Manager) (id : EnvironmentId) :
    (m.connect id).Respects Pool.Spoils (fun _ => True) := by
  refine .bind (.request trivial) (fun _ => .bind (.modify (fun _ => .of_same rfl)) (fun _ => ?_))
  exact .bind (connectHeld_respects m (connect_spoils_by id))
    (fun value => .bind (.modify (fun _ => .of_same rfl)) (fun _ => .pure value))

/-- Connecting with checked sums goes as it does without, unless a count leaves its word. -/
theorem Manager.connect_checked (m : Manager) (id : EnvironmentId) (fresh : p.overflowed = false)
    (w : ω) :
    let ran := Work.run s (m.connect id) p w
    (ran.2.1.overflowed = false → Work.runChecked s (m.connect id) p w = (some ran.1, ran.2)) ∧
    (ran.2.1.overflowed = true → (Work.runChecked s (m.connect id) p w).1 = none) := by
  have answers (r : Request) (p : Pool) (w : ω) :
      (!(s.answer r p w).2.1.overflowed) = !p.overflowed := by
    rw [s.answer_overflowed]
  have checked := (m.connect_spoils id).runWhile_eq answers (s := p) (by rw [fresh]; rfl) w
  refine ⟨fun sound => checked.1 ?_, fun spoiled => checked.2 ?_⟩
  · rw [Bool.not_eq_true']
    exact sound
  · rw [Bool.not_eq_false']
    exact spoiled

end Run

section Room

variable {ω α : Type} {s : Surroundings ω} {p : Pool}

/-- Work leaves no count noted that has left its word, and its value is of some kind. -/
def Work.Roomy (s : Surroundings ω) (work : Work α) (p : Pool) (R : α → Prop) : Prop :=
  Work.Leads s work p (fun a q => q.overflowed = false ∧ R a)

namespace Work.Roomy

variable {β : Type} {work : Work α} {f : α → Work β} {R : α → Prop} {R' : β → Prop}

theorem pure {a : α} (fresh : p.overflowed = false) (h : R a) : Work.Roomy s (Pure.pure a) p R :=
  Work.Leads.pure ⟨fresh, h⟩

theorem bind (first : Work.Roomy s work p R)
    (rest : ∀ a q, q.overflowed = false → R a → Work.Roomy s (f a) q R') :
    Work.Roomy s (work >>= f) p R' :=
  Work.Leads.bind first (fun a q ended => rest a q ended.1 ended.2)

theorem modify_bind {change : Pool → Pool} {f : Unit → Work β}
    (h : Work.Roomy s (f ()) (change p) R') : Work.Roomy s (Program.modify change >>= f) p R' :=
  Work.Leads.modify_bind h

theorem environment_bind {id : EnvironmentId} {f : Environment → Work β}
    (h : Work.Roomy s (f (p.environment id)) p R') :
    Work.Roomy s (Work.environment id >>= f) p R' :=
  Work.Leads.environment_bind h

/-- Work that notes nothing comes first. -/
theorem quiet_bind {A : Request → Prop}
    (quiet : work.Respects (fun p q => q.overflowed = p.overflowed) A)
    (fresh : p.overflowed = false)
    (rest : ∀ a q, q.overflowed = false → Work.Roomy s (f a) q R') :
    Work.Roomy s (work >>= f) p R' := by
  have leads : Work.Leads s work p (fun _ q => q.overflowed = p.overflowed) :=
    .of_respects quiet (fun _ => rfl) (fun first second => second.trans first) (fun _ => rfl)
  exact leads.bind (fun a q same => rest a q (same.trans fresh))

end Work.Roomy

theorem toNat_add_of_fits {a b : UInt32} (fits : a.toNat + b.toNat < 2 ^ 32) :
    (a + b).toNat = a.toNat + b.toNat := by
  rw [UInt32.toNat_add]
  exact Nat.mod_eq_of_lt fits

/-- A success within so many attempts, if it is one. -/
def Within {α : Type} (most : Nat) (result : Except RetryError (Attempted α)) : Prop :=
  ∀ attempted, result = .ok attempted → attempted.attempts.toNat ≤ most

variable {m : Manager} {info : ConnectionInfo} {id : EnvironmentId}

theorem Manager.tryOnce_roomy {most : Nat} {attempt : UInt32}
    {afterFailure : String → Work (Except RetryError (Attempted Session))}
    (few : attempt.toNat ≤ most) (fresh : p.overflowed = false)
    (failed : ∀ reason q, q.overflowed = false →
      Work.Roomy s (afterFailure reason) q (Within most)) :
    Work.Roomy s (tryOnce m.config.connect (m.connectSteps info) attempt afterFailure) p
      (Within most) := by
  have quiet : ((m.connectSteps info).attempt attempt).Respects
      (fun p q => q.overflowed = p.overflowed) (fun _ => True) := by
    apply m.attempt_respects
    · exact fun _ => rfl
    · exact fun _ => trivial
  refine .quiet_bind quiet fresh (fun trial q fresh => ?_)
  cases trial with
  | succeeded value =>
    refine .pure fresh ?_
    rintro _ ⟨⟩
    exact few
  | cancelled => exact .pure fresh nofun
  | failed reason => exact failed reason q fresh
  | overdue => exact failed m.config.connect.overdueReason q fresh

/-- As long as the number of the last attempt is one of 32 bits, so are those before it. -/
theorem Manager.retryFrom_roomy {attempt : UInt32} {retries : Nat}
    (room : attempt.toNat + retries < 2 ^ 32) (fresh : p.overflowed = false) :
    Work.Roomy s (retryFrom m.config.connect (m.connectSteps info) attempt retries) p
      (Within (attempt.toNat + retries)) := by
  induction retries generalizing attempt p with
  | zero =>
    exact tryOnce_roomy (Nat.le_refl _) fresh (fun reason q fresh => .pure fresh nofun)
  | succ retries ih =>
    refine tryOnce_roomy (Nat.le_add_right _ _) fresh (fun _ q fresh => ?_)
    have fits : attempt.toNat + (1 : UInt32).toNat < 2 ^ 32 := by
      rw [UInt32.toNat_one]
      omega
    have next : (attempt + 1).toNat = attempt.toNat + 1 := by
      rw [toNat_add_of_fits fits, UInt32.toNat_one]
    refine .quiet_bind (A := fun _ => True) (.modify (fun _ => rfl)) fresh (fun _ q fresh => ?_)
    have quiet (ms : Nat) : ((m.connectSteps info).pause ms).Respects
        (fun p q => q.overflowed = p.overflowed) (fun _ => True) := by
      apply m.pause_respects
      · exact fun _ => rfl
      · exact fun _ => trivial
    refine .quiet_bind (quiet _) fresh (fun cancelled q fresh => ?_)
    cases cancelled with
    | true => exact .pure fresh nofun
    | false =>
      have rest : Work.Roomy s (retryFrom m.config.connect (m.connectSteps info) (attempt + 1)
          retries) q (Within ((attempt + 1).toNat + retries)) := ih (by omega) fresh
      rw [next, Nat.add_right_comm] at rest
      rw [if_neg Bool.false_ne_true, addCounts_of_fits fits]
      exact rest

theorem Manager.retry_roomy (room : m.config.connect.maxRetries.toNat + 1 < 2 ^ 32)
    (fresh : p.overflowed = false) :
    Work.Roomy s (retry m.config.connect (m.connectSteps info)) p
      (Within (m.config.connect.maxRetries.toNat + 1)) := by
  have fits : m.config.connect.maxRetries.toNat + (1 : UInt32).toNat < 2 ^ 32 := room
  have allowed : (m.config.connect.maxRetries + 1).toNat =
      m.config.connect.maxRetries.toNat + 1 := toNat_add_of_fits fits
  have rest : Work.Roomy s (retryFrom m.config.connect (m.connectSteps info) 1
      m.config.connect.maxRetries.toNat) p (Within (1 + m.config.connect.maxRetries.toNat)) :=
    retryFrom_roomy (by rw [UInt32.toNat_one]; omega) fresh
  rw [Nat.add_comm] at rest
  rw [retry, addCounts_of_fits fits, pure_bind, allowed]
  exact rest

namespace ConnectPolicy

variable (policy : ConnectPolicy)

/-- The most attempts that connecting nodes can take. Those after the first one that cannot be tried
for are not connected. -/
def mostAttempts (nodes : List Node) : Nat :=
  (policy.maxRetries.toNat + 1) * (nodes.takeWhile (·.connection.isSome)).length

theorem mostAttempts_cons {node : Node} (known : node.connection.isSome = true)
    (rest : List Node) : policy.mostAttempts (node :: rest) =
      policy.mostAttempts rest + (policy.maxRetries.toNat + 1) := by
  simp only [mostAttempts, List.takeWhile_cons, known, if_true, List.length_cons, Nat.mul_add_one]

/-- Attempts can be made only if the first node can be tried for. -/
theorem known_of_mostAttempts {nodes : List Node} (some_made : 0 < policy.mostAttempts nodes) :
    (nodes.head?.bind (·.connection)).isSome = true := by
  cases nodes with
  | nil => exact absurd some_made (Nat.lt_irrefl 0)
  | cons node rest =>
    change node.connection.isSome = true
    by_contra unknown
    simp [mostAttempts, unknown] at some_made

/-- The attempts that connecting an environment can take do not fit into a word. -/
def Overfull (e : Environment) : Prop :=
  e.status = .deployed ∧ 2 ^ 32 ≤ policy.mostAttempts e.nodes

end ConnectPolicy

namespace Manager

theorem connectNode_roomy {place : Nat} {total : UInt32} {node : Node}
    (room : node.connection.isSome = true →
      total.toNat + (m.config.connect.maxRetries.toNat + 1) < 2 ^ 32)
    (fresh : p.overflowed = false) :
    Work.Roomy s (m.connectNode id place total node) p (fun result => ∀ sum, result = .ok sum →
      node.connection.isSome = true ∧
      sum.toNat ≤ total.toNat + (m.config.connect.maxRetries.toNat + 1)) := by
  unfold connectNode
  cases known : node.connection with
  | none => exact .pure fresh nofun
  | some info =>
    rw [known] at room
    have room := room rfl
    refine (retry_roomy (by omega) fresh).bind (fun tried q fresh within => ?_)
    cases tried with
    | ok attempted =>
      have few := within attempted rfl
      have fits : total.toNat + attempted.attempts.toNat < 2 ^ 32 := by omega
      dsimp only
      rw [addCounts_of_fits fits, pure_bind]
      refine .modify_bind (.pure fresh ?_)
      rintro _ ⟨⟩
      refine ⟨rfl, ?_⟩
      rw [toNat_add_of_fits fits]
      omega
    | error error => cases error <;> exact .pure fresh nofun

/-- No count leaves its word unless the attempts that are possible are too many for one. -/
theorem connectNodes_roomy {place : Nat} {total : UInt32} {nodes : List Node}
    (room : total.toNat + m.config.connect.mostAttempts nodes < 2 ^ 32)
    (fresh : p.overflowed = false) :
    Work.Roomy s (m.connectNodes id place total nodes) p (fun _ => True) := by
  induction nodes generalizing place total p with
  | nil => exact .pure fresh trivial
  | cons node rest ih =>
    refine (connectNode_roomy ?room fresh).bind (fun connected q fresh counted => ?rest)
    case room =>
      intro known
      rw [m.config.connect.mostAttempts_cons known] at room
      omega
    case rest =>
      cases connected with
      | error error => exact .pure fresh trivial
      | ok sum =>
        obtain ⟨known, few⟩ := counted sum rfl
        rw [m.config.connect.mostAttempts_cons known] at room
        exact ih (by omega) fresh

theorem connectHeld_roomy (roomy : ¬ m.config.connect.Overfull (p.environment id))
    (fresh : p.overflowed = false) : Work.Roomy s (m.connectHeld id) p (fun _ => True) := by
  refine .environment_bind ?_
  cases status : (p.environment id).status with
  | new | prepared | connected | deleted => exact .pure fresh trivial
  | deployed =>
    have room : (0 : UInt32).toNat + m.config.connect.mostAttempts (p.environment id).nodes <
        2 ^ 32 := by
      rw [UInt32.toNat_zero, Nat.zero_add]
      exact Nat.lt_of_not_le (fun many => roomy ⟨status, many⟩)
    refine (connectNodes_roomy room fresh).bind (fun connected q fresh _ => ?_)
    cases connected with
    | error error => exact .pure fresh trivial
    | ok total =>
      refine .quiet_bind (A := fun _ => True) ?moved fresh (fun moved q fresh => ?_)
      case moved =>
        refine .bind (.update (fun p => ?_)) (fun _ => .pure _)
        split <;> rfl
      cases moved with
      | error error => exact .pure fresh trivial
      | ok _ => exact .modify_bind (.pure fresh trivial)

theorem connect_roomy (roomy : ¬ m.config.connect.Overfull (p.environment id))
    (fresh : p.overflowed = false) : Work.Roomy s (m.connect id) p (fun _ => True) := by
  have locked : Work.Leads s (Program.request (Request.lock id)) p (fun _ q =>
      q.overflowed = false ∧ q.environment id = p.environment id) := by
    intro w
    change (if _ then p.cancel else p).overflowed = false ∧
      (if _ then p.cancel else p).environment id = _
    split <;> exact ⟨fresh, rfl⟩
  refine locked.bind (fun _ q ⟨fresh, same⟩ => Work.Roomy.modify_bind ?_)
  have held : Work.Roomy s (m.connectHeld id) (q.lock id) (fun _ => True) :=
    connectHeld_roomy (by rw [← same] at roomy; exact roomy) fresh
  exact held.bind (fun _ _ fresh _ => .modify_bind (.pure fresh trivial))

end Manager

end Room

section Latest

variable {m : Manager} {script : Efforts} {id : EnvironmentId} {p q : Pool}

/-- Every node is reached by the last of the tries that are allowed. -/
def Manager.LastTries (m : Manager) (script : Efforts) : Prop :=
  ∀ place, m.triesFor script place = m.config.connect.maxRetries.toNat + 1 ∧
    ((script place (m.config.connect.maxRetries.toNat + 1)).verdict m.config.connect).isOk = true

theorem dialed_overflowed (script : Efforts) (r : Request) (p : Pool)
    (v : (Nat × Nat) × Journal) :
    (!(journaling (dialing script).answer r p v).2.1.overflowed) = !p.overflowed :=
  congrArg not ((dialing script).answer_overflowed r p v.1)

theorem Manager.connectNodes_noted (place : Nat) (total : UInt32) (nodes : List Node)
    (noted : q.overflowed = true) (v : (Nat × Nat) × Journal) :
    ((dialed script).run (m.connectNodes id place total nodes) (q, v)).2.1.overflowed = true := by
  have spoilt := (connectNodes_respects m (connect_spoils_by id) place total nodes).run_spoils
    (dialed_overflowed script) (s := q) (by rw [noted]; rfl) v
  simp only [Bool.not_eq_false'] at spoilt
  exact spoilt

/-- If every node takes as many attempts as are allowed, and these are too many for one word, a
count leaves it. -/
theorem Manager.connectNodes_overfull {nodes : List Node} (latest : m.LastTries script)
    (alive : (p.environment id).status ≠ .deleted) (running : p.cancelled = false)
    (room : m.config.connect.maxRetries.toNat < 2 ^ 32 - 1) (place : Nat) (total : UInt32)
    (journal : Journal) (full : 2 ^ 32 ≤ total.toNat + m.config.connect.mostAttempts nodes) :
    ((dialed script).run (m.connectNodes id place total nodes)
      (p, (place, 0), journal)).2.1.overflowed = true := by
  induction nodes generalizing p place total journal with
  | nil => exact absurd total.toNat_lt (Nat.not_lt.2 full)
  | cons node rest ih =>
    cases known : node.connection with
    | none =>
      rw [ConnectPolicy.mostAttempts, List.takeWhile_cons_of_neg (by simp [known])] at full
      exact absurd total.toNat_lt (Nat.not_lt.2 full)
    | some info =>
      have has : node.connection.isSome = true := by rw [known]; rfl
      rw [m.config.connect.mostAttempts_cons has] at full
      obtain ⟨last, ok⟩ := latest place
      obtain ⟨-, comes⟩ := m.connectNode_run script known alive running room place total journal
      rw [last] at comes
      obtain ⟨⟨outcome, q, moved, noted⟩, tried⟩ : ∃ x, (dialed script).run
        (m.connectNode id place total node) (p, (place, 0), journal) = x := ⟨_, rfl⟩
      rw [tried] at comes
      rw [connectNodes_cons, tried]
      cases came :
        (script place (m.config.connect.maxRetries.toNat + 1)).verdict m.config.connect with
      | error reason =>
        rw [came] at ok
        cases ok
      | ok session =>
        rw [came] at comes
        obtain ⟨rfl, rfl, spilled, pool⟩ := comes
        have most : m.config.connect.maxRetries.toNat + 1 < 2 ^ 32 := by omega
        let made : UInt32 := .ofNat (m.config.connect.maxRetries.toNat + 1)
        have counted : made.toNat = m.config.connect.maxRetries.toNat + 1 :=
          UInt32.toNat_ofNat_of_lt' most
        by_cases fits : total.toNat + made.toNat < 2 ^ 32
        · have sum := toNat_add_of_fits fits
          refine ih ?alive (pool.cancelled.trans running) (place + 1) (total + made) noted ?full
          case alive =>
            rw [pool.environment]
            exact alive
          case full => omega
        · exact connectNodes_noted _ _ rest (spilled (by omega)) _

theorem Manager.exists_lastTries (m : Manager) : ∃ script, m.LastTries script := by
  let last := m.config.connect.maxRetries.toNat + 1
  let script : Efforts := fun _ n =>
    { ms := 0, outcome := if n = last then .ok ⟨""⟩ else .error (.connect "" "") }
  have ok_iff (place n : Nat) :
      ((script place n).verdict m.config.connect).isOk = true ↔ n = last := by
    rw [Effort.verdict_isOk]
    by_cases late : n = last
    · simp [script, late, Except.isOk, Except.toBool]
    · simp [script, late, Except.isOk, Except.toBool]
  refine ⟨script, fun place => ⟨?_, (ok_iff place last).2 rfl⟩⟩
  have reached := (m.config.connect.triesFor_isOk
    (fun n => (script place n).verdict m.config.connect)).2
    ⟨last, Nat.le_add_left 1 _, Nat.le_refl _, (ok_iff place last).2 rfl⟩
  exact (ok_iff place _).1 reached

section Largest

variable {ω : Type} (s : Surroundings ω) (w : ω)

/-- With checked sums, retrying ends before the first attempt if the number of attempts that are
allowed leaves its word. -/
theorem Manager.retry_largest (largest : m.config.connect.maxRetries = 0xffffffff)
    (info : ConnectionInfo) :
    Work.runChecked s (retry m.config.connect (m.connectSteps info)) p w =
      (none, p.overflow, w) := by
  have large : ¬ m.config.connect.maxRetries.toNat + (1 : UInt32).toNat < UInt32.size := by
    rw [largest]
    decide
  refine Program.runWhile_bind_of_none _ ?_
  rw [addCounts, if_neg large]
  exact if_neg Bool.false_ne_true

theorem Manager.connectHeld_largest (largest : m.config.connect.maxRetries = 0xffffffff)
    (deployed : (p.environment id).status = .deployed)
    (known : ((p.environment id).nodes.head?.bind (·.connection)).isSome = true)
    (fresh : p.overflowed = false) :
    Work.runChecked s (m.connectHeld id) p w = (none, p.overflow, w) := by
  obtain ⟨info, known⟩ := Option.isSome_iff_exists.1 known
  obtain ⟨node, first, known⟩ := Option.bind_eq_some_iff.1 known
  obtain ⟨rest, nodes⟩ := List.head?_eq_some_iff.1 first
  have opened : Work.runChecked s (m.connectNode id 0 0 node) p w = (none, p.overflow, w) := by
    simp only [connectNode, known]
    exact Program.runWhile_bind_of_none _ (retry_largest s w largest info)
  have looked (f : Environment → Work (Except LifecycleError Unit)) :
      Work.runChecked s (Work.environment id >>= f) p w =
        Work.runChecked s (f (p.environment id)) p w :=
    if_pos (by simp [fresh])
  rw [connectHeld, looked]
  simp only [deployed, nodes]
  exact Program.runWhile_bind_of_none _ (Program.runWhile_bind_of_none _ opened)

/-- With checked sums, connecting ends once the environment is locked, before the first try, if the
number of attempts that are allowed leaves its word. -/
theorem Manager.connect_largest (largest : m.config.connect.maxRetries = 0xffffffff)
    (deployed : (p.environment id).status = .deployed)
    (known : ((p.environment id).nodes.head?.bind (·.connection)).isSome = true)
    (fresh : p.overflowed = false) :
    let locked := s.answer (.lock id) p w
    Work.runChecked s (m.connect id) p w =
      (none, (locked.2.1.lock id).overflow, locked.2.2) := by
  intro locked
  have same : (locked.2.1.lock id).environment id = p.environment id := by
    change (if _ then p.cancel else p).environment id = _
    split <;> rfl
  have sound : (locked.2.1.lock id).overflowed = false :=
    (s.answer_overflowed (.lock id) p w).trans fresh
  have held : Work.runChecked s (m.connectHeld id) (locked.2.1.lock id) locked.2.2 =
      (none, (locked.2.1.lock id).overflow, locked.2.2) :=
    connectHeld_largest s locked.2.2 largest (same ▸ deployed) (same ▸ known) sound
  rw [connect, Work.holding, Work.runChecked, Program.runWhile_request_bind,
    Program.runWhile_modify_bind, if_pos (by rw [sound]; rfl)]
  exact Program.runWhile_bind_of_none _ held

end Largest

theorem Manager.connectHeld_overfull (latest : m.LastTries script)
    (running : p.cancelled = false) (room : m.config.connect.maxRetries.toNat < 2 ^ 32 - 1)
    (full : m.config.connect.Overfull (p.environment id)) (journal : Journal) :
    ((dialed script).run (m.connectHeld id) (p, (0, 0), journal)).2.1.overflowed = true := by
  obtain ⟨deployed, full⟩ := full
  have alive : (p.environment id).status ≠ .deleted := by simp [deployed]
  have spilled := connectNodes_overfull latest alive running room 0 0 journal
    (Nat.le_trans full (Nat.le_add_left _ _))
  have spoils := Respects.of_bind (journaling (dialing script).answer)
    (connectHeld_respects m (connect_spoils_by id)) p ((0, 0), journal)
  have looked : Program.run (journaling (dialing script).answer) (Work.environment id) p
      ((0, 0), journal) = (p.environment id, p, (0, 0), journal) := rfl
  rw [looked] at spoils
  simp only [deployed] at spoils
  have spoilt := spoils.run_bind_spoils (dialed_overflowed script) (s := p)
    (by rw [Bool.not_eq_false']; exact spilled)
  simp only [Bool.not_eq_false'] at spoilt
  change (Program.run (journaling (dialing script).answer) (m.connectHeld id) p
    ((0, 0), journal)).2.1.overflowed = true
  rw [connectHeld, Program.run_bind, looked]
  simp only [deployed]
  exact spoilt

/-- If the attempts that connecting can take are too many for a word, they are in some run. -/
theorem Manager.connect_overfull (running : p.cancelled = false) (fresh : p.overflowed = false)
    (full : m.config.connect.Overfull (p.environment id)) :
    ∃ script, (Work.runChecked (dialing script) (m.connect id) p (0, 0)).1 = none := by
  obtain ⟨script, latest⟩ := m.exists_lastTries
  refine ⟨script, ?_⟩
  by_cases room : m.config.connect.maxRetries.toNat < 2 ^ 32 - 1
  · refine (m.connect_checked id fresh (0, 0)).2 ?_
    have held := connectHeld_overfull (p := p.lock id) latest running room full [⟨.lock id, ()⟩]
    have journaled := Program.run_journaling (dialing script).answer (m.connect id) p ((0, 0), [])
    have went := congrArg (fun ran => ran.2.1.overflowed) journaled
    refine went.trans ?_
    simp only [connect, Work.holding, Program.run_bind, Program.run_request, Program.run_modify,
      Program.run_pure]
    exact held
  · have largest : m.config.connect.maxRetries = 0xffffffff := by
      have word := m.config.connect.maxRetries.toNat_lt
      exact UInt32.toNat_inj.1 (Nat.le_antisymm (Nat.le_of_lt_succ word) (Nat.not_lt.1 room))
    obtain ⟨deployed, full⟩ := full
    have known : ((p.environment id).nodes.head?.bind (·.connection)).isSome = true :=
      m.config.connect.known_of_mostAttempts (Nat.lt_of_lt_of_le (by decide) full)
    rw [connect_largest (dialing script) (0, 0) largest deployed known fresh]

theorem Effort.verdict_failed {policy : ConnectPolicy} {effort : Effort}
    (failing : (effort.verdict policy).isOk = false) :
    ∃ reason, effort.verdict policy = .error reason := by
  cases came : effort.verdict policy with
  | ok session =>
    rw [came] at failing
    cases failing
  | error reason => exact ⟨reason, rfl⟩

/-- Without checked sums nothing is left of the number of attempts that are allowed, and the first
one is the last. -/
theorem Manager.connectNode_once {node : Node} {info : ConnectionInfo}
    (known : node.connection = some info) (running : p.cancelled = false)
    (largest : m.config.connect.maxRetries = 0xffffffff) (place : Nat) (total : UInt32)
    (failing : ((script place 1).verdict m.config.connect).isOk = false) (journal : Journal) :
    tries ((dialed script).run (m.connectNode id place total node)
      (p, (place, 0), journal)).2.2.2 = tries journal ++ [info] := by
  have running : p.overflow.cancelled = false := running
  have attempts := m.connectSteps_attempts script id running info (tries journal) place
  have start : Tried id p.overflow info (tries journal) (1 - 1) (1 - 1) (place, 1 - 1)
      (p.overflow, (place, 0), journal) := ⟨.refl id p.overflow, rfl, (List.append_nil _).symm⟩
  obtain ⟨after, tried, ran⟩ := attempts.tryOnce (Nat.le_refl 1) (Nat.le_add_left 1 _) start
    (fun reason => return .error (.exhausted 1 reason))
  obtain ⟨reason, came⟩ := Effort.verdict_failed failing
  rw [came] at ran
  have none_left : (m.config.connect.maxRetries + 1).toNat - 1 = 0 := by
    rw [largest]
    rfl
  have large : ¬ m.config.connect.maxRetries.toNat + (1 : UInt32).toNat < UInt32.size := by
    rw [largest]
    decide
  have counted : (dialed script).run
      (addCounts (m.connectSteps info).overflow m.config.connect.maxRetries 1)
      (p, (place, 0), journal) =
        (m.config.connect.maxRetries + 1, p.overflow, (place, 0), journal) := by
    rw [connectSteps, addCounts_dialed, if_neg large]
  have once : (dialed script).run (retry m.config.connect (m.connectSteps info))
      (p, (place, 0), journal) = (.error (.exhausted 1 reason), after) := by
    rw [retry, (dialed script).run_bind, counted]
    dsimp only
    rw [none_left]
    exact ran
  have went : (dialed script).run (m.connectNode id place total node) (p, (place, 0), journal) =
      (.error (.connection node.name 1 reason), after) := by
    simp only [connectNode, known]
    rw [(dialed script).run_bind, once]
    rfl
  rw [went]
  exact tried.tries

theorem Manager.connectNode_unreachable {node : Node} {info : ConnectionInfo}
    (known : node.connection = some info) (alive : (p.environment id).status ≠ .deleted)
    (running : p.cancelled = false) (place : Nat) (total : UInt32)
    (failing : ∀ n, ((script place n).verdict m.config.connect).isOk = false) (journal : Journal) :
    tries ((dialed script).run (m.connectNode id place total node)
      (p, (place, 0), journal)).2.2.2 = tries journal ++ List.replicate
        (if m.config.connect.maxRetries = 0xffffffff then 1
          else m.config.connect.maxRetries.toNat + 1) info := by
  by_cases largest : m.config.connect.maxRetries = 0xffffffff
  · rw [connectNode_once known running largest place total (failing 1), if_pos largest]
    rfl
  · have room : m.config.connect.maxRetries.toNat < 2 ^ 32 - 1 := by
      have other : m.config.connect.maxRetries.toNat ≠ 2 ^ 32 - 1 :=
        fun same => largest (UInt32.toNat_inj.1 same)
      have word := m.config.connect.maxRetries.toNat_lt
      omega
    obtain ⟨asked, -⟩ := m.connectNode_run script known alive running room place total journal
    obtain ⟨reason, came⟩ := Effort.verdict_failed (failing (m.triesFor script place))
    have spent : m.triesFor script place = m.config.connect.maxRetries.toNat + 1 :=
      ConnectPolicy.triesFor_failed came
    rw [asked, spent, if_neg largest]

end Latest

/-- A runbook with another number of retries. -/
def Runbook.withRetries (b : Runbook) (retries : UInt32) : Runbook :=
  { b with lifecycle :=
    { b.lifecycle with connect := { b.lifecycle.connect with maxRetries := retries } } }

theorem ConnectPolicy.backoff_lt (policy : ConnectPolicy) (attempt : UInt32) :
    policy.backoff attempt < 2 ^ 64 := by
  have largest : 0xffffffffffffffff < 2 ^ 64 := by decide
  exact Nat.lt_of_le_of_lt (Nat.min_le_right _ _) largest

/-- Runbooks are valid whatever number of retries they declare. Pauses fit into their words, and the
counts of connecting do exactly if the attempts that it can take are not too many: with checked sums
it then goes as it does without, and is broken off in some run otherwise. After the largest number of
retries it is broken off before the first try. Without checked sums, a node that cannot be reached is
tried for once more than there are retries, but a single time after the largest number of them. -/
theorem Manager.connect_overflow_iff (b : Runbook) (accepted : b.validate = .ok ()) (m : Manager)
    (configured : m.config = b.lifecycle) (id : EnvironmentId) (p : Pool)
    (fresh : p.overflowed = false) :
    let policy := b.lifecycle.connect
    let e := p.environment id
    (∀ retries, (b.withRetries retries).validate = .ok ()) ∧
    (∀ attempt : UInt32, 2 ^ min (attempt.toNat - 1) 16 < 2 ^ 64 ∧
      policy.backoff attempt < 2 ^ 64) ∧
    (¬ policy.Overfull e → ∀ (ω : Type) (s : Surroundings ω) (w : ω),
      let ran := Work.run s (m.connect id) p w
      Work.runChecked s (m.connect id) p w = (some ran.1, ran.2) ∧
        ran.2.1.overflowed = false) ∧
    (p.cancelled = false →
      ((∃ script, (Work.runChecked (dialing script) (m.connect id) p (0, 0)).1 = none) ↔
        policy.Overfull e)) ∧
    (policy.maxRetries = 0xffffffff → e.status = .deployed →
      (e.nodes.head?.bind (·.connection)).isSome = true →
      ∀ (ω : Type) (s : Surroundings ω) (w : ω),
        let locked := s.answer (.lock id) p w
        Work.runChecked s (m.connect id) p w =
          (none, (locked.2.1.lock id).overflow, locked.2.2)) ∧
    (p.cancelled = false → e.status = .deployed → ∀ script place total node info journal,
      node.connection = some info → (∀ n, ((script place n).verdict policy).isOk = false) →
      tries ((dialed script).run (m.connectNode id place total node)
        (p, (place, 0), journal)).2.2.2 = tries journal ++ List.replicate
          (if policy.maxRetries = 0xffffffff then 1 else policy.maxRetries.toNat + 1) info) := by
  intro policy e
  have same : policy = m.config.connect := by rw [configured]
  rw [same]
  have roomy (few : ¬ m.config.connect.Overfull e) (ω : Type) (s : Surroundings ω) (w : ω) :
      let ran := Work.run s (m.connect id) p w
      Work.runChecked s (m.connect id) p w = (some ran.1, ran.2) ∧
        ran.2.1.overflowed = false := by
    obtain ⟨sound, -⟩ := connect_roomy (s := s) few fresh w
    exact ⟨(m.connect_checked id fresh w).1 sound, sound⟩
  refine ⟨fun _ => accepted, fun attempt => ⟨?shift, m.config.connect.backoff_lt attempt⟩, roomy,
    fun running => ⟨?spilled, connect_overfull running fresh⟩,
    fun largest deployed known ω s w => connect_largest s w largest deployed known fresh, ?tried⟩
  case shift => exact Nat.pow_lt_pow_right (by decide) (by omega)
  case spilled =>
    rintro ⟨script, broken⟩
    by_contra few
    rw [(roomy few _ (dialing script) (0, 0)).1] at broken
    cases broken
  case tried =>
    intro running deployed script place total node info journal known failing
    have alive : (p.environment id).status ≠ .deleted := by simp [e, deployed]
    exact m.connectNode_unreachable known alive running place total failing journal

/-- A runbook may declare the largest number of retries. One node is enough then for connecting to be
broken off with checked sums, and to give up after one attempt without them. -/
theorem Manager.connect_overflow_iff_largest :
    let b : Runbook := {
      environments := [{ nodes := [{}] }]
      lifecycle := { connect := { maxRetries := 0xffffffff } } }
    let m := { sample with config := b.lifecycle }
    let info : ConnectionInfo := .new "127.0.0.1" "root"
    let node : Node := { Node.new 0 {} with connection := some info }
    let e : Environment :=
      { id := ⟨0⟩, name := "single", candidateIndex := 0, space := {}, nodes := [node]
        status := .deployed }
    let p : Pool := { environments := [e] }
    let refusing : Efforts := fun _ _ => ⟨0, .error (.connect "127.0.0.1:22" "connection refused")⟩
    b.validate = .ok () ∧ p.overflowed = false ∧ b.lifecycle.connect.Overfull e ∧
      Work.runChecked (dialing refusing) (m.connect ⟨0⟩) p (0, 0) =
        (none, (p.lock ⟨0⟩).overflow, (0, 0)) ∧
      tries ((dialed refusing).run (m.connectNode ⟨0⟩ 0 0 node) (p, (0, 0), [])).2.2.2 = [info] := by
  intro b m info node e p refusing
  have accepted : b.validate = .ok () := by rfl
  obtain ⟨-, -, -, overflows, largest, tried⟩ := connect_overflow_iff b accepted m rfl ⟨0⟩ p rfl
  have full : b.lifecycle.connect.Overfull (p.environment ⟨0⟩) := ⟨rfl, by decide⟩
  exact ⟨accepted, rfl, full, largest rfl rfl rfl _ (dialing refusing) (0, 0),
    tried rfl rfl refusing 0 0 node info [] rfl (fun _ => rfl)⟩

end Testbed
