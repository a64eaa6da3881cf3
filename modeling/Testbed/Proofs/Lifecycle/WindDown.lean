import Mathlib.Algebra.BigOperators.Group.Finset.Basic
import Mathlib.Algebra.Order.BigOperators.Group.Finset
import Testbed.Proofs.Lifecycle.Accounting
import Testbed.Proofs.Lifecycle.Deletion
import Testbed.Proofs.Lifecycle.Halting

/-!
# Traffic winds down

From the cancellation of the run on, whatever turns are taken, provisioning is over at the next
answer, and cleaning up goes on undisturbed: the clients that wait can always be answered, after a
bounded number of answers all have returned, and what they were to delete is deleted by then.
-/
namespace Testbed

open Program

namespace Traffic

variable {m : Manager} {t : Traffic} {client : Nat} {id : EnvironmentId}

/-- A client that provisions an environment is done with it at the next answer in a cancelled run. -/
theorem Stoppable.ends (stoppable : t.Stoppable m) (stopped : t.pool.cancelled = true)
    {pending : Pending} (found : (t.clients client).pending = some pending)
    (provisions : pending.task.provisions = some id) (rules : Standing → Task → Bool)
    (reply : (r : Request) → r.Reply)
    (admitted : t.admits client pending.request (reply pending.request) = true) :
    ∃ result, (t.take m rules (.answer client reply)).journal =
        t.journal ++ [.returned client pending.task result] ∧
      ((t.take m rules (.answer client reply)).clients client).pending = none ∧
      pending.task.Concludes (t.late client = true) result (t.pool.environment id).status
        ((t.take m rules (.answer client reply)).pool.environment id).status := by
  obtain ⟨left, waits⟩ := stoppable.waiting client pending found
  cases waits with
  | cleaning cleans => cases cleans.symm.trans provisions
  | provisioning same spares closes ends =>
    obtain rfl := Option.some.inj (provisions.symm.trans same)
    obtain ⟨result, q, advanced, outcome⟩ :=
      ends (reply pending.request) t.pool ⟨stopped, stoppable.equipped⟩
    have taken : t.take m rules (.answer client reply) =
        t.rested client pending.task (.finished result, q) := by
      simp only [Traffic.take, found, if_pos admitted, Traffic.advance, advanced]
    rw [taken]
    refine ⟨result, rfl, by simp [Traffic.rested], ?_⟩
    cases outcome with
    | stayed same satisfied => exact .stayed same satisfied
    | moved through step alive done =>
      exact .moved (t.late_of_through stopped admitted through) step alive done

/-- The tasks that wait, each of which is over after so many answers once the run has been
cancelled. -/
structure Owes (t : Traffic) (clients : Nat) (answers : Nat → Nat) : Prop where
  few : ∀ c pending, (t.clients c).pending = some pending → c < clients
  waits : ∀ c pending, (t.clients c).pending = some pending → pending.Stoppable (answers c)

/-- How much can still happen of a client's task. -/
def owed (t : Traffic) (answers : Nat → Nat) (c : Nat) : Nat :=
  if (t.clients c).pending.isSome then answers c + 1 else 0

theorem few_traffic (m : Manager) (rules : Standing → Task → Bool) (turns : List Turn) :
    ∃ clients, ∀ c pending,
      ((m.traffic rules turns).clients c).pending = some pending → c < clients := by
  induction turns using List.reverseRecOn with
  | nil => exact ⟨0, fun _ _ found => nomatch found⟩
  | append_singleton turns turn ih =>
    obtain ⟨clients, few⟩ := ih
    rw [m.traffic_append, List.foldl_cons, List.foldl_nil]
    generalize m.traffic rules turns = t at few ⊢
    have grows (client : Nat) (task : Task) (work : Work task.Result) :
        ∃ clients, ∀ c pending,
          ((t.advance client task work).clients c).pending = some pending → c < clients := by
      refine ⟨max clients (client + 1), waiting_rested (fun c pending _ found => ?_) ?_⟩
      · have before := few c pending found
        omega
      · split
        · trivial
        · omega
    have took := t.take_took m rules turn
    generalize t.take m rules turn = next at took ⊢
    cases took with
    | stayed | cancelled => exact ⟨clients, few⟩
    | @began client task => exact grows client task _
    | @wentOn client => exact grows client _ _

namespace Owes

variable {clients : Nat} {answers : Nat → Nat}

theorem of_stoppable (stoppable : t.Stoppable m)
    (few : ∀ c pending, (t.clients c).pending = some pending → c < clients) :
    ∃ answers, t.Owes clients answers := by
  have each (c : Nat) : ∃ left, ∀ pending, (t.clients c).pending = some pending →
      pending.Stoppable left := by
    by_cases waiting : ∃ pending, (t.clients c).pending = some pending
    · obtain ⟨pending, found⟩ := waiting
      obtain ⟨left, waits⟩ := stoppable.waiting c pending found
      refine ⟨left, fun other same => ?_⟩
      obtain rfl := Option.some.inj (found.symm.trans same)
      exact waits
    · exact ⟨0, fun pending found => absurd ⟨pending, found⟩ waiting⟩
  choose answers waits using each
  exact ⟨answers, few, waits⟩

/-- A stretch of a client that waits takes one off what is owed, if it leaves the client with less to
wait for. -/
theorem rested (owes : t.Owes clients answers) {pending : Pending}
    (found : (t.clients client).pending = some pending) {task : Task}
    (rest : Rest Pool Request Request.Reply task.Result × Pool)
    (less : ∀ r next, rest.1 = .waiting r next →
      ∃ fewer, answers client = fewer + 1 ∧ Pending.Stoppable ⟨task, r, next⟩ fewer) :
    ∃ fewer, (t.rested client task rest).Owes clients fewer ∧
      (t.rested client task rest).journal.length +
        ∑ c ∈ Finset.range clients, (t.rested client task rest).owed fewer c ≤
      t.journal.length + ∑ c ∈ Finset.range clients, t.owed answers c := by
  have mine : client ∈ Finset.range clients := Finset.mem_range.2 (owes.few client pending found)
  have owed : t.owed answers client = answers client + 1 := by simp [Traffic.owed, found]
  have less_owed {fewer : Nat → Nat}
      (others : ∀ c, c ≠ client → (t.rested client task rest).owed fewer c = t.owed answers c)
      (own : (t.rested client task rest).owed fewer client < t.owed answers client) :
      (t.rested client task rest).journal.length +
        ∑ c ∈ Finset.range clients, (t.rested client task rest).owed fewer c ≤
      t.journal.length + ∑ c ∈ Finset.range clients, t.owed answers c := by
    have sum : ∑ c ∈ Finset.range clients, (t.rested client task rest).owed fewer c <
        ∑ c ∈ Finset.range clients, t.owed answers c := by
      refine Finset.sum_lt_sum (fun c _ => ?_) ⟨client, mine, own⟩
      by_cases same : c = client
      · rw [same]
        exact Nat.le_of_lt own
      · exact Nat.le_of_eq (others c same)
    rw [journal_rested, List.length_append, List.length_singleton]
    omega
  obtain ⟨result | ⟨r, next⟩, q⟩ := rest
  · refine ⟨answers, ⟨?_, ?_⟩, less_owed (fun c apart => ?_) ?_⟩
    · exact waiting_rested (fun c pending _ => owes.few c pending) trivial
    · exact waiting_rested (fun c pending _ => owes.waits c pending) trivial
    · rw [Traffic.owed, clients_rested _ apart, Traffic.owed]
    · rw [owed]
      simp [Traffic.owed, Traffic.rested]
  · obtain ⟨fewer, enough, waits⟩ := less r next rfl
    refine ⟨Function.update answers client fewer, ⟨?_, ?_⟩, less_owed (fun c apart => ?_) ?_⟩
    · exact waiting_rested (fun c pending _ => owes.few c pending) (Finset.mem_range.1 mine)
    · refine waiting_rested (fun c pending apart found => ?_) ?_
      · rw [Function.update_of_ne apart]
        exact owes.waits c pending found
      · dsimp only
        rwa [Function.update_self]
    · rw [Traffic.owed, clients_rested _ apart, Traffic.owed, Function.update_of_ne apart]
    · rw [owed, enough]
      simp [Traffic.owed, Traffic.rested]

/-- As long as nobody begins another task, no more happens than is owed. -/
theorem run (owes : t.Owes clients answers) (stoppable : t.Stoppable m)
    (stopped : t.pool.cancelled = true) (rules : Standing → Task → Bool) (turns : List Turn)
    (calls : ∀ client task, Turn.call client task ∉ turns) :
    (turns.foldl (Traffic.take m rules) t).journal.length ≤
      t.journal.length + ∑ c ∈ Finset.range clients, t.owed answers c := by
  induction turns generalizing t answers with
  | nil => exact Nat.le_add_right ..
  | cons turn rest ih =>
    have stoppable' := stoppable.take rules turn
    have calls' (client : Nat) (task : Task) : Turn.call client task ∉ rest :=
      fun listed => calls client task (List.mem_cons_of_mem _ listed)
    rw [List.foldl_cons]
    have took := t.take_took m rules turn
    generalize t.take m rules turn = next at took stoppable' ⊢
    cases took with
    | stayed => exact ih owes stoppable stopped calls'
    | @began client task => exact absurd List.mem_cons_self (calls client task)
    | @wentOn client reply pending found admitted =>
      obtain ⟨stopped', -⟩ := (stoppable.changes client pending found (reply pending.request)).advance
        (P := fun p => p.cancelled = true)
        (fun _ _ change stopped => change.cancelled.trans stopped) stopped
      obtain ⟨fewer, owes, less⟩ := owes.rested found
        ((pending.next (reply pending.request)).advance t.pool) (fun r next asks =>
          (owes.waits client pending found).goesOn ⟨stopped, stoppable.equipped⟩ _ asks)
      refine Nat.le_trans (ih owes stoppable' ?_ calls') less
      rw [Traffic.advance, pool_rested]
      exact stopped'
    | cancelled running => cases stopped.symm.trans running

end Owes

end Traffic

namespace Request

/-- An answer of an interrupted request. -/
def interrupted : (r : Request) → r.Reply
  | .prepare _ | .interruptible _ => none
  | .deploy e => ⟨e.provision, none⟩
  | r => r.obliging

/-- An answer that a request can get, given whether it is interrupted. -/
def given (interrupts : Bool) (r : Request) : r.Reply :=
  if interrupts then r.interrupted else r.obliging

theorem allows_given (interrupts : Bool) (r : Request) :
    r.allows interrupts (r.given interrupts) = true := by
  cases interrupts <;> cases r <;> rfl

end Request

namespace Traffic

variable {m : Manager} {rules : Standing → Task → Bool} {t : Traffic}

/-- As long as a client waits, one of them can be answered: whoever has locked what another one
waits for does not wait for a lock. -/
theorem moves {stances : Nat → Stance} (kept : t.Kept m stances) (busy : ¬ t.Quiet) :
    ∃ client reply, (t.take m rules (.answer client reply)).journal ≠ t.journal := by
  have answered {client : Nat} {pending : Pending}
      (found : (t.clients client).pending = some pending)
      (free : t.pool.grants pending.request = true) :
      (t.take m rules (.answer client (Request.given (t.interrupts client)))).journal ≠
        t.journal := by
    have admitted : t.admits client pending.request
        (pending.request.given (t.interrupts client)) = true :=
      Bool.and_eq_true_iff.2 ⟨free, Request.allows_given _ _⟩
    simp only [Traffic.take, found, if_pos admitted, Traffic.advance]
    rw [journal_rested]
    simp
  obtain ⟨client, pending, found⟩ : ∃ client pending,
      (t.clients client).pending = some pending := by
    by_contra idle
    refine busy (fun client => Option.eq_none_iff_forall_ne_some.2 (fun pending found => ?_))
    exact idle ⟨client, pending, found⟩
  cases granted : t.pool.grants pending.request with
  | true => exact ⟨client, _, answered found granted⟩
  | false =>
    obtain ⟨id, asks, locked⟩ : ∃ id, pending.request = .lock id ∧ id ∈ t.pool.locked := by
      cases asks : pending.request with
      | lock id => exact ⟨id, rfl, by simpa [asks, Pool.grants] using granted⟩
      | prepare _ | deploy _ | delete _ | interruptible _ | call _ | notify _ =>
        rw [asks] at granted
        cases granted
    obtain ⟨holder, holds⟩ := (kept.locked id).1 locked
    have busy : (t.clients holder).pending ≠ none := by
      intro idle
      rw [kept.idle holder idle] at holds
      exact Stance.not_holds_of_nothing rfl holds
    obtain ⟨held, found⟩ := Option.ne_none_iff_exists'.1 busy
    refine ⟨holder, _, answered found ?_⟩
    have waits := kept.waits holder held found
    cases asks : held.request with
    | lock k =>
      rw [asks] at waits
      exact absurd holds (Stance.not_holds_of_nothing waits)
    | prepare _ | deploy _ | delete _ | interruptible _ | call _ | notify _ => rfl

end Traffic

namespace Manager

variable (m : Manager) (rules : Standing → Task → Bool)

theorem traffic_stoppable (turns : List Turn) : (m.traffic rules turns).Stoppable m := by
  induction turns using List.reverseRecOn with
  | nil => exact .empty m
  | append_singleton turns turn ih =>
    rw [m.traffic_append]
    exact ih.take rules turn

/-- A client deploys what it is handed: the platform can host it and is asked to provision it. -/
def deployUnderway : List Turn := [
  .call 0 (.prepare {}), .call 0 (.deploy ⟨0⟩), .answer 0 Request.obliging,
  .answer 0 Request.obliging]

end Manager

end Testbed
