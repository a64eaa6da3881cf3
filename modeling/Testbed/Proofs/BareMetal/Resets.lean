import Testbed.Proofs.BareMetal.Attempt

/-!
# Resetting the clients

A deployment reaches no other machine before the ports of all clients are known. Then it visits the
rack manager, which is told to reset the clients one after the other, up to the first that fails.
What comes after the visit is no business of the rack manager.
-/
namespace Testbed

/-- Whether a call goes to another machine. -/
def Call.isRemote : Call → Bool
  | .connect .. | .execute .. => true
  | .pause _ | .clock | .readFile _ | .findFile _ | .removeFile _ => false

/-- Whether a call is a command. -/
def Call.isCommand : Call → Bool
  | .execute .. => true
  | .connect .. | .pause _ | .clock | .readFile _ | .findFile _ | .removeFile _ => false

namespace BareMetal

/-- Whether a command was carried out and came to a good end. -/
def Succeeds (reply : Except SessionError ExecuteResult) : Prop :=
  ∃ result, reply = .ok result ∧ result.exitCode = 0

namespace RackManager

/-- The commands that reset clients at their ports, as far as there are answers. -/
def resets (session : Session) (ports : List UInt32)
    (replies : List (Except SessionError ExecuteResult)) : CallLog :=
  List.zipWith (fun port reply => ⟨.execute session (resetCommand port), some reply⟩) ports replies

/-- Replies to resetting clients one after the other, and what comes of it. -/
inductive Resets (ports : List UInt32) :
    List (Except SessionError ExecuteResult) → Except BareMetalError Unit → Prop where
  | all {replies : List (Except SessionError ExecuteResult)}
    (complete : replies.length = ports.length) (succeeded : ∀ reply ∈ replies, Succeeds reply) :
    Resets ports replies (.ok ())
  | stopped (earlier : List (Except SessionError ExecuteResult))
    {last : Except SessionError ExecuteResult} {error : BareMetalError}
    (room : earlier.length < ports.length) (succeeded : ∀ reply ∈ earlier, Succeeds reply)
    (failed : ¬ Succeeds last) :
    Resets ports (earlier ++ [last]) (.error error)

theorem Resets.cons {port : UInt32} {rest : List UInt32}
    {reply : Except SessionError ExecuteResult}
    {replies : List (Except SessionError ExecuteResult)} {outcome : Except BareMetalError Unit}
    (succeeded : Succeeds reply) (resets : Resets rest replies outcome) :
    Resets (port :: rest) (reply :: replies) outcome := by
  cases resets with
  | all complete others =>
    exact .all (congrArg (· + 1) complete) (List.forall_mem_cons.2 ⟨succeeded, others⟩)
  | stopped earlier room others failed =>
    exact .stopped (reply :: earlier) (Nat.succ_lt_succ room)
      (List.forall_mem_cons.2 ⟨succeeded, others⟩) failed

variable {σ : Type}

theorem resetAll_traces (session : Session) (ports : List UInt32) (s : σ) :
    (resetAll session ports).Traces (fun log outcome _ => ∀ ended, outcome = some ended →
      ∃ replies, log = resets session ports replies ∧ Resets ports replies ended) s := by
  induction ports with
  | nil =>
    refine .pure ?_
    rintro _ ⟨⟩
    exact ⟨[], rfl, .all rfl nofun⟩
  | cons port rest ih =>
    refine .request_bind nofun (fun reply => ?_)
    have stops {error : BareMetalError} (failed : ¬ Succeeds reply) :
        (pure (.error error) : Caller σ _).Traces (fun log outcome _ => ∀ ended,
          outcome = some ended → ∃ replies,
            ⟨.execute session (resetCommand port), some reply⟩ :: log =
              resets session (port :: rest) replies ∧ Resets (port :: rest) replies ended) s := by
      refine .pure ?_
      rintro _ ⟨⟩
      exact ⟨[reply], by simp [resets], .stopped [] (Nat.succ_pos _) nofun failed⟩
    cases reply with
    | error cause => exact stops (fun ⟨_, same, _⟩ => nomatch same)
    | ok result =>
      dsimp only
      split
      · rename_i success
        have succeeded : Succeeds (.ok result) :=
          ⟨result, rfl, by simpa [ExecuteResult.success] using success⟩
        refine ih.mono (fun log outcome t came ended same => ?_)
        obtain ⟨replies, rfl, reset⟩ := came ended same
        exact ⟨.ok result :: replies, rfl, reset.cons succeeded⟩
      · rename_i failure
        refine stops (fun ⟨_, same, zero⟩ => failure ?_)
        obtain rfl := Except.ok.inj same
        simpa [ExecuteResult.success] using zero

/-- A visit to the rack manager, from trying for a session on. -/
inductive Visits (r : RackManager) (ports : List UInt32) :
    CallLog → Except BareMetalError Unit → Prop where
  | unopened {reply : Opening} {error : BareMetalError}
    (unopened : ∀ session, reply ≠ .opened session) :
    Visits r ports [⟨.connect r.connection none, some reply⟩] (.error error)
  | opened {session : Session} {replies : List (Except SessionError ExecuteResult)}
    {outcome : Except BareMetalError Unit} (resets : Resets ports replies outcome) :
    Visits r ports (⟨.connect r.connection none, some (.opened session)⟩ ::
      RackManager.resets session ports replies) outcome

theorem openSession_traces (r : RackManager) (s : σ) :
    r.openSession.Traces (fun log outcome _ => ∀ ended, outcome = some ended →
      match ended with
      | .ok session => log = [⟨.connect r.connection none, some (.opened session)⟩]
      | .error error => ∀ ports, r.Visits ports log (.error error)) s := by
  refine .request_bind nofun (fun reply => ?_)
  cases reply with
  | opened session =>
    refine .pure ?_
    rintro _ ⟨⟩
    rfl
  | refused _ | overdue =>
    refine .pure ?_
    rintro _ ⟨⟩
    exact fun ports => .unopened nofun

/-- The rack manager is not touched before every port is known. -/
theorem resetClients_traces (r : RackManager) (s : σ) :
    r.resetClients.Traces (fun log outcome _ =>
      (log = [] ∧ (∀ ports, r.ports ≠ .ok ports) ∧ outcome ≠ some (.ok ())) ∨
      ∃ ports, r.ports = .ok ports ∧
        ∀ ended, outcome = some ended → r.Visits ports log ended) s := by
  unfold resetClients
  split
  · rename_i error unknown
    exact .pure (.inl ⟨rfl, by simp [unknown], nofun⟩)
  · rename_i ports known
    refine .mono (Q := fun log outcome _ =>
        ∀ ended, outcome = some ended → r.Visits ports log ended)
      (.bind (openSession_traces r s) (fun _ _ _ => nofun) (fun log opened t came => ?_))
      (fun log outcome t came => .inr ⟨ports, known, came⟩)
    have came := came opened rfl
    cases opened with
    | error error =>
      refine .pure ?_
      rintro _ ⟨⟩
      rw [List.append_nil]
      exact came ports
    | ok session =>
      obtain rfl := came
      refine (resetAll_traces session ports t).mono (fun more outcome u came ended same => ?_)
      obtain ⟨replies, rfl, reset⟩ := came ended same
      exact .opened reset

end RackManager

/-- How far carrying out a plan comes with the rack manager. -/
inductive Plan.Reaches (plan : Plan) : CallLog → Option (Except BareMetalError Unit) → Prop where
  /-- No other machine is reached. -/
  | unvisited {log : CallLog} {outcome : Option (Except BareMetalError Unit)}
    (here : ∀ exchange ∈ log, exchange.request.isRemote = false)
    (failed : outcome ≠ some (.ok ())) : Plan.Reaches plan log outcome
  | abandoned {log : CallLog} {ports : List UInt32} (known : plan.manager.ports = .ok ports) :
    Plan.Reaches plan log none
  | visited {before visit after : CallLog} {ports : List UInt32}
    {reset : Except BareMetalError Unit} {outcome : Option (Except BareMetalError Unit)}
    (known : plan.manager.ports = .ok ports)
    (cleaning : ∀ exchange ∈ before, Errand.of exchange.request = .cleaning)
    (visits : plan.manager.Visits ports visit reset)
    (finishing : ∀ exchange ∈ after,
      Errand.of exchange.request = .waiting ∨ Errand.of exchange.request = .reading)
    (failed : reset ≠ .ok () → outcome ≠ some (.ok ())) :
    Plan.Reaches plan (before ++ visit ++ after) outcome

theorem isRemote_of_cleaning {log : CallLog}
    (cleaning : ∀ exchange ∈ log, Errand.of exchange.request = .cleaning) :
    ∀ exchange ∈ log, exchange.request.isRemote = false := by
  intro exchange member
  have cleans := cleaning exchange member
  cases request : exchange.request with
  | connect info limit => cases limit <;> simp [request, Errand.of] at cleans
  | execute _ _ => simp [request, Errand.of] at cleans
  | pause _ | clock | readFile _ | findFile _ | removeFile _ => rfl

theorem Plan.carryOut_traces (plan : Plan) (p : Provision) :
    plan.carryOut.Traces (fun log outcome _ => plan.Reaches log outcome) p := by
  have trivially (p q r : Provision) (_ : True) (_ : True) : True := trivial
  refine .unless_failed (.of_respects (R := fun _ _ => True) (cleanUp_respects plan)
    (fun _ => trivial) trivially) (fun _ => rfl) ?uncleaned (fun before _ ⟨_, cleaning⟩ => ?_)
  case uncleaned =>
    exact fun log outcome t failed came => .unvisited (isRemote_of_cleaning came.2) failed
  refine .modify_bind (.unless_failed (plan.manager.resetClients_traces _) (fun _ => rfl) ?unreset
    ?reset)
  case unreset =>
    rintro visit outcome t failed (⟨rfl, -, -⟩ | ⟨ports, known, came⟩)
    · rw [List.append_nil]
      exact .unvisited (isRemote_of_cleaning cleaning) failed
    · cases outcome with
      | none => exact .abandoned known
      | some reset =>
        rw [← List.append_nil (before ++ visit)]
        exact .visited known cleaning (came reset rfl) nofun (fun _ => failed)
  case reset =>
    rintro visit t (⟨-, -, failed⟩ | ⟨ports, known, came⟩)
    · exact absurd rfl failed
    · have reaches {after : CallLog} {outcome : Option (Except BareMetalError Unit)}
          (finishing : ∀ exchange ∈ after,
            Errand.of exchange.request = .waiting ∨ Errand.of exchange.request = .reading) :
          plan.Reaches (before ++ (visit ++ after)) outcome := by
        rw [← List.append_assoc]
        exact .visited known cleaning (came _ rfl) finishing (absurd rfl)
      refine .get_bind (.unless_failed (.of_respects (R := fun _ _ => True)
        (finishMachines_respects 0 _ (fun _ _ _ _ => trivial)) (fun _ => trivial) trivially)
        (fun _ => rfl) (fun after outcome u _ came => reaches came.2) (fun after u came => ?_))
      refine .modify_bind (.pure ?_)
      rw [List.append_nil]
      exact reaches came.2

theorem RackManager.resets_isCommand (session : Session) (ports : List UInt32)
    (replies : List (Except SessionError ExecuteResult)) :
    ∀ exchange ∈ resets session ports replies, exchange.request.isCommand = true := by
  induction ports generalizing replies with
  | nil => exact nofun
  | cons port rest ih =>
    cases replies with
    | nil => exact nofun
    | cons reply replies => exact List.forall_mem_cons.2 ⟨rfl, ih replies⟩

/-- The commands that were begun. -/
def commands (calls : CallLog) : CallLog :=
  calls.filter (fun exchange => exchange.request.isCommand)

theorem commands_append (first rest : CallLog) :
    commands (first ++ rest) = commands first ++ commands rest :=
  List.filter_append ..

/-- What has another errand is not asked of the rack manager. -/
theorem commands_eq_nil (log : CallLog)
    (other : ∀ exchange ∈ log, Errand.of exchange.request ≠ .resetting) :
    commands log = [] ∧ ∀ info reply, ⟨.connect info none, reply⟩ ∉ log := by
  refine ⟨List.filter_eq_nil_iff.2 (fun exchange member => ?_), fun info reply member => ?_⟩
  · have errand := other exchange member
    cases request : exchange.request with
    | execute session command => exact absurd (by rw [request]; rfl) errand
    | connect _ _ | pause _ | clock | readFile _ | findFile _ | removeFile _ => nofun
  · exact other _ member rfl

/-- On a visit with an open session, all commands reset clients. -/
theorem RackManager.Visits.commands {r : RackManager} {ports : List UInt32} {visit : CallLog}
    {reset : Except BareMetalError Unit} (visits : r.Visits ports visit reset)
    {info : ConnectionInfo} {session : Session}
    (opened : ⟨.connect info none, some (.opened session)⟩ ∈ visit) :
    info = r.connection ∧ ∃ replies, BareMetal.commands visit = resets session ports replies ∧
      Resets ports replies reset := by
  cases visits with
  | unopened unopened =>
    simp only [List.mem_singleton, Exchange.mk.injEq, Call.connect.injEq, and_true] at opened
    obtain ⟨rfl, same⟩ := opened
    exact absurd (Option.some.inj (eq_of_heq same)).symm (unopened session)
  | @opened session' replies _ reset =>
    rcases List.mem_cons.1 opened with same | command
    · obtain ⟨rfl, rfl⟩ : info = r.connection ∧ session = session' := by simpa using same
      exact ⟨rfl, replies, List.filter_eq_self.2 (resets_isCommand session ports replies), reset⟩
    · exact absurd (resets_isCommand _ _ _ _ command) nofun

namespace Plan.Reaches

variable {plan : Plan} {log : CallLog} {outcome : Option (Except BareMetalError Unit)}

theorem unmanaged (reaches : plan.Reaches log outcome)
    (unknown : ∀ ports, plan.manager.ports ≠ .ok ports) :
    outcome ≠ some (.ok ()) ∧ ∀ exchange ∈ log, exchange.request.isRemote = false := by
  cases reaches with
  | unvisited here failed => exact ⟨failed, here⟩
  | abandoned known => exact absurd known (unknown _)
  | visited known => exact absurd known (unknown _)

/-- Where the session to the rack manager opened, the commands are those that it was visited for. -/
theorem managed (reaches : plan.Reaches log outcome) (ended : outcome ≠ none)
    {info : ConnectionInfo} {session : Session}
    (opened : ⟨.connect info none, some (.opened session)⟩ ∈ log) :
    info = plan.manager.connection ∧ ∃ ports replies reset, plan.manager.ports = .ok ports ∧
      commands log = RackManager.resets session ports replies ∧
      RackManager.Resets ports replies reset ∧ (reset ≠ .ok () → outcome ≠ some (.ok ())) := by
  cases reaches with
  | unvisited here failed => exact absurd (here _ opened) nofun
  | abandoned known => exact absurd rfl ended
  | @visited before visit after ports reset _ known cleaning visits finishing failed =>
    obtain ⟨none_before, unopened⟩ := commands_eq_nil before (fun exchange member => by
      rw [cleaning exchange member]
      nofun)
    obtain ⟨none_after, unopened'⟩ := commands_eq_nil after (fun exchange member => by
      rcases finishing exchange member with errand | errand <;> rw [errand] <;> nofun)
    have opened : ⟨.connect info none, some (.opened session)⟩ ∈ visit := by
      simpa [unopened, unopened'] using opened
    obtain ⟨rfl, replies, asked, resets⟩ := visits.commands opened
    refine ⟨rfl, ports, replies, reset, known, ?_, resets, failed⟩
    rw [commands_append, commands_append, none_before, none_after, asked, List.nil_append,
      List.append_nil]

end Plan.Reaches

end BareMetal

end Testbed
