import Testbed.Proofs.Lifecycle.Alone
import Testbed.Proofs.Lifecycle.CaseProtocol
import Testbed.Proofs.Lifecycle.Scoped

/-!
# What a case leaves behind

A case that begins in the queue hands back or deletes every environment that it acquires, wherever
it fails. One that does not begin there is refused its first step only after an environment has been
prepared for it, and that environment stays tracked and in use.
-/
namespace Testbed

variable {ω ε α β : Type} {s : Surroundings ω} {m : Manager} {requirement : EnvironmentSpace}
  {p q : Pool}

/-- An environment that can be handed out again is not deleted. -/
theorem Pool.Reusable.alive {candidates : List EnvironmentSpace} {id : EnvironmentId}
    (h : p.Reusable candidates requirement id) : (p.environment id).status ≠ .deleted := by
  intro dead
  have deployed := h.deployed
  rw [dead] at deployed
  cases deployed

/-- What work may leave of an environment: it is as it was before, or gone, or idle. -/
inductive Manager.Left (m : Manager) (id : EnvironmentId) (p q : Pool) : Prop where
  | same (environment : q.environment id = p.environment id)
    (tracked : id ∈ q.tracked ↔ id ∈ p.tracked)
  | gone (gone : q.Gone id)
  | idle (idle : m.Idle q id)

namespace Manager.Left

variable {id k : EnvironmentId} {r : Pool}

theorem trans (first : m.Left id p q) (second : m.Left id q r) : m.Left id p r := by
  cases second with
  | gone gone => exact .gone gone
  | idle idle => exact .idle idle
  | same environment tracked =>
    cases first with
    | same environment' tracked' =>
      exact .same (environment.trans environment') (tracked.trans tracked')
    | gone gone =>
      exact .gone ⟨environment ▸ gone.deleted, fun still => gone.untracked (tracked.1 still)⟩
    | idle idle =>
      exact .idle ⟨idle.reuses, tracked.2 idle.tracked, environment ▸ idle.unused,
        environment ▸ idle.clean, environment ▸ idle.deployed⟩

theorem of_undisturbed (h : p.Undisturbed q) (k : EnvironmentId) : m.Left k p q :=
  .same (h.environment k) (by rw [h.tracked])

theorem of_touches (h : p.Touches id q) (apart : k ≠ id) : m.Left k p q :=
  .same (h.others k apart) (h.tracked k apart)

/-- Work on one environment leaves all as they should be if the others were and that one ends so. -/
theorem all (before : ∀ k, k ≠ id → m.Left k p q) (h : q.Touches id r)
    (fate : r.Gone id ∨ m.Idle r id) (k : EnvironmentId) : m.Left k p r := by
  by_cases mine : k = id
  · subst mine
    exact fate.elim .gone .idle
  · exact (before k mine).trans (of_touches h mine)

end Manager.Left

namespace Pool.Undisturbed

variable {id : EnvironmentId}

theorem gone (h : p.Undisturbed q) (gone : p.Gone id) : q.Gone id :=
  ⟨h.environment id ▸ gone.deleted, h.tracked ▸ gone.untracked⟩

theorem idle (h : p.Undisturbed q) (idle : m.Idle p id) : m.Idle q id where
  reuses := idle.reuses
  tracked := h.tracked ▸ idle.tracked
  unused := h.environment id ▸ idle.unused
  clean := h.environment id ▸ idle.clean
  deployed := h.environment id ▸ idle.deployed

end Pool.Undisturbed

namespace Manager.Prepares

variable {id : EnvironmentId}

/-- What is prepared is there to be used, and nothing else is touched. -/
theorem live (h : m.Prepares requirement p (.ok id) q) : p.Touches id q ∧ q.Live id := by
  have tracked := h.tracked
  cases h with
  | reused reusable =>
    have alive : ((p.handOut id).environment id).status ≠ .deleted := by
      rw [Pool.status_handOut]
      exact reusable.alive
    have touched := Pool.Touches.modify p id (fun e => { e with inUse := true })
    exact ⟨⟨touched.others, touched.tracked⟩, tracked, alive⟩
  | @created found resolved =>
    refine ⟨⟨fun k apart => ?_, fun k apart => ?_⟩, tracked, ?_⟩
    · rw [Pool.environment_create, if_neg apart]
    · change k ∈ p.tracked ++ [p.nextId] ↔ k ∈ p.tracked
      simp [apart]
    · rw [Pool.environment_create_last]
      nofun

/-- What is prepared is in use, and tracked in addition to the others if it is new. -/
theorem taken (h : m.Prepares requirement p (.ok id) q) :
    (p.environment id).inUse = false ∧ (q.environment id).inUse = true ∧
      q.tracked.length = p.tracked.length + if p.Has id then 0 else 1 := by
  cases h with
  | reused reusable =>
    have has : p.Has id := Pool.has_of_alive reusable.alive
    refine ⟨reusable.idle, ?_, ?_⟩
    · rw [Pool.environment_handOut, if_pos ⟨rfl, has⟩]
    · rw [if_pos has]
      rfl
  | @created found resolved =>
    have absent : ¬ p.Has p.nextId := Nat.lt_irrefl _
    refine ⟨?_, ?_, ?_⟩
    · have missing : p.environments[p.nextId.index]? = none := by simp [Pool.nextId]
      rw [Pool.environment, missing]
      rfl
    · rw [Pool.environment_create_last]
      rfl
    · rw [if_neg absent]
      exact List.length_append

/-- What has just been prepared and is untouched since is not left as it should be. -/
theorem not_left {r : Pool} (h : m.Prepares requirement p (.ok id) q) (same : q.Undisturbed r) :
    ¬ m.Left id p r := by
  obtain ⟨unused, used, -⟩ := h.taken
  have used : (r.environment id).inUse = true := by rw [same.environment, used]
  rintro (environment | gone | idle)
  · rw [environment, unused] at used
    cases used
  · exact (same.live h.live.2).alive gone.deleted
  · cases idle.unused.symm.trans used

end Manager.Prepares

namespace CaseRunner

variable {r : TestResult} {status : TestStatus}

/-- All that a step of a result changes is what has been reported. -/
theorem transition_respects {R : Pool → Pool → Prop} (reported : ∀ p event, R p (p.report event))
    (r : TestResult) (status : TestStatus) (text : String) :
    (transition r status text).Respects R (fun _ => True) := by
  refine .bind (.request trivial) (fun moment => ?_)
  cases r.setStatus moment.ticks status text with
  | error error => exact .pure _
  | ok step =>
    refine .bind (.modify (fun p => reported p step.2)) (fun _ => ?_)
    exact .bind (.request trivial) (fun _ => .pure _)

theorem transition_undisturbed (r : TestResult) (status : TestStatus) (text : String) :
    (transition r status text).Respects Pool.Undisturbed (fun _ => True) :=
  transition_respects (fun _ _ => ⟨fun _ => rfl, rfl⟩) r status text

/-- Results change without an effect on environments. -/
theorem transition_leads (allowed : r.status.canBecome r.requeued status = true) (text : String) :
    Work.Leads s (transition r status text) p (fun result q => p.Undisturbed q ∧
      ∃ later, result = (later, .ok ()) ∧ later.status = status ∧
        later.requeued = (r.requeued || status == .queued)) := by
  have told := Work.Leads.of_ensures (s := s) (p := p) (transition_ensures allowed text)
  have quiet := Pool.Undisturbed.leads (s := s) (p := p) (transition_undisturbed r status text)
  refine (quiet.and told).mono ?_
  rintro _ q ⟨same, journal, later, rfl, reached⟩
  refine ⟨same, later, rfl, reached.status, ?_⟩
  rw [reached.requeued]
  cases status <;> rfl

theorem transition_refused_leads (refused : r.status.canBecome r.requeued status = false)
    (text : String) :
    Work.Leads s (transition r status text) p (fun result q => p.Undisturbed q ∧
      result = (r, .error (.invalidTransition r.name r.status status))) := by
  have asked :
      Work.Leads s (Program.request (Request.call .clock)) p (fun _ q => p.Undisturbed q) :=
    Pool.Undisturbed.leads (A := fun _ => True) (.request trivial)
  refine .bind asked (fun moment q same => ?_)
  rw [r.setStatus_refused moment.ticks status text refused]
  exact .pure ⟨same, rfl⟩

theorem finishWithout_undisturbed (r : TestResult) (error : LifecycleError) :
    (finishWithout r error).Respects Pool.Undisturbed (fun _ => True) := by
  have finished : (finish r error).Respects Pool.Undisturbed (fun _ => True) := by
    unfold finish
    dsimp only
    split
    · refine .bind (transition_undisturbed r _ _) (fun assigned => ?_)
      obtain ⟨later, error | _⟩ := assigned
      · exact .pure _
      · exact transition_undisturbed later _ _
    · exact transition_undisturbed r _ _
  exact .bind finished (fun _ => .pure _)

/-- A case that ends without an environment has no effect on any. -/
theorem finishWithout_leads (s : Surroundings ω) (p : Pool) (r : TestResult)
    (error : LifecycleError) :
    Work.Leads s (finishWithout r error) p (fun result q => p.Undisturbed q ∧
      ∀ id, result.2 ≠ .ok (some id)) := by
  have quiet := Pool.Undisturbed.leads (s := s) (p := p) (finishWithout_undisturbed r error)
  refine quiet.and ?_
  have finished : Work.Leads s (finish r error) p (fun _ _ => True) := fun _ => trivial
  refine .bind finished (fun result _ _ => .pure (fun id => ?_))
  obtain ⟨later, error | _⟩ := result <;> nofun

/-- What comes of a case that acquires an environment, and of the environments meanwhile. -/
inductive Acquires (m : Manager) (status : TestStatus) (p : Pool) :
    Progress (Option EnvironmentId) → Pool → Prop where
  | none {result : Progress (Option EnvironmentId)} {q : Pool}
    (without : ∀ id, result.2 ≠ .ok (some id)) (left : ∀ k, m.Left k p q) :
    Acquires m status p result q
  | one {later : TestResult} {id : EnvironmentId} {q : Pool} (reached : later.status = status)
    (live : q.Live id) (left : ∀ k, k ≠ id → m.Left k p q) :
    Acquires m status p (later, .ok (some id)) q

theorem Acquires.after {result : Progress (Option EnvironmentId)} {t : Pool}
    (h : Acquires m status q result t) (left : ∀ k, m.Left k p q) :
    Acquires m status p result t := by
  cases h with
  | none without later => exact .none without (fun k => (left k).trans (later k))
  | one reached live later =>
    exact .one reached live (fun k apart => (left k).trans (later k apart))

/-- A case in the queue acquires an environment, or leaves everything as it should be. -/
theorem acquireWithin_leads (s : Surroundings ω) (m : Manager) (requirement : EnvironmentSpace)
    (rounds : Nat) (r : TestResult) (p : Pool) (queued : r.status = .queued) :
    Work.Leads s (acquireWithin m requirement rounds r) p (Acquires m .assigned p) := by
  induction rounds generalizing r p with
  | zero => exact .pure (.none nofun (fun k => .of_undisturbed (.refl p) k))
  | succ rounds ih =>
    rw [acquireWithin]
    refine .bind (m.prepare_leads s requirement p) (fun prepared q prepares => ?_)
    cases prepared with
    | error error =>
      cases prepares
      refine (finishWithout_leads s p r error).mono (fun result q finished => ?_)
      exact .none finished.2 (fun k => .of_undisturbed finished.1 k)
    | ok id =>
      obtain ⟨taken, live⟩ := prepares.live
      refine .bind (transition_leads (by rw [queued]; rfl) "") ?_
      rintro _ t ⟨same, assigned, rfl, status, -⟩
      refine .bind (m.bringUp_leads s (same.live live)) (fun broughtUp t' up => ?_)
      have touched : p.Touches id t' := (taken.trans (same.touches id)).trans up.1
      cases broughtUp with
      | ok _ => exact .pure (.one status up.2 (fun k apart => .of_touches touched apart))
      | error error =>
        refine .bind (Manager.delete_leads s up.2.alive) (fun _ u deleted => ?_)
        have left : ∀ k, m.Left k p u :=
          .all (fun k apart => .of_touches touched apart) deleted.1 (.inl deleted.2)
        split
        · rename_i again
          have unused : assigned.requeued = false := by simpa using again.2
          refine .bind (transition_leads (by rw [status, unused]; rfl) _) ?_
          rintro _ v ⟨back, returned, rfl, queued, -⟩
          refine (ih returned v queued).mono (fun result x acquires => ?_)
          exact acquires.after (fun k => (left k).trans (.of_undisturbed back k))
        · refine (finishWithout_leads s u assigned error).mono (fun result v finished => ?_)
          exact .none finished.2 (fun k => (left k).trans (.of_undisturbed finished.1 k))

theorem opening_leads (s : Surroundings ω) (m : Manager) (requirement : EnvironmentSpace)
    (r : TestResult) (p : Pool) (queued : r.status = .queued) :
    Work.Leads s (opening m r requirement) p (Acquires m .running p) := by
  refine .bind (acquireWithin_leads s m requirement 2 r p queued) (fun result q acquires => ?_)
  cases acquires with
  | none without left =>
    obtain ⟨later, error | _ | id⟩ := result
    · exact .pure (.none without left)
    · exact .pure (.none without left)
    · exact absurd rfl (without id)
  | @one assigned id _ status live left =>
    have reading : Work.Leads s (Work.holding id (do return (← Work.environment id).metadata)) q
        (fun _ t => q.Undisturbed t) := by
      refine .holding (fun t same => .environment_bind (.pure ?_))
      exact ⟨same.environment, same.tracked⟩
    refine .bind reading (fun metadata t same => ?_)
    refine .bind (transition_leads (by rw [TestResult.setEnvironment, status]; rfl) "") ?_
    rintro _ u ⟨same', running, rfl, status, -⟩
    have undisturbed : q.Undisturbed u := same.trans same'
    exact .pure (.one status (undisturbed.live live)
      (fun k apart => (left k apart).trans (.of_undisturbed undisturbed k)))

/-- The environment that a case gives back is gone or idle afterwards. -/
theorem leaving_leads {id : EnvironmentId} (m : Manager) (r : TestResult)
    (came : β × Except String Unit) (live : p.Live id) :
    Work.Leads s (leaving m r id came) p
      (fun _ q => p.Touches id q ∧ (q.Gone id ∨ m.Idle q id)) := by
  refine .bind (m.release_leads s live) (fun _ q left => ?_)
  have told := Pool.Undisturbed.leads (s := s) (p := q)
    (transition_undisturbed r (judge came.2).1 (judge came.2).2)
  refine .bind told (fun ended t same => .pure ⟨left.1.trans (same.touches id), ?_⟩)
  exact left.2.imp same.gone same.idle

theorem closing_leads {id : EnvironmentId} (m : Manager) (r : TestResult)
    (came : β × Except String Unit) (live : p.Live id) :
    Work.Leads s (closing m r id came) p
      (fun _ q => p.Touches id q ∧ (q.Gone id ∨ m.Idle q id)) := by
  unfold closing
  split
  · refine .bind (Manager.markDirty_leads s live) (fun _ q marked => ?_)
    refine (leaving_leads m r came marked.2).mono (fun _ t left => ?_)
    exact ⟨marked.1.trans left.1, left.2⟩
  · exact leaving_leads m r came live

end CaseRunner

/-- A body that does not change the status of the environment that it is given. -/
def Body.KeepsStatus (s : Surroundings ω) (body : Body ε α) : Prop :=
  ∀ id p, Work.Leads s (body.work id) p
    (fun _ q => (q.environment id).status = (p.environment id).status)

theorem Body.KeepsStatus.leads {body : Body ε α} (keeps : body.KeepsStatus s) {id : EnvironmentId}
    (live : p.Live id) : Work.Leads s (body.work id) p (fun _ q => p.Touches id q ∧ q.Live id) := by
  have touched := Pool.Touches.leads (s := s) (p := p) (body.work_touches id)
  have kept : Work.Leads s (body.work id) p (fun _ q => p.Keeps Environment.Evolves id q) := by
    refine .of_respects (body.work_keeping id) ?refl ?trans ?cancel
    case refl => exact fun p => ⟨rfl, .rfl, .refl _⟩
    case trans =>
      exact fun first second => ⟨second.tracked.trans first.tracked, second.has.trans first.has,
        first.environment.trans second.environment⟩
    case cancel => exact fun p => ⟨rfl, .rfl, .refl _⟩
  refine ((touched.and kept).and (keeps id p)).mono (fun _ q came => ?_)
  obtain ⟨⟨touched, kept⟩, status⟩ := came
  exact ⟨touched, kept.tracked ▸ live.tracked, status ▸ live.alive⟩

namespace CaseRunner

variable {r : TestResult} {body : Body ε α}

/-- A case that begins in the queue leaves everything as it should be. -/
theorem run_leads (m : Manager) (requirement : EnvironmentSpace)
    (came : Except ε α → β × Except String Unit) (p : Pool) (keeps : body.KeepsStatus s)
    (queued : r.status = .queued) :
    Work.Leads s (run m r requirement (fun id => do return came (← body.work id))) p
      (fun _ q => ∀ k, m.Left k p q) := by
  rw [run_eq]
  refine .bind (opening_leads s m requirement r p queued) (fun result q opened => ?_)
  cases opened with
  | none without left =>
    obtain ⟨later, error | _ | id⟩ := result
    · exact .pure left
    · exact .pure left
    · exact absurd rfl (without id)
  | @one running id _ status live left =>
    have bodied : Work.Leads s (do return came (← body.work id)) q
        (fun _ t => q.Touches id t ∧ t.Live id) :=
      .bind (keeps.leads live) (fun _ _ after => .pure after)
    refine .bind bodied (fun outcome t after => ?_)
    refine (closing_leads m running outcome after.2).mono (fun _ u closed => ?_)
    exact .all left (after.1.trans closed.1) closed.2

theorem assigned_refused (started : r.status ≠ .queued) :
    r.status.canBecome r.requeued .assigned = false := by
  cases status : r.status with
  | queued => exact absurd status started
  | assigned | running | passed | failed | skipped | attempted => rfl

/-- A case for which nothing can be prepared has no effect on environments. -/
theorem run_unprepared {error : LifecycleError}
    (body : EnvironmentId → Work (β × Except String Unit))
    (advanced : (m.prepare requirement).advance p = (.finished (.error error), q)) :
    Work.Leads s (run m r requirement body) p (fun _ t => q.Undisturbed t) := by
  have acquired : Work.Leads s (acquire m requirement r) p
      (fun result t => q.Undisturbed t ∧ ∀ id, result.2 ≠ .ok (some id)) :=
    .advance_bind advanced (finishWithout_leads s q r error)
  refine .bind acquired (fun result t finished => ?_)
  obtain ⟨later, error | _ | id⟩ := result
  · exact .pure finished.1
  · exact .pure finished.1
  · exact absurd rfl (finished.2 id)

/-- A case that does not begin in the queue stops as soon as an environment is prepared for it. -/
theorem run_refused {id : EnvironmentId} (body : EnvironmentId → Work (β × Except String Unit))
    (started : r.status ≠ .queued)
    (advanced : (m.prepare requirement).advance p = (.finished (.ok id), q)) :
    Work.Leads s (run m r requirement body) p (fun result t => q.Undisturbed t ∧
      result = (r, .error (.invalidTransition r.name r.status .assigned))) := by
  have acquired : Work.Leads s (acquire m requirement r) p (fun result t => q.Undisturbed t ∧
      result = (r, .error (.invalidTransition r.name r.status .assigned))) := by
    refine .advance_bind advanced ?_
    refine .bind (transition_refused_leads (assigned_refused started) "") ?_
    rintro _ t ⟨same, rfl⟩
    exact .pure ⟨same, rfl⟩
  refine .bind acquired ?_
  rintro _ t ⟨same, rfl⟩
  exact .pure ⟨same, rfl⟩

/-- Running a case leaves every environment as it was, gone or idle exactly if the case begins in
the queue or nothing could be prepared for it. Any other case ends with an error, and the
environment that was prepared for it stays in use and tracked. -/
theorem run_cleans_up_iff (m : Manager) (s : Surroundings ω) (r : TestResult)
    (requirement : EnvironmentSpace) (body : Body ε α) (came : Except ε α → β × Except String Unit)
    (keeps : body.KeepsStatus s) (p : Pool) (w : ω) :
    let prepared := (Work.run s (m.prepare requirement) p w).1
    let ran := Work.run s (run m r requirement (fun id => do return came (← body.work id))) p w
    let q := ran.2.1
    ((∀ k, m.Left k p q) ↔ r.status = .queued ∨ ∃ error, prepared = .error error) ∧
    (r.status ≠ .queued → ∀ id, prepared = .ok id →
      ran.1 = (r, .error (.invalidTransition r.name r.status .assigned)) ∧
      (q.environment id).inUse = true ∧ q.Live id ∧
      (∀ k, k ≠ id → m.Left k p q) ∧
      q.tracked.length = p.tracked.length + if p.Has id then 0 else 1) := by
  obtain ⟨prepared, q, advanced, prepares⟩ := m.prepare_advance requirement p
  have prepared_eq : (Work.run s (m.prepare requirement) p w).1 = prepared :=
    congrArg Prod.fst (Program.run_of_advance s.answer _ advanced w)
  rw [prepared_eq]
  have clean (queued : r.status = .queued) := run_leads m requirement came p keeps queued w
  cases prepared with
  | error error =>
    have same := run_unprepared (s := s) (r := r) (fun id => do return came (← body.work id))
      advanced w
    cases prepares
    refine ⟨⟨fun _ => .inr ⟨error, rfl⟩, fun _ k => .of_undisturbed same k⟩, nofun⟩
  | ok id =>
    by_cases queued : r.status = .queued
    case pos =>
      exact ⟨⟨fun _ => .inl queued, fun _ => clean queued⟩, fun started => absurd queued started⟩
    case neg =>
      obtain ⟨same, result⟩ := run_refused (s := s) (fun id => do return came (← body.work id))
        queued advanced w
      obtain ⟨touched, live⟩ := prepares.live
      obtain ⟨-, used, count⟩ := prepares.taken
      constructor
      case left =>
        constructor
        · exact fun left => absurd (left id) (prepares.not_left same)
        · rintro (other | ⟨error, failed⟩)
          · exact absurd other queued
          · cases failed
      case right =>
        rintro _ _ ⟨⟩
        refine ⟨result, same.environment id ▸ used, same.live live, fun k apart => ?_, ?_⟩
        · exact (Manager.Left.of_touches touched apart).trans (.of_undisturbed same k)
        · rw [same.tracked, count]

/-- A case that has been assigned before leaves its environment behind, even where nothing fails. -/
theorem run_cleans_up_iff_assigned :
    let r : TestResult := { id := "0", name := "smoke", status := .assigned }
    let body : Body String Unit := .finish (.ok ())
    let ran := Work.run Manager.smooth
      (run Manager.sample r {} (fun id => do return ((), ← body.work id))) {} ()
    body.KeepsStatus Manager.smooth ∧ r.status ≠ .queued ∧
      (Work.run Manager.smooth (Manager.sample.prepare {}) {} ()).1 = .ok ⟨0⟩ ∧
      ran.1 = (r, .error (.invalidTransition "smoke" .assigned .assigned)) ∧
      ¬ Manager.sample.Left ⟨0⟩ {} ran.2.1 ∧ ran.2.1.tracked.length = 1 := by
  intro r body ran
  have keeps : body.KeepsStatus Manager.smooth := fun _ _ _ => rfl
  have started : r.status ≠ .queued := nofun
  have prepared : (Work.run Manager.smooth (Manager.sample.prepare {}) {} ()).1 = .ok ⟨0⟩ := rfl
  obtain ⟨cleans, leaks⟩ := run_cleans_up_iff Manager.sample Manager.smooth r {} body
    (fun outcome => ((), outcome)) keeps {} ()
  obtain ⟨result, -, -, others, count⟩ := leaks started ⟨0⟩ prepared
  refine ⟨keeps, started, prepared, result, fun left => ?_, count⟩
  have all (k : EnvironmentId) : Manager.sample.Left k {} ran.2.1 := by
    by_cases mine : k = ⟨0⟩
    · exact mine ▸ left
    · exact others k mine
  rcases cleans.1 all with queued | ⟨error, failed⟩
  · exact started queued
  · cases failed

end CaseRunner

end Testbed
