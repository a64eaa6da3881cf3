import Testbed.Proofs.Lifecycle.Pool

/-!
# The contract of clients

Clients of a manager share its pool. While a client waits it may have locked one environment, and a
shutdown has environments left to delete that are tracked no more. The contract says what a stretch
of a client's work may do, so that the others can rely on the environments that they have locked, no
environment is forgotten, and the platform is asked for every deletion that it has to know of.
-/
namespace Testbed

/-- What a client has locked, and what for. -/
inductive Hold where
  | nothing
  | working (id : EnvironmentId)
  /-- The platform is about to give the environment up. -/
  | deleting (id : EnvironmentId)
  deriving DecidableEq

/-- Where a client stands between its stretches of work. -/
structure Stance where
  hold : Hold := .nothing
  /-- The environments that it has taken off the list of tracked ones, to delete them. -/
  due : List EnvironmentId := []

/-- Whether a client has locked an environment. -/
def Stance.Holds (s : Stance) (id : EnvironmentId) : Prop :=
  s.hold = .working id ∨ s.hold = .deleting id

namespace Stance

variable {s : Stance} {a b : EnvironmentId}

theorem Holds.unique (first : s.Holds a) (second : s.Holds b) : a = b := by
  rcases first with first | first <;> rcases second with second | second <;>
    cases first.symm.trans second <;> rfl

theorem not_holds_of_nothing (h : s.hold = .nothing) : ¬ s.Holds a := by
  rintro (holds | holds) <;> cases h.symm.trans holds

end Stance

/-- What a stretch of a client's work does to the pool from one stance to the next. It may set one
environment free to be handed out again. -/
structure Stretch (freed : Option EnvironmentId) (before : Stance) (p : Pool) (after : Stance)
    (q : Pool) : Prop where
  balanced : q.Balanced
  grows : p.environments.length ≤ q.environments.length
  evolves : ∀ k, p.Has k → (p.environment k).Evolves (q.environment k)
  /-- Environments that someone else has locked stay as they are. -/
  others : ∀ k ∈ p.locked, ¬ before.Holds k → q.environment k = p.environment k
  locks : ∀ k, k ∈ q.locked ↔ after.Holds k ∨ k ∈ p.locked ∧ ¬ before.Holds k
  holds : ∀ k, after.Holds k → before.Holds k
  /-- Environments are tracked, or due, until they are deleted. -/
  accounted : ∀ k, q.Has k → k ∈ q.tracked ∨ k ∈ after.due ∨ (q.environment k).status = .deleted ∨
    (p.Has k ∧ k ∉ p.tracked ∧ k ∉ before.due)
  /-- Only new environments are deleted without the platform. -/
  deletes : ∀ k, p.Has k → (p.environment k).status ≠ .deleted →
    (q.environment k).status = .deleted →
      (p.environment k).status = .new ∨ before.hold = .deleting k
  /-- Deletion comes right after the platform's answer. -/
  done : ∀ k, before.hold = .deleting k → (q.environment k).status = .deleted
  /-- The platform is asked to delete what is neither new nor deleted. -/
  begins : ∀ k, after.hold = .deleting k → before.hold = .working k ∧ q.Has k ∧
    (q.environment k).status ≠ .new ∧ (q.environment k).status ≠ .deleted
  inUse : ∀ k, p.Has k → (p.environment k).inUse = true →
    (q.environment k).inUse = true ∨ (q.environment k).status = .deleted ∨ freed = some k

/-- What a client relies on while it waits. -/
structure Rely (stance : Stance) (p q : Pool) : Prop where
  balanced : q.Balanced
  grows : p.environments.length ≤ q.environments.length
  locked : ∀ k, stance.Holds k → k ∈ q.locked
  unchanged : ∀ k, stance.Holds k → q.environment k = p.environment k

namespace Rely

variable {stance : Stance} {p q r : Pool} {id : EnvironmentId}

theorem trans (first : Rely stance p q) (second : Rely stance q r) : Rely stance p r where
  balanced := second.balanced
  grows := Nat.le_trans first.grows second.grows
  locked := second.locked
  unchanged k holds := (second.unchanged k holds).trans (first.unchanged k holds)

theorem has (h : Rely stance p q) (has : p.Has id) : q.Has id := Nat.lt_of_lt_of_le has h.grows

end Rely

/-- The contract between the clients of a manager, for a client with a task about some environment.
It works on no other one. -/
def clientContract (about : Option EnvironmentId) :
    Contract Pool Request Request.Reply Stance where
  stretch := Stretch none
  waits stance
    | .lock _ => stance.hold = .nothing
    | .delete e => stance.hold = .deleting e.id
    | _ => ∃ k, about = some k ∧ stance.hold = .working k
  rely := Rely
  admits p r _ := p.grants r = true
  resume stance
    | .lock id => { stance with hold := .working id }
    | _ => stance

/-- The request to delete an environment goes with its stance. -/
theorem clientContract_deletes {about : Option EnvironmentId} {stance : Stance} {r : Request}
    {id : EnvironmentId} (waits : (clientContract about).waits stance r) :
    r.deletes id = true ↔ stance.hold = .deleting id := by
  cases r with
  | delete e =>
    have deleting : stance.hold = .deleting e.id := waits
    simp [Request.deletes, deleting]
  | lock k =>
    have nothing : stance.hold = .nothing := waits
    simp [Request.deletes, nothing]
  | prepare e | deploy e | interruptible call | call call | notify message =>
    obtain ⟨k, -, working⟩ := waits
    exact ⟨nofun, fun deleting => nomatch working.symm.trans deleting⟩

namespace Stretch

variable {freed : Option EnvironmentId} {before after : Stance} {p q : Pool}

/-- An environment is tracked, due, or has been forgotten before. -/
theorem tracked_or_due (p : Pool) (due : List EnvironmentId) {k : EnvironmentId} (has : p.Has k) :
    k ∈ p.tracked ∨ k ∈ due ∨ (p.environment k).status = .deleted ∨
      (p.Has k ∧ k ∉ p.tracked ∧ k ∉ due) := by
  by_cases tracked : k ∈ p.tracked
  · exact .inl tracked
  · by_cases listed : k ∈ due
    · exact .inr (.inl listed)
    · exact .inr (.inr (.inr ⟨has, tracked, listed⟩))

/-- A stretch of a client that has nothing locked. -/
theorem unheld {due later : List EnvironmentId} (balanced : q.Balanced)
    (grows : p.environments.length ≤ q.environments.length) (locked : q.locked = p.locked)
    (others : ∀ k ∈ p.locked, q.environment k = p.environment k)
    (evolves : ∀ k, p.Has k → (p.environment k).Evolves (q.environment k))
    (alive : ∀ k, p.Has k → (q.environment k).status = .deleted →
      (p.environment k).status = .deleted)
    (inUse : ∀ k, p.Has k → (p.environment k).inUse = true → (q.environment k).inUse = true)
    (accounted : ∀ k, q.Has k → k ∈ q.tracked ∨ k ∈ later ∨ (q.environment k).status = .deleted ∨
      (p.Has k ∧ k ∉ p.tracked ∧ k ∉ due)) :
    Stretch freed { due } p { due := later } q := by
  have free (due : List EnvironmentId) (k : EnvironmentId) : ¬ Stance.Holds { due } k :=
    Stance.not_holds_of_nothing rfl
  constructor
  case balanced => exact balanced
  case grows => exact grows
  case evolves => exact evolves
  case others => exact fun k locked _ => others k locked
  case locks =>
    intro k
    simp [free, locked]
  case holds => exact fun k held => absurd held (free later k)
  case accounted => exact accounted
  case deletes => exact fun k has live dead => absurd (alive k has dead) live
  case done => exact fun k deleting => absurd (.inr deleting) (free due k)
  case begins => exact fun k deleting => absurd (.inr deleting) (free later k)
  case inUse => exact fun k has used => .inl (inUse k has used)

/-- A client that has nothing locked may do nothing. -/
theorem idle (b : p.Balanced) (due : List EnvironmentId) : Stretch freed { due } p { due } p :=
  unheld b (Nat.le_refl _) rfl (fun _ _ => rfl) (fun _ _ => .refl _) (fun _ _ dead => dead)
    (fun _ _ used => used) (fun _ has => tracked_or_due p due has)

/-- What is tracked becomes due. -/
theorem untrackAll (b : p.Balanced) :
    Stretch freed {} p { due := p.tracked.reverse } { p with tracked := [] } := by
  refine unheld b.untrackAll (Nat.le_refl _) rfl (fun _ _ => rfl) (fun _ _ => .refl _)
    (fun _ _ dead => dead) (fun _ _ used => used) (fun k has => ?_)
  rcases tracked_or_due p [] has with known | listed | dead | forgotten
  · exact .inr (.inl (List.mem_reverse.2 known))
  · cases listed
  · exact .inr (.inr (.inl dead))
  · exact .inr (.inr (.inr forgotten))

/-- Handing out an environment that nobody has locked. -/
theorem handOut (b : p.Balanced) {id : EnvironmentId} (unlocked : id ∉ p.locked) :
    Stretch freed {} p {} (p.handOut id) := by
  have length : (p.handOut id).environments.length = p.environments.length := p.modify_length id _
  refine unheld (b.handOut id) (Nat.le_of_eq length.symm) rfl ?others ?evolves ?alive ?inUse
    ?accounted
  case others =>
    intro k locked
    have apart : k ≠ id := fun same => unlocked (same ▸ locked)
    rw [Pool.environment_handOut, if_neg (fun same => apart same.1)]
  case evolves =>
    intro k _
    rw [Pool.environment_handOut]
    split
    · rename_i same
      exact same.1 ▸ ⟨rfl, rfl, rfl, Nat.le_refl _, fun dirty => dirty⟩
    · exact .refl _
  case alive =>
    intro k _ dead
    rwa [Pool.status_handOut] at dead
  case inUse =>
    intro k _ used
    rw [Pool.environment_handOut]
    split
    · rfl
    · exact used
  case accounted =>
    intro k has
    rw [Pool.status_handOut]
    exact tracked_or_due p [] ((p.has_modify id k _).1 has)

/-- Creating an environment. -/
theorem create (b : p.Balanced) (found : MatchedEnvironment) :
    Stretch freed {} p {} (p.create found) := by
  have old (k : EnvironmentId) (has : p.Has k) := p.environment_create_old found has
  have tracked (k : EnvironmentId) (known : k ∈ p.tracked ∨ k = p.nextId) :
      k ∈ (p.create found).tracked := by
    change k ∈ p.tracked ++ [p.nextId]
    simpa using known
  refine unheld (b.create found) ?grows rfl ?others ?evolves ?alive ?inUse ?accounted
  case grows =>
    change p.environments.length ≤ (p.environments ++ [_]).length
    rw [List.length_append]
    omega
  case others => exact fun k locked => old k (b.locked_has k locked)
  case evolves => exact fun k has => old k has ▸ .refl _
  case alive => exact fun k has dead => old k has ▸ dead
  case inUse => exact fun k has used => old k has ▸ used
  case accounted =>
    intro k present
    rcases (p.has_create found k).1 present with has | rfl
    · rw [old k has]
      exact (tracked_or_due p [] has).imp_left (fun known => tracked k (.inl known))
    · exact .inl (tracked _ (.inr rfl))

/-- A stretch that frees nothing may have freed something. -/
theorem relax (h : Stretch none before p after q) : Stretch freed before p after q :=
  { h with inUse := fun k has used => (h.inUse k has used).imp_right (fun kept =>
      kept.elim .inl (fun freed => nomatch freed)) }

/-- Reporting counters changes nothing about environments. -/
theorem reportMetrics (h : Stretch freed before p after q) (metrics : Metrics) :
    Stretch freed before p after (q.report (.metrics metrics)) :=
  have noted : q.Works q.nextId (q.report (.metrics metrics)) := .report q (fun _ => rfl)
  { h with balanced := h.balanced.works noted }

end Stretch

/-- A stretch of work on a locked environment, short of its deletion, as far as it has come. -/
structure Inside (freed : Option EnvironmentId) (id : EnvironmentId) (stance : Stance)
    (start now : Pool) : Prop where
  holds : stance.Holds id
  balanced : now.Balanced
  has : start.Has id
  length : now.environments.length = start.environments.length
  others : ∀ k, k ≠ id → now.environment k = start.environment k
  evolved : (start.environment id).Evolves (now.environment id)
  alive : (now.environment id).status = .deleted → (start.environment id).status = .deleted
  used : (start.environment id).inUse = true →
    (now.environment id).inUse = true ∨ freed = some id
  tracked : now.tracked = start.tracked
  locked : ∀ k, k ∈ now.locked ↔ k = id ∨ k ∈ start.locked

namespace Inside

variable {freed : Option EnvironmentId} {id : EnvironmentId} {stance after : Stance}
  {start now next : Pool}

theorem lock (b : start.Balanced) (has : start.Has id) (free : id ∉ start.locked)
    (due : List EnvironmentId) :
    Inside freed id { hold := .working id, due } start (start.lock id) where
  holds := .inl rfl
  balanced := b.lock free has
  has := has
  length := rfl
  others _ _ := rfl
  evolved := .refl _
  alive dead := dead
  used used := .inl used
  tracked := rfl
  locked _ := List.mem_cons

theorem present (h : Inside freed id stance start now) : now.Has id := by
  rw [Pool.Has, h.length]
  exact h.has

/-- What a client has locked it goes on with after a pause. -/
theorem resume (holds : stance.Holds id) (has : now.Has id) (relied : Rely stance now next) :
    Inside freed id stance next next where
  holds := holds
  balanced := relied.balanced
  has := relied.has has
  length := rfl
  others _ _ := rfl
  evolved := .refl _
  alive dead := dead
  used used := .inl used
  tracked := rfl
  locked k := by
    have locked : id ∈ next.locked := relied.locked id holds
    constructor
    · exact .inr
    · rintro (rfl | member)
      · exact locked
      · exact member

theorem work (h : Inside freed id stance start now) (works : now.Works id next) :
    Inside freed id stance start next where
  holds := h.holds
  balanced := h.balanced.works works
  has := h.has
  length := works.length.trans h.length
  others k apart := (works.others k apart).trans (h.others k apart)
  evolved := h.evolved.trans works.worked.toEvolves
  alive dead := h.alive (works.worked.alive dead)
  used := works.worked.inUse ▸ h.used
  tracked := works.tracked.trans h.tracked
  locked k := by rw [works.locked, h.locked]

/-- The environment may be set free. -/
theorem free (h : Inside freed id stance start now) :
    Inside (some id) id stance start (now.modify id (fun e => { e with inUse := false })) := by
  have environment (k : EnvironmentId) :
      (now.modify id (fun e => { e with inUse := false })).environment k =
        if k = id then { now.environment id with inUse := false } else now.environment k := by
    rw [Pool.environment_modify]
    simp only [h.present, and_true]
  constructor
  case holds => exact h.holds
  case balanced => exact h.balanced.setInUse id false
  case has => exact h.has
  case length => rw [Pool.modify_length, h.length]
  case others =>
    intro k apart
    rw [environment, if_neg apart, h.others k apart]
  case evolved =>
    rw [environment, if_pos rfl]
    exact ⟨h.evolved.id, h.evolved.candidateIndex, h.evolved.space, h.evolved.status,
      h.evolved.dirty⟩
  case alive =>
    rw [environment, if_pos rfl]
    exact h.alive
  case used => exact fun _ => .inr rfl
  case tracked => exact h.tracked
  case locked => exact h.locked

theorem evolves (h : Inside freed id stance start now) (k : EnvironmentId) :
    (start.environment k).Evolves (now.environment k) := by
  by_cases same : k = id
  · exact same ▸ h.evolved
  · exact h.others k same ▸ .refl _

theorem inUse (h : Inside freed id stance start now) (k : EnvironmentId)
    (used : (start.environment k).inUse = true) :
    (now.environment k).inUse = true ∨ freed = some k := by
  by_cases same : k = id
  · exact same ▸ h.used (same ▸ used)
  · exact .inl (h.others k same ▸ used)

theorem dead (h : Inside freed id stance start now) {k : EnvironmentId}
    (dead : (now.environment k).status = .deleted) :
    (start.environment k).status = .deleted := by
  by_cases same : k = id
  · subst same
    exact h.alive dead
  · exact h.others k same ▸ dead

/-- Nobody else holds what is locked. -/
theorem holds_iff (h : Inside freed id stance start now) (k : EnvironmentId) :
    stance.Holds k ↔ k = id :=
  ⟨fun holds => holds.unique h.holds, fun same => same ▸ h.holds⟩

theorem locked_iff (h : Inside freed id stance start now) (k : EnvironmentId) :
    k ∈ now.locked ↔ stance.Holds k ∨ k ∈ start.locked ∧ ¬ stance.Holds k := by
  rw [h.locked, h.holds_iff]
  by_cases same : k = id <;> simp [same]

/-- The stretch may be closed in any stance that goes with what is locked then. -/
theorem stretch (h : Inside freed id stance start now)
    (working : stance.hold = .working id) (balanced : next.Balanced)
    (same : next = { now with locked := next.locked })
    (due : ∀ k ∈ stance.due, k ∈ after.due ∨ (now.environment k).status = .deleted)
    (locks : ∀ k, k ∈ next.locked ↔ after.Holds k ∨ k ∈ start.locked ∧ ¬ stance.Holds k)
    (holds : ∀ k, after.Holds k → k = id)
    (begins : ∀ k, after.hold = .deleting k →
      (now.environment k).status ≠ .new ∧ (now.environment k).status ≠ .deleted) :
    Stretch freed stance start after next := by
  have environment (k : EnvironmentId) : next.environment k = now.environment k := by rw [same]; rfl
  have length : next.environments.length = start.environments.length := by
    rw [same]
    exact h.length
  have has (k : EnvironmentId) : next.Has k ↔ start.Has k := by rw [Pool.Has, Pool.Has, length]
  have tracked : next.tracked = start.tracked := by
    rw [same]
    exact h.tracked
  constructor
  case balanced => exact balanced
  case grows => exact Nat.le_of_eq length.symm
  case evolves => exact fun k _ => environment k ▸ h.evolves k
  case others =>
    intro k _ apart
    rw [environment, h.others k (fun same => apart ((h.holds_iff k).2 same))]
  case locks => exact locks
  case holds => exact fun k held => (h.holds_iff k).2 (holds k held)
  case accounted =>
    intro k present
    have present : start.Has k := (has k).1 present
    rw [tracked, environment]
    rcases Stretch.tracked_or_due start stance.due present with known | listed | dead | forgotten
    · exact .inl known
    · exact .inr ((due k listed).imp_right .inl)
    · exact .inr (.inr (.inl ((h.evolves k).deleted dead)))
    · exact .inr (.inr (.inr forgotten))
  case deletes =>
    intro k _ live dead
    rw [environment] at dead
    exact absurd (h.dead dead) live
  case done =>
    intro k deleting
    cases working.symm.trans deleting
  case begins =>
    intro k deleting
    obtain rfl := holds k (.inr deleting)
    rw [environment]
    exact ⟨working, (has k).2 h.has, begins k deleting⟩
  case inUse =>
    intro k _ used
    rw [environment]
    exact (h.inUse k used).imp_right .inr

/-- The stretch ends here and the environment stays locked. -/
theorem pause (h : Inside freed id stance start now) (working : stance.hold = .working id) :
    Stretch freed stance start stance now := by
  refine h.stretch working h.balanced rfl (fun _ => .inl) h.locked_iff
    (fun k => (h.holds_iff k).1) ?_
  intro k deleting
  cases working.symm.trans deleting

theorem mem_unlock (h : Inside freed id stance start now) (k : EnvironmentId) :
    k ∈ (now.unlock id).locked ↔ k ∈ start.locked ∧ ¬ stance.Holds k := by
  change k ∈ now.locked.erase id ↔ _
  rw [h.balanced.locked_nodup.mem_erase_iff, h.locked, h.holds_iff]
  by_cases same : k = id <;> simp [same]

/-- The stretch ends here with the environment unlocked. -/
theorem unlock (h : Inside freed id stance start now) (working : stance.hold = .working id)
    {due : List EnvironmentId}
    (still : ∀ k ∈ stance.due, k ∈ due ∨ (now.environment k).status = .deleted) :
    Stretch freed stance start { due } (now.unlock id) := by
  have free (k : EnvironmentId) : ¬ Stance.Holds { due } k := Stance.not_holds_of_nothing rfl
  refine h.stretch working (h.balanced.unlock id) rfl still ?_ ?_ ?_
  · intro k
    rw [h.mem_unlock]
    exact ⟨.inr, fun member => member.resolve_left (free k)⟩
  · exact fun k held => absurd held (free k)
  · exact fun k deleting => absurd (.inr deleting) (free k)

/-- The stretch ends here with the question to the platform to delete the environment. -/
theorem ask (h : Inside freed id stance start now) (working : stance.hold = .working id)
    (used : (now.environment id).status ≠ .new) (alive : (now.environment id).status ≠ .deleted) :
    Stretch freed stance start { stance with hold := .deleting id } now := by
  have held (k : EnvironmentId) : Stance.Holds { stance with hold := .deleting id } k ↔ k = id := by
    simp [Stance.Holds, eq_comm]
  refine h.stretch working h.balanced rfl (fun _ => .inl) ?_ (fun k => (held k).1) ?_
  · intro k
    rw [h.locked_iff, held, h.holds_iff]
  · intro k deleting
    obtain rfl := (held k).1 (.inr deleting)
    exact ⟨used, alive⟩

/-- The stretch ends with the environment deleted, which is due no longer. -/
theorem retire (h : Inside freed id stance start now)
    (alive : (start.environment id).status ≠ .deleted)
    (asked : (start.environment id).status = .new ∨ stance.hold = .deleting id)
    {previous : EnvironmentStatus} {dirty : Bool} {due : List EnvironmentId}
    (still : ∀ k ∈ stance.due, k ∈ due ∨ k = id) :
    Stretch freed stance start { due }
      (((now.retire id (.environmentDeleted id.text previous dirty)).unlock id).untrack id) := by
  have alive_now : (now.environment id).status ≠ .deleted := fun dead => alive (h.dead dead)
  generalize noted : Event.environmentDeleted id.text previous dirty = event
  have deleted : ((now.retire id event).environment id).status = .deleted := by
    rw [Pool.environment_retire, if_pos ⟨rfl, h.present⟩]
    rfl
  have other (k : EnvironmentId) (apart : k ≠ id) :
      (now.retire id event).environment k = start.environment k := by
    rw [Pool.environment_retire, if_neg (fun same => apart same.1), h.others k apart]
  have free (k : EnvironmentId) : ¬ Stance.Holds { due } k := Stance.not_holds_of_nothing rfl
  constructor
  case balanced =>
    subst noted
    exact h.balanced.retire h.present alive_now previous dirty
  case grows =>
    have length : (now.retire id event).environments.length = start.environments.length := by
      rw [Pool.retire_length, h.length]
    exact Nat.le_of_eq length.symm
  case evolves =>
    intro k _
    rw [Pool.environment_untrack, Pool.environment_unlock, Pool.environment_retire]
    split
    · rename_i same
      exact same.1 ▸ h.evolved.trans (Environment.forceDeleted_evolves _)
    · exact h.evolves k
  case others =>
    intro k _ apart
    exact other k (fun same => apart ((h.holds_iff k).2 same))
  case locks =>
    intro k
    have unlocked : k ∈ (now.unlock id).locked ↔ _ := h.mem_unlock k
    exact unlocked.trans ⟨.inr, fun member => member.resolve_left (free k)⟩
  case holds => exact fun k held => absurd held (free k)
  case accounted =>
    intro k has
    have has : start.Has k := by
      have known : now.Has k := (Pool.has_retire now id k event).1 has
      rwa [Pool.Has, h.length] at known
    rw [Pool.environment_untrack, Pool.environment_unlock]
    -- the deletion takes only its own environment off the list and off what is due
    by_cases same : k = id
    · exact .inr (.inr (.inl (same ▸ deleted)))
    · rw [other k same]
      have kept : k ∈ start.tracked → k ∈ ((now.retire id event).unlock id).tracked.filter
          (fun tracked => tracked ≠ id) := by
        intro known
        refine List.mem_filter.2 ⟨?_, by simpa using same⟩
        change k ∈ now.tracked
        rwa [h.tracked]
      rcases Stretch.tracked_or_due start stance.due has with known | listed | dead | forgotten
      · exact .inl (kept known)
      · exact .inr (.inl ((still k listed).resolve_right same))
      · exact .inr (.inr (.inl dead))
      · exact .inr (.inr (.inr forgotten))
  case deletes =>
    intro k _ live dead
    by_cases same : k = id
    · exact same ▸ asked
    · exact absurd (other k same ▸ dead) live
  case done =>
    intro k deleting
    obtain rfl := (h.holds_iff k).1 (.inr deleting)
    exact deleted
  case begins => exact fun k deleting => absurd (.inr deleting) (free k)
  case inUse =>
    intro k _ used
    by_cases same : k = id
    · exact .inr (.inl (same ▸ deleted))
    · refine .inl ?_
      rw [Pool.environment_untrack, Pool.environment_unlock, other k same]
      exact used

end Inside

end Testbed
