import Testbed.Environment.Basic

/-!
# How environments evolve

The statuses are in order, and no operation leads back. Work on an environment that does not delete
it leaves what it was resolved to, whether it is in use, and whether it is deleted as they were.
-/
namespace Testbed

namespace EnvironmentStatus

/-- The place of a status in the life of an environment. -/
def rank : EnvironmentStatus → Nat
  | new => 0
  | prepared => 1
  | deployed => 2
  | connected => 3
  | deleted => 4

theorem rank_lt_of_canBecome {s t : EnvironmentStatus} (h : s.canBecome t = true) :
    s.rank < t.rank := by
  cases s <;> cases t <;> first | (exact absurd h (by decide)) | decide

theorem rank_le_deleted (s : EnvironmentStatus) : s.rank ≤ deleted.rank := by
  cases s <;> decide

theorem eq_deleted_of_rank_le {s : EnvironmentStatus} (h : deleted.rank ≤ s.rank) :
    s = deleted := by
  cases s <;> simp [rank] at h ⊢

/-- No step leads away from the last status. -/
theorem alive_of_canBecome {s t : EnvironmentStatus} (h : s.canBecome t = true) : s ≠ deleted := by
  rintro rfl
  exact absurd (rank_lt_of_canBecome h) (Nat.not_lt.2 (rank_le_deleted t))

end EnvironmentStatus

namespace Environment

theorem setStatus_ok {e f : Environment} {next : EnvironmentStatus} (h : e.setStatus next = .ok f) :
    e.status.canBecome next = true ∧ f = { e with status := next } := by
  unfold setStatus at h
  split at h
  · rename_i allowed
    exact ⟨allowed, (Except.ok.inj h).symm⟩
  · cases h

theorem markDirty_ok {e f : Environment} (h : e.markDirty = .ok f) :
    f = { e with dirty := true } := by
  unfold markDirty at h
  split at h
  · exact (Except.ok.inj h).symm
  · cases h

/-- Only what is provisioned can be marked dirty. -/
theorem markDirty_deployed {e f : Environment} (h : e.markDirty = .ok f) :
    e.status.isDeployed = true := by
  unfold markDirty at h
  split at h
  · assumption
  · cases h

/-- A later state of an environment. -/
structure Evolves (e f : Environment) : Prop where
  id : f.id = e.id
  candidateIndex : f.candidateIndex = e.candidateIndex
  space : f.space = e.space
  status : e.status.rank ≤ f.status.rank
  dirty : e.dirty = true → f.dirty = true

namespace Evolves

variable {e f g : Environment}

theorem refl (e : Environment) : e.Evolves e := ⟨rfl, rfl, rfl, Nat.le_refl _, fun h => h⟩

theorem trans (first : e.Evolves f) (second : f.Evolves g) : e.Evolves g where
  id := second.id.trans first.id
  candidateIndex := second.candidateIndex.trans first.candidateIndex
  space := second.space.trans first.space
  status := Nat.le_trans first.status second.status
  dirty h := second.dirty (first.dirty h)

theorem deleted (h : e.Evolves f) (was : e.status = .deleted) : f.status = .deleted :=
  EnvironmentStatus.eq_deleted_of_rank_le (was ▸ h.status)

theorem new (h : e.Evolves f) (is : f.status = .new) : e.status = .new := by
  have least := h.status
  rw [is] at least
  cases status : e.status <;> simp [status, EnvironmentStatus.rank] at least ⊢

theorem setStatus {next : EnvironmentStatus} (h : e.setStatus next = .ok f) : e.Evolves f := by
  unfold Environment.setStatus at h
  split at h
  · rename_i allowed
    obtain rfl := Except.ok.inj h
    have later := Nat.le_of_lt (EnvironmentStatus.rank_lt_of_canBecome allowed)
    exact ⟨rfl, rfl, rfl, later, fun dirty => dirty⟩
  · cases h

end Evolves

/-- A later state that work short of deletion leads to. -/
structure Worked (e f : Environment) : Prop extends Evolves e f where
  alive : f.status = .deleted → e.status = .deleted
  inUse : f.inUse = e.inUse

namespace Worked

variable {e f g : Environment}

theorem refl (e : Environment) : e.Worked e := ⟨.refl e, fun h => h, rfl⟩

theorem trans (first : e.Worked f) (second : f.Worked g) : e.Worked g where
  toEvolves := first.toEvolves.trans second.toEvolves
  alive h := first.alive (second.alive h)
  inUse := second.inUse.trans first.inUse

/-- Nodes and facts are free to change. -/
theorem accept (e : Environment) (p : Provision) : e.Worked (e.accept p) :=
  ⟨⟨rfl, rfl, rfl, Nat.le_refl _, fun h => h⟩, fun h => h, rfl⟩

theorem setNodes (e : Environment) (nodes : List Node) : e.Worked { e with nodes } :=
  ⟨⟨rfl, rfl, rfl, Nat.le_refl _, fun h => h⟩, fun h => h, rfl⟩

theorem modifyNode (e : Environment) (index : Nat) (change : Node → Node) :
    e.Worked (e.modifyNode index change) :=
  setNodes e _

theorem setInformation (e : Environment) (key value : String) :
    e.Worked (e.setInformation key value) :=
  ⟨⟨rfl, rfl, rfl, Nat.le_refl _, fun h => h⟩, fun h => h, rfl⟩

theorem setStatus {next : EnvironmentStatus} (h : e.setStatus next = .ok f)
    (keeps : next ≠ .deleted) : e.Worked f := by
  have evolves := Evolves.setStatus h
  obtain ⟨-, rfl⟩ := setStatus_ok h
  exact ⟨evolves, fun dead => absurd dead keeps, rfl⟩

theorem markDirty (h : e.markDirty = .ok f) : e.Worked f := by
  obtain rfl := markDirty_ok h
  exact ⟨⟨rfl, rfl, rfl, Nat.le_refl _, fun _ => rfl⟩, fun h => h, rfl⟩

end Worked

theorem forceDeleted_evolves (e : Environment) : e.Evolves e.forceDeleted :=
  ⟨rfl, rfl, rfl, e.status.rank_le_deleted, fun h => h⟩

end Environment

end Testbed
