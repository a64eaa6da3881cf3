import Testbed.Proofs.Lifecycle.HandOut
import Testbed.Proofs.Lifecycle.Scoped

/-!
# Reuse against resolution

An environment is handed out again when the requirement, narrowed by the candidate that the
environment came from, gives its space. Resolving the requirement anew always succeeds then, but
picks the first candidate that will do, which may come before that one. So the two agree exactly
when no earlier candidate will do.
-/
namespace Testbed

/-- Resolving when some candidate is known to do: what is found comes no later, and is what that
candidate gives exactly if none before it will do. -/
theorem resolve_no_later {requirement : EnvironmentSpace} {candidates : List EnvironmentSpace}
    {index : Nat} {candidate space : EnvironmentSpace}
    (listed : candidates[index]? = some candidate)
    (narrowed : requirement.intersect candidate = .ok space) :
    ∃ found, resolve requirement candidates = .ok found ∧ found.candidateIndex ≤ index ∧
      (found.candidateIndex = index ∧ found.space = space ↔
        ∀ i < index, ∀ earlier, candidates[i]? = some earlier →
          ∃ reasons, requirement.intersect earlier = .error reasons) := by
  cases resolved : resolve requirement candidates with
  | error reasons =>
    have all := (resolve_error requirement candidates reasons resolved).1
    obtain ⟨rejected, failed⟩ := all candidate (List.mem_of_getElem? listed)
    cases narrowed.symm.trans failed
  | ok found =>
    obtain ⟨first, there, rejected, matched⟩ := resolve_ok requirement candidates found resolved
    have fits : requirement.intersect first = .ok found.space :=
      (matchCandidate_ok _ _ _ _ matched).2.1
    have no_later : found.candidateIndex ≤ index := by
      by_contra later
      obtain ⟨reasons, failed⟩ := rejected index (by omega) candidate listed
      cases narrowed.symm.trans failed
    refine ⟨found, rfl, no_later, ?_, ?_⟩
    · rintro ⟨same, -⟩
      exact same ▸ rejected
    · intro others
      have same : found.candidateIndex = index := by
        by_contra apart
        obtain ⟨reasons, failed⟩ := others found.candidateIndex (by omega) first there
        cases fits.symm.trans failed
      have one : some first = some candidate := by rw [← there, same, listed]
      obtain rfl := Option.some.inj one
      exact ⟨same, Except.ok.inj (fits.symm.trans narrowed)⟩

namespace Manager

/-- An environment that is handed out again, in any state of the pool, is what its requirement
resolves to exactly if every candidate before the one that it came from is rejected. -/
theorem prepare_reuse_agrees_iff {ω : Type} (m : Manager) (requirement : EnvironmentSpace)
    (p : Pool) (s : Surroundings ω) (w : ω) (id : EnvironmentId)
    (prepared : (Work.run s (m.prepare requirement) p w).1 = .ok id) (has : p.Has id) :
    let e := (Work.run s (m.prepare requirement) p w).2.1.environment id
    ∃ found, resolve requirement m.candidates = .ok found ∧
      found.candidateIndex ≤ e.candidateIndex ∧
      (found.candidateIndex = e.candidateIndex ∧ found.space = e.space ↔
        ∀ i < e.candidateIndex, ∀ earlier, m.candidates[i]? = some earlier →
          ∃ reasons, requirement.intersect earlier = .error reasons) := by
  intro e
  obtain ⟨result, q, advanced, prepares⟩ := m.prepare_advance requirement p
  have ran : Work.run s (m.prepare requirement) p w = (result, q, w) :=
    Program.run_of_advance _ _ advanced w
  obtain rfl : result = .ok id := by rwa [ran] at prepared
  have e_eq : e = q.environment id := congrArg (fun ran => ran.2.1.environment id) ran
  cases prepares with
  | created resolved => exact absurd has (Nat.lt_irrefl _)
  | reused reusable =>
    have handed : e = { p.environment id with inUse := true } := by
      rw [e_eq, Pool.environment_handOut, if_pos ⟨rfl, has⟩]
    obtain ⟨candidate, listed, narrowed⟩ := reusable.resolved
    rw [handed]
    exact resolve_no_later listed narrowed

/-- A manager of a small machine and a large one, in this order. -/
def twoSizes : Manager where
  platform := "bench"
  features := ∅
  candidates := [{ nodes := [{ coreCount := some (.between 1 2) }] },
    { nodes := [{ coreCount := some (.between 4 4) }] }]
  config := { reuseEnvironments := true }

/-- A client has the large machine deployed and releases it. -/
def deployLarge : List Turn := [
  .call 0 (.prepare { nodes := [{ coreCount := some (.atLeast 4) }] }), .call 0 (.deploy ⟨0⟩),
  .answer 0 Request.obliging, .answer 0 Request.obliging, .answer 0 Request.obliging,
  .call 0 (.release ⟨0⟩), .answer 0 Request.obliging]

/-- The next client, to whom any machine will do, is handed the large one, where resolving would
give the small one. -/
theorem prepare_reuse_agrees_iff_large :
    let p := (twoSizes.traffic Standing.mayAsk deployLarge).pool
    let ran := Work.run smooth (twoSizes.prepare { nodes := [{}] }) p ()
    ran.1 = .ok ⟨0⟩ ∧ p.Has ⟨0⟩ ∧
      ∃ found, resolve { nodes := [{}] } twoSizes.candidates = .ok found ∧
        ¬ (found.candidateIndex = (ran.2.1.environment ⟨0⟩).candidateIndex ∧
          found.space = (ran.2.1.environment ⟨0⟩).space) := by
  have prepared : (Work.run smooth (twoSizes.prepare { nodes := [{}] })
      (twoSizes.traffic Standing.mayAsk deployLarge).pool ()).1 = .ok ⟨0⟩ := by decide +kernel
  have has : (twoSizes.traffic Standing.mayAsk deployLarge).pool.Has ⟨0⟩ := by decide +kernel
  obtain ⟨found, resolved, -, agrees⟩ := prepare_reuse_agrees_iff twoSizes { nodes := [{}] } _ smooth
    () ⟨0⟩ prepared has
  have place : ((Work.run smooth (twoSizes.prepare { nodes := [{}] })
      (twoSizes.traffic Standing.mayAsk deployLarge).pool ()).2.1.environment ⟨0⟩).candidateIndex =
        1 := by decide +kernel
  have small_fits : (EnvironmentSpace.intersect { nodes := [{}] }
      { nodes := [{ coreCount := some (.between 1 2) }] }).isOk = true := by decide +kernel
  refine ⟨prepared, has, found, resolved, fun same => ?_⟩
  obtain ⟨reasons, failed⟩ := agrees.1 same 0 (by rw [place]; decide) _ rfl
  rw [failed] at small_fits
  cases small_fits

end Manager

end Testbed
