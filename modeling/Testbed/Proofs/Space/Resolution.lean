import Testbed.Proofs.Space.Agreement
import Testbed.Proofs.Space.Assignment
import Testbed.Space.Resolution

/-!
# Resolution

Resolving picks the first candidate that the requirement can be narrowed by, and gives the narrowed
space together with the assignment that it came from. It fails when there is no such candidate; the
reasons are then those of every candidate in turn, each under the candidate's name.
-/
namespace Testbed

namespace EnvironmentSpace

/-- The reasons for which a candidate is rejected. -/
def rejections (requirement candidate : EnvironmentSpace) : List Reason :=
  match requirement.intersect candidate with
  | .ok _ => []
  | .error reasons => reasons

theorem rejections_of_error {requirement candidate : EnvironmentSpace} {reasons : List Reason}
    (h : requirement.intersect candidate = .error reasons) :
    requirement.rejections candidate = reasons := by
  simp [rejections, h]

theorem error_ne_nil {requirement candidate : EnvironmentSpace} {reasons : List Reason}
    (h : requirement.intersect candidate = .error reasons) : reasons ≠ [] := by
  have agree : Agree (requirement.check candidate) (requirement.intersect candidate) :=
    agrees requirement candidate
  rw [h] at agree
  exact agree.1

end EnvironmentSpace

/-- A candidate is matched exactly if the requirement can be narrowed by it. -/
theorem matchCandidate_ok (requirement candidate : EnvironmentSpace) (index : Nat)
    (found : MatchedEnvironment)
    (h : matchCandidate requirement candidate index = .ok found) :
    found.candidateIndex = index ∧ requirement.intersect candidate = .ok found.space ∧
      ∃ a, requirement.assignNodes candidate = .ok a ∧ found.nodeAssignment = a.indices := by
  unfold matchCandidate at h
  cases assigned : requirement.assignNodes candidate with
  | error reasons => simp [assigned, bind, Except.bind] at h
  | ok a =>
    cases narrowed : requirement.intersect candidate with
    | error reasons => simp [assigned, narrowed, bind, Except.bind] at h
    | ok space =>
      simp only [assigned, narrowed, bind, Except.bind, pure, Except.pure, Except.ok.injEq] at h
      subst h
      exact ⟨rfl, rfl, a, rfl, rfl⟩

/-- The assignment is made twice, but its failure is the failure of the narrowing. -/
theorem matchCandidate_error (requirement candidate : EnvironmentSpace) (index : Nat)
    (reasons : List Reason)
    (h : matchCandidate requirement candidate index = .error reasons) :
    requirement.intersect candidate = .error reasons := by
  unfold matchCandidate at h
  cases assigned : requirement.assignNodes candidate with
  | error rejected =>
    simp only [assigned, bind, Except.bind, Except.error.injEq] at h
    simp [EnvironmentSpace.intersect, assigned, bind, Except.bind, h]
  | ok a =>
    cases narrowed : requirement.intersect candidate with
    | error rejected =>
      simp only [assigned, narrowed, bind, Except.bind, Except.error.injEq] at h
      rw [h]
    | ok space => simp [assigned, narrowed, bind, Except.bind, pure, Except.pure] at h

/-- The reasons of rejected candidates, each under the name of its candidate. -/
def namedRejections (requirement : EnvironmentSpace)
    (entries : List (EnvironmentSpace × Nat)) : List Reason :=
  entries.flatMap (fun entry =>
    (requirement.rejections entry.1).map
      (.within (.candidate (candidateName entry.1 entry.2))))

theorem resolveAmong_ok (requirement : EnvironmentSpace) (found : MatchedEnvironment)
    (entries : List (EnvironmentSpace × Nat))
    (h : resolveAmong requirement entries = .ok found) :
    ∃ passed entry rest, entries = passed ++ entry :: rest ∧
      (∀ e ∈ passed, ∃ reasons, requirement.intersect e.1 = .error reasons) ∧
      matchCandidate requirement entry.1 entry.2 = .ok found := by
  induction entries with
  | nil => cases h
  | cons entry rest ih =>
    unfold resolveAmong at h
    split at h
    · rename_i winner matched
      exact ⟨[], entry, rest, rfl, by simp, h ▸ matched⟩
    · rename_i reasons rejected
      cases later : resolveAmong requirement rest with
      | error others =>
        rw [later] at h
        cases h
      | ok winner =>
        rw [later] at h
        obtain rfl := Except.ok.inj h
        obtain ⟨passed, e, tail, split, before, matched⟩ := ih later
        refine ⟨entry :: passed, e, tail, by rw [split]; rfl, ?_, matched⟩
        intro e he
        rcases List.mem_cons.1 he with rfl | he
        · exact ⟨reasons, matchCandidate_error _ _ _ _ rejected⟩
        · exact before e he

theorem resolveAmong_error (requirement : EnvironmentSpace) (reasons : List Reason)
    (entries : List (EnvironmentSpace × Nat))
    (h : resolveAmong requirement entries = .error reasons) :
    (∀ e ∈ entries, ∃ rejected, requirement.intersect e.1 = .error rejected) ∧
      reasons = namedRejections requirement entries := by
  induction entries generalizing reasons with
  | nil =>
    obtain rfl := Except.error.inj h
    simp [namedRejections]
  | cons entry rest ih =>
    unfold resolveAmong at h
    split at h
    · cases h
    · rename_i rejected failed
      have first := matchCandidate_error _ _ _ _ failed
      cases later : resolveAmong requirement rest with
      | ok winner =>
        rw [later] at h
        cases h
      | error others =>
        obtain ⟨all, same⟩ := ih others later
        rw [later] at h
        obtain rfl := Except.error.inj h
        constructor
        · intro e he
          rcases List.mem_cons.1 he with rfl | he
          · exact ⟨rejected, first⟩
          · exact all e he
        · rw [namedRejections, List.flatMap_cons,
            EnvironmentSpace.rejections_of_error first, same, namedRejections]

theorem resolve_ok (requirement : EnvironmentSpace) (candidates : List EnvironmentSpace)
    (found : MatchedEnvironment) (h : resolve requirement candidates = .ok found) :
    ∃ candidate, candidates[found.candidateIndex]? = some candidate ∧
      (∀ i < found.candidateIndex, ∀ earlier, candidates[i]? = some earlier →
        ∃ reasons, requirement.intersect earlier = .error reasons) ∧
      matchCandidate requirement candidate found.candidateIndex = .ok found := by
  obtain ⟨passed, entry, rest, split, before, matched⟩ := resolveAmong_ok _ _ _ h
  have place : found.candidateIndex = entry.2 := (matchCandidate_ok _ _ _ _ matched).1
  have member : entry ∈ candidates.zipIdx := split ▸ by simp
  have spot : passed.length = entry.2 := by
    have here : candidates.zipIdx[passed.length]? = some entry := by simp [split]
    rw [List.getElem?_zipIdx] at here
    obtain ⟨c, _, same⟩ := Option.map_eq_some_iff.1 here
    simp [← same]
  refine ⟨entry.1, ?_, ?_, place ▸ matched⟩
  · rw [place]
    exact List.mem_zipIdx_iff_getElem?.1 member
  · intro i hi earlier there
    have inside : (earlier, i) ∈ passed := by
      have listed : candidates.zipIdx[i]? = some (earlier, i) := by
        simp [List.getElem?_zipIdx, there]
      rw [split, List.getElem?_append_left (by omega)] at listed
      exact List.mem_of_getElem? listed
    exact before _ inside

theorem resolve_error (requirement : EnvironmentSpace) (candidates : List EnvironmentSpace)
    (reasons : List Reason) (h : resolve requirement candidates = .error reasons) :
    (∀ c ∈ candidates, ∃ rejected, requirement.intersect c = .error rejected) ∧
      reasons = namedRejections requirement candidates.zipIdx := by
  obtain ⟨all, same⟩ := resolveAmong_error _ _ _ h
  refine ⟨fun c hc => ?_, same⟩
  obtain ⟨i, hi⟩ := List.mem_iff_getElem?.1 hc
  exact all (c, i) (List.mk_mem_zipIdx_iff_getElem?.2 hi)

theorem Reason.text_within (place : Place) (reason : Reason) :
    (Reason.within place reason).text = place.text ++ ": " ++ reason.text := rfl

/-- The texts of the reasons: each candidate in turn, each of its reasons after its name. -/
theorem namedRejections_text (requirement : EnvironmentSpace)
    (entries : List (EnvironmentSpace × Nat)) :
    (namedRejections requirement entries).map Reason.text =
      entries.flatMap (fun entry => (requirement.rejections entry.1).map
        (fun reason => candidateName entry.1 entry.2 ++ ": " ++ reason.text)) := by
  simp only [namedRejections, List.map_flatMap, List.map_map, Function.comp_def,
    Reason.text_within, Place.text]

/-- Resolving succeeds exactly if some candidate can narrow the requirement. What it finds is the
first such candidate, with the narrowed space and the place of each of its nodes. What it fails with
is each candidate's reasons, of which there are some, under the candidate's name. -/
theorem resolve_first_match (requirement : EnvironmentSpace) (candidates : List EnvironmentSpace) :
    ((∃ found, resolve requirement candidates = .ok found) ↔
      ∃ c ∈ candidates, ∃ space, requirement.intersect c = .ok space) ∧
    (∀ found, resolve requirement candidates = .ok found →
      ∃ candidate, candidates[found.candidateIndex]? = some candidate ∧
        requirement.intersect candidate = .ok found.space ∧
        (∀ i < found.candidateIndex, ∀ earlier, candidates[i]? = some earlier →
          ∃ reasons, requirement.intersect earlier = .error reasons) ∧
        found.space.nodes.length = requirement.requiredNodes.length ∧
        found.nodeAssignment.length = found.space.nodes.length ∧
        found.nodeAssignment.Nodup ∧
        (∀ place ∈ found.nodeAssignment, place < candidate.nodes.length) ∧
        ∀ (k : Nat) (node : NodeSpace), requirement.requiredNodes[k]? = some node →
          ∃ (place : Nat) (host narrowed : NodeSpace),
            found.nodeAssignment[k]? = some place ∧ candidate.nodes[place]? = some host ∧
              found.space.nodes[k]? = some narrowed ∧ node.intersect host = .ok narrowed) ∧
    (∀ reasons, resolve requirement candidates = .error reasons →
      (∀ c ∈ candidates, requirement.rejections c ≠ []) ∧
        reasons.map Reason.text = candidates.zipIdx.flatMap (fun entry =>
          (requirement.rejections entry.1).map
            (fun reason => candidateName entry.1 entry.2 ++ ": " ++ reason.text)) ∧
        (reasons = [] ↔ candidates = [])) := by
  refine ⟨⟨?_, ?_⟩, ?_, ?_⟩
  · rintro ⟨found, h⟩
    obtain ⟨candidate, there, _, matched⟩ := resolve_ok _ _ _ h
    exact ⟨candidate, List.mem_of_getElem? there, found.space,
      (matchCandidate_ok _ _ _ _ matched).2.1⟩
  · rintro ⟨c, member, space, narrowed⟩
    cases h : resolve requirement candidates with
    | ok found => exact ⟨found, rfl⟩
    | error reasons =>
      obtain ⟨rejected, failed⟩ := (resolve_error _ _ _ h).1 c member
      rw [narrowed] at failed
      cases failed
  · intro found h
    obtain ⟨candidate, there, first, matched⟩ := resolve_ok _ _ _ h
    obtain ⟨_, narrowed, a, assigned, indices⟩ := matchCandidate_ok _ _ _ _ matched
    obtain ⟨b, again, nodes⟩ := EnvironmentSpace.intersect_nodes _ _ _ narrowed
    -- the assignment inside the narrowing is the one that gave the places
    obtain rfl : a = b := Except.ok.inj (assigned.symm.trans again)
    have covers := EnvironmentSpace.assignNodes_covers _ _ _ assigned
    rw [indices, nodes]
    exact ⟨candidate, there, narrowed, first, covers.nodes_length,
      covers.indices_length.trans covers.nodes_length.symm, covers.distinct, covers.below,
      covers.placed⟩
  · intro reasons h
    obtain ⟨all, same⟩ := resolve_error _ _ _ h
    have some (c : EnvironmentSpace) (member : c ∈ candidates) : requirement.rejections c ≠ [] := by
      obtain ⟨rejected, failed⟩ := all c member
      rw [EnvironmentSpace.rejections_of_error failed]
      exact EnvironmentSpace.error_ne_nil failed
    refine ⟨some, same ▸ namedRejections_text _ _, ?_⟩
    constructor
    · intro none
      cases candidates with
      | nil => rfl
      | cons c rest =>
        have empty := none ▸ same.symm
        simp [namedRejections, some c List.mem_cons_self] at empty
    · rintro rfl
      rw [same]
      rfl

end Testbed
