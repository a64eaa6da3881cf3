import Testbed.Proofs.Capability.Laws
import Testbed.Space.EnvironmentSpace

/-!
# Assignments

What an assignment of required nodes says: each required node is on an offered node of its own, and
the assignment holds the narrowing of the one by the other.
-/
namespace Testbed

/-- An assignment gives each of some required nodes a place of its own that was not taken, and the
narrowing by the node that is offered there. -/
structure NodeAssignment.Covers (a : NodeAssignment) (offered : List NodeSpace)
    (taken : List Nat) (required : List NodeSpace) : Prop where
  nodes_length : a.nodes.length = required.length
  indices_length : a.indices.length = required.length
  distinct : a.indices.Nodup
  untaken : ∀ place ∈ a.indices, place ∉ taken
  below : ∀ place ∈ a.indices, place < offered.length
  placed : ∀ (k : Nat) (node : NodeSpace), required[k]? = some node →
    ∃ (place : Nat) (host narrowed : NodeSpace), a.indices[k]? = some place ∧
      offered[place]? = some host ∧ a.nodes[k]? = some narrowed ∧
      node.intersect host = .ok narrowed

namespace EnvironmentSpace

open Narrowing

/-- The first fit is the first offered node if that is free and fits, else it is among the rest. -/
theorem firstFit_cons_ok {index place : Nat} {required offered : NodeSpace} {taken : List Nat}
    {rest : List (NodeSpace × Nat)} {found : Nat × NodeSpace} :
    firstFit index required taken ((offered, place) :: rest) = .ok found ↔
      (place ∉ taken ∧ ∃ narrowed, required.intersect offered = .ok narrowed ∧
        (place, narrowed) = found) ∨
      ((place ∈ taken ∨ ¬ Fits required offered) ∧
        firstFit index required taken rest = .ok found) := by
  rw [firstFit]
  by_cases used : place ∈ taken
  · simp [used]
  · have fits : Fits required offered ↔ ∃ narrowed, required.intersect offered = .ok narrowed :=
      Iff.rfl
    cases outcome : required.intersect offered with
    | ok narrowed => simp [used, fits, outcome]
    | error reasons => simp [used, fits, outcome, mapError_ok]

theorem assignFrom_cons_ok {offered : List (NodeSpace × Nat)} {index : Nat} {taken : List Nat}
    {required : NodeSpace} {rest : List NodeSpace} {a : NodeAssignment} :
    assignFrom offered index taken (required :: rest) = .ok a ↔
      ∃ place narrowed later, firstFit index required taken offered = .ok (place, narrowed) ∧
        assignFrom offered (index + 1) (place :: taken) rest = .ok later ∧
        ⟨narrowed :: later.nodes, place :: later.indices⟩ = a := by
  rw [assignFrom]
  cases firstFit index required taken offered with
  | error reasons => cases reasons <;> simp
  | ok found =>
    simp only [bind_ok, return_ok]
    constructor
    · rintro ⟨later, assigned, same⟩
      exact ⟨found.1, found.2, later, rfl, assigned, same⟩
    · rintro ⟨place, narrowed, later, here, assigned, same⟩
      obtain rfl := Except.ok.inj here
      exact ⟨later, assigned, same⟩

/-- The first fit is a place among those looked at that is not taken and fits. -/
theorem firstFit_placed (index : Nat) (required : NodeSpace) (taken : List Nat) (place : Nat)
    (narrowed : NodeSpace) (entries : List (NodeSpace × Nat))
    (found : firstFit index required taken entries = .ok (place, narrowed)) :
    place ∉ taken ∧ ∃ host, (host, place) ∈ entries ∧ required.intersect host = .ok narrowed := by
  induction entries with
  | nil => cases found
  | cons entry rest ih =>
    rcases firstFit_cons_ok.1 found with ⟨free, n, fits, same⟩ | ⟨-, later⟩
    · obtain ⟨rfl, rfl⟩ := Prod.mk.inj same
      exact ⟨free, entry.1, List.mem_cons_self, fits⟩
    · obtain ⟨free, host, member, fits⟩ := ih later
      exact ⟨free, host, List.mem_cons_of_mem _ member, fits⟩

theorem assignFrom_covers (offered : List NodeSpace) :
    ∀ (required : List NodeSpace) (index : Nat) (taken : List Nat) (a : NodeAssignment),
      assignFrom offered.zipIdx index taken required = .ok a → a.Covers offered taken required
  | [], index, taken, a, h => by
    obtain rfl := Except.ok.inj h
    exact ⟨rfl, rfl, List.nodup_nil, by simp, by simp, by simp⟩
  | node :: rest, index, taken, a, h => by
    obtain ⟨place, narrowed, b, found, later, rfl⟩ := assignFrom_cons_ok.1 h
    obtain ⟨free, host, member, fits⟩ := firstFit_placed _ _ _ _ _ _ found
    have covers := assignFrom_covers offered rest (index + 1) (place :: taken) b later
    have fresh : place ∉ b.indices := fun again => covers.untaken place again List.mem_cons_self
    have hosted : offered[place]? = some host := List.mk_mem_zipIdx_iff_getElem?.1 member
    refine ⟨by simp [covers.nodes_length], by simp [covers.indices_length],
      List.nodup_cons.2 ⟨fresh, covers.distinct⟩, ?_, ?_, ?_⟩
    · intro p hp
      rcases List.mem_cons.1 hp with rfl | hp
      · exact free
      · exact fun old => covers.untaken p hp (List.mem_cons_of_mem _ old)
    · intro p hp
      rcases List.mem_cons.1 hp with rfl | hp
      · exact (List.getElem?_eq_some_iff.1 hosted).1
      · exact covers.below p hp
    · intro k n hn
      cases k with
      | zero =>
        obtain rfl : node = n := by simpa using hn
        exact ⟨place, host, narrowed, rfl, hosted, rfl, fits⟩
      | succ k => exact covers.placed k n (by simpa using hn)

theorem requiredNodes_ne_nil (e : EnvironmentSpace) : e.requiredNodes ≠ [] := by
  unfold requiredNodes
  split <;> simp_all

theorem requiredNodes_eq {e : EnvironmentSpace} (some : e.nodes ≠ []) : e.requiredNodes = e.nodes :=
  if_neg (by simpa using some)

theorem assignNodes_ok {required offered : EnvironmentSpace} {a : NodeAssignment} :
    required.assignNodes offered = .ok a ↔
      required.requiredNodes.length ≤ offered.nodes.length ∧
        assignFrom offered.nodes.zipIdx 0 [] required.requiredNodes = .ok a := by
  unfold assignNodes
  dsimp only
  split
  next short => simp [Nat.not_le.2 short]
  next enough => simp [Nat.not_lt.1 enough]

theorem assignNodes_covers (required offered : EnvironmentSpace) (a : NodeAssignment)
    (h : required.assignNodes offered = .ok a) :
    a.Covers offered.nodes [] required.requiredNodes :=
  assignFrom_covers _ _ _ _ _ (assignNodes_ok.1 h).2

/-- A narrowed environment has the nodes of the assignment and the narrowed features. -/
theorem intersect_ok {required offered space : EnvironmentSpace} :
    required.intersect offered = .ok space ↔
      ∃ a, required.assignNodes offered = .ok a ∧
        ∃ features, FeatureMap.intersect required.features offered.features = .ok features ∧
          { name := offered.name <|> required.name, nodes := a.nodes, features } = space := by
  simp only [EnvironmentSpace.intersect, bind_ok, mapError_ok, return_ok]

theorem intersect_nodes (required offered space : EnvironmentSpace)
    (h : required.intersect offered = .ok space) :
    ∃ a, required.assignNodes offered = .ok a ∧ space.nodes = a.nodes := by
  obtain ⟨a, assigned, features, -, rfl⟩ := intersect_ok.1 h
  exact ⟨a, assigned, rfl⟩

end EnvironmentSpace

end Testbed
