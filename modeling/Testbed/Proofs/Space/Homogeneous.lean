import Testbed.Proofs.Space.FirstFit

/-!
# Topologies of equal nodes

First fit can refuse a topology that another order would satisfy, but not one whose nodes are all
the same: as long as a place is open to any of them it is open to each, so first fit gets stuck only
when all suitable places are taken. Then there are fewer of these than nodes, and no other way of
placing them would do.
-/
namespace Testbed

/-- Places of their own for all required nodes, each of which is compatible with what is offered at
its place. -/
structure Accommodates (offered required : List NodeSpace) (places : List Nat) : Prop where
  length : places.length = required.length
  distinct : places.Nodup
  fits : ∀ (k place : Nat) (node : NodeSpace), places[k]? = some place →
    required[k]? = some node → ∃ host, offered[place]? = some host ∧ node.check host = []

/-- The places at which a node is compatible with what is offered. -/
def suitablePlaces (offered : List NodeSpace) (node : NodeSpace) : List Nat :=
  (offered.zipIdx.filter (fun entry => (node.check entry.1).isEmpty)).map Prod.snd

section Suitable

variable {offered : List NodeSpace} {node : NodeSpace} {place : Nat}

theorem mem_suitablePlaces :
    place ∈ suitablePlaces offered node ↔
      ∃ host, offered[place]? = some host ∧ node.check host = [] := by
  simp [suitablePlaces, List.mk_mem_zipIdx_iff_getElem?]

theorem suitablePlaces_nodup (offered : List NodeSpace) (node : NodeSpace) :
    (suitablePlaces offered node).Nodup := by
  have indices : (offered.zipIdx.map Prod.snd).Nodup := by
    rw [List.zipIdx_map_snd]
    exact List.nodup_range'
  exact indices.sublist (List.filter_sublist.map Prod.snd)

theorem length_suitablePlaces (offered : List NodeSpace) (node : NodeSpace) :
    (suitablePlaces offered node).length =
      offered.countP (fun host => (node.check host).isEmpty) := by
  rw [suitablePlaces, List.length_map, ← List.countP_eq_length_filter]
  conv_rhs => rw [← List.zipIdx_map_fst 0 offered, List.countP_map]
  rfl

end Suitable

/-- Equal nodes are all at suitable places, of which there have to be enough. -/
theorem Accommodates.count_le {offered places : List _} {node : NodeSpace} {count : Nat}
    (h : Accommodates offered (List.replicate count node) places) :
    count ≤ offered.countP (fun host => (node.check host).isEmpty) := by
  have suited : places ⊆ suitablePlaces offered node := by
    intro place member
    obtain ⟨k, found⟩ := List.mem_iff_getElem?.1 member
    have inside := (List.getElem?_eq_some_iff.1 found).1
    rw [h.length, List.length_replicate] at inside
    exact mem_suitablePlaces.2 (h.fits k place node found (List.getElem?_replicate_of_lt inside))
  calc count = places.length := by rw [h.length, List.length_replicate]
    _ ≤ (suitablePlaces offered node).length := (h.distinct.subperm suited).length_le
    _ = _ := length_suitablePlaces offered node

/-- Equal nodes get stuck only when all suitable places are taken. -/
theorem StuckFirstFit.count_lt {offered : List NodeSpace} {places : List Nat}
    {node stuckAt : NodeSpace} {count : Nat}
    (stuck : StuckFirstFit offered (List.replicate count node) places stuckAt) :
    offered.countP (fun host => (node.check host).isEmpty) < count := by
  obtain rfl : stuckAt = node := List.eq_of_mem_replicate (List.mem_of_getElem? stuck.next)
  have taken : suitablePlaces offered stuckAt ⊆ places := by
    intro place suited
    by_contra free
    have isOpen : place ∈ openPlaces offered places stuckAt := ⟨free, mem_suitablePlaces.1 suited⟩
    rw [stuck.closed] at isOpen
    exact isOpen
  calc offered.countP (fun host => (stuckAt.check host).isEmpty)
      = (suitablePlaces offered stuckAt).length := (length_suitablePlaces offered stuckAt).symm
    _ ≤ places.length := ((suitablePlaces_nodup offered stuckAt).subperm taken).length_le
    _ < (List.replicate count stuckAt).length := stuck.length_lt
    _ = count := List.length_replicate

namespace EnvironmentSpace

variable {required offered : EnvironmentSpace}

/-- An assignment accommodates the required nodes. -/
theorem assignNodes_accommodates {a : NodeAssignment}
    (assigned : required.assignNodes offered = .ok a) :
    Accommodates offered.nodes required.requiredNodes a.indices := by
  have covers := assignNodes_covers _ _ _ assigned
  refine ⟨covers.indices_length, covers.distinct, ?_⟩
  intro k place node found here
  obtain ⟨place', host, narrowed, found', hosted, -, fits⟩ := covers.placed k node here
  obtain rfl : place = place' := Option.some.inj (found.symm.trans found')
  exact ⟨host, hosted, fits_iff_check.1 ⟨narrowed, fits⟩⟩

/-- Equal nodes are refused only where too few offered ones are compatible with them. -/
theorem assignNodes_refused {node : NodeSpace} {count : Nat} {reasons : List Reason}
    (alike : required.requiredNodes = List.replicate count node)
    (refused : required.assignNodes offered = .error reasons) :
    offered.nodes.countP (fun host => (node.check host).isEmpty) < count := by
  have size : required.requiredNodes.length = count := by rw [alike, List.length_replicate]
  by_cases enough : required.requiredNodes.length ≤ offered.nodes.length
  · have outcome := assignNodes_outcome enough
    rw [refused, alike] at outcome
    obtain ⟨places, stuckAt, stuck, -⟩ := outcome
    exact stuck.count_lt
  · calc offered.nodes.countP (fun host => (node.check host).isEmpty)
        ≤ offered.nodes.length := List.countP_le_length
      _ < required.requiredNodes.length := Nat.not_le.1 enough
      _ = count := size

/-- A topology of equal nodes is assigned exactly if enough of the offered nodes are compatible with
them, and is refused exactly if there are no places that accommodate them. -/
theorem assignNodes_homogeneous (required offered : EnvironmentSpace) (node : NodeSpace)
    (count : Nat) (alike : required.nodes = List.replicate count node) (positive : 0 < count) :
    ((∃ a, required.assignNodes offered = .ok a) ↔
      count ≤ offered.nodes.countP (fun host => (node.check host).isEmpty)) ∧
    ((∃ reasons, required.assignNodes offered = .error reasons) ↔
      ¬ ∃ places, Accommodates offered.nodes required.nodes places) := by
  have nodes : required.requiredNodes = List.replicate count node := by
    rw [← alike]
    refine requiredNodes_eq (fun none => ?_)
    rw [none, eq_comm, List.replicate_eq_nil_iff] at alike
    omega
  rw [alike]
  cases outcome : required.assignNodes offered with
  | ok a =>
    have accommodated := assignNodes_accommodates outcome
    rw [nodes] at accommodated
    exact ⟨iff_of_true ⟨a, rfl⟩ accommodated.count_le,
      iff_of_false nofun (not_not.2 ⟨a.indices, accommodated⟩)⟩
  | error reasons =>
    have few := assignNodes_refused nodes outcome
    refine ⟨iff_of_false nofun (Nat.not_le.2 few), iff_of_true ⟨reasons, rfl⟩ ?_⟩
    rintro ⟨places, accommodated⟩
    exact Nat.not_le.2 few accommodated.count_le

/-- Two equal nodes find their places among others that are not compatible with them. -/
theorem assignNodes_homogeneous_interleaved :
    let cores (count : CountSpace) : NodeSpace := { coreCount := some count }
    let required : EnvironmentSpace := { nodes := [cores (.atLeast 4), cores (.atLeast 4)] }
    let offered : EnvironmentSpace :=
      { nodes := [cores (.exact 2), cores (.exact 8), {}, cores (.between 1 4)] }
    (∃ a, required.assignNodes offered = .ok a) ∧
      ∃ places, Accommodates offered.nodes required.nodes places := by
  intro cores required offered
  obtain ⟨succeeds, fails⟩ :=
    assignNodes_homogeneous required offered (cores (.atLeast 4)) 2 rfl (by decide)
  obtain ⟨a, assigned⟩ := succeeds.2 (by decide)
  refine ⟨⟨a, assigned⟩, ?_⟩
  by_contra none
  obtain ⟨reasons, failed⟩ := fails.2 none
  rw [assigned] at failed
  cases failed

end EnvironmentSpace

end Testbed
