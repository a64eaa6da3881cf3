import Testbed.Proofs.Space.Assignment
import Testbed.Proofs.Space.Nodes

/-!
# Narrowing again

Narrowing a second time by the same capability changes nothing. For environments this needs that
the greedy assignment runs the same way the second time: a narrowed node still fits the place that
it was given, and as narrowing makes nothing fit that did not fit before, the places that were
passed over are passed over again.
-/
namespace Testbed

namespace Narrowing

/-- Narrowing by a capability a second time leaves what the first time gave. -/
def Idempotent (α : Type) [Narrowing α] : Prop :=
  ∀ required offered once : α, intersect required offered = .ok once →
    intersect once offered = .ok once

theorem idempotent_of_lawful (α : Type) [Narrowing α] [LawfulNarrowing α] : Idempotent α :=
  fun _ _ _ => LawfulNarrowing.again

end Narrowing

open Narrowing

namespace EnvironmentSpace

/-- The first fit of a node is still the first fit of the node that it was narrowed to. -/
theorem firstFit_again {index place : Nat} {required narrowed : NodeSpace} {taken : List Nat}
    {entries : List (NodeSpace × Nat)}
    (found : firstFit index required taken entries = .ok (place, narrowed)) :
    firstFit index narrowed taken entries = .ok (place, narrowed) := by
  obtain ⟨-, host, -, hosted⟩ := firstFit_placed _ _ _ _ _ _ found
  induction entries with
  | nil => cases found
  | cons entry rest ih =>
    rcases firstFit_cons_ok.1 found with ⟨free, n, fits, same⟩ | ⟨passed, later⟩
    · obtain ⟨rfl, rfl⟩ := Prod.mk.inj same
      have again : n.intersect entry.1 = .ok n := LawfulNarrowing.again (α := NodeSpace) fits
      exact firstFit_cons_ok.2 (.inl ⟨free, n, again, rfl⟩)
    · have refused : entry.2 ∈ taken ∨ ¬ Fits narrowed entry.1 :=
        passed.imp_right (mt (LawfulNarrowing.fits_of_narrowed hosted))
      exact firstFit_cons_ok.2 (.inr ⟨refused, ih later⟩)

theorem assignFrom_again (offered : List (NodeSpace × Nat)) :
    ∀ (required : List NodeSpace) (index : Nat) (taken : List Nat) (a : NodeAssignment),
      assignFrom offered index taken required = .ok a →
        assignFrom offered index taken a.nodes = .ok a
  | [], _, _, a, assigned => by
    obtain rfl := Except.ok.inj assigned
    rfl
  | node :: rest, index, taken, a, assigned => by
    obtain ⟨place, narrowed, later, found, continued, rfl⟩ := assignFrom_cons_ok.1 assigned
    have again := assignFrom_again offered rest (index + 1) (place :: taken) later continued
    exact assignFrom_cons_ok.2 ⟨place, narrowed, later, firstFit_again found, again, rfl⟩

/-- An assignment is made again, place by place, when its own nodes are required. -/
theorem assignNodes_again {required offered once : EnvironmentSpace} {a : NodeAssignment}
    (assigned : required.assignNodes offered = .ok a) (narrowed : once.nodes = a.nodes) :
    once.assignNodes offered = .ok a := by
  obtain ⟨enough, placed⟩ := assignNodes_ok.1 assigned
  have length : a.nodes.length = required.requiredNodes.length :=
    (assignNodes_covers _ _ _ assigned).nodes_length
  have some : once.nodes ≠ [] := by
    intro none
    have empty : required.requiredNodes.length = 0 := by
      rw [← length, ← narrowed, none, List.length_nil]
    exact requiredNodes_ne_nil required (List.length_eq_zero_iff.1 empty)
  have nodes : once.requiredNodes = a.nodes := (requiredNodes_eq some).trans narrowed
  rw [assignNodes_ok, nodes, length]
  exact ⟨enough, assignFrom_again _ _ _ _ _ placed⟩

theorem intersect_again {required offered once : EnvironmentSpace}
    (h : required.intersect offered = .ok once) :
    once.intersect offered = .ok once ∧
      ∃ a, required.assignNodes offered = .ok a ∧ once.assignNodes offered = .ok a := by
  obtain ⟨a, assigned, features, narrowed, rfl⟩ := intersect_ok.1 h
  have again : features.intersect offered.features = .ok features :=
    LawfulNarrowing.again (α := FeatureMap) narrowed
  have placed : assignNodes ⟨offered.name <|> required.name, a.nodes, features⟩ offered = .ok a :=
    assignNodes_again assigned rfl
  refine ⟨intersect_ok.2 ⟨a, placed, features, again, ?_⟩, a, assigned, placed⟩
  cases offered.name <;> rfl

end EnvironmentSpace

/-- Narrowing is idempotent for single dimensions, for settings of features, for nodes and for
environments; and narrowing an environment again gives each of its nodes the place it had. -/
theorem intersect_idempotent :
    Idempotent CountSpace ∧ Idempotent RangeValue ∧
    (∀ (α : Type) [LT α] [StrictOrder α] [DecidableEq α] [Domain α], Idempotent (Choice α)) ∧
    (∀ (α : Type) [DecidableEq α] [Shown α], Idempotent (Fixed α)) ∧
    Idempotent FeatureSettings ∧ Idempotent NodeSpace ∧ Idempotent EnvironmentSpace ∧
    ∀ required offered once : EnvironmentSpace, required.intersect offered = .ok once →
      ∃ first second, required.assignNodes offered = .ok first ∧
        once.assignNodes offered = .ok second ∧ second.indices = first.indices := by
  refine ⟨idempotent_of_lawful _, idempotent_of_lawful _, ?_, ?_, idempotent_of_lawful _,
    idempotent_of_lawful _, ?_, ?_⟩
  · intro α _ _ _ _
    exact idempotent_of_lawful _
  · intro α _ _
    exact idempotent_of_lawful _
  · intro required offered once h
    exact (EnvironmentSpace.intersect_again h).1
  · intro required offered once h
    obtain ⟨a, assigned, again⟩ := (EnvironmentSpace.intersect_again h).2
    exact ⟨a, a, assigned, again, rfl⟩

/-- A network interface that is narrowed on the second node, and a node that is left open. -/
theorem intersect_idempotent_swapped :
    let network (nics : CountSpace) : FeatureMap :=
      Dict.empty.insert "network" (.networkInterface ⟨some nics⟩)
    let required : EnvironmentSpace :=
      { nodes := [{ coreCount := some (.atLeast 8), features := network (.atLeast 2) }, {}] }
    let offered : EnvironmentSpace :=
      { name := some "pool"
        nodes := [{ coreCount := some (.between 1 4) },
          { coreCount := some (.between 4 16), features := network (.oneOf [1, 2, 4]) }] }
    ∃ once, required.intersect offered = .ok once ∧ once.intersect offered = .ok once ∧
      ∃ first second, required.assignNodes offered = .ok first ∧ first.indices = [1, 0] ∧
        once.assignNodes offered = .ok second ∧ second.indices = [1, 0] := by
  intro network required offered
  obtain ⟨-, -, -, -, -, -, environments, places⟩ := intersect_idempotent
  have narrowed : required.intersect offered = .ok
      { name := some "pool"
        nodes := [
          { coreCount := some ⟨∅, 8, some 16, some 8⟩
            features := network ⟨.ofList [2, 4], 2, none, some 2⟩ },
          { coreCount := some ⟨∅, 1, some 4, some 1⟩ }] } := by decide +kernel
  obtain ⟨first, second, assigned, again, same⟩ := places _ _ _ narrowed
  have indices : first.indices = [1, 0] := by
    have placed : (required.assignNodes offered).map NodeAssignment.indices = .ok [1, 0] := by
      decide +kernel
    rw [assigned] at placed
    exact Except.ok.inj placed
  exact ⟨_, narrowed, environments _ _ _ narrowed, first, second, assigned, indices, again,
    same.trans indices⟩

end Testbed
