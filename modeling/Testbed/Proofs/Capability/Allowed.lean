import Mathlib.Order.Bounds.Basic
import Testbed.Proofs.Capability.Counts

/-!
# The set of allowed counts

A space of counts stands for a set of counts. A check is about whether two such sets meet, and
narrowing gives a space that stands for what they have in common, with the least of it picked.
-/
namespace Testbed

namespace CountSpace

/-- The counts that are not below the lower bound, not above the upper one if there is one, and
listed if any counts are. -/
def allowed (s : CountSpace) : Set UInt32 :=
  {value | s.min ≤ value ∧ (∀ max ∈ s.max, value ≤ max) ∧
    (s.counts.isEmpty = false → value ∈ s.counts)}

theorem mem_allowed {s : CountSpace} {value : UInt32} : value ∈ s.allowed ↔ s.Allows value := by
  have bounds : s.inBounds value ↔ s.min ≤ value ∧ ∀ max ∈ s.max, value ≤ max := by
    cases upper : s.max <;> simp [inBounds, upper]
  have listed : (s.Free ∨ value ∈ s.counts) ↔ (s.counts.isEmpty = false → value ∈ s.counts) := by
    cases none : s.counts.isEmpty <;> simp [Free, none]
  unfold Allows
  rw [bounds, listed, and_assoc]
  rfl

theorem inter_allowed_nonempty {a b : CountSpace} :
    (a.allowed ∩ b.allowed).Nonempty ↔ ∃ value, a.Allows value ∧ b.Allows value := by
  simp only [Set.Nonempty, Set.mem_inter_iff, mem_allowed]

/-- Counts are listed in what two spaces share exactly if one of them lists any. -/
theorem shared_lists_iff {a b : CountSpace} (common : ∃ value, a.Allows value ∧ b.Allows value) :
    (shared a b).counts.isEmpty = false ↔
      a.counts.isEmpty = false ∨ b.counts.isEmpty = false := by
  have free : (shared a b).Free ↔ a.Free ∧ b.Free := ⟨free_of_shared common, free_shared⟩
  rw [← Bool.not_eq_true, ← Bool.not_eq_true, ← Bool.not_eq_true, ← not_and_or]
  exact not_congr free

/-- What two spaces share is a space of its own, with the least of it picked. -/
theorem shared_allowed {a b : CountSpace} (common : ∃ value, a.Allows value ∧ b.Allows value) :
    { shared a b with current := some (shared a b).smallest }.allowed = a.allowed ∩ b.allowed := by
  ext value
  simp only [Set.mem_inter_iff, mem_allowed]
  exact allows_shared (free_of_shared common)

theorem Settled.isLeast {s : CountSpace} (settled : s.Settled) :
    ∃ least, s.current = some least ∧ IsLeast s.allowed least := by
  obtain ⟨least, picked, allowed, minimal⟩ := settled.picked
  refine ⟨least, picked, mem_allowed.2 allowed, ?_⟩
  intro value member
  exact minimal value (mem_allowed.1 member)

/-- Two spaces are compatible exactly if some count is allowed by both. Then narrowing the one by
the other gives a space that allows just the counts in common and has the least of them picked; it
lists counts within its bounds only, and any at all exactly if one of the two does. -/
theorem intersect_allowed (a b : CountSpace) :
    (a.check b = [] ↔ (a.allowed ∩ b.allowed).Nonempty) ∧
    ((∃ narrowed, a.intersect b = .ok narrowed) ↔ (a.allowed ∩ b.allowed).Nonempty) ∧
    ((a.allowed ∩ b.allowed).Nonempty →
      ∃ narrowed, a.intersect b = .ok narrowed ∧ narrowed.allowed = a.allowed ∩ b.allowed ∧
        (∃ least, narrowed.current = some least ∧ IsLeast (a.allowed ∩ b.allowed) least) ∧
        (∀ count ∈ narrowed.counts, narrowed.min ≤ count ∧ ∀ max ∈ narrowed.max, count ≤ max) ∧
        (narrowed.counts.isEmpty = false ↔
          a.counts.isEmpty = false ∨ b.counts.isEmpty = false)) := by
  rw [inter_allowed_nonempty]
  refine ⟨check_nil, ?_, fun common => ?_⟩
  · constructor
    · rintro ⟨narrowed, h⟩
      exact (intersect_ok.1 h).1
    · intro common
      exact ⟨_, intersect_ok.2 ⟨common, rfl⟩⟩
  · have settled := settled_shared common
    have same := shared_allowed common
    refine ⟨_, intersect_ok.2 ⟨common, rfl⟩, same, same ▸ settled.isLeast, ?_,
      shared_lists_iff common⟩
    intro count member
    have allowed := mem_allowed.2 (settled.mem_counts.1 member).2
    exact ⟨allowed.1, allowed.2.1⟩

/-- Of the listed counts, the one that is too large for the other side is left out. -/
theorem intersect_allowed_listed :
    let a : CountSpace := .oneOf [2, 4, 8, 16]
    let b : CountSpace := .between 3 9
    (a.allowed ∩ b.allowed).Nonempty ∧
      ∃ narrowed, a.intersect b = .ok narrowed ∧ narrowed.allowed = a.allowed ∩ b.allowed ∧
        narrowed.current = some 4 ∧ narrowed.counts = .ofList [4, 8] := by
  intro a b
  obtain ⟨compatible, -, meets⟩ := intersect_allowed a b
  have common : (a.allowed ∩ b.allowed).Nonempty := compatible.1 (by decide)
  obtain ⟨narrowed, h, same, -⟩ := meets common
  have computed : a.intersect b = .ok ⟨.ofList [4, 8], 3, some 9, some 4⟩ := by decide
  obtain rfl := Except.ok.inj (computed.symm.trans h)
  exact ⟨common, _, h, same, rfl, rfl⟩

/-- Listed counts of which none is left are not mistaken for no list. -/
example : (CountSpace.oneOf [3, 5]).intersect (.oneOf [2, 4]) =
    .error [.countsDisjoint (.oneOf [3, 5]) (.oneOf [2, 4])] := by decide

end CountSpace

end Testbed
