import Mathlib.Order.ConditionallyCompleteLattice.Basic
import Testbed.Proofs.Capability.Bounds
import Testbed.Proofs.Capability.Laws

/-!
# Ranges

A range stands for the span between its ends and for whether the upper end is left unasked for.
Narrowing is the meet of both, and picks an end of the overlap.
-/
namespace Testbed

namespace RangeValue

def span (r : RangeValue) : Span := .of r.min r.max

theorem contains_iff {r : RangeValue} {value : UInt64} :
    r.contains value ↔ Span.of value (some value) ≤ r.span :=
  Span.within_of

theorem isEmpty_iff {r : RangeValue} : r.isEmpty = false ↔ r.span.Proper :=
  Span.proper_of.symm

/-- The end of a range that is picked from it. -/
def chosenEnd (r : RangeValue) : UInt64 := if r.chooseMax then r.max.getD r.min else r.min

/-- What two ranges share, with an end of it picked. -/
def overlap (a b : RangeValue) : RangeValue :=
  let shared : RangeValue :=
    { min := Max.max a.min b.min
      max := CountSpace.leastBound a.max b.max
      chooseMax := a.chooseMax || b.chooseMax }
  { shared with current := some shared.chosenEnd }

theorem span_overlap (a b : RangeValue) : (overlap a b).span = a.span ⊓ b.span :=
  Span.of_meet _ _ _ _

theorem overlap?_eq (a b : RangeValue) :
    a.overlap? b =
      if (overlap a b).isEmpty then none else some ((overlap a b).min, (overlap a b).max) :=
  rfl

/-- A check has no reasons exactly if the ranges overlap: that neither is empty then follows. -/
theorem check_nil {a b : RangeValue} : a.check b = [] ↔ (a.span ⊓ b.span).Proper := by
  have shared : (if (a.overlap? b).isSome then [] else [Reason.rangesDisjoint a b]) = [] ↔
      (a.span ⊓ b.span).Proper := by
    rw [← span_overlap, ← isEmpty_iff, overlap?_eq]
    cases (overlap a b).isEmpty <;> simp
  unfold check
  rw [guards_nil, isEmpty_iff, isEmpty_iff, shared]
  constructor
  · rintro ⟨-, -, proper⟩
    exact proper
  · intro proper
    exact ⟨proper.mono inf_le_left, proper.mono inf_le_right, proper⟩

theorem intersect_ok {a b narrowed : RangeValue} :
    a.intersect b = .ok narrowed ↔ (a.span ⊓ b.span).Proper ∧ overlap a b = narrowed := by
  unfold intersect
  rw [requireNone_ok, check_nil]
  refine and_congr_right (fun proper => ?_)
  have shared : (overlap a b).isEmpty = false := isEmpty_iff.2 (span_overlap a b ▸ proper)
  rw [overlap?_eq, shared]
  rfl

/-- The ranges that narrowing gives: they allow something, and one of their ends is picked. -/
structure Settled (r : RangeValue) : Prop where
  proper : r.span.Proper
  picked : r.current = some r.chosenEnd

/-- A range up to its pick. -/
def meaning (r : RangeValue) : Span × Prop := (r.span, r.chooseMax = false)

theorem narrowsByMeet : NarrowsByMeet meaning (fun m => m.1.Proper) Settled where
  leaves_mono below proper := proper.mono below.1
  settled_leaves settled := settled.proper
  settled_inj := by
    rintro ⟨min, max, current, choose⟩ ⟨min', max', current', choose'⟩ left right same
    obtain ⟨span, prefers⟩ := Prod.mk.inj same
    obtain ⟨rfl, rfl⟩ := Span.of_inj span
    obtain rfl : choose = choose' := by
      cases choose <;> cases choose' <;> simp_all
    obtain rfl : current = current' := left.picked.trans right.picked.symm
    rfl
  total proper := ⟨_, intersect_ok.2 ⟨proper, rfl⟩⟩
  sound h := by
    obtain ⟨proper, rfl⟩ := intersect_ok.1 h
    refine ⟨⟨span_overlap _ _ ▸ proper, rfl⟩, Prod.ext (span_overlap _ _) ?_⟩
    exact propext Bool.or_eq_false_iff

instance : LawfulNarrowing RangeValue := narrowsByMeet.lawful

end RangeValue

end Testbed
