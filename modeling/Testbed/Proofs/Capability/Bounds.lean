import Mathlib.Order.BoundedOrder.Lattice
import Mathlib.Order.Lattice.Nat
import Mathlib.Order.WithBot
import Testbed.Capability.RangeValue

/-!
# Bounds

Counts and ranges are bounded alike, only in words of different widths. Their bounds stand for spans
of numbers, which form a semilattice: taking the greater lower end and the smaller upper end is the
meet, and a value is within the bounds when the span of the value alone is below theirs.
-/
namespace Testbed

/-- Machine words, compared as the numbers that they stand for. -/
class Word (ω : Type) [LE ω] [LT ω] [DecidableLE ω] [Min ω] [Max ω] where
  toNat : ω → Nat
  toNat_inj {a b : ω} : toNat a = toNat b → a = b
  le_iff {a b : ω} : a ≤ b ↔ toNat a ≤ toNat b
  lt_iff {a b : ω} : a < b ↔ toNat a < toNat b
  min_def (a b : ω) : Min.min a b = if a ≤ b then a else b
  max_def (a b : ω) : Max.max a b = if a ≤ b then b else a

instance : Word UInt32 where
  toNat := UInt32.toNat
  toNat_inj := UInt32.toNat_inj.1
  le_iff := UInt32.le_iff_toNat_le
  lt_iff := UInt32.lt_iff_toNat_lt
  min_def _ _ := rfl
  max_def _ _ := rfl

instance : Word UInt64 where
  toNat := UInt64.toNat
  toNat_inj := UInt64.toNat_inj.1
  le_iff := UInt64.le_iff_toNat_le
  lt_iff := UInt64.lt_iff_toNat_lt
  min_def _ _ := rfl
  max_def _ _ := rfl

namespace Word

variable {ω : Type} [LE ω] [LT ω] [DecidableLE ω] [Min ω] [Max ω] [Word ω]

theorem toNat_min (a b : ω) : toNat (Min.min a b) = Min.min (toNat a) (toNat b) := by
  rw [min_def]
  split
  next below => exact (Nat.min_eq_left (le_iff.1 below)).symm
  next above =>
    have order := le_iff.not.1 above
    exact (Nat.min_eq_right (by omega)).symm

theorem toNat_max (a b : ω) : toNat (Max.max a b) = Max.max (toNat a) (toNat b) := by
  rw [max_def]
  split
  next below => exact (Nat.max_eq_right (le_iff.1 below)).symm
  next above =>
    have order := le_iff.not.1 above
    exact (Nat.max_eq_left (by omega)).symm

end Word

/-- The numbers from a lower end on, up to an upper end if there is one. Narrower spans are below
wider ones. -/
abbrev Span := Natᵒᵈ × WithTop Nat

namespace Span

def lower (s : Span) : Nat := OrderDual.ofDual s.1

/-- The ends are in order, so that there is a number between them. -/
def Proper (s : Span) : Prop := WithTop.some s.lower ≤ s.2

theorem Proper.mono {s t : Span} (below : s ≤ t) (h : s.Proper) : t.Proper :=
  calc WithTop.some t.lower
      ≤ WithTop.some s.lower := WithTop.coe_le_coe.2 below.1
    _ ≤ s.2 := h
    _ ≤ t.2 := below.2

variable {ω : Type} [LE ω] [LT ω] [DecidableLE ω] [Min ω] [Max ω] [Word ω]

/-- The span of a lower bound and an upper one. -/
def of (min : ω) (max : Option ω) : Span :=
  (OrderDual.toDual (Word.toNat min), max.elim ⊤ (fun m => WithTop.some (Word.toNat m)))

theorem of_inj {a b : ω} {m n : Option ω} (h : of a m = of b n) : a = b ∧ m = n := by
  obtain ⟨lower, upper⟩ := Prod.mk.inj h
  refine ⟨Word.toNat_inj lower, ?_⟩
  cases m <;> cases n
  · rfl
  · cases upper
  · cases upper
  · exact congrArg some (Word.toNat_inj (WithTop.coe_inj.1 upper))

theorem of_meet (a b : ω) (m n : Option ω) :
    of (Max.max a b) (CountSpace.leastBound m n) = of a m ⊓ of b n := by
  refine Prod.ext (congrArg OrderDual.toDual (Word.toNat_max a b)) ?_
  cases m <;> cases n
  · exact (top_inf_eq _).symm
  · exact (top_inf_eq _).symm
  · exact (inf_top_eq _).symm
  · exact congrArg WithTop.some (Word.toNat_min _ _)

theorem proper_of [DecidableLT ω] {a : ω} {m : Option ω} :
    (of a m).Proper ↔ m.any (· < a) = false := by
  cases m with
  | none => simp [Proper, of]
  | some m => simp [Proper, of, lower, Word.lt_iff]

theorem within_of {a v : ω} {m : Option ω} :
    (decide (a ≤ v) && m.all (v ≤ ·)) = true ↔ of v (some v) ≤ of a m := by
  cases m with
  | none => simp [of, Word.le_iff]
  | some m => simp [of, Word.le_iff]

end Span

end Testbed
