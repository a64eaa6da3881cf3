import Testbed.Capability.CountSpace

/-!
# Ranges

An interval of sizes, ends included. A requirement gives a lower bound as a rule, a capability what
a candidate can provide.
-/
namespace Testbed

/-- An interval of 64-bit numbers; without `max` it is unbounded. -/
structure RangeValue where
  min : UInt64 := 0
  max : Option UInt64 := none
  /-- The value picked by the last intersection. -/
  current : Option UInt64 := none
  /-- Pick the upper end of a narrowed range instead of the lower one. -/
  chooseMax : Bool := false
  deriving DecidableEq

namespace RangeValue

def atLeast (min : UInt64) : RangeValue := { min }

def between (min max : UInt64) : RangeValue := { min, max := some max }

def exact (value : UInt64) : RangeValue := between value value

def choosingMax (r : RangeValue) : RangeValue := { r with chooseMax := true }

def contains (r : RangeValue) (value : UInt64) : Bool :=
  r.min ≤ value && r.max.all (value ≤ ·)

def isEmpty (r : RangeValue) : Bool := r.max.any (· < r.min)

/-- The range that two ranges share, when there is one. -/
def overlap? (a b : RangeValue) : Option (UInt64 × Option UInt64) :=
  let min := Max.max a.min b.min
  let max := CountSpace.leastBound a.max b.max
  if max.any (· < min) then none else some (min, max)

/-- A range as diagnostics show it. -/
def text (r : RangeValue) : String :=
  match r.max with
  | some max => if max = r.min then toString r.min.toNat else s!"[{r.min.toNat}, {max.toNat}]"
  | none => s!"[{r.min.toNat}, unbounded)"

end RangeValue

end Testbed
