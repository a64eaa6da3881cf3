import Testbed.Data.SortedSet

/-!
# Count spaces

The allowed counts of a countable dimension: bounds, and optionally a list of counts within them.
-/
namespace Testbed

/-- Allowed counts. Without explicit counts every value within the bounds is allowed, otherwise
only the listed ones within the bounds. -/
structure CountSpace where
  counts : SortedSet UInt32 := ∅
  min : UInt32 := 0
  max : Option UInt32 := none
  /-- The count picked by the last intersection. -/
  current : Option UInt32 := none
  deriving DecidableEq

namespace CountSpace

def exact (count : UInt32) : CountSpace :=
  { counts := .ofList [count], min := count, max := some count }

def atLeast (min : UInt32) : CountSpace := { min }

def between (min max : UInt32) : CountSpace := { min, max := some max }

def oneOf (counts : List UInt32) : CountSpace := { counts := .ofList counts }

def inBounds (s : CountSpace) (value : UInt32) : Bool :=
  s.min ≤ value && s.max.all (value ≤ ·)

/-- The explicit counts within the bounds. -/
def boundedCounts (s : CountSpace) : SortedSet UInt32 := s.counts.filter s.inBounds

/-- Whether nothing is allowed. -/
def isEmpty (s : CountSpace) : Bool :=
  s.max.any (· < s.min) || (!s.counts.isEmpty && s.boundedCounts.isEmpty)

/-- The smaller of two upper bounds; an absent bound is no bound. -/
def leastBound {α : Type} [Min α] : Option α → Option α → Option α
  | some a, some b => some (Min.min a b)
  | some a, none => some a
  | none, b => b

/-- The explicit counts that two spaces leave; an empty list of one side is no restriction. -/
def commonCounts (a b : SortedSet UInt32) : SortedSet UInt32 :=
  if a.isEmpty then b else if b.isEmpty then a else a.inter b

/-- What two spaces both allow. When explicit counts were given and none is left, the bounds are
made contradictory, since a space without counts would allow everything within its bounds. -/
def narrow (a b : CountSpace) : CountSpace :=
  let joined : CountSpace :=
    { counts := commonCounts a.counts b.counts
      min := Max.max a.min b.min
      max := leastBound a.max b.max }
  let explicit := !(a.counts.isEmpty && b.counts.isEmpty)
  let counts := joined.boundedCounts
  if explicit && counts.isEmpty then { counts, min := 1, max := some 0 }
  else { joined with counts }

/-- The smallest allowed count of a space that allows one. -/
def smallest (s : CountSpace) : UInt32 := s.counts.least?.getD s.min

/-- A space as diagnostics show it. -/
def text (s : CountSpace) : String :=
  if s.counts.isEmpty then
    match s.max with
    | some max => if max = s.min then toString s.min.toNat else s!"[{s.min.toNat}, {max.toNat}]"
    | none => s!"[{s.min.toNat}, unbounded)"
  else "\x7b" ++ ", ".intercalate (s.counts.toList.map (fun c => toString c.toNat)) ++ "\x7d"

end CountSpace

end Testbed
