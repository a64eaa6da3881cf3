import Testbed.Proofs.Capability.Choices
import Testbed.Proofs.Capability.Counts
import Testbed.Proofs.Capability.Ranges

/-!
# Picks

Narrowing a dimension picks one of the values that both sides allow, the one that is preferred among
them. It pays no attention to what an earlier narrowing had picked of either side.
-/
namespace Testbed

open Narrowing

/-- Dimensions that narrowing picks a value of. -/
class Picking (δ : Type) (ν : outParam Type) where
  current : δ → Option ν
  Allows : δ → ν → Prop
  /-- Narrowing the first by the second should pick the one value rather than the other. -/
  Prefers (required offered : δ) (value other : ν) : Prop

/-- The value picked of a narrowed dimension is allowed by both sides, and no other value that is
allowed by both is preferred to it. -/
structure BestPick {δ ν : Type} [Picking δ ν] (required offered narrowed : δ) (value : ν) :
    Prop where
  picked : Picking.current narrowed = some value
  wanted : Picking.Allows required value
  given : Picking.Allows offered value
  preferred : ∀ other, Picking.Allows required other → Picking.Allows offered other →
    Picking.Prefers required offered value other

/-- Dimensions of which narrowing always picks the best value. -/
class LawfulPicking (δ : Type) {ν : Type} [Narrowing δ] [Picking δ ν] : Prop where
  best {required offered narrowed : δ} :
    intersect required offered = .ok narrowed → ∃ value, BestPick required offered narrowed value

/-- An optional dimension is there only where it is offered, with the best value picked. An absent
requirement acts as the offered dimension does. -/
def DimensionPicked {δ ν : Type} [Picking δ ν] (required offered narrowed : Option δ) : Prop :=
  ∀ n, narrowed = some n → ∃ c, offered = some c ∧ ∃ value, BestPick (required.getD c) c n value

theorem dimensionPicked {δ ν : Type} [Narrowing δ] [Picking δ ν] [LawfulPicking δ]
    {required offered narrowed : Option δ} (h : intersect required offered = .ok narrowed) :
    DimensionPicked required offered narrowed := by
  rintro n rfl
  cases offered with
  | none => cases (intersectDimension_none_ok.1 h).2
  | some c =>
    obtain ⟨m, value, same⟩ := intersectDimension_some_ok.1 h
    obtain rfl := Option.some.inj same
    exact ⟨c, rfl, LawfulPicking.best value⟩

/-- Values that hold picks of earlier narrowings, which can be dropped. -/
class HasPicks (α : Type) where
  unpicked : α → α

/-- Narrowing comes to the same without the picks of earlier narrowings. -/
class HeedsNoPick (α : Type) [Narrowing α] [HasPicks α] : Prop where
  intersect_unpicked (required offered narrowed : α) :
    intersect (HasPicks.unpicked required) (HasPicks.unpicked offered) = .ok narrowed ↔
      intersect required offered = .ok narrowed

open HasPicks HeedsNoPick

section Option

variable {α : Type} [Narrowing α] [HasPicks α] [HeedsNoPick α]

instance : HasPicks (Option α) := ⟨Option.map unpicked⟩

instance : HeedsNoPick (Option α) where
  intersect_unpicked := by
    rintro required (_ | offered) narrowed
    · have absent : unpicked required = none ↔ required = none := Option.map_eq_none_iff
      exact intersectDimension_none_ok.trans
        ((and_congr_left' absent).trans intersectDimension_none_ok.symm)
    · have acting : (unpicked required).getD (unpicked offered) =
          unpicked (required.getD offered) := by
        cases required <;> rfl
      refine intersectDimension_some_ok.trans (Iff.trans ?_ intersectDimension_some_ok.symm)
      simp only [acting, intersect_unpicked]

theorem fits_unpicked {required offered : α} :
    Fits (unpicked required) (unpicked offered) ↔ Fits required offered :=
  exists_congr (intersect_unpicked required offered)

end Option

/-- What stands for the same elements narrows alike. -/
theorem NarrowsByMeet.heedsNoPick {α V : Type} [Narrowing α] [SemilatticeInf V] {meaning : α → V}
    {Leaves : V → Prop} {Settled : α → Prop} (meets : NarrowsByMeet meaning Leaves Settled)
    [HasPicks α] (same : ∀ a : α, meaning (unpicked a) = meaning a) : HeedsNoPick α where
  intersect_unpicked required offered narrowed := by
    rw [meets.intersect_ok, meets.intersect_ok, same, same]

namespace CountSpace

/-- The smallest count is preferred. -/
instance : Picking CountSpace UInt32 where
  current := CountSpace.current
  Allows := Allows
  Prefers _ _ value other := value ≤ other

instance : LawfulPicking CountSpace where
  best h := by
    obtain ⟨settled, same⟩ := narrowsByMeet.sound h
    obtain ⟨least, picked, allowed, minimal⟩ := settled.picked
    have allows := congrFun (congrArg Prod.fst same)
    have common := (iff_of_eq (allows least)).1 allowed
    refine ⟨least, picked, common.1, common.2, fun other required offered => ?_⟩
    exact minimal other ((iff_of_eq (allows other)).2 ⟨required, offered⟩)

def unpicked (s : CountSpace) : CountSpace := { s with current := none }

instance : HasPicks CountSpace := ⟨unpicked⟩

instance : HeedsNoPick CountSpace := narrowsByMeet.heedsNoPick (fun _ => rfl)

end CountSpace

namespace RangeValue

/-- The highest value of a range that has an upper end is preferred if one side asks for that, else
the lowest. -/
instance : Picking RangeValue UInt64 where
  current := RangeValue.current
  Allows r value := r.contains value
  Prefers required offered value other :=
    if (required.chooseMax || offered.chooseMax) && (required.max.isSome || offered.max.isSome) then
      other ≤ value
    else value ≤ other

/-- The chosen end is in the range, and nothing in the range is beyond it. -/
theorem chosenEnd_best {r : RangeValue} (proper : r.span.Proper) :
    r.contains r.chosenEnd ∧ ∀ other, r.contains other →
      if r.chooseMax && r.max.isSome then other ≤ r.chosenEnd else r.chosenEnd ≤ other := by
  have ordered := isEmpty_iff.2 proper
  obtain ⟨min, max, current, choose⟩ := r
  cases choose <;> cases max <;>
    simp_all [isEmpty, contains, chosenEnd, UInt64.le_iff_toNat_le, UInt64.lt_iff_toNat_lt]

theorem contains_overlap {a b : RangeValue} {value : UInt64} :
    (overlap a b).contains value ↔ a.contains value ∧ b.contains value := by
  simp only [contains_iff, span_overlap, le_inf_iff]

instance : LawfulPicking RangeValue where
  best {required offered narrowed} h := by
    obtain ⟨proper, rfl⟩ := intersect_ok.1 h
    rw [← span_overlap] at proper
    obtain ⟨inside, furthest⟩ := chosenEnd_best proper
    obtain ⟨allowed, given⟩ := contains_overlap.1 inside
    have bounded : (overlap required offered).max.isSome =
        (required.max.isSome || offered.max.isSome) := by
      unfold overlap
      cases required.max <;> cases offered.max <;> rfl
    refine ⟨_, rfl, allowed, given, fun other allowed' given' => ?_⟩
    have beyond := furthest other (contains_overlap.2 ⟨allowed', given'⟩)
    rw [bounded] at beyond
    exact beyond

def unpicked (r : RangeValue) : RangeValue := { r with current := none }

instance : HasPicks RangeValue := ⟨unpicked⟩

instance : HeedsNoPick RangeValue := narrowsByMeet.heedsNoPick (fun _ => rfl)

end RangeValue

namespace Choice

variable {α : Type} [LT α] [DecidableEq α] [Domain α]

/-- A member that ranks before the others is preferred. -/
instance : Picking (Choice α) α where
  current := Choice.current
  Allows c value := value ∈ c.items
  Prefers _ _ value other := Domain.rank value ≤ Domain.rank other

instance : LawfulPicking (Choice α) where
  best {required offered narrowed} h := by
    obtain ⟨⟨value, wanted, given⟩, rfl⟩ := intersect_ok.1 h
    obtain ⟨best, picked⟩ := preferred_of_mem (c := ⟨required.items.inter offered.items, none⟩)
      (SortedSet.mem_inter.2 ⟨wanted, given⟩)
    obtain ⟨member, first⟩ := preferred_first picked
    obtain ⟨wanted, given⟩ := SortedSet.mem_inter.1 member
    exact ⟨best, picked, wanted, given,
      fun other wanted' given' => first other (SortedSet.mem_inter.2 ⟨wanted', given'⟩)⟩

def unpicked (c : Choice α) : Choice α := { c with current := none }

instance : HasPicks (Choice α) := ⟨unpicked⟩

instance [StrictOrder α] : HeedsNoPick (Choice α) := narrowsByMeet.heedsNoPick (fun _ => rfl)

end Choice

end Testbed
