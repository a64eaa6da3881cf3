import Mathlib.Order.ConditionallyCompleteLattice.Basic
import Testbed.Proofs.Capability.Laws

/-!
# Choices and fixed values

A choice stands for the set of its members and a fixed value for the set of it alone. Narrowing is
the intersection; of a choice it picks the member that comes first in the order of preference.
-/
namespace Testbed

namespace Choice

variable {α : Type} [LT α] [DecidableEq α] [Domain α]

/-- What is preferred is a member, and no member ranks before it. -/
theorem preferred_first {c : Choice α} {a : α} (h : c.preferred = some a) :
    a ∈ c.items ∧ ∀ b ∈ c.items, Domain.rank a ≤ Domain.rank b := by
  refine ⟨List.minOn?_mem h, fun b member => ?_⟩
  have least := List.apply_get_minOn?_le_of_mem (f := Domain.rank) member
  have picked : c.items.toList.minOn? Domain.rank = some a := h
  simpa only [picked, Option.get_some] using least

theorem preferred_of_mem {c : Choice α} {b : α} (member : b ∈ c.items) :
    ∃ a, c.preferred = some a :=
  Option.isSome_iff_exists.1 (List.isSome_minOn?_of_mem member)

/-- A check has no reasons exactly if the sets have a common member: that neither is empty then
follows. -/
theorem check_nil {a b : Choice α} :
    a.check b = [] ↔ ∃ value, value ∈ a.items ∧ value ∈ b.items := by
  have common : (if (a.items.inter b.items).isEmpty then
        [Reason.choicesDisjoint a.labels b.labels] else []) = [] ↔
      ∃ value, value ∈ a.items ∧ value ∈ b.items := by
    simp only [← SortedSet.mem_inter, ← SortedSet.isEmpty_eq_false_iff]
    simp
  unfold check
  rw [guards_nil, SortedSet.isEmpty_eq_false_iff, SortedSet.isEmpty_eq_false_iff, common]
  constructor
  · rintro ⟨-, -, both⟩
    exact both
  · rintro ⟨value, wanted, given⟩
    exact ⟨⟨value, given⟩, ⟨value, wanted⟩, value, wanted, given⟩

theorem intersect_ok {a b narrowed : Choice α} :
    a.intersect b = .ok narrowed ↔ (∃ value, value ∈ a.items ∧ value ∈ b.items) ∧
      { items := a.items.inter b.items
        current := preferred { items := a.items.inter b.items } } = narrowed := by
  unfold intersect
  rw [requireNone_ok, check_nil]

/-- What narrowing gives: a member is left, and the one that is preferred is picked. -/
structure Settled (c : Choice α) : Prop where
  inhabited : ∃ value, value ∈ c.items
  picked : c.current = c.preferred

/-- A choice up to its pick. -/
def meaning (c : Choice α) (value : α) : Prop := value ∈ c.items

variable [StrictOrder α]

theorem narrowsByMeet :
    NarrowsByMeet (meaning : Choice α → α → Prop) (fun m => ∃ value, m value) Settled where
  leaves_mono below := fun ⟨value, left⟩ => ⟨value, below value left⟩
  settled_leaves settled := settled.inhabited
  settled_inj := by
    rintro ⟨items, current⟩ ⟨items', current'⟩ left right same
    obtain rfl : items = items' :=
      SortedSet.eq_of_mem (fun value => iff_of_eq (congrFun same value))
    obtain rfl : current = current' := left.picked.trans right.picked.symm
    rfl
  total := by
    intro a b common
    exact ⟨_, intersect_ok.2 ⟨common, rfl⟩⟩
  sound := by
    intro a b narrowed h
    obtain ⟨common, rfl⟩ := intersect_ok.1 h
    refine ⟨⟨?_, rfl⟩, funext (fun value => propext SortedSet.mem_inter)⟩
    exact common.imp (fun value => SortedSet.mem_inter.2)

instance : LawfulNarrowing (Choice α) := narrowsByMeet.lawful

end Choice

namespace Fixed

variable {α : Type} [DecidableEq α] [Shown α]

theorem check_nil {a b : Fixed α} : a.check b = [] ↔ a.value = b.value := by
  unfold check
  split <;> simp_all

theorem intersect_ok {a b narrowed : Fixed α} :
    a.intersect b = .ok narrowed ↔ a.value = b.value ∧ b = narrowed := by
  unfold intersect
  rw [requireNone_ok, check_nil]

/-- The set of a fixed value alone. -/
def meaning (f : Fixed α) (value : α) : Prop := value = f.value

theorem narrowsByMeet :
    NarrowsByMeet (meaning : Fixed α → α → Prop) (fun m => ∃ value, m value) (fun _ => True) where
  leaves_mono below := fun ⟨value, left⟩ => ⟨value, below value left⟩
  settled_leaves {narrowed} _ := ⟨narrowed.value, rfl⟩
  settled_inj := by
    rintro ⟨a⟩ ⟨b⟩ - - same
    exact congrArg Fixed.mk ((congrFun same a).mp rfl)
  total := by
    rintro a b ⟨value, left, right⟩
    exact ⟨b, intersect_ok.2 ⟨left.symm.trans right, rfl⟩⟩
  sound := by
    intro a b narrowed h
    obtain ⟨same, rfl⟩ := intersect_ok.1 h
    refine ⟨trivial, ?_⟩
    unfold meaning
    rw [same]
    exact (inf_idem _).symm

instance : LawfulNarrowing (Fixed α) := narrowsByMeet.lawful

end Fixed

end Testbed
