import Mathlib.Order.Lattice
import Testbed.Capability.Narrowing
import Testbed.Proofs.Outcomes

/-!
# The laws of narrowing

What every type of values promises about narrowing, whether it stands for a single dimension or for
a whole node: narrowing a second time by the same capability changes nothing, a value that was
narrowed fits nothing that did not fit before, and two capabilities can be put together before a
requirement is narrowed by them.

An optional dimension follows the laws when its values do: an absent requirement acts as the
capability itself. A type whose values stand for the elements of a meet-semilattice, so that
narrowing is the meet, follows them too, and its narrowing commutes.
-/
namespace Testbed

section Checks

variable {α : Type}

/-- A narrowing that is guarded by its check succeeds when the check has no reasons. -/
theorem requireNone_ok {reasons : List Reason} {value narrowed : α} :
    (do requireNone reasons; return value : Except (List Reason) α) = .ok narrowed ↔
      reasons = [] ∧ value = narrowed := by
  cases reasons <;> simp [requireNone]

/-- A check that refuses what is empty on either side, and then goes on. -/
theorem guards_nil {first second : Bool} {reason reason' : Reason} {rest : List Reason} :
    (if first then [reason] else if second then [reason'] else rest) = [] ↔
      first = false ∧ second = false ∧ rest = [] := by
  cases first <;> cases second <;> simp

end Checks

namespace Narrowing

variable {α : Type} [Narrowing α]

/-- A requirement can be narrowed by a capability. -/
def Fits (required offered : α) : Prop := ∃ narrowed, intersect required offered = .ok narrowed

end Narrowing

open Narrowing

/-- Narrowing that can be repeated and regrouped. -/
class LawfulNarrowing (α : Type) [Narrowing α] : Prop where
  /-- A capability that fits something allows something. -/
  usable {required offered : α} : Fits required offered → Fits offered offered
  again {required offered narrowed : α} :
    intersect required offered = .ok narrowed → intersect narrowed offered = .ok narrowed
  absorb {required offered narrowed : α} :
    intersect required offered = .ok narrowed → intersect required narrowed = .ok narrowed
  /-- Narrowing a requirement makes nothing fit that did not fit before. -/
  fits_of_narrowed {required offered narrowed other : α} :
    intersect required offered = .ok narrowed → Fits narrowed other → Fits required other
  regroup {a b c ab narrowed : α} :
    intersect a b = .ok ab → intersect ab c = .ok narrowed →
      ∃ bc, intersect b c = .ok bc ∧ intersect a bc = .ok narrowed

namespace LawfulNarrowing

variable {α : Type} [Narrowing α] [LawfulNarrowing α]

theorem self {required offered narrowed : α} (h : intersect required offered = .ok narrowed) :
    intersect narrowed narrowed = .ok narrowed :=
  absorb (again h)

/-- Regrouping where the first requirement is absent and takes the second as it is. -/
theorem regroup_wildcard {b c bb narrowed : α} (first : intersect b b = .ok bb)
    (second : intersect bb c = .ok narrowed) :
    intersect b c = .ok narrowed ∧ intersect narrowed narrowed = .ok narrowed := by
  obtain ⟨bc, together, regrouped⟩ := regroup first second
  have same : bc = narrowed := Except.ok.inj ((absorb together).symm.trans regrouped)
  subst same
  exact ⟨together, self together⟩

end LawfulNarrowing

namespace Narrowing

variable {α : Type} [Narrowing α]

/-- An optional dimension narrows as a value of its own. -/
instance : Narrowing (Option α) := ⟨checkDimension, intersectDimension⟩

theorem narrowWildcard_ok {offered narrowed : α} :
    narrowWildcard offered = .ok narrowed ↔ intersect offered offered = .ok narrowed := by
  unfold narrowWildcard
  cases intersect offered offered <;> simp

/-- An absent requirement takes the capability narrowed by itself. -/
theorem intersectDimension_some_ok {required narrowed : Option α} {offered : α} :
    intersectDimension required (some offered) = .ok narrowed ↔
      ∃ n, intersect (required.getD offered) offered = .ok n ∧ some n = narrowed := by
  cases required with
  | none =>
    simp only [intersectDimension, map_ok, narrowWildcard_ok]
    rfl
  | some value => exact map_ok

theorem intersectDimension_none_ok {required narrowed : Option α} :
    intersectDimension required none = .ok narrowed ↔ required = none ∧ narrowed = none := by
  cases required with
  | none => simp [intersectDimension, eq_comm]
  | some value => simp [intersectDimension]

/-- An absent requirement acts as what is offered. -/
theorem intersectDimension_absent_ok {offered narrowed : Option α} :
    intersectDimension none offered = .ok narrowed ↔
      intersectDimension offered offered = .ok narrowed := by
  cases offered with
  | none => rfl
  | some value =>
    rw [intersectDimension_some_ok, intersectDimension_some_ok]
    rfl

theorem intersectWithin_ok {name : String} {required offered narrowed : Option α} :
    intersectWithin name required offered = .ok narrowed ↔
      intersect required offered = .ok narrowed :=
  mapError_ok

variable [LawfulNarrowing α]

open LawfulNarrowing

instance : LawfulNarrowing (Option α) where
  usable := by
    rintro required (_ | offered) ⟨narrowed, h⟩
    · exact ⟨none, rfl⟩
    · obtain ⟨n, value, -⟩ := intersectDimension_some_ok.1 h
      obtain ⟨m, self⟩ := usable ⟨n, value⟩
      exact ⟨some m, intersectDimension_some_ok.2 ⟨m, self, rfl⟩⟩
  again := by
    rintro required (_ | offered) narrowed h
    · obtain ⟨-, rfl⟩ := intersectDimension_none_ok.1 h
      rfl
    · obtain ⟨n, value, rfl⟩ := intersectDimension_some_ok.1 h
      exact intersectDimension_some_ok.2 ⟨n, again value, rfl⟩
  absorb := by
    rintro required (_ | offered) narrowed h
    · obtain ⟨rfl, rfl⟩ := intersectDimension_none_ok.1 h
      rfl
    · obtain ⟨n, value, rfl⟩ := intersectDimension_some_ok.1 h
      refine intersectDimension_some_ok.2 ⟨n, ?_, rfl⟩
      cases required with
      | none => exact self value
      | some r => exact absorb value
  fits_of_narrowed := by
    rintro required offered narrowed (_ | other) h ⟨m, fitted⟩
    · obtain ⟨rfl, -⟩ := intersectDimension_none_ok.1 fitted
      cases offered with
      | none =>
        obtain ⟨rfl, -⟩ := intersectDimension_none_ok.1 h
        exact ⟨none, rfl⟩
      | some o =>
        obtain ⟨n, -, absurd⟩ := intersectDimension_some_ok.1 h
        cases absurd
    · obtain ⟨k, value, -⟩ := intersectDimension_some_ok.1 fitted
      have fits : Fits (required.getD other) other := by
        cases required with
        | none => exact usable ⟨k, value⟩
        | some r =>
          cases offered with
          | none => cases (intersectDimension_none_ok.1 h).1
          | some o =>
            obtain ⟨n, first, rfl⟩ := intersectDimension_some_ok.1 h
            exact fits_of_narrowed first ⟨k, value⟩
      obtain ⟨j, result⟩ := fits
      exact ⟨some j, intersectDimension_some_ok.2 ⟨j, result, rfl⟩⟩
  regroup := by
    rintro a b (_ | c) ab narrowed first second
    · obtain ⟨rfl, rfl⟩ := intersectDimension_none_ok.1 second
      cases b with
      | none => exact ⟨none, rfl, first⟩
      | some b =>
        obtain ⟨n, -, absurd⟩ := intersectDimension_some_ok.1 first
        cases absurd
    · obtain ⟨n, value, rfl⟩ := intersectDimension_some_ok.1 second
      cases b with
      | none =>
        obtain ⟨rfl, rfl⟩ := intersectDimension_none_ok.1 first
        exact ⟨some n, second, intersectDimension_some_ok.2 ⟨n, self value, rfl⟩⟩
      | some b =>
        obtain ⟨m, inner, rfl⟩ := intersectDimension_some_ok.1 first
        cases a with
        | none =>
          obtain ⟨together, alone⟩ := regroup_wildcard inner value
          exact ⟨some n, intersectDimension_some_ok.2 ⟨n, together, rfl⟩,
            intersectDimension_some_ok.2 ⟨n, alone, rfl⟩⟩
        | some a =>
          obtain ⟨bc, together, regrouped⟩ := regroup inner value
          exact ⟨some bc, intersectDimension_some_ok.2 ⟨bc, together, rfl⟩,
            intersectDimension_some_ok.2 ⟨n, regrouped, rfl⟩⟩

end Narrowing

/-- Values stand for elements of a semilattice, and narrowing is the meet: it gives the one settled
value that stands for the meet, and gives one whenever the meet leaves something. -/
structure NarrowsByMeet {α V : Type} [Narrowing α] [SemilatticeInf V] (meaning : α → V)
    (Leaves : V → Prop) (Settled : α → Prop) : Prop where
  leaves_mono {x y : V} : x ≤ y → Leaves x → Leaves y
  settled_leaves {narrowed : α} : Settled narrowed → Leaves (meaning narrowed)
  settled_inj {a b : α} : Settled a → Settled b → meaning a = meaning b → a = b
  total {a b : α} : Leaves (meaning a ⊓ meaning b) → Fits a b
  sound {a b narrowed : α} :
    intersect a b = .ok narrowed → Settled narrowed ∧ meaning narrowed = meaning a ⊓ meaning b

namespace NarrowsByMeet

variable {α V : Type} [Narrowing α] [SemilatticeInf V] {meaning : α → V} {Leaves : V → Prop}
  {Settled : α → Prop}

theorem fits_iff (meets : NarrowsByMeet meaning Leaves Settled) {a b : α} :
    Fits a b ↔ Leaves (meaning a ⊓ meaning b) := by
  constructor
  · rintro ⟨narrowed, h⟩
    obtain ⟨settled, same⟩ := meets.sound h
    exact same ▸ meets.settled_leaves settled
  · exact meets.total

theorem intersect_ok (meets : NarrowsByMeet meaning Leaves Settled) {a b narrowed : α} :
    intersect a b = .ok narrowed ↔ Settled narrowed ∧ meaning narrowed = meaning a ⊓ meaning b := by
  constructor
  · exact meets.sound
  · rintro ⟨settled, same⟩
    obtain ⟨n, h⟩ := meets.total (same ▸ meets.settled_leaves settled)
    obtain ⟨settled', same'⟩ := meets.sound h
    rw [h, meets.settled_inj settled' settled (same'.trans same.symm)]

theorem comm (meets : NarrowsByMeet meaning Leaves Settled) {a b narrowed : α}
    (h : intersect a b = .ok narrowed) : intersect b a = .ok narrowed := by
  obtain ⟨settled, same⟩ := meets.sound h
  exact meets.intersect_ok.2 ⟨settled, same.trans (inf_comm _ _)⟩

theorem lawful (meets : NarrowsByMeet meaning Leaves Settled) : LawfulNarrowing α where
  usable fits := by
    rw [meets.fits_iff] at fits ⊢
    rw [inf_idem]
    exact meets.leaves_mono inf_le_right fits
  again h := by
    obtain ⟨settled, same⟩ := meets.sound h
    refine meets.intersect_ok.2 ⟨settled, ?_⟩
    rw [same, inf_assoc, inf_idem]
  absorb h := by
    obtain ⟨settled, same⟩ := meets.sound h
    refine meets.intersect_ok.2 ⟨settled, ?_⟩
    rw [same, inf_left_idem]
  fits_of_narrowed h fits := by
    obtain ⟨-, same⟩ := meets.sound h
    rw [meets.fits_iff] at fits ⊢
    rw [same] at fits
    exact meets.leaves_mono (inf_le_inf_right _ inf_le_left) fits
  regroup := by
    intro a b c ab narrowed first second
    obtain ⟨-, inner⟩ := meets.sound first
    obtain ⟨settled, outer⟩ := meets.sound second
    have whole : meaning narrowed = meaning a ⊓ (meaning b ⊓ meaning c) := by
      rw [outer, inner, inf_assoc]
    have together : Fits b c := by
      refine meets.total (meets.leaves_mono ?_ (meets.settled_leaves settled))
      exact whole ▸ inf_le_right
    obtain ⟨bc, ok⟩ := together
    refine ⟨bc, ok, meets.intersect_ok.2 ⟨settled, ?_⟩⟩
    rw [whole, (meets.sound ok).2]

end NarrowsByMeet

end Testbed
