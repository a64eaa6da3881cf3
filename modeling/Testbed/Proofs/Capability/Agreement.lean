import Testbed.Capability.Narrowing

/-!
# Checks agree with narrowing

A check goes on after an obstacle and a narrowing stops there. They agree when the narrowing
succeeds exactly if the check has nothing to say, and otherwise stops with the first of the reasons
that the check collects, of which there is at least one. Agreement is kept by the steps that checks
and narrowings are put together from, so it need only be shown of single dimensions.
-/
namespace Testbed

/-- The reasons that a check collects, and the outcome of the narrowing that stops early. -/
def Agree {α : Type} (collected : List Reason) : Except (List Reason) α → Prop
  | .ok _ => collected = []
  | .error reasons => reasons ≠ [] ∧ reasons <+: collected

namespace Agree

variable {α β : Type}

theorem ok (value : α) : Agree [] (.ok value) := rfl

theorem error {reasons : List Reason} (some : reasons ≠ []) :
    Agree reasons (.error reasons : Except (List Reason) α) :=
  ⟨some, List.prefix_refl reasons⟩

theorem bind {first second : List Reason} {outcome : Except (List Reason) α}
    {next : α → Except (List Reason) β} (here : Agree first outcome)
    (rest : ∀ value, Agree second (next value)) : Agree (first ++ second) (outcome >>= next) := by
  cases outcome with
  | ok value =>
    obtain rfl : first = [] := here
    exact rest value
  | error reasons => exact ⟨here.1, here.2.trans (List.prefix_append _ _)⟩

theorem map {collected : List Reason} {outcome : Except (List Reason) α} (f : α → β)
    (h : Agree collected outcome) : Agree collected (outcome.map f) := by
  cases outcome with
  | ok value => exact h
  | error reasons => exact h

theorem within {collected : List Reason} {outcome : Except (List Reason) α} (name : String)
    (h : Agree collected outcome) :
    Agree (withinDimension name collected) (outcome.mapError (withinDimension name)) := by
  cases outcome with
  | ok value =>
    obtain rfl : collected = [] := h
    exact ok value
  | error reasons =>
    obtain ⟨some, first⟩ := h
    exact ⟨by simpa [withinDimension] using some, first.map _⟩

theorem foldlM {collect : α → List Reason} {step : β → α → Except (List Reason) β}
    (each : ∀ held item, Agree (collect item) (step held item)) :
    ∀ (items : List α) (start : β), Agree (items.flatMap collect) (items.foldlM step start)
  | [], start => ok start
  | item :: rest, start => bind (each start item) (foldlM each rest)

/-- A narrowing that starts with its check. -/
theorem guarded (collected : List Reason) (value : α) :
    Agree collected (do requireNone collected; return value) := by
  cases collected with
  | nil => exact ok value
  | cons reason rest => exact error (List.cons_ne_nil reason rest)

theorem ok_iff {collected : List Reason} {outcome : Except (List Reason) α}
    (h : Agree collected outcome) : (∃ value, outcome = .ok value) ↔ collected = [] := by
  cases outcome with
  | ok value => exact ⟨fun _ => h, fun _ => ⟨value, rfl⟩⟩
  | error reasons =>
    obtain ⟨some, first⟩ := h
    constructor
    · rintro ⟨value, impossible⟩
      cases impossible
    · rintro rfl
      exact absurd (List.prefix_nil.1 first) some

/-- A narrowing that fails does so with some of the reasons, in the words of the check. -/
theorem of_error {collected reasons : List Reason} {outcome : Except (List Reason) α}
    (h : Agree collected outcome) (failed : outcome = .error reasons) :
    reasons ≠ [] ∧ reasons <+: collected ∧
      reasons.map Reason.text <+: collected.map Reason.text := by
  subst failed
  exact ⟨h.1, h.2, h.2.map Reason.text⟩

/-- What is held against itself for a wildcard has one reason for all its obstacles. -/
theorem wildcard {collected : List Reason} {outcome : Except (List Reason) α}
    (h : Agree collected outcome) :
    Agree (if collected.isEmpty then [] else [.unusable])
      (outcome.mapError (fun _ => [.unusable])) := by
  cases outcome with
  | ok narrowed =>
    obtain rfl : collected = [] := h
    exact ok narrowed
  | error reasons =>
    have some : collected ≠ [] := fun none => nomatch h.ok_iff.2 none
    rw [if_neg (by simpa using some)]
    exact error (List.cons_ne_nil _ _)

end Agree

namespace Narrowing

/-- A narrowing succeeds exactly if the check has no reasons, and what it fails with is a first part
of the reasons that the check has, at least one of them. -/
def Follows {α : Type} (check : α → α → List Reason)
    (intersect : α → α → Except (List Reason) α) : Prop :=
  ∀ required offered : α,
    ((∃ narrowed, intersect required offered = .ok narrowed) ↔ check required offered = []) ∧
    ∀ reasons, intersect required offered = .error reasons →
      reasons ≠ [] ∧ reasons <+: check required offered ∧
        reasons.map Reason.text <+: (check required offered).map Reason.text

/-- The narrowing of values follows their check, and so it does for optional dimensions. -/
def Consistent (α : Type) [Narrowing α] : Prop :=
  Follows (check : α → α → List Reason) intersect ∧
    Follows (checkDimension : Option α → Option α → List Reason) intersectDimension

/-- Check and narrowing agree for every pair of values. -/
def Agrees (α : Type) [Narrowing α] : Prop :=
  ∀ required offered : α, Agree (check required offered) (intersect required offered)

variable {α : Type} [Narrowing α]

theorem narrowWildcard_eq (offered : α) :
    narrowWildcard offered = (intersect offered offered).mapError (fun _ => [.unusable]) := by
  unfold narrowWildcard
  cases intersect offered offered <;> rfl

theorem Agrees.wildcard (agrees : Agrees α) (offered : α) :
    Agree (checkWildcard offered) (narrowWildcard offered) := by
  rw [narrowWildcard_eq]
  exact (agrees offered offered).wildcard

theorem Agrees.dimension (agrees : Agrees α) :
    ∀ required offered : Option α,
      Agree (checkDimension required offered) (intersectDimension required offered)
  | none, none => .ok none
  | none, some offered => (agrees.wildcard offered).map some
  | some _, none => .error (List.cons_ne_nil _ _)
  | some required, some offered => (agrees required offered).map some

theorem Agrees.consistent (agrees : Agrees α) : Consistent α := by
  constructor
  · intro required offered
    exact ⟨(agrees required offered).ok_iff, fun _ => (agrees required offered).of_error⟩
  · intro required offered
    have agree := agrees.dimension required offered
    exact ⟨agree.ok_iff, fun _ => agree.of_error⟩

theorem Agrees.withinName (agrees : Agrees α) (name : String) (required offered : Option α) :
    Agree (checkWithin name required offered) (intersectWithin name required offered) :=
  (agrees.dimension required offered).within name

end Narrowing

open Narrowing

theorem CountSpace.agrees : Agrees CountSpace := fun required offered =>
  .guarded (required.check offered) _

theorem RangeValue.agrees : Agrees RangeValue := fun required offered =>
  .guarded (required.check offered) _

theorem Choice.agrees {α : Type} [LT α] [DecidableEq α] [Domain α] : Agrees (Choice α) :=
  fun required offered => .guarded (required.check offered) _

theorem Fixed.agrees {α : Type} [DecidableEq α] [Shown α] : Agrees (Fixed α) :=
  fun required offered => .guarded (required.check offered) _

end Testbed
