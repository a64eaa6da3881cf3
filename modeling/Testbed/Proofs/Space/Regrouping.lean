import Testbed.Proofs.Space.Nodes

/-!
# Regrouping

A requirement can be narrowed by one capability after the other, or by what the capabilities have in
common. For single dimensions, whose narrowing is a meet, both come to the same. For nodes the
second way can succeed alone: a required dimension that the first capability does not declare is
missing there, while the common capability takes it from the second. When the first way succeeds,
the second gives the same node.
-/
namespace Testbed

namespace Narrowing

variable {α : Type} [Narrowing α]

/-- Narrow `a` by `b` and the outcome by `c`. -/
def leftGrouped (a b c : α) : Except (List Reason) α := do
  let ab ← intersect a b
  intersect ab c

/-- Narrow `b` by `c` and then `a` by the outcome. -/
def rightGrouped (a b c : α) : Except (List Reason) α := do
  let bc ← intersect b c
  intersect a bc

theorem leftGrouped_ok {a b c narrowed : α} :
    leftGrouped a b c = .ok narrowed ↔
      ∃ ab, intersect a b = .ok ab ∧ intersect ab c = .ok narrowed :=
  bind_ok

theorem rightGrouped_ok {a b c narrowed : α} :
    rightGrouped a b c = .ok narrowed ↔
      ∃ bc, intersect b c = .ok bc ∧ intersect a bc = .ok narrowed :=
  bind_ok

/-- Both groupings give the same value, or both fail. -/
def Associative (α : Type) [Narrowing α] : Prop :=
  ∀ a b c : α,
    (∃ narrowed, leftGrouped a b c = .ok narrowed ∧ rightGrouped a b c = .ok narrowed) ∨
    (∃ reasons reasons', leftGrouped a b c = .error reasons ∧
      rightGrouped a b c = .error reasons')

theorem rightGrouped_of_left [LawfulNarrowing α] {a b c narrowed : α}
    (h : leftGrouped a b c = .ok narrowed) : rightGrouped a b c = .ok narrowed := by
  obtain ⟨ab, first, second⟩ := leftGrouped_ok.1 h
  exact rightGrouped_ok.2 (LawfulNarrowing.regroup first second)

end Narrowing

open Narrowing

namespace NarrowsByMeet

variable {α V : Type} [Narrowing α] [SemilatticeInf V] {meaning : α → V} {Leaves : V → Prop}
  {Settled : α → Prop}

/-- Narrowing that commutes can be regrouped the other way, through its mirror image. -/
theorem leftGrouped_of_right (meets : NarrowsByMeet meaning Leaves Settled) {a b c narrowed : α}
    (h : rightGrouped a b c = .ok narrowed) : leftGrouped a b c = .ok narrowed := by
  obtain ⟨bc, first, second⟩ := rightGrouped_ok.1 h
  obtain ⟨ba, first', second'⟩ := meets.lawful.regroup (meets.comm first) (meets.comm second)
  exact leftGrouped_ok.2 ⟨ba, meets.comm first', meets.comm second'⟩

theorem associative (meets : NarrowsByMeet meaning Leaves Settled) : Associative α := by
  have := meets.lawful
  intro a b c
  cases left : leftGrouped a b c with
  | ok narrowed => exact .inl ⟨narrowed, rfl, rightGrouped_of_left left⟩
  | error reasons =>
    cases right : rightGrouped a b c with
    | ok narrowed =>
      have impossible := meets.leftGrouped_of_right right
      rw [left] at impossible
      cases impossible
    | error reasons' => exact .inr ⟨reasons, reasons', rfl, rfl⟩

end NarrowsByMeet

/-- Narrowing is associative for counts, ranges and choices. For nodes, when narrowing by one
capability after the other succeeds, narrowing by both together gives an equal node, and the two
never give different ones. -/
theorem intersect_regroup :
    Associative CountSpace ∧ Associative RangeValue ∧
    (∀ (α : Type) [LT α] [StrictOrder α] [DecidableEq α] [Domain α], Associative (Choice α)) ∧
    (∀ a b c narrowed : NodeSpace,
      leftGrouped a b c = .ok narrowed → rightGrouped a b c = .ok narrowed) ∧
    ∀ a b c left right : NodeSpace,
      leftGrouped a b c = .ok left → rightGrouped a b c = .ok right → left = right := by
  refine ⟨CountSpace.narrowsByMeet.associative, RangeValue.narrowsByMeet.associative, ?_, ?_, ?_⟩
  · intro α _ _ _ _
    exact Choice.narrowsByMeet.associative
  · intro a b c narrowed
    exact rightGrouped_of_left
  · intro a b c left right first second
    exact Except.ok.inj ((rightGrouped_of_left first).symm.trans second)

/-- A dimension that the first capability does not declare lets only the second grouping through. -/
example :
    let sized : NodeSpace := { coreCount := some (.atLeast 2) }
    (leftGrouped sized {} sized).toOption = none ∧
      (rightGrouped sized {} sized).toOption.isSome = true := by decide +kernel

/-- Regrouping over a dimension and a feature that are left open, once on each side. -/
theorem intersect_regroup_open :
    let profile (items : List SecurityProfileType) (igvm : Option String) : FeatureMap :=
      Dict.empty.insert "security" (.securityProfile { profile := some (.of items), igvm })
    let a : NodeSpace :=
      { coreCount := some (.atLeast 3), features := Dict.empty.insert "security" .presence }
    let b : NodeSpace :=
      { coreCount := some (.oneOf [2, 4, 8])
        memoryMb := some (RangeValue.choosingMax (.atLeast 1024))
        features := profile [.standard, .secureBoot] none }
    let c : NodeSpace :=
      { coreCount := some (.between 1 6)
        memoryMb := some (.between 512 4096)
        diskType := some .any
        features := profile [.secureBoot, .confidential] (some "image") }
    ∃ narrowed, leftGrouped a b c = .ok narrowed ∧ rightGrouped a b c = .ok narrowed ∧
      narrowed.coreCount = some ⟨.ofList [4], 3, some 6, some 4⟩ ∧
      narrowed.memoryMb = some ⟨1024, some 4096, some 4096, true⟩ := by
  intro profile a b c
  obtain ⟨-, -, -, nodes, -⟩ := intersect_regroup
  have grouped : leftGrouped a b c = .ok
      { coreCount := some ⟨.ofList [4], 3, some 6, some 4⟩
        memoryMb := some ⟨1024, some 4096, some 4096, true⟩
        diskType := some { (.any : Choice DiskType) with current := some .standardHdd }
        features := Dict.empty.insert "security" (.securityProfile
          { profile := some { (.of [.secureBoot] : Choice SecurityProfileType) with
              current := some .secureBoot }
            igvm := some "image" }) } := by decide +kernel
  exact ⟨_, grouped, nodes a b c _ grouped, rfl, rfl⟩

end Testbed
