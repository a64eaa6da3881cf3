import Testbed.Proofs.Capability.Agreement
import Testbed.Space.EnvironmentSpace

/-!
# Checks of spaces agree with their narrowing

Agreement carries over from single dimensions to the settings of features, to maps of features, to
nodes and to whole environments. An environment's check and its narrowing assign the nodes by the
same function, so there it is enough that an assignment never fails without a reason.
-/
namespace Testbed

open Narrowing

namespace FeatureSettings

theorem agree_settings (required offered : FeatureSettings) :
    Agree (checkSettings required offered) (intersectSettings required offered) := by
  unfold checkSettings intersectSettings
  split
  · exact .ok presence
  · rw [← List.append_nil (checkWithin _ _ _)]
    exact (CountSpace.agrees.withinName _ _ _).bind (fun _ => .ok _)
  · refine (Choice.agrees.withinName _ _ _).bind (fun _ => ?_)
    rw [← List.append_nil (checkWithin _ _ _)]
    exact (Fixed.agrees.withinName _ _ _).bind (fun _ => .ok _)
  · exact .error (List.cons_ne_nil _ _)

theorem intersect_presence (offered : FeatureSettings) :
    presence.intersect offered =
      (intersectSettings offered offered).mapError (fun _ => [.unusable]) := by
  unfold FeatureSettings.intersect
  dsimp only
  cases intersectSettings offered offered <;> rfl

theorem agrees : Agrees FeatureSettings := by
  intro required offered
  change Agree (required.check offered) (required.intersect offered)
  cases required with
  | presence =>
    rw [intersect_presence]
    exact (agree_settings offered offered).wildcard
  | networkInterface settings => exact agree_settings _ _
  | securityProfile settings => exact agree_settings _ _

end FeatureSettings

namespace FeatureMap

theorem agree_required (offered merged : FeatureMap) (entry : String × FeatureSettings) :
    Agree (checkRequired offered entry) (intersectRequired offered merged entry) := by
  unfold checkRequired intersectRequired
  refine .within entry.1 ?_
  split
  · exact (FeatureSettings.agrees _ _).map _
  · exact .error (List.cons_ne_nil _ _)

theorem agree_offered (required merged : FeatureMap) (entry : String × FeatureSettings) :
    Agree (checkOffered required entry) (intersectOffered required merged entry) := by
  unfold checkOffered intersectOffered
  split
  · exact .ok merged
  · exact ((FeatureSettings.agrees.wildcard entry.2).map _).within entry.1

theorem agree (required offered : FeatureMap) :
    Agree (FeatureMap.check required offered) (FeatureMap.intersect required offered) :=
  (Agree.foldlM (agree_required offered) required.entries ∅).bind
    (Agree.foldlM (agree_offered required) offered.entries)

end FeatureMap

theorem NodeSpace.agrees : Agrees NodeSpace := by
  intro required offered
  change Agree (NodeSpace.check required offered) (NodeSpace.intersect required offered)
  unfold NodeSpace.check NodeSpace.intersect
  simp only [List.append_assoc]
  refine (CountSpace.agrees.withinName _ _ _).bind (fun _ => ?_)
  refine (RangeValue.agrees.withinName _ _ _).bind (fun _ => ?_)
  refine (Choice.agrees.withinName _ _ _).bind (fun _ => ?_)
  refine (Choice.agrees.withinName _ _ _).bind (fun _ => ?_)
  rw [← List.append_nil (withinDimension _ _)]
  exact ((FeatureMap.agree _ _).within "features").bind (fun _ => .ok _)

namespace EnvironmentSpace

/-- An assignment that fails says why: where nothing at all was tried, that all nodes are taken. -/
theorem assignFrom_reasons (offered : List (NodeSpace × Nat)) :
    ∀ (required : List NodeSpace) (index : Nat) (taken : List Nat) (reasons : List Reason),
      assignFrom offered index taken required = .error reasons → reasons ≠ []
  | [], _, _, _, failed => by cases failed
  | node :: rest, index, taken, reasons, failed => by
    unfold assignFrom at failed
    split at failed
    · obtain rfl := Except.error.inj failed
      exact List.cons_ne_nil _ _
    · rename_i some _
      obtain rfl := Except.error.inj failed
      exact some
    · rename_i place narrowed _
      cases later : assignFrom offered (index + 1) (place :: taken) rest with
      | ok assignment => simp [later, bind, Except.bind, pure, Except.pure] at failed
      | error others =>
        simp only [later, bind, Except.bind, Except.error.injEq] at failed
        exact failed ▸ assignFrom_reasons offered rest _ _ _ later

theorem assignNodes_reasons {required offered : EnvironmentSpace} {reasons : List Reason}
    (failed : required.assignNodes offered = .error reasons) : reasons ≠ [] := by
  unfold assignNodes at failed
  dsimp only at failed
  split at failed
  · obtain rfl := Except.error.inj failed
    exact List.cons_ne_nil _ _
  · exact assignFrom_reasons _ _ _ _ _ failed

theorem agrees : Agrees EnvironmentSpace := by
  intro required offered
  change Agree (required.check offered) (required.intersect offered)
  unfold EnvironmentSpace.check EnvironmentSpace.intersect
  refine Agree.bind ?_ (fun assignment => ?_)
  · cases assigned : required.assignNodes offered with
    | ok assignment => exact .ok assignment
    | error reasons => exact .error (assignNodes_reasons assigned)
  · rw [← List.append_nil (withinDimension _ _)]
    exact ((FeatureMap.agree _ _).within "features").bind (fun _ => .ok _)

end EnvironmentSpace

/-- Check and narrowing are consistent for single dimensions, for settings of features, for nodes
and for environments. -/
theorem intersect_follows_check :
    Consistent CountSpace ∧ Consistent RangeValue ∧
    (∀ (α : Type) [LT α] [DecidableEq α] [Domain α], Consistent (Choice α)) ∧
    (∀ (α : Type) [DecidableEq α] [Shown α], Consistent (Fixed α)) ∧
    Consistent FeatureSettings ∧ Consistent NodeSpace ∧ Consistent EnvironmentSpace := by
  refine ⟨CountSpace.agrees.consistent, RangeValue.agrees.consistent, ?_, ?_,
    FeatureSettings.agrees.consistent, NodeSpace.agrees.consistent,
    EnvironmentSpace.agrees.consistent⟩
  · intro α _ _ _
    exact Choice.agrees.consistent
  · intro α _ _
    exact Fixed.agrees.consistent

/-- A node with four obstacles: the narrowing stops at the first that the check collects. -/
theorem intersect_follows_check_four :
    let required : NodeSpace :=
      { coreCount := some (.atLeast 8)
        diskType := some (.of [.ultraSsd])
        features := Dict.empty.insert "security" .presence }
    let offered : NodeSpace :=
      { coreCount := some (.between 1 4)
        memoryMb := some (.between 4096 1024) }
    ∃ reasons, required.intersect offered = .error reasons ∧ reasons.length = 1 ∧
      reasons <+: required.check offered ∧ (required.check offered).length = 4 := by
  intro required offered
  obtain ⟨-, -, -, -, -, ⟨nodes, -⟩, -⟩ := intersect_follows_check
  have failed : required.intersect offered =
      .error [.within (.dimension "core_count")
        (.countsDisjoint (.atLeast 8) (.between 1 4))] := rfl
  have four : (required.check offered).length = 4 := by decide +kernel
  exact ⟨_, failed, rfl, ((nodes required offered).2 _ failed).2.1, four⟩

end Testbed
