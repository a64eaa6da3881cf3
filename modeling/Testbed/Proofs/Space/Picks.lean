import Testbed.Proofs.Capability.Picks
import Testbed.Proofs.Space.Assignment
import Testbed.Proofs.Space.Nodes

/-!
# Picks of environments

Wherever an environment that came out of a narrowing has a dimension, in a node or in a feature, the
best value of it is picked, also where the requirement is a wildcard or a mere presence. What the
two sides had picked before does not matter: with those picks dropped, the same nodes fit the same
places and narrow to the same.
-/
namespace Testbed

open Narrowing HasPicks HeedsNoPick

namespace FeatureSettings

def nicCount? : FeatureSettings → Option CountSpace
  | networkInterface settings => settings.nicCount
  | _ => none

def profile? : FeatureSettings → Option (Choice SecurityProfileType)
  | securityProfile settings => settings.profile
  | _ => none

/-- Every dimension of narrowed settings has the best value picked. -/
structure WellPicked (required offered narrowed : Option FeatureSettings) : Prop where
  nics : DimensionPicked (required.bind nicCount?) (offered.bind nicCount?)
    (narrowed.bind nicCount?)
  profiles : DimensionPicked (required.bind profile?) (offered.bind profile?)
    (narrowed.bind profile?)

theorem Narrows.dimensions {required offered narrowed : FeatureSettings}
    (h : Narrows required offered narrowed) :
    Narrowing.intersect required.nicCount? offered.nicCount? = .ok narrowed.nicCount? ∧
      Narrowing.intersect required.profile? offered.profile? = .ok narrowed.profile? := by
  cases h with
  | presence => exact ⟨rfl, rfl⟩
  | network nics => exact ⟨nics, rfl⟩
  | security profiles disks image => exact ⟨rfl, profiles⟩

/-- Settings that are not required, or only as a presence, leave their dimensions open. -/
theorem intersect_dimensions {required : Option FeatureSettings}
    {offered narrowed : FeatureSettings}
    (h : (required.getD offered).intersect offered = .ok narrowed) :
    Narrowing.intersect (required.bind nicCount?) offered.nicCount? = .ok narrowed.nicCount? ∧
      Narrowing.intersect (required.bind profile?) offered.profile? = .ok narrowed.profile? := by
  have dimensions := (intersect_ok.1 h).dimensions
  have itself : offered.orOffered offered = offered := by cases offered <;> rfl
  match required with
  | none =>
    rw [Option.getD_none, itself] at dimensions
    exact dimensions.imp intersectDimension_absent_ok.2 intersectDimension_absent_ok.2
  | some presence =>
    exact dimensions.imp intersectDimension_absent_ok.2 intersectDimension_absent_ok.2
  | some (networkInterface settings) => exact dimensions
  | some (securityProfile settings) => exact dimensions

theorem wellPicked {required offered narrowed : Option FeatureSettings}
    (h : Narrowing.intersect required offered = .ok narrowed) :
    WellPicked required offered narrowed := by
  cases offered with
  | none =>
    obtain ⟨rfl, rfl⟩ := intersectDimension_none_ok.1 h
    exact ⟨nofun, nofun⟩
  | some c =>
    obtain ⟨n, value, rfl⟩ := intersectDimension_some_ok.1 h
    obtain ⟨nics, profiles⟩ := intersect_dimensions value
    exact ⟨dimensionPicked nics, dimensionPicked profiles⟩

/-- The settings without the picks of their dimensions. -/
def unpicked : FeatureSettings → FeatureSettings
  | presence => presence
  | networkInterface settings => networkInterface ⟨HasPicks.unpicked settings.nicCount⟩
  | securityProfile settings =>
    securityProfile { settings with profile := HasPicks.unpicked settings.profile }

instance : HasPicks FeatureSettings := ⟨unpicked⟩

theorem orOffered_unpicked (required offered : FeatureSettings) :
    required.unpicked.orOffered offered.unpicked = (required.orOffered offered).unpicked := by
  cases required <;> rfl

theorem narrows_unpicked (required offered narrowed : FeatureSettings) :
    Narrows required.unpicked offered.unpicked narrowed ↔ Narrows required offered narrowed := by
  rw [← intersectSettings_ok, ← intersectSettings_ok]
  cases required <;> cases offered <;>
    simp only [unpicked, intersectSettings, bind_ok, intersectWithin_ok, intersect_unpicked,
      reduceCtorEq]

instance : HeedsNoPick FeatureSettings where
  intersect_unpicked required offered narrowed := by
    refine intersect_ok.trans (Iff.trans ?_ intersect_ok.symm)
    rw [← narrows_unpicked (required.orOffered offered), ← orOffered_unpicked]
    rfl

end FeatureSettings

namespace FeatureMap

/-- The settings under every name have the best values picked. -/
def WellPicked (required offered narrowed : FeatureMap) : Prop :=
  ∀ name, FeatureSettings.WellPicked (required.get? name) (offered.get? name) (narrowed.get? name)

theorem wellPicked {required offered narrowed : FeatureMap}
    (h : FeatureMap.intersect required offered = .ok narrowed) :
    WellPicked required offered narrowed :=
  fun name => FeatureSettings.wellPicked (intersect_get? h name)

instance : HasPicks FeatureMap := ⟨Dict.mapValues HasPicks.unpicked⟩

instance : HeedsNoPick FeatureMap where
  intersect_unpicked required offered narrowed := by
    refine intersect_ok.trans (Iff.trans (forall_congr' fun name => ?_) intersect_ok.symm)
    have get (d : FeatureMap) :
        (HasPicks.unpicked d).get? name = HasPicks.unpicked (d.get? name) :=
      Dict.get?_mapValues _ d name
    rw [get, get, intersect_unpicked]

end FeatureMap

namespace NodeSpace

/-- Every dimension and every feature of a narrowed node has the best value picked. -/
structure WellPicked (required offered narrowed : NodeSpace) : Prop where
  cores : DimensionPicked required.coreCount offered.coreCount narrowed.coreCount
  memory : DimensionPicked required.memoryMb offered.memoryMb narrowed.memoryMb
  disks : DimensionPicked required.diskType offered.diskType narrowed.diskType
  paths : DimensionPicked required.networkDataPath offered.networkDataPath narrowed.networkDataPath
  features : FeatureMap.WellPicked required.features offered.features narrowed.features

theorem wellPicked {required offered narrowed : NodeSpace}
    (h : required.intersect offered = .ok narrowed) : WellPicked required offered narrowed := by
  obtain ⟨cores, memory, disks, paths, features⟩ := intersect_ok.1 h
  exact ⟨dimensionPicked cores, dimensionPicked memory, dimensionPicked disks,
    dimensionPicked paths, FeatureMap.wellPicked features⟩

/-- The node without the picks of its dimensions and features. -/
def unpicked (n : NodeSpace) : NodeSpace where
  coreCount := HasPicks.unpicked n.coreCount
  memoryMb := HasPicks.unpicked n.memoryMb
  diskType := HasPicks.unpicked n.diskType
  networkDataPath := HasPicks.unpicked n.networkDataPath
  features := HasPicks.unpicked n.features

instance : HasPicks NodeSpace := ⟨unpicked⟩

instance : HeedsNoPick NodeSpace where
  intersect_unpicked required offered narrowed := by
    refine intersect_ok.trans (Iff.trans ?_ intersect_ok.symm)
    constructor
    · rintro ⟨cores, memory, disks, paths, features⟩
      exact ⟨(intersect_unpicked _ _ _).1 cores, (intersect_unpicked _ _ _).1 memory,
        (intersect_unpicked _ _ _).1 disks, (intersect_unpicked _ _ _).1 paths,
        (intersect_unpicked _ _ _).1 features⟩
    · rintro ⟨cores, memory, disks, paths, features⟩
      exact ⟨(intersect_unpicked _ _ _).2 cores, (intersect_unpicked _ _ _).2 memory,
        (intersect_unpicked _ _ _).2 disks, (intersect_unpicked _ _ _).2 paths,
        (intersect_unpicked _ _ _).2 features⟩

end NodeSpace

namespace EnvironmentSpace

/-- Every node of a narrowed environment has the best values picked of what was required of it and
what the node offers that it was assigned to, and so have the features of the environment. -/
structure WellPicked (required offered space : EnvironmentSpace) : Prop where
  nodes : ∃ a, required.assignNodes offered = .ok a ∧
    ∀ (k : Nat) (narrowed : NodeSpace), space.nodes[k]? = some narrowed →
      ∃ (node : NodeSpace) (place : Nat) (host : NodeSpace),
        required.requiredNodes[k]? = some node ∧ a.indices[k]? = some place ∧
          offered.nodes[place]? = some host ∧ node.WellPicked host narrowed
  features : FeatureMap.WellPicked required.features offered.features space.features

theorem wellPicked {required offered space : EnvironmentSpace}
    (h : required.intersect offered = .ok space) : WellPicked required offered space := by
  obtain ⟨a, assigned, features, narrowed, rfl⟩ := intersect_ok.1 h
  have covers := assignNodes_covers _ _ _ assigned
  refine ⟨⟨a, assigned, fun k n found => ?_⟩, FeatureMap.wellPicked narrowed⟩
  have bound : k < required.requiredNodes.length := by
    rw [← covers.nodes_length]
    exact (List.getElem?_eq_some_iff.1 found).1
  have wanted := List.getElem?_eq_getElem bound
  obtain ⟨place, host, n', placed, hosted, found', fits⟩ := covers.placed k _ wanted
  obtain rfl : n' = n := Option.some.inj (found'.symm.trans found)
  exact ⟨_, place, host, wanted, placed, hosted, NodeSpace.wellPicked fits⟩

/-- The environment without the picks of its nodes and features. -/
def unpicked (e : EnvironmentSpace) : EnvironmentSpace where
  name := e.name
  nodes := e.nodes.map NodeSpace.unpicked
  features := HasPicks.unpicked e.features

theorem requiredNodes_unpicked (e : EnvironmentSpace) :
    e.unpicked.requiredNodes = e.requiredNodes.map NodeSpace.unpicked := by
  unfold requiredNodes unpicked
  cases e.nodes <;> rfl

theorem firstFit_unpicked {index : Nat} {required : NodeSpace} {taken : List Nat}
    {found : Nat × NodeSpace} :
    ∀ entries : List (NodeSpace × Nat),
      firstFit index required.unpicked taken (entries.map (Prod.map NodeSpace.unpicked id)) =
          .ok found ↔
        firstFit index required taken entries = .ok found
  | [] => Iff.rfl
  | (offered, place) :: rest => by
    have narrows (n : NodeSpace) :
        required.unpicked.intersect offered.unpicked = .ok n ↔ required.intersect offered = .ok n :=
      intersect_unpicked required offered n
    have fits : Fits required.unpicked offered.unpicked ↔ Fits required offered :=
      fits_unpicked
    rw [List.map_cons, Prod.map_apply, id_eq, firstFit_cons_ok, firstFit_cons_ok, fits,
      firstFit_unpicked rest]
    simp only [narrows]

theorem assignFrom_unpicked {offered : List (NodeSpace × Nat)} :
    ∀ (required : List NodeSpace) (index : Nat) (taken : List Nat) (a : NodeAssignment),
      assignFrom (offered.map (Prod.map NodeSpace.unpicked id)) index taken
          (required.map NodeSpace.unpicked) = .ok a ↔
        assignFrom offered index taken required = .ok a
  | [], _, _, _ => Iff.rfl
  | node :: rest, index, taken, a => by
    rw [List.map_cons, assignFrom_cons_ok, assignFrom_cons_ok]
    simp only [firstFit_unpicked, assignFrom_unpicked rest]

/-- The same nodes are assigned to the same places without the picks. -/
theorem assignNodes_unpicked {required offered : EnvironmentSpace} {a : NodeAssignment} :
    required.unpicked.assignNodes offered.unpicked = .ok a ↔
      required.assignNodes offered = .ok a := by
  have entries : offered.unpicked.nodes.zipIdx =
      offered.nodes.zipIdx.map (Prod.map NodeSpace.unpicked id) :=
    List.zipIdx_map ..
  have count : offered.unpicked.nodes.length = offered.nodes.length := List.length_map _
  rw [assignNodes_ok, assignNodes_ok, requiredNodes_unpicked, entries, assignFrom_unpicked, count,
    List.length_map]

theorem intersect_unpicked {required offered space : EnvironmentSpace} :
    required.unpicked.intersect offered.unpicked = .ok space ↔
      required.intersect offered = .ok space := by
  have features (narrowed : FeatureMap) :
      required.unpicked.features.intersect offered.unpicked.features = .ok narrowed ↔
        required.features.intersect offered.features = .ok narrowed :=
    HeedsNoPick.intersect_unpicked required.features offered.features narrowed
  rw [intersect_ok, intersect_ok]
  simp only [assignNodes_unpicked, features]
  rfl

end EnvironmentSpace

/-- Whatever a narrowing of environments leaves has the best values picked, and the outcome is the
same for any requirement and any capability that differ from these in nothing but their picks. -/
theorem intersect_picks_best (required offered space : EnvironmentSpace)
    (h : required.intersect offered = .ok space) :
    EnvironmentSpace.WellPicked required offered space ∧
      ∀ required' offered' : EnvironmentSpace, required'.unpicked = required.unpicked →
        offered'.unpicked = offered.unpicked → required'.intersect offered' = .ok space := by
  refine ⟨EnvironmentSpace.wellPicked h, fun required' offered' same same' => ?_⟩
  rw [← EnvironmentSpace.intersect_unpicked, same, same']
  exact EnvironmentSpace.intersect_unpicked.2 h

/-- Picks that neither side allows are replaced, on nodes that change places, under a wildcard and
under a feature that is required as a mere presence. -/
theorem intersect_picks_best_stale :
    let required (cores : Option UInt32) : EnvironmentSpace :=
      { nodes := [
          { coreCount := some { min := 5, current := cores }
            memoryMb := some { min := 1024, chooseMax := true }
            features := Dict.empty.insert "network" .presence },
          {}] }
    let offered (cores nics : Option UInt32) (path : Option NetworkDataPath) : EnvironmentSpace :=
      { nodes := [
          { coreCount := some { max := some 4, current := cores } },
          { coreCount := some { counts := .ofList [4, 8, 16], current := cores }
            memoryMb := some { max := some 4096 }
            networkDataPath := some { items := .ofList [.synthetic, .sriov], current := path }
            features := Dict.empty.insert "network"
              (.networkInterface ⟨some { min := 2, current := nics }⟩) }] }
    ∃ space, (required (some 3)).intersect (offered (some 99) (some 1) (some .synthetic)) =
        .ok space ∧
      (required none).intersect (offered none (some 7) none) = .ok space ∧
      space.nodes = [
        { coreCount := some ⟨.ofList [8, 16], 5, none, some 8⟩
          memoryMb := some ⟨1024, some 4096, some 4096, true⟩
          networkDataPath := some ⟨.ofList [.synthetic, .sriov], some .sriov⟩
          features := Dict.empty.insert "network" (.networkInterface ⟨some ⟨∅, 2, none, some 2⟩⟩) },
        { coreCount := some ⟨∅, 0, some 4, some 0⟩ }] := by
  intro required offered
  have narrowed : (required (some 3)).intersect (offered (some 99) (some 1) (some .synthetic)) =
      .ok
        { nodes := [
            { coreCount := some ⟨.ofList [8, 16], 5, none, some 8⟩
              memoryMb := some ⟨1024, some 4096, some 4096, true⟩
              networkDataPath := some ⟨.ofList [.synthetic, .sriov], some .sriov⟩
              features := Dict.empty.insert "network"
                (.networkInterface ⟨some ⟨∅, 2, none, some 2⟩⟩) },
            { coreCount := some ⟨∅, 0, some 4, some 0⟩ }] } := by decide +kernel
  have alike := (intersect_picks_best _ _ _ narrowed).2 (required none) (offered none (some 7) none)
  exact ⟨_, narrowed, alike rfl rfl, rfl⟩

end Testbed
