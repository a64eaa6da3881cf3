import Testbed.Proofs.Capability.Ranges
import Testbed.Proofs.Space.Features
import Testbed.Space.NodeSpace

/-!
# Nodes

A node narrows dimension by dimension, so it follows the laws of narrowing because its dimensions
and its features do.
-/
namespace Testbed

open Narrowing

namespace NodeSpace

/-- What narrowing gives for a node. -/
structure Narrows (required offered narrowed : NodeSpace) : Prop where
  cores : Narrowing.intersect required.coreCount offered.coreCount = .ok narrowed.coreCount
  memory : Narrowing.intersect required.memoryMb offered.memoryMb = .ok narrowed.memoryMb
  disks : Narrowing.intersect required.diskType offered.diskType = .ok narrowed.diskType
  paths : Narrowing.intersect required.networkDataPath offered.networkDataPath =
    .ok narrowed.networkDataPath
  features : Narrowing.intersect required.features offered.features = .ok narrowed.features

theorem intersect_ok {required offered narrowed : NodeSpace} :
    required.intersect offered = .ok narrowed ↔ Narrows required offered narrowed := by
  unfold NodeSpace.intersect
  simp only [bind_ok, intersectWithin_ok, mapError_ok, return_ok]
  constructor
  · rintro ⟨coreCount, cores, memoryMb, memory, diskType, disks, path, paths, map, features, rfl⟩
    exact ⟨cores, memory, disks, paths, features⟩
  · rintro ⟨cores, memory, disks, paths, features⟩
    exact ⟨_, cores, _, memory, _, disks, _, paths, _, features, rfl⟩

/-- A node fits if each of its dimensions and its features do. -/
theorem fits_of {required offered : NodeSpace}
    (cores : Fits required.coreCount offered.coreCount)
    (memory : Fits required.memoryMb offered.memoryMb)
    (disks : Fits required.diskType offered.diskType)
    (paths : Fits required.networkDataPath offered.networkDataPath)
    (features : Fits required.features offered.features) : Fits required offered := by
  obtain ⟨coreCount, cores⟩ := cores
  obtain ⟨memoryMb, memory⟩ := memory
  obtain ⟨diskType, disks⟩ := disks
  obtain ⟨networkDataPath, paths⟩ := paths
  obtain ⟨map, features⟩ := features
  exact ⟨⟨coreCount, memoryMb, diskType, networkDataPath, map⟩,
    intersect_ok.2 ⟨cores, memory, disks, paths, features⟩⟩

open LawfulNarrowing

instance : LawfulNarrowing NodeSpace where
  usable := by
    rintro required offered ⟨narrowed, h⟩
    obtain ⟨cores, memory, disks, paths, features⟩ := intersect_ok.1 h
    exact fits_of (usable ⟨_, cores⟩) (usable ⟨_, memory⟩) (usable ⟨_, disks⟩) (usable ⟨_, paths⟩)
      (usable ⟨_, features⟩)
  again h := by
    obtain ⟨cores, memory, disks, paths, features⟩ := intersect_ok.1 h
    exact intersect_ok.2 ⟨again cores, again memory, again disks, again paths, again features⟩
  absorb h := by
    obtain ⟨cores, memory, disks, paths, features⟩ := intersect_ok.1 h
    exact intersect_ok.2 ⟨absorb cores, absorb memory, absorb disks, absorb paths, absorb features⟩
  fits_of_narrowed := by
    rintro required offered narrowed other h ⟨m, fitted⟩
    obtain ⟨cores, memory, disks, paths, features⟩ := intersect_ok.1 h
    obtain ⟨cores', memory', disks', paths', features'⟩ := intersect_ok.1 fitted
    exact fits_of (fits_of_narrowed cores ⟨_, cores'⟩) (fits_of_narrowed memory ⟨_, memory'⟩)
      (fits_of_narrowed disks ⟨_, disks'⟩) (fits_of_narrowed paths ⟨_, paths'⟩)
      (fits_of_narrowed features ⟨_, features'⟩)
  regroup := by
    intro a b c ab narrowed first second
    obtain ⟨cores, memory, disks, paths, features⟩ := intersect_ok.1 first
    obtain ⟨cores', memory', disks', paths', features'⟩ := intersect_ok.1 second
    obtain ⟨coreCount, togetherCores, regroupedCores⟩ := regroup cores cores'
    obtain ⟨memoryMb, togetherMemory, regroupedMemory⟩ := regroup memory memory'
    obtain ⟨diskType, togetherDisks, regroupedDisks⟩ := regroup disks disks'
    obtain ⟨path, togetherPaths, regroupedPaths⟩ := regroup paths paths'
    obtain ⟨map, togetherFeatures, regroupedFeatures⟩ := regroup features features'
    exact ⟨⟨coreCount, memoryMb, diskType, path, map⟩,
      intersect_ok.2
        ⟨togetherCores, togetherMemory, togetherDisks, togetherPaths, togetherFeatures⟩,
      intersect_ok.2
        ⟨regroupedCores, regroupedMemory, regroupedDisks, regroupedPaths, regroupedFeatures⟩⟩

end NodeSpace

end Testbed
