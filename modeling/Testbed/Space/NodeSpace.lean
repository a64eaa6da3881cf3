import Testbed.Space.FeatureSettings

/-!
# Node spaces

What is required of a node, or what a node of a candidate offers. An absent dimension of a
requirement is a wildcard.
-/
namespace Testbed

structure NodeSpace where
  coreCount : Option CountSpace := none
  memoryMb : Option RangeValue := none
  diskType : Option (Choice DiskType) := none
  networkDataPath : Option (Choice NetworkDataPath) := none
  features : FeatureMap := ∅
  deriving DecidableEq

namespace NodeSpace

/-- The data path that resolution picked, or the most preferred one of a space that was never
resolved. -/
def dataPath (n : NodeSpace) : Option NetworkDataPath :=
  n.networkDataPath.bind (fun paths => paths.current <|> paths.preferred)

open Narrowing

/-- The reasons of every dimension that does not fit. -/
def check (required offered : NodeSpace) : List Reason :=
  checkWithin "core_count" required.coreCount offered.coreCount ++
    checkWithin "memory_mb" required.memoryMb offered.memoryMb ++
    checkWithin "disk_type" required.diskType offered.diskType ++
    checkWithin "network_data_path" required.networkDataPath offered.networkDataPath ++
    withinDimension "features" (FeatureMap.check required.features offered.features)

/-- Every dimension narrowed, or the reasons of the first that does not fit. -/
def intersect (required offered : NodeSpace) : Except (List Reason) NodeSpace := do
  let coreCount ← intersectWithin "core_count" required.coreCount offered.coreCount
  let memoryMb ← intersectWithin "memory_mb" required.memoryMb offered.memoryMb
  let diskType ← intersectWithin "disk_type" required.diskType offered.diskType
  let networkDataPath ←
    intersectWithin "network_data_path" required.networkDataPath offered.networkDataPath
  let features ← (FeatureMap.intersect required.features offered.features).mapError
    (withinDimension "features")
  return { coreCount, memoryMb, diskType, networkDataPath, features }

instance : Narrowing NodeSpace := ⟨check, intersect⟩

def withCoreCount (n : NodeSpace) (coreCount : CountSpace) : NodeSpace :=
  { n with coreCount := some coreCount }

def withMemoryMb (n : NodeSpace) (memoryMb : RangeValue) : NodeSpace :=
  { n with memoryMb := some memoryMb }

def withDiskType (n : NodeSpace) (diskType : Choice DiskType) : NodeSpace :=
  { n with diskType := some diskType }

def withNetworkDataPath (n : NodeSpace) (paths : Choice NetworkDataPath) : NodeSpace :=
  { n with networkDataPath := some paths }

def withFeature (n : NodeSpace) (name : String) (settings : FeatureSettings) : NodeSpace :=
  { n with features := n.features.insert name settings }

/-- The space put together anew from its parts. -/
def rebuilt (n : NodeSpace) : NodeSpace :=
  let m : NodeSpace := {}
  let m := n.coreCount.elim m m.withCoreCount
  let m := n.memoryMb.elim m m.withMemoryMb
  let m := n.diskType.elim m m.withDiskType
  let m := n.networkDataPath.elim m m.withNetworkDataPath
  n.features.entries.foldl (fun m entry => m.withFeature entry.1 entry.2) m

end NodeSpace

end Testbed
