import Testbed.Space.NodeSpace

/-!
# Environment spaces

A topology of nodes with features of its own. Required nodes are assigned to offered ones first
fit: each in turn takes the first offered node that is left and fits it. That is no general
matching, so a topology that another order would satisfy can be refused.
-/
namespace Testbed

structure EnvironmentSpace where
  name : Option String := none
  nodes : List NodeSpace := []
  features : FeatureMap := ∅
  deriving DecidableEq

/-- Where the required nodes went. -/
structure NodeAssignment where
  /-- The narrowed space of each required node, in order. -/
  nodes : List NodeSpace
  /-- The offered node that each required node took. -/
  indices : List Nat
  deriving DecidableEq

namespace EnvironmentSpace

/-- The required nodes; an empty topology asks for one node of any kind. -/
def requiredNodes (e : EnvironmentSpace) : List NodeSpace :=
  if e.nodes.isEmpty then [{}] else e.nodes

/-- The first offered node that is not taken and fits, or the reasons against every one that is
not taken. -/
def firstFit (index : Nat) (required : NodeSpace) (taken : List Nat) :
    List (NodeSpace × Nat) → Except (List Reason) (Nat × NodeSpace)
  | [] => .error []
  | (offered, place) :: rest =>
    if place ∈ taken then firstFit index required taken rest
    else match required.intersect offered with
      | .ok narrowed => .ok (place, narrowed)
      | .error _ =>
        (firstFit index required taken rest).mapError
          (((required.check offered).map (.within (.nodes index place))) ++ ·)

/-- Assign the required nodes from a place on; `taken` are the nodes that earlier ones took. -/
def assignFrom (offered : List (NodeSpace × Nat)) (index : Nat) (taken : List Nat) :
    List NodeSpace → Except (List Reason) NodeAssignment
  | [] => .ok ⟨[], []⟩
  | required :: rest =>
    match firstFit index required taken offered with
    | .error [] => .error [.within (.node index) .nodesTaken]
    | .error reasons => .error reasons
    | .ok (place, narrowed) => do
      let later ← assignFrom offered (index + 1) (place :: taken) rest
      return ⟨narrowed :: later.nodes, place :: later.indices⟩

/-- Assign every required node to an offered one. -/
def assignNodes (required offered : EnvironmentSpace) : Except (List Reason) NodeAssignment :=
  let nodes := required.requiredNodes
  if offered.nodes.length < nodes.length then
    .error [.tooFewNodes nodes.length offered.nodes.length]
  else assignFrom offered.nodes.zipIdx 0 [] nodes

def check (required offered : EnvironmentSpace) : List Reason :=
  (match required.assignNodes offered with
    | .ok _ => []
    | .error reasons => reasons) ++
    withinDimension "features" (FeatureMap.check required.features offered.features)

/-- The assigned nodes in the order of the requirement; offered nodes that are left are dropped.
The capability's name stays when it has one. -/
def intersect (required offered : EnvironmentSpace) : Except (List Reason) EnvironmentSpace := do
  let assignment ← required.assignNodes offered
  let features ← (FeatureMap.intersect required.features offered.features).mapError
    (withinDimension "features")
  return { name := offered.name <|> required.name, nodes := assignment.nodes, features }

instance : Narrowing EnvironmentSpace := ⟨check, intersect⟩

def named (name : String) : EnvironmentSpace := { name := some name }

def withNode (e : EnvironmentSpace) (node : NodeSpace) : EnvironmentSpace :=
  { e with nodes := e.nodes ++ [node] }

def withFeature (e : EnvironmentSpace) (name : String) (settings : FeatureSettings) :
    EnvironmentSpace :=
  { e with features := e.features.insert name settings }

/-- The space put together anew from its parts. -/
def rebuilt (e : EnvironmentSpace) : EnvironmentSpace :=
  let f : EnvironmentSpace := e.name.elim {} named
  let f := e.nodes.foldl (fun f node => f.withNode node.rebuilt) f
  e.features.entries.foldl (fun f entry => f.withFeature entry.1 entry.2) f

end EnvironmentSpace

end Testbed
