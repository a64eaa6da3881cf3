import Testbed.Environment.Node

/-!
# The feature registry

Which features a platform can create, by type. A factory is called once per node when the node is
deployed, and must produce a feature of the type it is registered under.
-/
namespace Testbed

/-- A factory for each registered type. -/
abbrev FeatureRegistry := Dict FeatureType (Node → FeatureHandle)

namespace FeatureRegistry

def register (r : FeatureRegistry) (type : FeatureType) (factory : Node → FeatureHandle) :
    FeatureRegistry :=
  r.insert type factory

def types (r : FeatureRegistry) : List FeatureType := r.keys

/-- Create a feature for a node. -/
def create (r : FeatureRegistry) (type : FeatureType) (node : Node) :
    Except FeatureError FeatureHandle :=
  match r.get? type with
  | none => .error (.unsupported type node.name)
  | some factory =>
    let handle := factory node
    if handle.type = type then .ok handle
    else .error (.operation type s!"factory produced a {handle.type.name} feature")

/-- Attach a feature of every registered type to a node, up to the first that fails. The node is
returned as far as it came. -/
def attachAll (r : FeatureRegistry) (node : Node) : Node × Option FeatureError :=
  go node r.types
where
  go (node : Node) : List FeatureType → Node × Option FeatureError
    | [] => (node, none)
    | type :: rest =>
      match r.create type node with
      | .ok handle => go (node.attach handle) rest
      | .error error => (node, some error)

/-- The same for several nodes, one after the other. -/
def attachToAll (r : FeatureRegistry) : List Node → List Node × Option FeatureError
  | [] => ([], none)
  | node :: rest =>
    match r.attachAll node with
    | (node, some error) => (node :: rest, some error)
    | (node, none) =>
      let attached := attachToAll r rest
      (node :: attached.1, attached.2)

end FeatureRegistry

end Testbed
