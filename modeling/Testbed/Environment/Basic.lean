import Testbed.Environment.Node
import Testbed.Environment.Status

/-!
# Environments

A runtime instance built from a matched candidate. Environments are numbered in the order in which
they are created. Dirtiness stays until the environment is deleted.
-/
namespace Testbed

/-- The number of an environment. -/
structure EnvironmentId where
  index : Nat
  deriving DecidableEq, Repr

def EnvironmentId.text (id : EnvironmentId) : String := s!"e{id.index}"

/-- What a platform provides for an environment. -/
structure Provision where
  machines : List Machine
  information : Facts := ∅
  deriving DecidableEq

namespace Provision

/-- Change a machine. -/
def modify (p : Provision) (index : Nat) (f : Machine → Machine) : Provision :=
  { p with machines := p.machines.modify index f }

def setInformation (p : Provision) (key value : String) : Provision :=
  { p with information := p.information.insert key value }

end Provision

/-- How changing an environment fails. -/
inductive EnvironmentError where
  | invalidTransition (environment : String) (current next : EnvironmentStatus)
  | invalidState (environment operation : String) (status : EnvironmentStatus)
  deriving DecidableEq

/-- The wording of an environment error. -/
def EnvironmentError.message : EnvironmentError → String
  | invalidTransition environment current next =>
    s!"environment {environment}: invalid transition {current.text} -> {next.text}"
  | invalidState environment operation status =>
    s!"environment {environment}: cannot {operation} while {status.text}"

/-- The kind of an environment error, as reports name it. -/
def EnvironmentError.kind : EnvironmentError → String
  | invalidTransition .. => "InvalidTransition"
  | invalidState .. => "InvalidState"

structure Environment where
  id : EnvironmentId
  name : String
  /-- The candidate that the environment was resolved from. -/
  candidateIndex : Nat
  /-- The resolved capability, one node for each required node. -/
  space : EnvironmentSpace
  nodes : List Node
  status : EnvironmentStatus := .new
  dirty : Bool := false
  inUse : Bool := false
  information : Facts := ∅

namespace Environment

/-- A new environment with a node for each resolved node. -/
def ofMatch (id : EnvironmentId) (found : MatchedEnvironment) : Environment :=
  { id, name := found.name, candidateIndex := found.candidateIndex, space := found.space
    nodes := found.space.nodes.zipIdx.map (fun entry => Node.new entry.2 entry.1) }

def setStatus (e : Environment) (next : EnvironmentStatus) : Except EnvironmentError Environment :=
  if e.status.canBecome next then .ok { e with status := next }
  else .error (.invalidTransition e.name e.status next)

/-- The step to the last status, which cannot fail: sessions and features go away. -/
def forceDeleted (e : Environment) : Environment :=
  { e with
    status := .deleted
    inUse := false
    nodes := e.nodes.map (fun n => { n.clearFeatures with session := none }) }

/-- Flag a provisioned environment as unfit for reuse. -/
def markDirty (e : Environment) : Except EnvironmentError Environment :=
  if e.status.isDeployed then .ok { e with dirty := true }
  else .error (.invalidState e.name "mark dirty" e.status)

def setInformation (e : Environment) (key value : String) : Environment :=
  { e with information := e.information.insert key value }

/-- Change a node; nothing happens when there is none at the index. -/
def modifyNode (e : Environment) (index : Nat) (f : Node → Node) : Environment :=
  { e with nodes := e.nodes.modify index f }

/-- What the environment has been provided with. -/
def provision (e : Environment) : Provision :=
  ⟨e.nodes.map Node.toMachine, e.information⟩

/-- Take over what a platform provides. -/
def accept (e : Environment) (p : Provision) : Environment :=
  { e with nodes := Node.equip e.nodes p.machines, information := p.information }

/-- The facts of the environment, its name, and the facts of its nodes under their names. -/
def metadata (e : Environment) : Facts :=
  let base := e.information.insert "environment_name" e.name
  e.nodes.foldl (fun facts node =>
    node.information.entries.foldl (fun facts entry =>
      facts.insert (node.name ++ "." ++ entry.1) entry.2) facts) base

end Environment

end Testbed
