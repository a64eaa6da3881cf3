import Testbed.BareMetal.Deployment

/-!
# A platform in memory

Deploys environments by filling in loopback connections, and records what it was asked to do. It can
be told to lack capacity, to take its time and to fail, either always or by a script with an entry
for each call.
-/
namespace Testbed.Simulation

/-- What happens when the platform is asked to prepare an environment. -/
inductive PrepareScript where
  | answer (canHost : Bool)
  /-- Fail before the platform takes note of the call. -/
  | fail (error : PlatformError)
  | asUsual

structure InMemory where
  hasCapacity : Bool := true
  deployError : Option String := none
  deleteError : Option String := none
  deployDelayMs : Nat := 0
  /-- What happens in the next calls that prepare an environment. -/
  prepares : List PrepareScript := []
  /-- How the next calls that deploy an environment fail before the platform takes note of them. -/
  deploys : List (Option PlatformError) := []
  /-- The nodes that are deployed without a connection. -/
  unconnected : List Nat := []
  prepared : List EnvironmentId := []
  deployed : List EnvironmentId := []
  deleted : List EnvironmentId := []

namespace InMemory

/-- The type of the platform. -/
def name : String := "fake"

/-- The features of every node, with a resize if the platform has one. -/
def features (resize : Option (Except FeatureError ResizeOutcome)) : FeatureRegistry :=
  let registry : FeatureRegistry := .ofList [(.startStop, fun _ => .startStop (.switchable .running))]
  match resize with
  | some outcome => registry.register .resize (fun _ => .resize outcome)
  | none => registry

/-- Say whether an environment can be hosted. -/
def prepare (p : InMemory) (id : EnvironmentId) : Except PlatformError Bool × InMemory :=
  let noted := { p with prepared := p.prepared ++ [id], prepares := p.prepares.tail }
  match p.prepares.head?.getD .asUsual with
  | .answer canHost => (.ok canHost, noted)
  | .fail error => (.error error, { p with prepares := p.prepares.tail })
  | .asUsual => (.ok p.hasCapacity, noted)

/-- The machine at an index. -/
def machine (p : InMemory) (m : Machine) (index : Nat) : Machine :=
  { m with
    connection :=
      if index ∈ p.unconnected then none
      else some (.new s!"127.0.0.{index + 1}" "sutkit")
    information := m.information.insert "kernel_version" "6.8.0-fake" }

/-- What the platform provides for an environment. -/
def provide (p : InMemory) (provision : Provision) : Provision :=
  let machines := provision.machines.zipIdx.map (fun entry => p.machine entry.1 entry.2)
  { provision with machines }
    |>.setInformation "platform" name
    |>.setInformation "host_version" "fake-host-1.0"
    |>.setInformation "vmsize" "fake_small"

/-- Deploy an environment, once the time that it takes is over. -/
def deploy (p : InMemory) (id : EnvironmentId) (provision : Provision) :
    Provision × Except PlatformError Unit × InMemory :=
  match p.deployError with
  | some reason => (provision, .error (.deployment reason), p)
  | none => (p.provide provision, .ok (), { p with deployed := p.deployed ++ [id] })

def delete (p : InMemory) (id : EnvironmentId) : Except PlatformError Unit × InMemory :=
  (match p.deleteError with
    | some reason => .error (.delete reason)
    | none => .ok (),
    { p with deleted := p.deleted ++ [id] })

end InMemory

/-- The platforms that a simulation runs on. -/
inductive Hosting where
  | inMemory (platform : InMemory)
  | bareMetal (config : BareMetal.PlatformConfig)

end Testbed.Simulation
