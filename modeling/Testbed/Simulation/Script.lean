import Testbed.Environment.Action
import Testbed.Json.Argument
import Testbed.Lifecycle.Manager
import Testbed.Simulation.PowerTimeline
import Testbed.Simulation.RetryTimeline
import Testbed.Simulation.World

/-!
# Scripts

Simulations described in JSON: the actions of test bodies, the platform and what goes wrong with it,
the connector, files that change over time, and the attempts and changes of timelines. Nearly
everything has a default.
-/
namespace Testbed.Simulation

/-- A feature of each type, for scripts that attach or register one. -/
def sampleFeature : FeatureType → FeatureHandle
  | .resize => .resize (.error .noAvailableSize)
  | .startStop => .startStop (.switchable .running)
  | .serialConsole => .serialConsole "boot".toUTF8.toList
  | .networkInterface => .networkInterface (.networkInterface {}) 2
  | .securityProfile => .securityProfile { igvm := "stub" }

/-- Read each of a list of objects. -/
def eachOf {α : Type} (j : Json) (name : String) (read : Json → Except Unread α) :
    Except Unread (List α) := do
  (← j.argumentOr name ([] : List Json)).mapM read

def powerStateOf (j : Json) (name : String) : Except Unread PowerState := do
  match ← j.argument String name with
  | "running" => return .running
  | "stopped" => return .stopped
  | "deallocated" => return .deallocated
  | _ => .error ⟨name⟩

def powerActionOf (j : Json) : Except Unread (Option PowerAction) := do
  match ← j.argument (Option String) "action" with
  | some "stop" => return some (.stop (← j.argument StopState "state"))
  | some "start" => return some .start
  | some "restart" => return some .restart
  | _ => return none

/-- Read an action by its name; there is none under other names. -/
def namedAction (j : Json) (node : Nat) : (name : String) → Except Unread (Option Action)
  | "fail" => return some (.fail [← j.argument String "text"])
  | "fail_chain" => return some (.fail (← j.argument (List String) "texts"))
  | "sleep" => return some (.sleep (← j.argument Nat "ms"))
  | "dirty" => return some .markDirty
  | "set_status" => return some (.setStatus (← j.argument EnvironmentStatus "to"))
  | "set_information" =>
    return some (.setInformation (← j.argument String "key") (← j.argument String "value"))
  | "node_information" =>
    return some
      (.setNodeInformation node (← j.argument String "key") (← j.argument String "value"))
  | "attach" => return some (.attach node (sampleFeature (← j.argument FeatureType "feature")))
  | "metadata" => return some .metadata
  | "inspect" => return some .inspect
  | "execute" => return some (.execute node (← j.argument String "command"))
  | "resize" => return some (.resize node (← j.argument ResizeAction "action"))
  | "power" => return some (.power node (← powerActionOf j))
  | "wait_power" =>
    return some (.waitPower node (← powerStateOf j "expect") (← j.argument String "operation")
      (← j.argument Nat "timeout_ms") (← j.argument Nat "poll_ms"))
  | "console" => return some (.console node)
  | "nics" => return some (.nics node)
  | _ => return none

/-- Read an action. One that cannot be read fails when it is carried out. -/
def actionOf (j : Json) : Action :=
  let name := ((decode (j.member "do") : Option String)).getD ""
  let read : Except Unread (Option Action) := do
    namedAction j (← j.argumentOr "node" 0) name
  match read with
  | .ok (some action) => action
  | .ok none => .fail ["bad action " ++ name]
  | .error unread => .fail ["decode " ++ unread.argument]

/-- Read a list of actions. -/
def actionsOf (j : Json) (name : String) : Except Unread (List Action) :=
  eachOf j name (fun action => .ok (actionOf action))

/-- A feature error by its kind and the one text that it has. -/
def featureErrorOf (j : Json) : Except Unread FeatureError := do
  let kind ← j.argumentOr "kind" ""
  let text ← j.argumentOr "text" ""
  match kind with
  | "NoAvailableSize" => return .noAvailableSize
  | "CurrentSizeNotEligible" => return .currentSizeNotEligible text
  | "Unsupported" => return .unsupported .resize text
  | "UnknownType" => return .unknownType text
  | _ => return .operation .resize text

/-- A platform error by its kind and the one text that it has. -/
def platformErrorOf (j : Json) : Except Unread PlatformError := do
  let kind ← j.argumentOr "kind" ""
  let text ← j.argumentOr "text" ""
  match kind with
  | "Deployment" => return .deployment text
  | "Capacity" => return .capacity text
  | "Delete" => return .delete text
  | "Session" => return .session (.execute "deploy" text)
  | _ => return .feature (← featureErrorOf j)

def prepareScriptOf : Json → Except Unread PrepareScript
  | .bool canHost => return .answer canHost
  | .object members => return .fail (← platformErrorOf (.object members))
  | _ => return .asUsual

def deployScriptOf (j : Json) : Except Unread (Option PlatformError) := do
  if j.isObject then return some (← platformErrorOf j) else return none

/-- Pairs of a type that a feature is registered under and the type that its factory produces. -/
def registrationsOf (j : Json) (name : String) :
    Except Unread (List (FeatureType × FeatureType)) := do
  (← j.argumentOr name ([] : List (List FeatureType))).mapM (fun
    | [type, produced] => .ok (type, produced)
    | _ => .error ⟨name⟩)

/-- Register features. -/
def registerAll (r : FeatureRegistry) (pairs : List (FeatureType × FeatureType)) :
    FeatureRegistry :=
  pairs.foldl (fun r pair => r.register pair.1 (fun _ => sampleFeature pair.2)) r

/-- What resizing a node gives, if it can be resized. -/
def resizeOf (j : Json) : Except Unread (Option (Except FeatureError ResizeOutcome)) := do
  let outcome ← j.argument (Option ResizeOutcome) "resize_outcome"
  let error := j.member "resize_error"
  if error.isObject then return some (.error (← featureErrorOf error))
  else return outcome.map .ok

/-- A platform in memory and its features. -/
def platformOf (j : Json) : Except Unread (FeatureRegistry × InMemory) := do
  let resize ← resizeOf j
  let registrations ← registrationsOf j "features"
  return (registerAll (InMemory.features resize) registrations, {
    hasCapacity := ← j.argumentOr "capacity" true
    deployError := ← j.argument (Option String) "deploy_error"
    deleteError := ← j.argument (Option String) "delete_error"
    deployDelayMs := ← j.argumentOr "deploy_delay_ms" 0
    prepares := ← eachOf j "prepare" prepareScriptOf
    deploys := ← eachOf j "deploy" deployScriptOf
    unconnected := ← j.argumentOr "no_connection" [] })

def hindranceOf (j : Json) : Except Unread Hindrance := do
  return { delayMs := ← j.argumentOr "delay_ms" 0, error := ← j.argument (Option String) "error" }

def responseOf (j : Json) : Except Unread (String × ExecuteResult) := do
  return (← j.argument String "prefix",
    { exitCode := ← j.argumentOr "exit_code" 0, stdout := ← j.argumentOr "stdout" "" })

def connectorOf (j : Json) : Except Unread Connector := do
  return {
    failuresLeft := ← j.argumentOr "failing_first" 0
    unreachable := ← j.argumentOr "unreachable" false
    responses := .ofList (← eachOf j "responses" responseOf)
    script := ← eachOf j "script" hindranceOf }

def fileEventOf (j : Json) : Except Unread FileEvent := do
  return { atMs := ← j.argumentOr "at_ms" 0, file := ← j.argument String "file"
           content := ← j.argumentOr "content" "" }

/-- The files of a working directory: texts, and directories where there is null. -/
def filesOf (j : Json) : Except Unread Files := do
  let given ← j.argumentOr "files" (∅ : Dict String (Option String))
  return given.mapValues (fun
    | some text => .text text
    | none => .directory)

/-- A world, apart from its platform. -/
def worldOf (wall : Timestamp) (j : Json) : Except Unread World := do
  let world : World :=
    { wall, files := ← filesOf j, connector := ← connectorOf (j.member "connector") }
  return world.withFileEvents (← eachOf j "file_events" fileEventOf)

/-- A manager with its world, on the platform in memory. -/
def inMemoryOf (wall : Timestamp) (j : Json) : Except Unread (Manager × World) := do
  let candidates ← j.argument (List EnvironmentSpace) "candidates"
  let config ← j.argumentOr "config" ({} : LifecycleConfig)
  let (features, platform) ← platformOf (j.member "platform")
  return ({ platform := InMemory.name, features, candidates, config },
    { (← worldOf wall j) with hosting := .inMemory platform })

/-- A manager with its world, on physical machines. -/
def bareMetalOf (wall : Timestamp) (machines : BareMetal.PlatformConfig) (j : Json) :
    Except Unread (Manager × World) := do
  let candidates ← j.argument (List EnvironmentSpace) "candidates"
  let config ← j.argumentOr "config" ({} : LifecycleConfig)
  return ({ platform := BareMetal.platformName, features := BareMetal.features, candidates, config },
    { (← worldOf wall j) with hosting := .bareMetal machines })

def attemptOf (j : Json) : Except Unread (ScriptedAttempt Json) := do
  let value ← j.argument Json "value"
  return { delayMs := ← j.argumentOr "delay_ms" 0
           outcome := match ← j.argument (Option String) "error" with
             | some reason => .error reason
             | none => .ok value }

def powerChangeOf (j : Json) : Except Unread PowerChange := do
  return { atMs := ← j.argumentOr "at_ms" 0, stop := ← j.argument (Option StopState) "stop" }

end Testbed.Simulation
